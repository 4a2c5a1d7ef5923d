import ScriptedInput.Text.Quoted

/-! What can be wrong with a line of a recording. -/
namespace ScriptedInput

inductive RecordedNumber where
  | id | propertyByte | eventType | maskByte | axisCode | axisValue | eventCode | eventValue
  deriving DecidableEq, Repr

def RecordedNumber.label : RecordedNumber → String
  | id => "id"
  | propertyByte => "property byte"
  | eventType => "event type"
  | maskByte => "mask byte"
  | axisCode => "axis code"
  | axisValue => "axis value"
  | eventCode => "event code"
  | eventValue => "event value"

inductive RecordingFault where
  | unrecognized (line : String)
  | emptyName
  | idFields
  | maskFields
  | axisFields
  | eventFields (line : String)
  | notHex (number : RecordedNumber) (text : String)
  | notDecimal (number : RecordedNumber) (text : String)
  | notTimestamp (text : String)
  | unexpectedTag (tag : Char)
  | missingName
  | missingIds
  | notEvent (line : String)
  deriving DecidableEq, Repr

def RecordingFault.message : RecordingFault → String
  | unrecognized line => "unrecognized line " ++ Text.quoted line
  | emptyName => "empty device name"
  | idFields => "expected `I: <bus> <vendor> <product> <version>`"
  | maskFields => "expected `B: <type> <mask bytes>`"
  | axisFields => "expected `A: <code> <min> <max> <fuzz> <flat> [<resolution>]`"
  | eventFields line => "expected `E: <time> <type> <code> <value>`, got " ++ Text.quoted line
  | notHex number text => s!"invalid {number.label} `{text}`, expected hex"
  | notDecimal number text => s!"invalid {number.label} `{text}`"
  | notTimestamp text => s!"invalid timestamp `{text}`, expected <sec>.<usec>"
  | unexpectedTag tag => s!"unexpected `{tag}:` line in header"
  | missingName => "missing `N:` device name line"
  | missingIds => "missing `I:` device id line"
  | notEvent line => "expected an `E:` event line, got " ++ Text.quoted line

end ScriptedInput

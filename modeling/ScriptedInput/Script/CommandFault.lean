import ScriptedInput.Json.Value
import ScriptedInput.Text.Quoted

/-! The fields of a JSON command, and what can be wrong with one. -/
namespace ScriptedInput

inductive Field where
  | id | command | name | vid | pid | version | bus | configuration | ffEffectsMax | absInfo | port
  | events | duration | syncToken
  deriving DecidableEq, Repr

namespace Field

def all : List Field :=
  [id, command, name, vid, pid, version, bus, configuration, ffEffectsMax, absInfo, port, events,
   duration, syncToken]

def label : Field → String
  | id => "id"
  | command => "command"
  | name => "name"
  | vid => "vid"
  | pid => "pid"
  | version => "version"
  | bus => "bus"
  | configuration => "configuration"
  | ffEffectsMax => "ff_effects_max"
  | absInfo => "abs_info"
  | port => "port"
  | events => "events"
  | duration => "duration"
  | syncToken => "syncToken"

def aliases : Field → List String
  | vid => ["vendorId"]
  | pid => ["productId"]
  | version => ["versionId"]
  | ffEffectsMax => ["ffEffectsMax"]
  | absInfo => ["absInfo"]
  | syncToken => ["sync_token", "token"]
  | _ => []

def ofKey? (key : String) : Option Field :=
  all.find? (fun f => key = f.label ∨ key ∈ f.aliases)

end Field

inductive AxisField where
  | value | minimum | maximum | fuzz | flat | resolution
  deriving DecidableEq, Repr

namespace AxisField

/-- In the order in which an array lists them. -/
def all : List AxisField := [value, minimum, maximum, fuzz, flat, resolution]

def label : AxisField → String
  | value => "value"
  | minimum => "minimum"
  | maximum => "maximum"
  | fuzz => "fuzz"
  | flat => "flat"
  | resolution => "resolution"

end AxisField

inductive Place where
  | field (f : Field)
  | setterType
  | setterData
  | axisCode
  | axisInfo
  | axis (f : AxisField)
  deriving DecidableEq, Repr

namespace Place

def label : Place → String
  | field f => f.label
  | setterType => "configuration.type"
  | setterData => "configuration.data"
  | axisCode => "abs_info.code"
  | axisInfo => "abs_info.info"
  | axis f => "abs_info.info." ++ f.label

def aliases : Place → List String
  | field f => f.aliases
  | _ => []

end Place

inductive Record where
  | configEntry | axisEntry | axisInfo
  deriving DecidableEq, Repr

namespace Record

def name : Record → String
  | configEntry => "RawConfigEntry"
  | axisEntry => "RawAbsEntry"
  | axisInfo => "RawAbsInfo"

def size : Record → Nat
  | configEntry => 2
  | axisEntry => 2
  | axisInfo => 6

end Record

/-- What a value is, as far as messages tell. -/
inductive Found where
  | null
  | bool (b : Bool)
  | number (n : Json.Number)
  | string (s : String)
  | array
  | object
  deriving DecidableEq, Repr

namespace Found

def ofValue : Json.Value → Found
  | .null => .null
  | .bool b => .bool b
  | .number n => .number n
  | .string s => .string s
  | .array _ => .array
  | .object _ => .object

def detail : Found → String
  | .null => "null"
  | .bool b => s!"boolean `{b}`"
  | .number (.int n) => s!"integer `{n}`"
  | .number (.float x) => s!"floating point `{x.text}`"
  | .string s => "string " ++ Text.quoted s
  | .array => "sequence"
  | .object => "map"

def kind : Found → String
  | .null => "null"
  | .bool _ => "a boolean"
  | .number _ => "a number"
  | .string _ => "a string"
  | .array => "an array"
  | .object => "an object"

end Found

inductive Wanted where
  | string | sequence
  | record (r : Record)
  deriving DecidableEq, Repr

def Wanted.message : Wanted → String
  | .string => "a string"
  | .sequence => "a sequence"
  | .record r => "struct " ++ r.name

/-- A number as scripts write it: a JSON integer of 64 bits, or a text. -/
inductive Scalar where
  | int (n : Int)
  | text (s : String)
  deriving DecidableEq, Repr

def Scalar.message : Scalar → String
  | .int n => toString n
  | .text s => s!"`{s}`"

inductive CommandFault where
  | notObject (found : Found)
  | notScalar
  | duplicate (field : Field)
  | mismatch (found : Found) (wanted : Wanted)
  | tooShort (count : Nat) (record : Record)
  | tooLong (count : Nat)
  | missing (place : Place)
  | unknownCommand (name : String)
  | unknownName (text : String) (place : Place)
  | outOfRange (value : Int) (place : Place)
  | unknownSetter (type : Scalar)
  | raggedEvents (count : Nat)
  deriving DecidableEq, Repr

namespace CommandFault

def aliasNote : List String → String
  | [] => ""
  | aliases => " (" ++ ", ".intercalate (aliases.map (fun a => s!"`{a}`")) ++ ")"

def message : CommandFault → String
  | notObject found => "expected a command object, found " ++ found.kind
  | notScalar => "data did not match any variant of untagged enum Scalar"
  | duplicate field => s!"duplicate field `{field.label}`"
  | mismatch found wanted => s!"invalid type: {found.detail}, expected {wanted.message}"
  | tooShort count record =>
    s!"invalid length {count}, expected struct {record.name} with {record.size} elements"
  | tooLong count => s!"invalid length {count}, expected fewer elements in array"
  | missing place => s!"missing required field `{place.label}`" ++ aliasNote place.aliases
  | unknownCommand name => s!"unknown command `{name}`"
  | unknownName text place => s!"unknown name `{text}` in field `{place.label}`"
  | outOfRange value place => s!"value {value} for field `{place.label}` is out of range"
  | unknownSetter type => "unknown configuration type " ++ type.message
  | raggedEvents count => s!"`events` must hold (type, code, value) triples, got {count} values"

end CommandFault
end ScriptedInput

import ScriptedInput.IoError
import ScriptedInput.Json.Fault
import ScriptedInput.Script.CommandFault
import ScriptedInput.Script.Location
import ScriptedInput.Script.RecordingFault

/-! Why a script gives no further events. -/
namespace ScriptedInput

inductive ScriptFault where
  | grammar (fault : Json.Fault)
  | unfinished (what : Json.Unfinished)
  | command (fault : CommandFault)
  | recording (fault : RecordingFault)
  deriving DecidableEq, Repr

namespace ScriptFault

def dialect : ScriptFault → Dialect
  | grammar _ => .json
  | unfinished _ => .json
  | command _ => .json
  | recording _ => .evemu

def message : ScriptFault → String
  | grammar fault => fault.message
  | unfinished what => what.message
  | command fault => fault.message
  | recording fault => fault.message

end ScriptFault

inductive ParseError where
  | malformed (location : Location) (fault : ScriptFault)
  | io (error : IoError)
  deriving DecidableEq, Repr

def ParseError.message : ParseError → String
  | .malformed location fault => malformedMessage fault.dialect location fault.message
  | .io error => s!"error reading script: {error.message}"

end ScriptedInput

import ScriptedInput.Event
import ScriptedInput.IoError
import ScriptedInput.Script.ParseError
import ScriptedInput.Text.Quoted

/-! Failures of back ends, and of a replay as a whole. -/
namespace ScriptedInput

inductive Rejection where
  /-- The port of a registration cannot be handed on as a string that ends with a NUL. -/
  | nulInPort (port : String)
  /-- The device is gone. -/
  | destroyed (id : DeviceId)
  /-- The call is one that was meant to fail. -/
  | refused (call : String)
  /-- No device was created under this number. -/
  | noHandle
  deriving DecidableEq, Repr

def Rejection.message : Rejection → String
  | nulInPort port => s!"port {Text.quoted port} contains a NUL byte"
  | destroyed id => s!"device {id} is destroyed"
  | refused call => s!"{call} refused"
  | noHandle => "no such handle"

inductive BackendError where
  | os (operation : String) (error : IoError)
  | rejected (why : Rejection)
  deriving DecidableEq, Repr

namespace BackendError

def message : BackendError → String
  | os operation error => s!"{operation} failed: {error.message}"
  | rejected why => why.message

def chain : BackendError → List String
  | e@(os _ error) => [e.message, error.message]
  | e@(rejected _) => [e.message]

end BackendError

inductive ReplayError where
  | parse (error : ParseError)
  | creation (id : DeviceId) (error : BackendError)
  | injection (id : DeviceId) (command : Command) (error : BackendError)
  /-- A device was to be created from a command that is no registration. -/
  | notRegistration (id : DeviceId) (command : Command)
  | closed (id : DeviceId) (command : Command)
  deriving DecidableEq, Repr

namespace ReplayError

def message : ReplayError → String
  | parse error => error.message
  | creation id error => s!"failed to create device {id}: {error.message}"
  | injection id command error =>
    s!"failed to {command.name} on device {id}: {error.message}"
  | notRegistration id command =>
    s!"tried to send command \"{command.name}\" to an unregistered device {id}"
  | closed id command => s!"device {id} is closed, cannot process {command.name}"

def causes : ReplayError → List String
  | parse (.io error) => [error.message]
  | parse (.malformed _ _) => []
  | creation _ error => error.chain
  | injection _ _ error => error.chain
  | notRegistration _ _ => []
  | closed _ _ => []

end ReplayError
end ScriptedInput

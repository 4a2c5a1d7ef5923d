import ScriptedInput.Event

/-! What is reported of a replay that goes on all the same. -/
namespace ScriptedInput

inductive Warning where
  /-- A recording's timestamps went back, so that its clock starts anew. -/
  | clockRestart (line timestamp clock : Nat)
  /-- A command for a device that was never registered. -/
  | unknownDevice (id : DeviceId) (command : Command)
  /-- A second registration under one number. -/
  | alreadyRegistered (id : DeviceId)
  deriving DecidableEq, Repr

def Warning.message : Warning → String
  | .clockRestart line timestamp clock =>
    s!"Timestamp went backwards at line {line} ({timestamp} < {clock} us), restarting replay clock"
  | .unknownDevice id command =>
    s!"Unknown device id {id} for {command.name}. Ignoring event."
  | .alreadyRegistered id => s!"Device id={id} is already registered. Ignoring event."

end ScriptedInput

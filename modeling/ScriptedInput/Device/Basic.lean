import ScriptedInput.Device.Backend
import ScriptedInput.Script.Warning

/-! Devices: a registration, the handle it was realised as, and whether the handle is still open.
A device is closed at most once, and refuses all commands afterwards. -/
namespace ScriptedInput

inductive Entry (ε : Type) where
  | warning (w : Warning)
  /-- Closing a device failed, which does not end the replay. -/
  | closeFailed (id : DeviceId) (error : BackendError)
  | slept (millis : Nat)
  | effect (e : ε)
  deriving DecidableEq, Repr

def closeFailureMessage (id : DeviceId) (error : BackendError) : String :=
  s!"Failed to close device {id}: {error.message}"

inductive DeviceState where
  | opened | closed
  deriving DecidableEq, Repr

def DeviceState.name : DeviceState → String
  | opened => "Open"
  | closed => "Closed"

structure Device (η : Type) where
  id : DeviceId
  registration : Registration
  handle : η
  state : DeviceState := .opened
  /-- The milliseconds waited for on the device's behalf, as far as 64 bits can tell. -/
  clockOffset : UInt64 := 0
  deriving DecidableEq, Repr

namespace Device
variable {σ η ε : Type}

def delaySlice : Nat := 200

/-- The sum of two clock readings, the largest one if that is too large. -/
def addClock (a b : UInt64) : UInt64 :=
  if a.toNat + b.toNat < UInt64.size then a + b else 0xffffffffffffffff

def create (b : Backend σ η ε) (id : DeviceId) (r : Registration) :
    Act σ (Entry ε) (Except ReplayError (Device η)) := do
  match ← (b.create id r).within .effect with
  | .ok handle => return .ok { id, registration := r, handle }
  | .error e => return .error (.creation id e)

def command (d : Device η) (c : Command) (call : Act σ ε (Except BackendError Unit)) :
    Act σ (Entry ε) (Except ReplayError Unit) :=
  match d.state with
  | .closed => return .error (.closed d.id c)
  | .opened => do
    match ← call.within .effect with
    | .ok () => return .ok ()
    | .error e => return .error (.injection d.id c e)

def inject (b : Backend σ η ε) (d : Device η) (events : List RawEvent) :
    Act σ (Entry ε) (Except ReplayError Unit) :=
  d.command .inject (b.inject d.handle events)

def sync (b : Backend σ η ε) (d : Device η) (token : String) :
    Act σ (Entry ε) (Except ReplayError Unit) :=
  d.command .sync (b.sync d.handle token)

/-- Sleeps for a slice as long as more than one remains, calling the back end after each. Gives what then
remains. -/
def waitSlices (b : Backend σ η ε) (handle : η) (remaining : Nat) :
    Act σ (Entry ε) (Except BackendError Nat) :=
  if delaySlice < remaining then do
    Act.log (.slept delaySlice)
    match ← (b.idle handle).within .effect with
    | .ok () => waitSlices b handle (remaining - delaySlice)
    | .error e => return .error e
  else return .ok remaining
  termination_by remaining
  decreasing_by simp only [delaySlice] at *; omega

/-- Waits, then tells the back end how long. Only a wait that was not cut short counts on the
device's clock. -/
def delay (b : Backend σ η ε) (d : Device η) (millis : UInt64) :
    Act σ (Entry ε) (Except ReplayError Unit × Device η) :=
  match d.state with
  | .closed => return (.error (.closed d.id .delay), d)
  | .opened => do
    match ← waitSlices b d.handle millis.toNat with
    | .error e => return (.error (.injection d.id .delay e), d)
    | .ok remaining =>
      Act.log (.slept remaining)
      let d := { d with clockOffset := addClock d.clockOffset millis }
      match ← (b.delay d.handle millis).within .effect with
      | .ok () => return (.ok (), d)
      | .error e => return (.error (.injection d.id .delay e), d)

/-- Closes a device. Only the first call reaches the back end; a failure there is reported and the
device is closed all the same. -/
def close (b : Backend σ η ε) (d : Device η) : Act σ (Entry ε) (Device η) :=
  match d.state with
  | .closed => return d
  | .opened => do
    let (answer, handle) ← (b.close d.handle).within .effect
    match answer with
    | .ok () => pure ()
    | .error e => Act.log (.closeFailed d.id e)
    return { d with handle, state := .closed }

end Device
end ScriptedInput

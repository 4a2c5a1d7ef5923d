import ScriptedInput.Device.Registry

/-! Registered devices in an arena: a list of them in the order in which they were registered, and an
index that tells for each number where in the list its device stands. -/
namespace ScriptedInput

structure Arena (η : Type) where
  devices : List (Device η) := []
  /-- The places of devices in the list, by number. Of two entries for a number the first counts. -/
  index : List (DeviceId × Nat) := []
  deriving DecidableEq, Repr

namespace Arena
variable {σ η ε : Type}

def registry (a : Arena η) : Registry η := ⟨a.devices⟩

def ids (a : Arena η) : List DeviceId := a.devices.map (·.id)

def size (a : Arena η) : Nat := a.devices.length

def isEmpty (a : Arena η) : Bool := a.devices.isEmpty

def place? (a : Arena η) (id : DeviceId) : Option Nat := a.index.lookup id

def contains (a : Arena η) (id : DeviceId) : Bool := (a.place? id).isSome

def get? (a : Arena η) (id : DeviceId) : Option (Device η) := (a.place? id).bind (a.devices[·]?)

def insert? (a : Arena η) (d : Device η) : Option (Arena η) :=
  if a.contains d.id then none
  else some ⟨a.devices ++ [d], (d.id, a.devices.length) :: a.index⟩

def put (a : Arena η) (id : DeviceId) (d : Device η) : Arena η :=
  match a.place? id with
  | none => a
  | some n => { a with devices := a.devices.set n d }

def closeAll (b : Backend σ η ε) (a : Arena η) : Act σ (Entry ε) (Arena η) := do
  return { a with devices := ← Registry.closeEach b a.devices }

end Arena
end ScriptedInput

import ScriptedInput.Device.Basic

/-! The registry of devices, in the order in which they were registered. No number is taken twice.
-/
namespace ScriptedInput

structure Registry (η : Type) where
  devices : List (Device η) := []
  deriving DecidableEq, Repr

namespace Registry
variable {σ η ε : Type}

def ids (r : Registry η) : List DeviceId := r.devices.map (·.id)

def size (r : Registry η) : Nat := r.devices.length

def isEmpty (r : Registry η) : Bool := r.devices.isEmpty

def contains (r : Registry η) (id : DeviceId) : Bool := r.devices.any (·.id = id)

def get? (r : Registry η) (id : DeviceId) : Option (Device η) := r.devices.find? (·.id = id)

def insert? (r : Registry η) (d : Device η) : Option (Registry η) :=
  if r.contains d.id then none else some ⟨r.devices ++ [d]⟩

def update (r : Registry η) (d : Device η) : Registry η :=
  ⟨r.devices.map (fun old => if old.id = d.id then d else old)⟩

def closeEach (b : Backend σ η ε) : List (Device η) → Act σ (Entry ε) (List (Device η))
  | [] => return []
  | d :: rest => do
    let d ← d.close b
    let rest ← closeEach b rest
    return d :: rest

def closeAll (b : Backend σ η ε) (r : Registry η) : Act σ (Entry ε) (Registry η) := do
  return ⟨← closeEach b r.devices⟩

end Registry
end ScriptedInput

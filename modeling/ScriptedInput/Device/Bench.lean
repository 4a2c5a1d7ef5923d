import ScriptedInput.Device.Arena

/-! A bench: devices worked on one at a time. A device that is not registered lies in a numbered
slot, and no slot is used for a second device. -/
namespace ScriptedInput

structure Bench (σ η : Type) where
  slots : List (Option (Device η)) := []
  arena : Arena η := {}
  backend : σ

inductive Device.Task where
  | inject (events : List RawEvent)
  | delay (millis : UInt64)
  | sync (token : String)
  | close
  deriving DecidableEq, Repr

def Device.perform {σ η ε : Type} (b : Backend σ η ε) (d : Device η) :
    Device.Task → Act σ (Entry ε) (Except ReplayError Unit × Device η)
  | .inject events => do return (← d.inject b events, d)
  | .delay millis => d.delay b millis
  | .sync token => do return (← d.sync b token, d)
  | .close => do return (.ok (), ← d.close b)

namespace Bench
variable {σ η ε : Type}

def registry (bench : Bench σ η) : Registry η := bench.arena.registry

inductive Place where
  | slot (n : Nat)
  | registered (id : DeviceId)
  deriving DecidableEq, Repr

def find? (bench : Bench σ η) : Place → Option (Device η)
  | .slot n => (bench.slots[n]?).join
  | .registered id => bench.arena.get? id

def replace (bench : Bench σ η) (d : Device η) : Place → Bench σ η
  | .slot n => { bench with slots := bench.slots.set n (some d) }
  | .registered id => { bench with arena := bench.arena.put id d }

def clear (bench : Bench σ η) (n : Nat) : Bench σ η :=
  { bench with slots := bench.slots.set n none }

def onBackend {α : Type} (x : Act σ (Entry ε) α) : Act (Bench σ η) (Entry ε) α :=
  x.onPart (·.backend) (fun bench backend => { bench with backend })

inductive Request where
  /-- Create a device and put it into the next slot. -/
  | create (id : DeviceId) (r : Registration)
  /-- Register the device in a slot. -/
  | insert (slot : Nat)
  /-- Give up the device in a slot, which closes it. -/
  | drop (slot : Nat)
  /-- Close the registered devices, in order. -/
  | closeAll
  | work (place : Place) (task : Device.Task)
  deriving DecidableEq, Repr

inductive Answer (η : Type) where
  | done
  | created (slot : Nat)
  | notCreated (error : ReplayError)
  | inserted
  /-- The number is taken, and the device stays in its slot. -/
  | returned (d : Device η)
  | noDevice
  | worked (answer : Except ReplayError Unit) (d : Device η)

def create (b : Backend σ η ε) (id : DeviceId) (r : Registration) :
    Act (Bench σ η) (Entry ε) (Answer η) := do
  match ← onBackend (Device.create b id r) with
  | .error e => return .notCreated e
  | .ok d =>
    let bench ← Act.get
    Act.set { bench with slots := bench.slots ++ [some d] }
    return .created bench.slots.length

def insert (slot : Nat) : Act (Bench σ η) (Entry ε) (Answer η) := do
  let bench ← Act.get
  match bench.find? (.slot slot) with
  | none => return .noDevice
  | some d =>
    match bench.arena.insert? d with
    | none => return .returned d
    | some arena =>
      Act.set { bench.clear slot with arena }
      return .inserted

def drop (b : Backend σ η ε) (slot : Nat) : Act (Bench σ η) (Entry ε) (Answer η) := do
  match (← Act.get).find? (.slot slot) with
  | none => return .done
  | some d =>
    let _ ← onBackend (d.close b)
    Act.modify (·.clear slot)
    return .done

def closeAll (b : Backend σ η ε) : Act (Bench σ η) (Entry ε) (Answer η) := do
  let arena ← onBackend ((← Act.get).arena.closeAll b)
  Act.modify (fun bench => { bench with arena })
  return .done

def work (b : Backend σ η ε) (place : Place) (task : Device.Task) :
    Act (Bench σ η) (Entry ε) (Answer η) := do
  match (← Act.get).find? place with
  | none => return .noDevice
  | some d =>
    let (answer, d) ← onBackend (d.perform b task)
    Act.modify (·.replace d place)
    return .worked answer d

def perform (b : Backend σ η ε) : Request → Act (Bench σ η) (Entry ε) (Answer η)
  | .create id r => create b id r
  | .insert slot => insert slot
  | .drop slot => drop b slot
  | .closeAll => closeAll b
  | .work place task => work b place task

def performAll (b : Backend σ η ε) :
    List Request → Act (Bench σ η) (Entry ε) (List (Answer η))
  | [] => return []
  | r :: rest => do
    let answer ← perform b r
    let answers ← performAll b rest
    return answer :: answers

def dropSlots (b : Backend σ η ε) : Act (Bench σ η) (Entry ε) Unit := do
  let _ ← onBackend (Registry.closeEach b ((← Act.get).slots.filterMap id))
  Act.modify (fun bench => { bench with slots := bench.slots.map (fun _ => none) })

def dropRegistry (b : Backend σ η ε) : Act (Bench σ η) (Entry ε) Unit := do
  let _ ← closeAll b

/-- A whole run: requests in order, after which all devices are given up. -/
def lifetime (b : Backend σ η ε) (requests : List Request) :
    Act (Bench σ η) (Entry ε) (List (Answer η)) := do
  let answers ← performAll b requests
  dropSlots b
  dropRegistry b
  return answers

end Bench
end ScriptedInput

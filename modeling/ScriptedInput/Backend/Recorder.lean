import ScriptedInput.Backend.Call

/-! A back end that touches nothing: it records each call, and fails those that a plan names. -/
namespace ScriptedInput

/-- Which calls fail, and how: the calls of each kind are counted from 0, all devices together. -/
abbrev FailurePlan := CallKind → Nat → Option BackendError

namespace Recorder

def neverFails : FailurePlan := fun _ _ => none

structure State where
  counts : CallKind → Nat := fun _ => 0
  created : Nat := 0

structure Handle where
  serial : Nat
  id : DeviceId
  deriving DecidableEq, Repr

/-- A call as it was recorded, with the number of the handle it was made on; the handle of a
creation is the one it gave out, if it did. -/
structure Record where
  handle : Option Nat
  call : Call
  failure : Option BackendError
  deriving DecidableEq, Repr

def consult (plan : FailurePlan) (k : CallKind) : Act State Record (Option BackendError) := do
  let s ← Act.get
  let n := s.counts k
  Act.set { s with counts := fun j => if j = k then n + 1 else s.counts j }
  return plan k n

def note (plan : FailurePlan) (h : Handle) (call : Call) :
    Act State Record (Except BackendError Unit) := do
  let failure ← consult plan call.kind
  Act.log ⟨some h.serial, call, failure⟩
  return match failure with
    | none => .ok ()
    | some e => .error e

def create (plan : FailurePlan) (id : DeviceId) (r : Registration) :
    Act State Record (Except BackendError Handle) := do
  match ← consult plan .create with
  | some e =>
    Act.log ⟨none, .create id r, some e⟩
    return .error e
  | none =>
    let s ← Act.get
    Act.set { s with created := s.created + 1 }
    Act.log ⟨some s.created, .create id r, none⟩
    return .ok ⟨s.created, id⟩

end Recorder

def recorder (plan : FailurePlan) : Backend Recorder.State Recorder.Handle Recorder.Record where
  create := Recorder.create plan
  inject h events := Recorder.note plan h (.inject h.id events)
  delay h millis := Recorder.note plan h (.delay h.id millis)
  idle h := Recorder.note plan h (.idle h.id)
  sync h token := Recorder.note plan h (.sync h.id token)
  close h := do return (← Recorder.note plan h (.close h.id), h)

end ScriptedInput

import Mathlib.Algebra.BigOperators.Group.List.Basic
import Mathlib.Algebra.GroupWithZero.Nat
import ScriptedInput.Proofs.Device.Closing
import ScriptedInput.Proofs.Device.Delay

/-! The clock of a device. It shows what the device's handle was told to have waited for, whether or
not the handle would hear of it, as far as 64 bits can tell. -/
namespace ScriptedInput

def Call.millis : Call → Nat
  | .delay _ millis => millis.toNat
  | .create _ _ | .inject _ _ | .idle _ | .sync _ _ | .close _ => 0

private theorem Call.millis_eq_zero {c : Call} (h : c.kind ≠ .delay) : c.millis = 0 := by
  cases c <;> simp_all [kind, millis]

private theorem Device.addClock_toNat (a b : UInt64) :
    (addClock a b).toNat = min (2 ^ 64 - 1) (a.toNat + b.toNat) := by
  unfold addClock
  split
  · next fits =>
    have fits : a.toNat + b.toNat < 2 ^ 64 := fits
    rw [UInt64.toNat_add]
    omega
  · next large =>
    have large : ¬ a.toNat + b.toNat < 2 ^ 64 := large
    have largest : (0xffffffffffffffff : UInt64).toNat = 2 ^ 64 - 1 := rfl
    omega

namespace Recorder

def waited (records : List Record) : Nat := (records.map (·.call.millis)).sum

@[simp] theorem waited_append (xs ys : List Record) :
    waited (xs ++ ys) = waited xs + waited ys := by
  simp [waited]

theorem waited_eq_zero {records : List Record} (h : ∀ c ∈ records, c.call.kind ≠ .delay) :
    waited records = 0 := by
  have none : ∀ n ∈ records.map (·.call.millis), n = 0 :=
    List.forall_mem_map.mpr fun c hc => Call.millis_eq_zero (h c hc)
  exact List.sum_eq_zero none

private theorem waited_serviced (h : Handle) (k : Nat) : waited (effects (serviced h k)) = 0 := by
  induction k with
  | zero => rfl
  | succ k ih => exact (Nat.zero_add _).trans ih

section Task
variable (plan : FailurePlan) (d : Device Handle) (s : State)

private theorem waited_command (c : Command) {call : Call} (other : call.kind ≠ .delay) :
    waited (effects ((d.command c (note plan d.handle call)).run s).log) = 0 := by
  unfold Device.command
  cases d.state with
  | closed => rfl
  | opened =>
    simp only [Act.run_bind, Act.run_within, run_note]
    split <;> simp [waited, Call.millis_eq_zero other]

/-- Closing a device makes no other calls, and leaves its handle as it was. -/
theorem close_settled :
    let done := (d.close (recorder plan)).run s
    done.answer.handle = d.handle ∧ done.state.created = s.created ∧
      ∀ c ∈ effects done.log, c.call.kind = .close := by
  intro done
  cases hd : d.state with
  | closed =>
    have still : done = ⟨d, s, []⟩ := Device.run_close_closed _ hd s
    simp [still]
  | opened =>
    have closed : done = _ := Device.run_close_opened _ hd s
    rw [run_close] at closed
    refine ⟨congrArg (·.answer.handle) closed, congrArg (·.state.created) closed, ?_⟩
    rw [closed]
    cases ((note plan d.handle (.close d.handle.id)).run s).answer <;>
      simp [Device.closeReport, Call.kind]

/-- A task moves a device's clock on by what the handle is told in it. -/
private theorem clock_perform (task : Device.Task) :
    let done := (d.perform (recorder plan) task).run s
    done.answer.2.clockOffset.toNat =
      min (2 ^ 64 - 1) (d.clockOffset.toNat + waited (effects done.log)) := by
  intro done
  have fits : d.clockOffset.toNat < 2 ^ 64 := d.clockOffset.toNat_lt
  have untold (same : done.answer.2.clockOffset = d.clockOffset)
      (none : waited (effects done.log) = 0) : done.answer.2.clockOffset.toNat =
        min (2 ^ 64 - 1) (d.clockOffset.toNat + waited (effects done.log)) := by
    rw [same, none]
    omega
  -- Only a wait that was not cut short tells the handle of any time.
  cases task with
  | inject events =>
    refine untold rfl ?_
    simp only [done, Device.perform, Act.run_bind, Act.run_pure, List.append_nil]
    exact waited_command plan d s .inject (by simp [Call.kind])
  | sync token =>
    refine untold rfl ?_
    simp only [done, Device.perform, Act.run_bind, Act.run_pure, List.append_nil]
    exact waited_command plan d s .sync (by simp [Call.kind])
  | close =>
    refine untold (Device.closedFrom_close _ d s).clockOffset ?_
    simp only [done, Device.perform, Act.run_bind, Act.run_pure, List.append_nil]
    exact waited_eq_zero fun c hc => by simp [(close_settled plan d s).2.2 c hc]
  | delay millis =>
    cases hd : d.state with
    | closed =>
      have still : done = ⟨(.error (.closed d.id .delay), d), s, []⟩ := by
        simp [done, Device.perform, Device.delay, hd]
      exact untold (by rw [still]) (by rw [still]; rfl)
    | opened =>
      rcases served_or_failed plan (s.counts .idle) (Device.fullSlices millis.toNat) with
        served | ⟨j, e, hj, served, failed⟩
      · obtain ⟨log, answer⟩ := run_delay_served hd served
        have told : waited (effects done.log) = millis.toNat := by
          rw [show done.log = _ from log, effects_append, waited_append, waited_serviced]
          simp [waited, Call.millis]
        rw [told, show done.answer = _ from answer, Device.addClock_toNat]
      · have cut : done = _ := run_delay_failed hd hj served failed
        refine untold (by rw [cut]) ?_
        rw [cut, effects_append, waited_append, waited_serviced]
        rfl

end Task

private theorem run_create_device (plan : FailurePlan) (id : DeviceId) (r : Registration) (s : State) :
    (Device.create (recorder plan) id r).run s = match plan .create (s.counts .create) with
      | some e => ⟨.error (.creation id e), s.counted .create,
        [.effect ⟨none, .create id r, some e⟩]⟩
      | none => ⟨.ok ⟨id, r, ⟨s.created, id⟩, .opened, 0⟩,
        { s.counted .create with created := s.created + 1 },
        [.effect ⟨some s.created, .create id r, none⟩]⟩ := by
  have call : (recorder plan).create id r = create plan id r := rfl
  cases hp : plan .create (s.counts .create) with
  | some e => simp [Device.create, call, run_create_refused hp]
  | none => simp [Device.create, call, run_create_accepted hp]

/-- A device that was created and given tasks, and the calls that this came to. What happened on the
back end in between is left open. -/
inductive History (plan : FailurePlan) : Device Handle → List Record → Prop where
  | created {id : DeviceId} {r : Registration} {s : State} {d : Device Handle}
    (made : ((Device.create (recorder plan) id r).run s).answer = .ok d) :
    History plan d (effects ((Device.create (recorder plan) id r).run s).log)
  | performed {d : Device Handle} {records : List Record} (before : History plan d records)
    (task : Device.Task) (s : State) :
    History plan ((d.perform (recorder plan) task).run s).answer.2
      (records ++ effects ((d.perform (recorder plan) task).run s).log)

/-- A clock shows as many of the milliseconds that calls tell of as it can. -/
def Shows (clock : UInt64) (told : Nat) : Prop := clock.toNat = min (2 ^ 64 - 1) told

theorem shows_perform (plan : FailurePlan) {d : Device Handle} {told : Nat}
    (before : Shows d.clockOffset told) (task : Device.Task) (s : State) :
    let done := (d.perform (recorder plan) task).run s
    Shows done.answer.2.clockOffset (told + waited (effects done.log)) := by
  intro done
  have moved : done.answer.2.clockOffset.toNat =
      min (2 ^ 64 - 1) (d.clockOffset.toNat + waited (effects done.log)) :=
    clock_perform plan d s task
  rw [Shows] at before ⊢
  rw [moved, before]
  omega

theorem History.shows {plan : FailurePlan} {d : Device Handle} {records : List Record}
    (history : History plan d records) : Shows d.clockOffset (waited records) := by
  induction history with
  | @created id r s d made =>
    cases hp : plan .create (s.counts .create) with
    | some e =>
      simp only [run_create_device, hp] at made
      cases made
    | none =>
      simp only [run_create_device, hp] at made ⊢
      cases made
      rfl
  | performed before task s ih =>
    rw [waited_append]
    exact shows_perform plan ih task s

end Recorder
end ScriptedInput

import ScriptedInput.Proofs.Backend.Recorder
import ScriptedInput.Proofs.Device.Commands

/-! Waiting in slices. A device that waits sleeps for full slices first, each followed by a call that
keeps its handle served, then for what is left of its time, and then tells its handle how long it has
waited; unless one of the calls in between fails, with which the wait ends. -/
namespace ScriptedInput

def Entry.sleep? {ε : Type} : Entry ε → Option Nat
  | .slept millis => some millis
  | .warning _ | .closeFailed _ _ | .effect _ => none

def sleeps {ε : Type} (log : List (Entry ε)) : List Nat := log.filterMap Entry.sleep?

theorem sleeps_append {ε : Type} (xs ys : List (Entry ε)) :
    sleeps (xs ++ ys) = sleeps xs ++ sleeps ys := List.filterMap_append

namespace Recorder

def idled (h : Handle) (failure : Option BackendError) : Entry Record :=
  .effect ⟨some h.serial, .idle h.id, failure⟩

def serviced (h : Handle) (k : Nat) : List (Entry Record) :=
  (List.replicate k [.slept 200, idled h none]).flatten

private theorem serviced_succ (h : Handle) (k : Nat) :
    serviced h (k + 1) = .slept 200 :: idled h none :: serviced h k := rfl

theorem sleeps_serviced (h : Handle) (k : Nat) : sleeps (serviced h k) = List.replicate k 200 := by
  induction k with
  | zero => rfl
  | succ k ih =>
    rw [serviced_succ, List.replicate_succ, ← ih]
    rfl

/-- The calls in a wait stand between its sleeps. -/
theorem intersperse_sleeps (h : Handle) (k last : Nat) :
    (((List.replicate k 200 ++ [last]).map Entry.slept).intersperse (idled h none)) =
      serviced h k ++ [.slept last] := by
  induction k with
  | zero => rfl
  | succ k ih =>
    rw [serviced_succ, List.cons_append, List.cons_append, ← ih]
    cases k <;> rfl

def State.idled (s : State) (k : Nat) : State :=
  { s with counts := fun kind => s.counts kind + if kind = .idle then k else 0 }

private theorem State.idled_zero (s : State) : s.idled 0 = s := by simp [idled]

private theorem State.counted_idled (s : State) (k : Nat) :
    (s.counted .idle).idled k = s.idled (k + 1) := by
  have counts (kind : CallKind) :
      ((s.counted .idle).idled k).counts kind = (s.idled (k + 1)).counts kind := by
    by_cases idle : kind = .idle <;> simp [idled, counted, idle, Nat.add_assoc, Nat.add_comm 1]
  exact congrArg (fun counts => { s with counts }) (funext counts)

/-- The last sleep is a slice at most, and the sleeps come to the whole time. -/
theorem fullSlices_spec (n : Nat) :
    200 * Device.fullSlices n ≤ n ∧ n - 200 * Device.fullSlices n ≤ 200 ∧
      (0 < n → 200 * Device.fullSlices n < n) := by
  unfold Device.fullSlices Device.delaySlice
  omega

section Wait
variable {plan : FailurePlan} {s : State} {n k : Nat}

/-- As long as no call fails, slices are slept for and served one after another. -/
private theorem run_waitSlices_sub (h : Handle) (hk : k ≤ Device.fullSlices n)
    (served : ∀ i < k, plan .idle (s.counts .idle + i) = none) :
    let later := (Device.waitSlices (recorder plan) h (n - 200 * k)).run (s.idled k)
    (Device.waitSlices (recorder plan) h n).run s =
      ⟨later.answer, later.state, serviced h k ++ later.log⟩ := by
  induction k generalizing s n with
  | zero => simp [State.idled_zero, serviced]
  | succ k ih =>
    have first : plan .idle (s.counts .idle) = none := served 0 (Nat.zero_lt_succ k)
    have others (i : Nat) (hi : i < k) : plan .idle ((s.counted .idle).counts .idle + i) = none := by
      rw [← served (i + 1) (Nat.succ_lt_succ hi)]
      simp [State.counted, Nat.add_assoc, Nat.add_comm 1]
    have call : (recorder plan).idle h = note plan h (.idle h.id) := rfl
    have long : Device.delaySlice < n := by
      unfold Device.fullSlices at hk
      unfold Device.delaySlice at *
      omega
    rw [Device.fullSlices_of_lt long] at hk
    have left : n - Device.delaySlice - 200 * k = n - 200 * (k + 1) := by
      unfold Device.delaySlice
      omega
    rw [Device.waitSlices_of_lt long, call]
    simp only [Act.run_bind, Act.run_log, Act.run_within, run_note, Call.kind, first]
    rw [ih (Nat.le_of_succ_le_succ hk) others, State.counted_idled, left]
    rfl

private theorem run_waitSlices_served (h : Handle)
    (served : ∀ i < Device.fullSlices n, plan .idle (s.counts .idle + i) = none) :
    let k := Device.fullSlices n
    (Device.waitSlices (recorder plan) h n).run s = ⟨.ok (n - 200 * k), s.idled k, serviced h k⟩ := by
  intro k
  rw [run_waitSlices_sub h (Nat.le_refl k) served, Device.waitSlices_of_le (fullSlices_spec n).2.1,
    Act.run_pure, List.append_nil]

private theorem run_waitSlices_failed (h : Handle) {j : Nat} (hj : j < Device.fullSlices n)
    (served : ∀ i < j, plan .idle (s.counts .idle + i) = none) {e : BackendError}
    (failed : plan .idle (s.counts .idle + j) = some e) :
    (Device.waitSlices (recorder plan) h n).run s =
      ⟨.error e, (s.idled j).counted .idle,
        serviced h j ++ [.slept 200, idled h (some e)]⟩ := by
  have now : plan .idle ((s.idled j).counts .idle) = some e := by simpa [State.idled] using failed
  have call : (recorder plan).idle h = note plan h (.idle h.id) := rfl
  have long : Device.delaySlice < n - 200 * j := by
    unfold Device.fullSlices at hj
    unfold Device.delaySlice at *
    omega
  rw [run_waitSlices_sub h (Nat.le_of_lt hj) served, Device.waitSlices_of_lt long, call]
  simp only [Act.run_bind, Act.run_log, Act.run_within, run_note, Call.kind, now]
  rfl

end Wait

/-- Either no call of a wait fails, or there is a first one that does. -/
theorem served_or_failed (plan : FailurePlan) (n k : Nat) :
    (∀ i < k, plan .idle (n + i) = none) ∨ ∃ j e, j < k ∧ (∀ i < j, plan .idle (n + i) = none) ∧
      plan .idle (n + j) = some e := by
  induction k with
  | zero => exact .inl nofun
  | succ k ih =>
    rcases ih with served | ⟨j, e, hj, served, failed⟩
    · cases last : plan .idle (n + k) with
      | none => exact .inl (Nat.forall_lt_succ_right.mpr ⟨served, last⟩)
      | some e => exact .inr ⟨k, e, Nat.lt_succ_self k, served, last⟩
    · exact .inr ⟨j, e, Nat.lt_succ_of_lt hj, served, failed⟩

section Delay
variable {plan : FailurePlan} {d : Device Handle} {millis : UInt64} {s : State}

/-- A wait in which no call fails. -/
theorem run_delay_served (opened : d.state = .opened)
    (served : ∀ i < Device.fullSlices millis.toNat, plan .idle (s.counts .idle + i) = none) :
    let k := Device.fullSlices millis.toNat
    let refused := plan .delay (s.counts .delay)
    let done := (d.delay (recorder plan) millis).run s
    done.log = serviced d.handle k ++ [.slept (millis.toNat - 200 * k),
        .effect ⟨some d.handle.serial, .delay d.handle.id millis, refused⟩] ∧
      done.answer = ((match refused with
        | none => .ok ()
        | some e => .error (.injection d.id .delay e)),
        { d with clockOffset := Device.addClock d.clockOffset millis }) := by
  intro k refused done
  have call : (recorder plan).delay d.handle millis =
    note plan d.handle (.delay d.handle.id millis) := rfl
  have count : (s.idled k).counts .delay = s.counts .delay := by simp [State.idled]
  simp only [done, Device.delay, opened, Act.run_bind, run_waitSlices_served d.handle served,
    Act.run_log, Act.run_within, call, run_note, Call.kind, k, count]
  cases failed : plan .delay (s.counts .delay) <;> simp [refused, failed]

/-- A wait in which a call fails ends with it. -/
theorem run_delay_failed (opened : d.state = .opened) {j : Nat}
    (hj : j < Device.fullSlices millis.toNat)
    (served : ∀ i < j, plan .idle (s.counts .idle + i) = none) {e : BackendError}
    (failed : plan .idle (s.counts .idle + j) = some e) :
    (d.delay (recorder plan) millis).run s = ⟨(.error (.injection d.id .delay e), d),
      (s.idled j).counted .idle, serviced d.handle j ++ [.slept 200, idled d.handle (some e)]⟩ := by
  simp only [Device.delay, opened, Act.run_bind, run_waitSlices_failed d.handle hj served failed,
    Act.run_pure, List.append_nil]

end Delay
end Recorder
end ScriptedInput

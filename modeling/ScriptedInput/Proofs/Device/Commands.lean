import ScriptedInput.Device.Bench
import ScriptedInput.Proofs.Ensures

/-! The commands a device carries out, and the effects they leave in a log. -/
namespace ScriptedInput
variable {σ η ε : Type}

def Entry.effect? : Entry ε → Option ε
  | .effect e => some e
  | .warning _ | .closeFailed _ _ | .slept _ => none

def effects (log : List (Entry ε)) : List ε := log.filterMap Entry.effect?

@[simp] theorem effects_nil : effects ([] : List (Entry ε)) = [] := rfl

@[simp] theorem effects_append (xs ys : List (Entry ε)) :
    effects (xs ++ ys) = effects xs ++ effects ys := List.filterMap_append

@[simp] theorem effects_map_effect (es : List ε) : effects (es.map .effect) = es := by
  rw [effects, List.filterMap_map]
  exact List.filterMap_some

@[simp] theorem effects_cons_effect (e : ε) (log : List (Entry ε)) :
    effects (.effect e :: log) = e :: effects log := rfl

@[simp] theorem effects_cons_warning (w : Warning) (log : List (Entry ε)) :
    effects (.warning w :: log) = effects log := rfl

@[simp] theorem effects_cons_slept (n : Nat) (log : List (Entry ε)) :
    effects (.slept n :: log) = effects log := rfl

@[simp] theorem effects_cons_closeFailed (id : DeviceId) (e : BackendError) (log : List (Entry ε)) :
    effects (.closeFailed id e :: log) = effects log := rfl

/-- What a call ensures about the effects so far it ensures inside a larger log. -/
theorem Act.Ensures.within {α : Type} {P : List ε → σ → Prop} {Q : α → List ε → σ → Prop}
    {x : Act σ ε α} (hx : x.Ensures P Q) :
    (x.within Entry.effect).Ensures (fun past s => P (effects past) s)
      (fun a past s => Q a (effects past) s) := by
  intro past s h
  simpa using hx (effects past) s h

/-- The task that an action is for the device it is addressed to. A registration is none. -/
def Action.task? : Action → Option Device.Task
  | .register _ => none
  | .inject events => some (.inject events)
  | .delay millis => some (.delay millis)
  | .sync token => some (.sync token)

theorem Action.task?_eq_none_iff (action : Action) :
    action.task? = none ↔ action.command = .register := by
  cases action <;> simp [task?, command]

namespace Device

/-- How many full slices go before the last sleep of a wait. -/
def fullSlices (millis : Nat) : Nat := (millis - 1) / delaySlice

section Slices
variable {b : Backend σ η ε} {h : η} {n : Nat}

theorem waitSlices_of_le (short : n ≤ delaySlice) : waitSlices b h n = pure (.ok n) := by
  rw [waitSlices, if_neg (Nat.not_lt.mpr short)]

theorem waitSlices_of_lt (long : delaySlice < n) : waitSlices b h n = do
    Act.log (.slept delaySlice)
    match ← (b.idle h).within .effect with
    | .ok () => waitSlices b h (n - delaySlice)
    | .error e => return .error e := by
  rw [waitSlices]
  exact if_pos long

/-- What is so of a wait if it is of the shorter one behind its first slice. -/
theorem waitSlices_induction {P : Nat → Prop} (short : ∀ n ≤ delaySlice, P n)
    (long : ∀ n, delaySlice < n → P (n - delaySlice) → P n) (n : Nat) : P n := by
  induction n using Nat.strongRecOn with
  | _ n ih =>
    by_cases h : n ≤ delaySlice
    · exact short n h
    · have positive : 0 < delaySlice := by decide
      exact long n (Nat.lt_of_not_le h) (ih _ (by omega))

theorem fullSlices_of_le (short : n ≤ delaySlice) : fullSlices n = 0 := by
  simp only [fullSlices, delaySlice] at *
  omega

theorem fullSlices_of_lt (long : delaySlice < n) : fullSlices n = fullSlices (n - delaySlice) + 1 := by
  simp only [fullSlices, delaySlice] at *
  omega

end Slices

theorem id_of_create {b : Backend σ η ε} {id : DeviceId} {r : Registration} {s : σ} {d : Device η}
    (made : ((create b id r).run s).answer = .ok d) : d.id = id := by
  rw [create, Act.run_bind] at made
  split at made <;> cases made
  rfl

/-- A closed device refuses every command and stays as it is. -/
theorem run_perform_closed (b : Backend σ η ε) {d : Device η} (hd : d.state = .closed)
    {action : Action} {task : Device.Task} (ht : action.task? = some task) (s : σ) :
    (d.perform b task).run s = ⟨(.error (.closed d.id action.command), d), s, []⟩ := by
  cases action <;> cases ht <;>
    simp [perform, inject, sync, delay, command, hd, Action.command]

/-- All that a command can change about a device is its clock. -/
theorem perform_device (b : Backend σ η ε) (d : Device η) {action : Action} {task : Device.Task}
    (ht : action.task? = some task) (s : σ) :
    ∃ clock, ((d.perform b task).run s).answer.2 = { d with clockOffset := clock } := by
  cases action with
  | register r => cases ht
  | inject events => cases ht; exact ⟨d.clockOffset, rfl⟩
  | sync token => cases ht; exact ⟨d.clockOffset, rfl⟩
  | delay millis =>
    cases ht
    obtain ⟨id, registration, handle, state, clock⟩ := d
    cases state with
    | closed => exact ⟨clock, rfl⟩
    | opened =>
      simp only [perform, delay, Act.run_bind]
      rcases ((waitSlices b handle millis.toNat).run s).answer with e | _
      · exact ⟨clock, rfl⟩
      · refine ⟨addClock clock millis, ?_⟩
        simp only [Act.run_bind, Act.run_log, Act.run_within]
        split <;> rfl

section Keeps
variable {b : Backend σ η ε} {I : List (Entry ε) → σ → Prop}

private theorem waitSlices_keeps {h : η} (hs : ∀ past s n, I past s → I (past ++ [.slept n]) s)
    (idle : ((b.idle h).within Entry.effect).Keeps I) (n : Nat) : (waitSlices b h n).Keeps I := by
  induction n using waitSlices_induction with
  | short n hn =>
    rw [waitSlices_of_le hn]
    exact .pure _
  | long n hn ih =>
    rw [waitSlices_of_lt hn]
    refine .bind (.log fun past s hp => hs past s _ hp) fun _ => .bind idle ?_
    rintro (e | _)
    · exact .pure _
    · exact ih

/-- What sleeps and the calls on a device's handle keep, its commands keep. -/
theorem perform_keeps {d : Device η} (hs : ∀ past s n, I past s → I (past ++ [.slept n]) s)
    (inject : ∀ events, ((b.inject d.handle events).within Entry.effect).Keeps I)
    (delay : ∀ millis, ((b.delay d.handle millis).within Entry.effect).Keeps I)
    (idle : ((b.idle d.handle).within Entry.effect).Keeps I)
    (sync : ∀ token, ((b.sync d.handle token).within Entry.effect).Keeps I)
    {action : Action} {task : Device.Task} (ht : action.task? = some task) :
    (d.perform b task).Keeps I := by
  have answered (command : Command) {call : Act σ ε (Except BackendError Unit)}
      (hc : (call.within Entry.effect).Keeps I) : (d.command command call).Keeps I := by
    unfold Device.command
    split
    · exact .pure _
    · refine .bind hc ?_
      rintro (e | _) <;> exact .pure _
  cases action with
  | register r => cases ht
  | inject events => cases ht; exact .bind (answered _ (inject events)) fun _ => .pure _
  | sync token => cases ht; exact .bind (answered _ (sync token)) fun _ => .pure _
  | delay millis =>
    cases ht
    simp only [perform, Device.delay]
    split
    · exact .pure _
    · refine .bind (waitSlices_keeps hs idle _) ?_
      rintro (e | _)
      · exact .pure _
      · refine .bind (.log fun past s hp => hs past s _ hp) fun _ => .bind (delay millis) ?_
        rintro (e | _) <;> exact .pure _

end Keeps

end Device
end ScriptedInput

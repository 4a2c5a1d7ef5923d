import Mathlib.Data.List.Basic
import ScriptedInput.Device.HandleTable

/-! What requests do to handles. Only closing changes a handle, so what closing keeps true of a handle
stays true of it, whatever is asked of it and of the others. -/
namespace ScriptedInput.HandleTable
variable {σ η ε : Type} {table : HandleTable σ η} {n : Nat} {h : η}

private theorem run_change_none (f : η → Act σ ε (Except BackendError Unit × η))
    (none : table.handles[n]? = none) :
    (change n f).run table = ⟨.error (.rejected .noHandle), table, []⟩ := by
  simp [change, none]

theorem run_change_some (f : η → Act σ ε (Except BackendError Unit × η))
    (found : table.handles[n]? = some h) :
    let done := (f h).run table.backend
    (change n f).run table =
      ⟨done.answer.1, ⟨table.handles.set n done.answer.2, done.state⟩, done.log⟩ := by
  simp [change, found, onBackend]

theorem set_found (found : table.handles[n]? = some h) : table.handles.set n h = table.handles := by
  obtain ⟨hn, rfl⟩ := List.getElem?_eq_some_iff.mp found
  exact List.set_getElem_self hn

theorem run_call_none (f : η → Act σ ε (Except BackendError Unit))
    (none : table.handles[n]? = none) :
    (call n f).run table = ⟨.error (.rejected .noHandle), table, []⟩ := run_change_none _ none

/-- A call on a handle leaves all handles as they are. -/
theorem run_call_some (f : η → Act σ ε (Except BackendError Unit))
    (found : table.handles[n]? = some h) :
    (call n f).run table = ⟨((f h).run table.backend).answer,
      { table with backend := ((f h).run table.backend).state }, ((f h).run table.backend).log⟩ := by
  rw [call, run_change_some _ found]
  simp [set_found found]

def Holds (n : Nat) (P : η → Prop) (table : HandleTable σ η) : Prop :=
  ∃ h, table.handles[n]? = some h ∧ P h

variable {b : Backend σ η ε} {P Q : η → Prop}

private theorem holds_create (held : table.Holds n P) (id : DeviceId) (r : Registration) :
    ((create b id r).run table).state.Holds n P := by
  obtain ⟨h, found, own⟩ := held
  obtain ⟨inside, -⟩ := List.getElem?_eq_some_iff.mp found
  simp only [create, onBackend, Act.run_bind, Act.run_onPart]
  cases ((b.create id r).run table.backend).answer with
  | error e => exact ⟨h, found, own⟩
  | ok k => exact ⟨h, by simpa [List.getElem?_append_left inside] using found, own⟩

private theorem holds_call (f : η → Act σ ε (Except BackendError Unit)) (m : Nat)
    (held : table.Holds n P) : ((call m f).run table).state.Holds n P := by
  cases found : table.handles[m]? with
  | none =>
    rw [run_call_none f found]
    exact held
  | some k =>
    rw [run_call_some f found]
    exact held

/-- What is closed is as closing makes it. -/
theorem holds_close (closes : ∀ h s, P h → Q ((b.close h).run s).answer.2) (held : table.Holds n P) :
    ((close b n).run table).state.Holds n Q := by
  obtain ⟨h, found, own⟩ := held
  obtain ⟨inside, -⟩ := List.getElem?_eq_some_iff.mp found
  rw [close, run_change_some _ found]
  exact ⟨_, List.getElem?_set_self inside, closes h table.backend own⟩

private theorem holds_close_other {m : Nat} (other : m ≠ n) (held : table.Holds n P) :
    ((close b m).run table).state.Holds n P := by
  cases found : table.handles[m]? with
  | none =>
    rw [close, run_change_none _ found]
    exact held
  | some k =>
    obtain ⟨h, own⟩ := held
    rw [close, run_change_some _ found]
    refine ⟨h, ?_⟩
    simpa [List.getElem?_set_ne other] using own

/-- What closing keeps true of a handle, each request does. -/
private theorem holds_perform (closes : ∀ h s, P h → P ((b.close h).run s).answer.2) (r : Request)
    (held : table.Holds n P) : ((perform b r).run table).state.Holds n P := by
  cases r with
  | create id registration => exact holds_create held id registration
  | inject m | delay m | idle m | sync m => exact holds_call _ m held
  | close m =>
    by_cases own : m = n
    · subst own
      exact holds_close closes held
    · exact holds_close_other own held

theorem holds_performAll (closes : ∀ h s, P h → P ((b.close h).run s).answer.2) (rs : List Request)
    (held : table.Holds n P) : ((performAll b rs).run table).state.Holds n P := by
  induction rs generalizing table with
  | nil => exact held
  | cons r rs ih => exact ih (holds_perform closes r held)

theorem state_performAll_append (rs rs' : List Request) (table : HandleTable σ η) :
    ((performAll b (rs ++ rs')).run table).state =
      ((performAll b rs').run ((performAll b rs).run table).state).state := by
  induction rs generalizing table with
  | nil => rfl
  | cons r rs ih => exact ih ((perform b r).run table).state

end ScriptedInput.HandleTable

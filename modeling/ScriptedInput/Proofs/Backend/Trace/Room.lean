import ScriptedInput.Backend.Trace
import ScriptedInput.Proofs.Device.Commands
import ScriptedInput.Session

/-! Actions on a sink that has room for so many bytes only, beside the same actions on one without
limit. They go on alike while all fits; where the first line does not fit, the sink is full of what
came first, and takes nothing from then on. -/
namespace ScriptedInput.Trace
variable {τ α β φ γ : Type}

abbrev Tracing (τ α : Type) : Type := Act τ (Entry (List UInt8)) α

def written (log : List (Entry (List UInt8))) : List UInt8 := (effects log).flatten

@[simp] theorem written_append (xs ys : List (Entry (List UInt8))) :
    written (xs ++ ys) = written xs ++ written ys := by
  rw [written, effects_append, List.flatten_append]
  rfl

/-- States in which a sink has so much room left and flushes without failing, and the same states
without limit to the room. -/
class Roomy (τ : Type) where
  room : Nat → τ → Prop
  unlimited : τ → τ

open Roomy (room unlimited)

structure Sink.Left (n : Nat) (s : Sink) : Prop where
  room : s.room = some n
  flush : s.flushFailure = none

instance : Roomy Sink where
  room := Sink.Left
  unlimited s := { s with room := none }

instance : Roomy (Session Sink DeviceId) where
  room n s := room n s.backend
  unlimited s := { s with backend := unlimited s.backend }

/-- What an action came to with room for so many bytes, beside what it came to without limit. Either
all fits, and there is no difference; or the sink is full of the bytes that came first, and the
answer is such. -/
inductive Truncated [Roomy τ] (F : α → Prop) (n : Nat)
    (cut whole : Done τ (Entry (List UInt8)) α) : Prop where
  | fits (m : Nat) (answer : whole.answer = cut.answer) (state : whole.state = unlimited cut.state)
    (log : whole.log = cut.log) (left : room m cut.state) (length : (written cut.log).length + m = n)
  | full (answer : F cut.answer) (left : room 0 cut.state)
    (bytes : written cut.log = (written whole.log).take n) (more : n < (written whole.log).length)

/-- An action that a full sink can only cut short, with such an answer. -/
def Truncates [Roomy τ] (F : α → Prop) (x : Tracing τ α) : Prop :=
  ∀ n t, room n t → Truncated F n (x.run t) (x.run (unlimited t))

inductive Failed : Except φ γ → Prop where
  | intro (e : φ) : Failed (.error e)

variable [Roomy τ] {F F' : α → Prop} {G : β → Prop}

theorem Truncated.mono {n : Nat} {cut whole : Done τ (Entry (List UInt8)) α}
    (h : Truncated F n cut whole) (weaker : ∀ a, F a → F' a) : Truncated F' n cut whole := by
  cases h with
  | fits m answer state log left length => exact .fits m answer state log left length
  | full answer left bytes more => exact .full (weaker _ answer) left bytes more

namespace Truncates
variable {x : Tracing τ α} {f : α → Tracing τ β}

theorem pure (a : α) : Truncates F (Pure.pure a : Tracing τ α) :=
  fun n _ left => .fits n rfl rfl rfl left (Nat.zero_add n)

/-- Entries that are no effects need no room. -/
theorem logAll {es : List (Entry (List UInt8))} (silent : effects es = []) {F : Unit → Prop} :
    Truncates F (Act.logAll es : Tracing τ Unit) :=
  fun n _ left => .fits n rfl rfl rfl left (by simp [written, silent])

theorem log {e : Entry (List UInt8)} (silent : e.effect? = none) {F : Unit → Prop} :
    Truncates F (Act.log e : Tracing τ Unit) :=
  logAll (by simp [effects, silent])

theorem mono (h : Truncates F x) (weaker : ∀ a, F a → F' a) : Truncates F' x :=
  fun n t left => (h n t left).mono weaker

/-- A full sink takes nothing and stays full. -/
private theorem nothing (h : Truncates F x) {t : τ} (left : room 0 t) :
    written (x.run t).log = [] ∧ room 0 (x.run t).state := by
  cases h 0 t left with
  | fits m answer state log left length =>
    obtain ⟨none, rfl⟩ := Nat.add_eq_zero_iff.mp length
    exact ⟨List.eq_nil_of_length_eq_zero none, left⟩
  | full answer left bytes more => exact ⟨bytes, left⟩

/-- One action after another, from a state. Where the first one was cut short, what comes after it
takes place on a full sink. -/
private theorem bind_at {n : Nat} {t : τ} (first : Truncated F n (x.run t) (x.run (unlimited t)))
    (second : ∀ m, room m (x.run t).state →
      Truncated G m ((f (x.run t).answer).run (x.run t).state)
        ((f (x.run t).answer).run (unlimited (x.run t).state)))
    (stopped : F (x.run t).answer → room 0 (x.run t).state →
      written ((f (x.run t).answer).run (x.run t).state).log = [] ∧
        room 0 ((f (x.run t).answer).run (x.run t).state).state ∧
        G ((f (x.run t).answer).run (x.run t).state).answer) :
    Truncated G n ((x >>= f).run t) ((x >>= f).run (unlimited t)) := by
  rw [Act.run_bind, Act.run_bind]
  cases first with
  | fits m answer state log left length =>
    rw [answer, state, log]
    cases second m left with
    | fits m' answer state log left length' =>
      refine .fits m' answer state (by rw [log]) left ?_
      simp only [written_append, List.length_append]
      omega
    | full answer left bytes more =>
      have start : (written (x.run t).log).length ≤ n := by omega
      have after : n - (written (x.run t).log).length = m := by omega
      refine .full answer left ?_ ?_
      · simp only [written_append, bytes]
        rw [List.take_append, List.take_of_length_le start, after]
      · simp only [written_append, List.length_append]
        omega
  | full answer left bytes more =>
    obtain ⟨nothing, left, answer⟩ := stopped answer left
    refine .full answer left ?_ ?_
    · simp only [written_append, nothing, List.append_nil, bytes]
      rw [List.take_append_of_le_length (Nat.le_of_lt more)]
    · simp only [written_append, List.length_append]
      omega

theorem bind (first : Truncates F x) (second : ∀ a, Truncates G (f a))
    (stopped : ∀ a, F a → ∀ t, G ((f a).run t).answer) : Truncates G (x >>= f) := by
  intro n t left
  refine bind_at (first n t left) (fun m left => second _ m _ left) fun answer left => ?_
  obtain ⟨nothing, left⟩ := (second _).nothing left
  exact ⟨nothing, left, stopped _ answer _⟩

/-- What goes before may be such that it always fits. -/
theorem fitting_bind (first : Truncates (fun _ => False) x) (second : ∀ a, Truncates G (f a)) :
    Truncates G (x >>= f) :=
  first.bind second fun _ never => never.elim

/-- Where any answer will do, each step may be the one that is cut short. -/
theorem any_bind (first : Truncates F x) (second : ∀ a, Truncates (fun _ => True) (f a)) :
    Truncates (fun _ => True) (x >>= f) :=
  first.bind second fun _ _ _ => trivial

end Truncates

namespace Truncates
variable {x : Tracing τ (Except φ γ)} {f : Except φ γ → Tracing τ β} {error : φ → β}

theorem bind_ok_at {n : Nat} {t : τ} (first : Truncated Failed n (x.run t) (x.run (unlimited t)))
    (second : ∀ a m, (x.run t).answer = .ok a → room m (x.run t).state →
      Truncated G m ((f (.ok a)).run (x.run t).state)
        ((f (.ok a)).run (unlimited (x.run t).state)))
    (stops : ∀ e, f (.error e) = Pure.pure (error e)) (failed : ∀ e, G (error e)) :
    Truncated G n ((x >>= f).run t) ((x >>= f).run (unlimited t)) := by
  refine bind_at first (fun m left => ?_) fun failure left => ?_
  · cases answer : (x.run t).answer with
    | error e =>
      rw [stops]
      exact Truncates.pure _ m _ left
    | ok a => exact second a m answer left
  · cases answer : (x.run t).answer with
    | error e =>
      rw [stops]
      exact ⟨rfl, left, failed e⟩
    | ok a =>
      rw [answer] at failure
      cases failure

/-- What goes on only where nothing has failed yet. -/
theorem bind_ok (first : Truncates Failed x) (second : ∀ a, Truncates G (f (.ok a)))
    (stops : ∀ e, f (.error e) = Pure.pure (error e)) (failed : ∀ e, G (error e)) :
    Truncates G (x >>= f) :=
  fun n t left => bind_ok_at (first n t left) (fun a m _ left => second a m _ left) stops failed

end Truncates
end ScriptedInput.Trace

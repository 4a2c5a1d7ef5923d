import Mathlib.Data.List.Forall2

/-! When a chain of steps that may fail succeeds, and when it fails. -/
namespace ScriptedInput
variable {ε α β : Type}

theorem bind_eq_ok_iff {x : Except ε α} {f : α → Except ε β} {b : β} :
    x >>= f = .ok b ↔ ∃ a, x = .ok a ∧ f a = .ok b := by
  cases x with
  | error e => simp [bind, Except.bind]
  | ok a => simp [bind, Except.bind]

theorem map_eq_ok_iff {x : Except ε α} {f : α → β} {b : β} :
    x.map f = .ok b ↔ ∃ a, x = .ok a ∧ f a = b := by
  cases x <;> simp [Except.map]

theorem bind_eq_error_iff {x : Except ε α} {f : α → Except ε β} {e : ε} :
    x >>= f = .error e ↔ x = .error e ∨ ∃ a, x = .ok a ∧ f a = .error e := by
  cases x with
  | error e => simp [bind, Except.bind]
  | ok a => simp [bind, Except.bind]

theorem map_eq_error_iff {x : Except ε α} {f : α → β} {e : ε} :
    x.map f = .error e ↔ x = .error e := by
  cases x <;> simp [Except.map]

/-- All items of a list are read, each on its own. -/
theorem mapM_eq_ok_iff {f : α → Except ε β} {as : List α} {bs : List β} :
    as.mapM f = .ok bs ↔ List.Forall₂ (fun a b => f a = .ok b) as bs := by
  induction as generalizing bs with
  | nil => simp [pure, Except.pure, eq_comm]
  | cons a as ih =>
    rw [List.mapM_cons]
    constructor
    · intro h
      obtain ⟨b, hb, h⟩ := bind_eq_ok_iff.mp h
      obtain ⟨rest, hr, h⟩ := bind_eq_ok_iff.mp h
      obtain rfl : b :: rest = bs := by simpa [pure, Except.pure] using h
      exact .cons hb (ih.mp hr)
    · rintro (_ | ⟨hb, hr⟩)
      rw [hb, bind_eq_ok_iff]
      exact ⟨_, rfl, bind_eq_ok_iff.mpr ⟨_, ih.mpr hr, rfl⟩⟩

/-- A list is read back if each of its items is. -/
theorem mapM_map_ok {γ : Type} {f : α → Except ε β} {g : γ → α} {h : γ → β}
    (read : ∀ c, f (g c) = .ok (h c)) (cs : List γ) : (cs.map g).mapM f = .ok (cs.map h) := by
  rw [mapM_eq_ok_iff, List.forall₂_map_left_iff, List.forall₂_map_right_iff]
  exact List.forall₂_same.mpr fun c _ => read c

/-- The same for steps of any kind. -/
theorem mapM_map_pure {m : Type → Type} [Monad m] [LawfulMonad m] {f : α → m β} {g : β → α}
    (read : ∀ b, f (g b) = pure b) (bs : List β) : (bs.map g).mapM f = pure bs := by
  have each : f ∘ g = fun b => pure b := funext read
  rw [List.mapM_map, each, List.mapM_pure, List.map_id']

theorem mapM_map_self {f : α → Except ε β} {g : β → α} (read : ∀ b, f (g b) = .ok b)
    (bs : List β) : (bs.map g).mapM f = .ok bs := mapM_map_pure read bs

inductive Agree (R : α → β → Prop) : Except ε α → Except ε β → Prop where
  | ok {a : α} {b : β} (related : R a b) : Agree R (.ok a) (.ok b)
  | error (e f : ε) : Agree R (.error e) (.error f)

namespace Agree
variable {γ δ : Type} {R : α → β → Prop} {S : γ → δ → Prop}

theorem refl {R : α → α → Prop} (same : ∀ a, R a a) (x : Except ε α) : Agree R x x := by
  cases x with
  | error e => exact .error e e
  | ok a => exact .ok (same a)

theorem of_eq {x y : Except ε α} (h : x = y) : Agree Eq x y := h ▸ refl Eq.refl x

theorem eq_ok_iff {x y : Except ε α} (h : Agree Eq x y) (a : α) : x = .ok a ↔ y = .ok a := by
  cases h with
  | ok same => rw [same]
  | error => exact ⟨nofun, nofun⟩

variable {x : Except ε α} {y : Except ε β}

theorem bind {f : α → Except ε γ} {g : β → Except ε δ} (h : Agree R x y)
    (later : ∀ a b, R a b → Agree S (f a) (g b)) : Agree S (x >>= f) (y >>= g) := by
  cases h with
  | ok related => exact later _ _ related
  | error e f => exact .error e f

theorem bind_eq {x y : Except ε α} {f : α → Except ε γ} {g : α → Except ε δ} (h : Agree Eq x y)
    (later : ∀ a, Agree S (f a) (g a)) : Agree S (x >>= f) (y >>= g) :=
  h.bind fun a _ same => same ▸ later a

theorem map {f : α → γ} {g : β → δ} (h : Agree R x y) (each : ∀ a b, R a b → S (f a) (g b)) :
    Agree S (x.map f) (y.map g) := by
  cases h with
  | ok related => exact .ok (each _ _ related)
  | error e f => exact .error e f

theorem mapM {f : α → Except ε γ} {g : β → Except ε δ} {as : List α} {bs : List β}
    (h : List.Forall₂ R as bs) (each : ∀ a b, R a b → Agree S (f a) (g b)) :
    Agree (List.Forall₂ S) (as.mapM f) (bs.mapM g) := by
  induction h with
  | nil => exact .ok .nil
  | cons first _ ih =>
    rw [List.mapM_cons, List.mapM_cons]
    exact (each _ _ first).bind fun c d hc => ih.bind fun cs ds hcs => .ok (.cons hc hcs)

theorem mapM_eq {f : α → Except ε γ} {g : β → Except ε γ} {as : List α} {bs : List β}
    (h : List.Forall₂ R as bs) (each : ∀ a b, R a b → Agree Eq (f a) (g b)) :
    Agree Eq (as.mapM f) (bs.mapM g) := by
  have agree := mapM h each
  rwa [List.forall₂_eq_eq_eq] at agree

/-- Steps that keep two states related do so along two lists of related items. -/
theorem foldlM {f : γ → α → Except ε γ} {g : δ → β → Except ε δ} {as : List α} {bs : List β}
    (h : List.Forall₂ R as bs)
    (step : ∀ c d, S c d → ∀ a b, R a b → Agree S (f c a) (g d b)) {c : γ} {d : δ} (start : S c d) :
    Agree S (as.foldlM f c) (bs.foldlM g d) := by
  induction h generalizing c d with
  | nil => exact .ok start
  | cons first _ ih =>
    rw [List.foldlM_cons, List.foldlM_cons]
    exact (step _ _ start _ _ first).bind fun _ _ next => ih next

end Agree
end ScriptedInput

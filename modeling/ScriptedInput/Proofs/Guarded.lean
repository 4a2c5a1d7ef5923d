/-! Work that something could stop in its midst: where an index or a slice is out of range, or where a sum
or a negation is too large for its type. -/
namespace ScriptedInput

inductive Trap where
  /-- A slice of a text that is out of range, or begins or ends within a character. -/
  | slice
  /-- An index that is out of range. -/
  | index
  /-- A sum, a difference, a product or a negation that 64 bits do not hold. -/
  | overflow
  /-- More lines than 64 bits can count. -/
  | lineCount
  /-- A text longer than any can be. -/
  | memory
  deriving DecidableEq, Repr

def orTrap {α : Type} (trap : Trap) : Option α → Except Trap α
  | some a => .ok a
  | none => .error trap

/-- Work that may find a fault in what it reads, and that may be stopped. -/
abbrev Guarded (φ α : Type) := ExceptT φ (Except Trap) α

namespace Guarded
variable {φ α β : Type}

def check (m : Except φ α) : Guarded φ α := ExceptT.mk (.ok m)

def attempt (x : Except Trap α) : Guarded φ α := ExceptT.lift x

def Gives (x : Guarded φ α) (m : Except φ α) : Prop := x.run = .ok m

theorem gives_pure (a : α) : Gives (pure a : Guarded φ α) (.ok a) := rfl

theorem gives_throw (f : φ) : Gives (throw f : Guarded φ α) (.error f) := rfl

theorem gives_check (m : Except φ α) : Gives (check m) m := rfl

theorem bind_of_gives {x : Guarded φ α} {a : α} (hx : x.Gives (.ok a)) (f : α → Guarded φ β) :
    x >>= f = f a := by
  refine ExceptT.ext ?_
  rw [ExceptT.run_bind, (hx : x.run = _)]
  rfl

theorem Gives.bind_error {x : Guarded φ α} {fault : φ} (hx : x.Gives (.error fault)) (f : α → Guarded φ β) :
    Gives (x >>= f) (.error fault) := by
  rw [Gives, ExceptT.run_bind, (hx : x.run = _)]
  rfl

theorem Gives.bind {x : Guarded φ α} {m : Except φ α} {f : α → Guarded φ β}
    {g : α → Except φ β} (hx : x.Gives m) (hf : ∀ a, (f a).Gives (g a)) :
    Gives (x >>= f) (m >>= g) := by
  cases m with
  | error fault => exact hx.bind_error f
  | ok a =>
    rw [bind_of_gives hx]
    exact hf a

theorem Gives.map {x : Guarded φ α} {m : Except φ α} (hx : x.Gives m) (f : α → β) :
    Gives (f <$> x) (m.map f) := by
  have both := hx.bind (f := fun a => pure (f a)) (g := fun a => .ok (f a)) fun a => gives_pure (f a)
  rw [bind_pure_comp] at both
  cases m <;> exact both

theorem run_bind_of_error {x : Guarded φ α} {trap : Trap} (hx : x.run = .error trap) (f : α → Guarded φ β) :
    (x >>= f).run = .error trap := by
  rw [ExceptT.run_bind, hx]
  rfl

theorem attempt_bind {x : Except Trap α} {a : α} (hx : x = .ok a) (f : α → Guarded φ β) :
    attempt x >>= f = f a :=
  bind_of_gives (by rw [hx]; rfl) f

end Guarded

end ScriptedInput

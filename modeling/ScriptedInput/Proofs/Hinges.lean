import ScriptedInput.Proofs.Success

/-! What a chain of steps that may fail makes of one part of its input. Once it succeeds with some part,
all else is in order: with any other part it fails if and as that part does, and gives the same otherwise
but for what the part is read as. -/
namespace ScriptedInput
variable {ε X Y α β γ δ : Type}

/-- Where the whole is read at all, it is read as its part is, which is then put into the rest. -/
def HingesOn (whole : X → Except ε β) (part : X → Except ε α) (Puts : (α → β) → Prop) : Prop :=
  ∀ x b, whole x = .ok b → ∃ put, Puts put ∧ ∀ x, whole x = (part x).map put

namespace HingesOn
variable {whole : X → Except ε β} {part : X → Except ε α} {Puts : (α → β) → Prop}

theorem of_map {put : α → β} (read : ∀ x, whole x = (part x).map put) (puts : Puts put) :
    HingesOn whole part Puts :=
  fun _ _ _ => ⟨put, puts, read⟩

/-- The part may be looked at in more detail. -/
theorem comp (h : HingesOn whole part Puts) (detail : Y → X) :
    HingesOn (fun y => whole (detail y)) (fun y => part (detail y)) Puts := fun y b read =>
  have ⟨put, puts, all⟩ := h (detail y) b read
  ⟨put, puts, fun y => all (detail y)⟩

/-- The part may hinge on a part of its own. -/
theorem trans {inner : X → Except ε γ} {Within : (γ → α) → Prop} (h : HingesOn whole part Puts)
    (deeper : HingesOn part inner Within) :
    HingesOn whole inner fun put =>
      ∃ outer, Puts outer ∧ ∃ within, Within within ∧ put = outer ∘ within := by
  intro x b read
  obtain ⟨outer, puts, all⟩ := h x b read
  obtain ⟨a, read, -⟩ := map_eq_ok_iff.mp ((all x).symm.trans read)
  obtain ⟨within, puts', each⟩ := deeper x a read
  refine ⟨outer ∘ within, ⟨outer, puts, within, puts', rfl⟩, fun x => ?_⟩
  rw [all, each]
  cases inner x <;> rfl

end HingesOn

/-- An item of a list, with what the others are read as before it and behind it. -/
def PutsItem (i : Nat) (put : β → List β) : Prop :=
  ∃ front back, front.length = i ∧ put = fun b => front ++ b :: back

private theorem length_of_mapM {f : α → Except ε β} {as : List α} {bs : List β} (h : as.mapM f = .ok bs) :
    bs.length = as.length :=
  (mapM_eq_ok_iff.mp h).length_eq.symm

theorem hingesOn_mapM (f : α → Except ε β) (front back : List α) :
    HingesOn (fun a => (front ++ a :: back).mapM f) f (PutsItem front.length) := by
  intro a bs (read : (front ++ a :: back).mapM f = .ok bs)
  rw [List.mapM_append] at read
  obtain ⟨before, front_read, read⟩ := bind_eq_ok_iff.mp read
  obtain ⟨rest, rest_read, -⟩ := bind_eq_ok_iff.mp read
  rw [List.mapM_cons] at rest_read
  obtain ⟨b, -, rest_read⟩ := bind_eq_ok_iff.mp rest_read
  obtain ⟨behind, back_read, -⟩ := bind_eq_ok_iff.mp rest_read
  refine ⟨_, ⟨before, behind, length_of_mapM front_read, rfl⟩, fun a => ?_⟩
  dsimp only
  rw [List.mapM_append, List.mapM_cons, front_read, back_read]
  cases f a <;> rfl

/-- A member is taken in after others; those behind it leave it alone. -/
theorem hingesOn_foldlM {step : δ → X → Except ε δ} {member : Y → X} {part : Y → Except ε α}
    {write : δ → α → δ} (taken : ∀ d y, step d (member y) = (part y).map (write d))
    {back : List X}
    (other : ∀ x ∈ back, ∀ d a, step (write d a) x = (step d x).map (write · a))
    (front : List X) (d : δ) :
    HingesOn (fun y => (front ++ member y :: back).foldlM step d) part
      fun put => ∃ d, put = write d := by
  -- What stands behind is read the same whatever was written.
  have later (d : δ) (a : α) : back.foldlM step (write d a) = (back.foldlM step d).map (write · a) := by
    induction back generalizing d with
    | nil => rfl
    | cons x back ih =>
      obtain ⟨first, rest⟩ := List.forall_mem_cons.mp other
      rw [List.foldlM_cons, List.foldlM_cons, first d a]
      cases step d x with
      | error => rfl
      | ok d => exact ih rest d
  intro y b (read : (front ++ member y :: back).foldlM step d = .ok b)
  rw [List.foldlM_append] at read
  obtain ⟨before, front_read, read⟩ := bind_eq_ok_iff.mp read
  rw [List.foldlM_cons, taken] at read
  obtain ⟨_, member_read, read⟩ := bind_eq_ok_iff.mp read
  obtain ⟨a, -, rfl⟩ := map_eq_ok_iff.mp member_read
  rw [later] at read
  obtain ⟨behind, back_read, -⟩ := map_eq_ok_iff.mp read
  refine ⟨_, ⟨behind, rfl⟩, fun y => ?_⟩
  have reached : (front ++ member y :: back).foldlM step d =
      (part y).map (write before) >>= back.foldlM step := by
    rw [List.foldlM_append, front_read, ← taken]
    rfl
  dsimp only
  rw [reached]
  cases part y with
  | error => rfl
  | ok a => exact (later before a).trans (by rw [back_read]; rfl)

end ScriptedInput

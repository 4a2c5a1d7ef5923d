/-! Finite maps by 16-bit code, kept as lists in strictly ascending order of their codes, so that
two maps with the same entries are equal and walking one walks its codes in order. -/
namespace ScriptedInput

def insertAscending {κ α : Type} [LT κ] [DecidableLT κ] [DecidableEq κ] (key : κ) (a : α) :
    List (κ × α) → List (κ × α)
  | [] => [(key, a)]
  | (k, b) :: rest =>
    if key < k then (key, a) :: (k, b) :: rest
    else if key = k then (key, a) :: rest
    else (k, b) :: insertAscending key a rest

section Ascending
variable {κ α : Type} [LT κ] [DecidableLT κ] [DecidableEq κ] {key : κ} {l : List (κ × α)}

/-- An entry after insertion is the new one or an old one. -/
theorem mem_insertAscending {a : α} {e : κ × α} (h : e ∈ insertAscending key a l) :
    e = (key, a) ∨ e ∈ l := by
  induction l with
  | nil => exact .inl (List.mem_singleton.mp h)
  | cons d l ih =>
    rw [insertAscending] at h
    split at h
    · exact List.mem_cons.mp h
    · split at h
      · exact (List.mem_cons.mp h).imp_right (List.mem_cons_of_mem _)
      · rcases List.mem_cons.mp h with rfl | h
        · exact .inr List.mem_cons_self
        · exact (ih h).imp_right (List.mem_cons_of_mem _)

/-- Lists in ascending order stay so. -/
theorem ascending_insertAscending (trans : ∀ a b c : κ, a < b → b < c → a < c)
    (total : ∀ a b : κ, ¬ a < b → a ≠ b → b < a) (h : l.Pairwise fun a b => a.1 < b.1) (a : α) :
    (insertAscending key a l).Pairwise fun a b => a.1 < b.1 := by
  induction l with
  | nil => exact List.pairwise_singleton _ _
  | cons d l ih =>
    obtain ⟨hd, hl⟩ := List.pairwise_cons.mp h
    rw [insertAscending]
    split
    · next below =>
      exact .cons (List.forall_mem_cons.mpr ⟨below, fun e he => trans _ _ _ below (hd e he)⟩) h
    · next above =>
      split
      · next same => exact .cons (same ▸ hd) hl
      · next other =>
        refine .cons (fun e he => ?_) (ih hl)
        rcases mem_insertAscending he with rfl | he
        · exact total _ _ above other
        · exact hd e he

end Ascending

structure CodeMap (α : Type) where
  entries : List (UInt16 × α) := []
  ascending : entries.Pairwise (fun a b => a.1 < b.1) := by simp
  deriving DecidableEq, Repr

namespace CodeMap
variable {α : Type}

instance : Inhabited (CodeMap α) := ⟨{}⟩

private theorem pairwise_insertAscending {code : UInt16} {a : α} {l : List (UInt16 × α)}
    (h : l.Pairwise (fun a b => a.1 < b.1)) :
    (insertAscending code a l).Pairwise (fun a b => a.1 < b.1) :=
  ascending_insertAscending (fun _ _ _ => UInt16.lt_trans)
    (fun _ _ le ne => UInt16.lt_of_le_of_ne (UInt16.not_lt.mp le) ne.symm) h a

def insert (m : CodeMap α) (code : UInt16) (a : α) : CodeMap α :=
  ⟨insertAscending code a m.entries, pairwise_insertAscending m.ascending⟩

def get? (m : CodeMap α) (code : UInt16) : Option α := m.entries.lookup code

/-- Later entries of a list win over earlier ones with the same code. -/
def ofList (l : List (UInt16 × α)) : CodeMap α :=
  l.foldl (fun m e => m.insert e.1 e.2) {}

end CodeMap
end ScriptedInput

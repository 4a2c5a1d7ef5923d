import Mathlib.Data.List.Sort
import ScriptedInput.Proofs.Recording.Written

/-! Masks of codes: a mask is read back as the codes it was made for, however many bytes it has and
however they are cut into lines. -/
namespace ScriptedInput

theorem flatten_pieces (ns : List Nat) (bytes : List UInt8) : (pieces ns bytes).flatten = bytes := by
  induction ns generalizing bytes with
  | nil => cases bytes <;> simp [pieces]
  | cons n ns ih => rw [pieces, List.flatten_cons, ih, List.take_append_drop]

/-- The bits of one byte are those of eight numbers. -/
private theorem filter_testBit (has : Nat → Bool) (i : Nat) :
    (List.range 8).filter
        (UInt8.ofNat (Nat.ofBits fun bit : Fin 8 => has (8 * i + bit))).toNat.testBit =
      (List.range 8).filter (fun bit => has (8 * i + bit)) := by
  refine List.filter_congr fun bit hb => ?_
  have small : bit < 8 := List.mem_range.mp hb
  rw [UInt8.toNat_ofNat_of_lt' (Nat.ofBits_lt_two_pow _), Nat.testBit_ofBits_lt _ _ small]

/-- The codes of consecutive bytes are the numbers whose bits they have. -/
private theorem maskCodesFrom_maskOf (has : Nat → Bool) (start count : Nat) :
    maskCodesFrom start (maskOf has (List.range' start count)) =
      ((List.range' (8 * start) (8 * count)).filter has).map UInt16.ofNat := by
  induction count generalizing start with
  | zero => rfl
  | succ count ih =>
    have first : (List.range' (8 * start) 8).filter has =
        ((List.range 8).filter (fun bit => has (8 * start + bit))).map (8 * start + ·) := by
      rw [List.range'_eq_map_range, List.filter_map]
      rfl
    have split : List.range' (8 * start) (8 * (count + 1)) =
        List.range' (8 * start) 8 ++ List.range' (8 * (start + 1)) (8 * count) := by
      rw [Nat.mul_add, Nat.add_comm (8 * count), ← List.range'_append_1]
      rfl
    rw [List.range'_succ, maskOf, List.map_cons, maskCodesFrom, filter_testBit, ← maskOf, ih, split,
      List.filter_append, List.map_append, first, List.map_map]
    rfl

namespace CodeSet

private theorem has_iff {s : CodeSet} {n : Nat} : s.has n ↔ n ∈ s.codes.map UInt16.toNat := by
  simp [has]

/-- The mask has a bit for each code. -/
private theorem lt_width {s : CodeSet} {c : UInt16} (hc : c ∈ s.codes) : c.toNat < 8 * s.width := by
  have hne : s.codes ≠ [] := List.ne_nil_of_mem hc
  have le : c.toNat ≤ (s.codes.getLast hne).toNat := by
    have ordered := s.ascending
    rw [← List.dropLast_append_getLast hne] at hc ordered
    rcases List.mem_append.mp hc with hc | hc
    · have := (List.pairwise_append.mp ordered).2.2 c hc _ List.mem_cons_self
      exact Nat.le_of_lt (UInt16.lt_iff_toNat_lt.mp this)
    · exact Nat.le_of_eq (congrArg UInt16.toNat (List.mem_singleton.mp hc))
  rw [width, List.getLast?_eq_some_getLast hne]
  dsimp only
  omega

/-- The mask of a set is read as the set. -/
theorem maskCodes_mask (s : CodeSet) (padding : Nat) : maskCodes (s.mask padding) = s.codes := by
  have numbers : (List.range' 0 (8 * (s.width + padding))).filter s.has =
      s.codes.map UInt16.toNat := by
    refine List.Pairwise.eq_of_mem_iff (r := (· < ·)) ((List.pairwise_lt_range' 1 Nat.one_pos).filter _)
      (List.pairwise_map.mpr (s.ascending.imp UInt16.lt_iff_toNat_lt.mp)) fun n => ?_
    rw [List.mem_filter, has_iff, and_iff_right_iff_imp]
    intro hn
    obtain ⟨c, hc, rfl⟩ := List.mem_map.mp hn
    have := lt_width hc
    simp only [List.mem_range'_1]
    omega
  have codes := maskCodesFrom_maskOf s.has 0 (s.width + padding)
  rw [← List.range_eq_range', Nat.mul_zero, numbers, List.map_map] at codes
  rw [maskCodes, mask, codes]
  exact List.map_id'' (fun c => UInt16.ofNat_toNat) s.codes

end CodeSet
end ScriptedInput

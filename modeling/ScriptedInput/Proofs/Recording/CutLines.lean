import Mathlib.Data.List.Count
import ScriptedInput.Script.Lines

/-! The lines of a recording that is cut off: those whose line feed lies before the cut, and the failure
to read on. -/
namespace ScriptedInput

/-- How many bytes there are up to the end of the `k`th line, its line feed included. -/
def afterFeeds : Nat → List UInt8 → Option Nat
  | 0, _ => some 0
  | _ + 1, [] => none
  | k + 1, b :: bs => (afterFeeds (if b = 10 then k else k + 1) bs).map (· + 1)

/-- A line ends within the first `n` bytes if these have as many line feeds as its number. -/
theorem afterFeeds_le_iff (k n : Nat) (bytes : List UInt8) :
    (∃ m, afterFeeds k bytes = some m ∧ m ≤ n) ↔ k ≤ (bytes.take n).count 10 := by
  induction bytes generalizing k n with
  | nil => cases k <;> simp [afterFeeds]
  | cons b bs ih =>
    cases k with
    | zero => simp [afterFeeds]
    | succ k =>
      cases n with
      | zero => simp [afterFeeds]
      | succ n =>
        have step : (∃ m, afterFeeds (k + 1) (b :: bs) = some m ∧ m ≤ n + 1) ↔
            ∃ m, afterFeeds (if b = 10 then k else k + 1) bs = some m ∧ m ≤ n := by
          simp [afterFeeds]
        rw [step, ih, List.take_succ_cons, List.count_cons]
        by_cases feed : b = 10 <;> simp [feed]

private theorem splitLines_cons (b : UInt8) (bs : List UInt8) :
    (splitLines (b :: bs)).1 =
      if b = 10 then [] :: (splitLines bs).1 else (splitLines bs).1.modifyHead (b :: ·) := by
  rw [splitLines]
  rcases splitLines bs with ⟨_ | ⟨line, lines⟩, left⟩ <;> by_cases feed : b = 10 <;> simp [feed]

/-- There is a line for each line feed. -/
private theorem length_splitLines_eq_count (bytes : List UInt8) :
    (splitLines bytes).1.length = bytes.count 10 := by
  induction bytes with
  | nil => rfl
  | cons b bs ih =>
    rw [splitLines_cons, List.count_cons, ← ih]
    by_cases feed : b = 10 <;> simp [feed]

/-- The lines of the first `n` bytes are the first ones. -/
private theorem splitLines_take (n : Nat) (bytes : List UInt8) :
    (splitLines (bytes.take n)).1 = (splitLines bytes).1.take ((bytes.take n).count 10) := by
  induction bytes generalizing n with
  | nil => simp [splitLines]
  | cons b bs ih =>
    cases n with
    | zero => simp [splitLines]
    | succ n =>
      rw [List.take_succ_cons, splitLines_cons, splitLines_cons, List.count_cons, ih]
      by_cases feed : b = 10
      · simp [feed]
      · cases (splitLines bs).1 <;> cases (bs.take n).count 10 <;> simp [feed]

namespace Source

/-- What is read of a source, up to the end of the lines that lie within the first `n` bytes, is read of
a source that fails there. -/
private theorem rawLines_take {whole cut : Source} {n : Nat} (fails : cut.failure.isSome)
    (bytes : cut.bytes = whole.bytes.take n) :
    ∃ later, whole.rawLines = cut.rawLines ++ later ∧
      cut.rawLines.length = (whole.bytes.take n).count 10 := by
  have lines : cut.rawLines = (splitLines whole.bytes).1.take ((whole.bytes.take n).count 10) := by
    rw [rawLines, bytes]
    simp only [fails, Bool.or_true, if_true]
    exact splitLines_take n whole.bytes
  have enough : (whole.bytes.take n).count 10 ≤ (splitLines whole.bytes).1.length := by
    rw [length_splitLines_eq_count]
    exact (List.take_sublist n _).count_le 10
  have count : cut.rawLines.length = (whole.bytes.take n).count 10 := by
    rw [lines, List.length_take, Nat.min_eq_left enough]
  have front : cut.rawLines <+: whole.rawLines := by
    rw [lines, rawLines]
    dsimp only
    split
    · exact List.take_prefix _ _
    · exact (List.take_prefix _ _).trans (List.prefix_append _ _)
  obtain ⟨later, same⟩ := front
  exact ⟨later, same.symm, count⟩

end Source

namespace Lines

/-- Lines are numbered from `n + 1` on. -/
private theorem lt_of_mem_number {failure : Option IoError} {n : Nat} {raws : List (List UInt8)} :
    ∀ l ∈ (number failure n raws).lines, n < l.number := by
  induction raws generalizing n with
  | nil => simp [number]
  | cons raw raws ih =>
    rw [number]
    split
    · simp
    · dsimp only
      have later : ∀ l ∈ (number failure (n + 1) raws).lines, n < l.number := fun l hl =>
        Nat.lt_of_succ_lt (ih l hl)
      split
      · exact List.forall_mem_cons.mpr ⟨Nat.lt_succ_self n, later⟩
      · exact later

/-- The lines `cut` of a script of which only its first `k` lines could be read. They are all lines of
the script, if that ends with a failure there, or else those with a number up to `k`. -/
inductive CutAt (k : Nat) (e : IoError) (whole : Lines) : Lines → Prop where
  | ended (failing : whole.failure.isSome) (within : ∀ l ∈ whole.lines, l.number ≤ k) :
    CutAt k e whole whole
  | within {cut : Lines} (later : List Line) (failure : cut.failure = some e)
    (lines : whole.lines = cut.lines ++ later) (before : ∀ l ∈ cut.lines, l.number ≤ k)
    (behind : ∀ l ∈ later, k < l.number) : CutAt k e whole cut

private theorem CutAt.cons {k : Nat} {e : IoError} {whole cut : Lines} (h : CutAt k e whole cut)
    {l : Line} (hl : l.number ≤ k) :
    CutAt k e { whole with lines := l :: whole.lines } { cut with lines := l :: cut.lines } := by
  cases h with
  | ended failing within => exact .ended failing (List.forall_mem_cons.mpr ⟨hl, within⟩)
  | within later failure lines before behind =>
    exact .within later failure (congrArg (l :: ·) lines) (List.forall_mem_cons.mpr ⟨hl, before⟩)
      behind

private theorem cutAt_number (e : IoError) (n : Nat) (front later : List (List UInt8)) :
    CutAt (n + front.length) e (number none n (front ++ later)) (number (some e) n front) := by
  induction front generalizing n with
  | nil => exact .within _ rfl rfl (by simp [number]) lt_of_mem_number
  | cons raw front ih =>
    have count : n + (raw :: front).length = n + 1 + front.length := by
      rw [List.length_cons]
      omega
    specialize ih (n + 1)
    rw [count, List.cons_append]
    cases hd : Text.decode? raw with
    | none =>
      simp only [number, hd]
      exact .ended rfl (by simp)
    | some s =>
      simp only [number, hd]
      split
      · exact ih.cons (Nat.le_add_right _ _)
      · exact ih

/-- The lines of a source that fails after `n` bytes. -/
theorem cutAt_ofSource {whole cut : Source} {n : Nat} {e : IoError} (reads : whole.failure = none)
    (fails : cut.failure = some e) (bytes : cut.bytes = whole.bytes.take n) :
    CutAt ((whole.bytes.take n).count 10) e (ofSource whole) (ofSource cut) := by
  obtain ⟨later, raws, count⟩ := Source.rawLines_take (by rw [fails]; rfl) bytes
  have cutAt := cutAt_number e 0 cut.rawLines later
  rwa [Nat.zero_add, count, ← raws, ← reads, ← fails] at cutAt

end Lines
end ScriptedInput

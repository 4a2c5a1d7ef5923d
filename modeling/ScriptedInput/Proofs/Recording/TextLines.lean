import ScriptedInput.Proofs.Script.Feed
import ScriptedInput.Proofs.Text.Utf8
import ScriptedInput.Script.Lines

/-! Texts written line by line are read line by line. -/
namespace ScriptedInput

def linesText (ls : List (List Char)) : List Char := ls.flatMap (· ++ ['\n'])

/-- Line feeds are no part of another character. -/
theorem notMem_bytesOf {cs : List Char} (h : '\n' ∉ cs) : 10 ∉ Text.bytesOf cs := by
  intro hb
  obtain ⟨c, hc, hb⟩ := List.mem_flatMap.mp hb
  rcases Text.toNat_of_mem_utf8EncodeChar hb with number | other
  · have feed : c = '\n' := Char.ext (UInt32.toNat_inj.mp number.symm)
    exact h (feed ▸ hc)
  · exact absurd other (by decide)

theorem notMem_of_bytesOf {cs : List Char} (h : 10 ∉ Text.bytesOf cs) : '\n' ∉ cs := fun feed =>
  h (List.mem_flatMap.mpr ⟨'\n', feed, by decide⟩)

/-- Lines have no line feed in them. -/
theorem notMem_splitLines (bytes : List UInt8) :
    (∀ line ∈ (splitLines bytes).1, 10 ∉ line) ∧ 10 ∉ (splitLines bytes).2 := by
  induction bytes with
  | nil => exact ⟨by simp [splitLines], by simp [splitLines]⟩
  | cons b bs ih =>
    obtain ⟨lines, left⟩ := ih
    rw [splitLines]
    rcases split : splitLines bs with ⟨_ | ⟨line, more⟩, behind⟩ <;> rw [split] at lines left <;>
      by_cases feed : b = 10 <;> simp_all [eq_comm]

theorem splitLines_append_feed {bs : List UInt8} (h : 10 ∉ bs) (rest : List UInt8) :
    splitLines (bs ++ 10 :: rest) = (bs :: (splitLines rest).1, (splitLines rest).2) := by
  induction bs with
  | nil => simp [splitLines]
  | cons b bs ih =>
    have hb : b ≠ 10 := fun hb => h (hb ▸ List.mem_cons_self)
    rw [List.cons_append, splitLines, ih (fun hbs => h (List.mem_cons_of_mem b hbs))]
    simp [hb]

private theorem splitLines_linesText {ls : List (List Char)} (h : ∀ l ∈ ls, '\n' ∉ l) :
    splitLines (Text.bytesOf (linesText ls)) = (ls.map Text.bytesOf, []) := by
  induction ls with
  | nil => rfl
  | cons l ls ih =>
    obtain ⟨hl, hls⟩ := List.forall_mem_cons.mp h
    have bytes : Text.bytesOf (linesText (l :: ls)) =
        Text.bytesOf l ++ 10 :: Text.bytesOf (linesText ls) := by
      rw [linesText, List.flatMap_cons, List.append_assoc, Text.bytesOf_append]
      rfl
    rw [bytes, splitLines_append_feed (notMem_bytesOf hl), ih hls]
    rfl

/-- A line that is read as it is written: one that counts, without line feeds in it or carriage
returns at its end. -/
structure PlainLine (cs : List Char) : Prop where
  whole : '\n' ∉ cs
  unreturned : cs.getLast? ≠ some '\r'
  counts : Lines.counts cs

namespace Lines

private theorem withoutReturns_eq {cs : List Char} (h : cs.getLast? ≠ some '\r') :
    withoutReturns cs = cs := by
  rw [withoutReturns]
  cases hr : cs.reverse with
  | nil => simpa using hr.symm
  | cons c rest =>
    have last : cs.getLast? = some c := by rw [← List.head?_reverse, hr, List.head?_cons]
    have kept : ¬ c = '\r' := fun hc => h (hc ▸ last)
    rw [List.dropWhile_cons_of_neg (by simpa using kept), ← hr, List.reverse_reverse]

private theorem number_plain {ls : List (List Char)} (h : ∀ l ∈ ls, PlainLine l) (n : Nat) :
    (number none n (ls.map Text.bytesOf)).failure = none ∧
      (number none n (ls.map Text.bytesOf)).lines.map (·.text) = ls := by
  induction ls generalizing n with
  | nil => exact ⟨rfl, rfl⟩
  | cons l ls ih =>
    obtain ⟨hl, hls⟩ := List.forall_mem_cons.mp h
    obtain ⟨failure, texts⟩ := ih hls (n + 1)
    simp only [List.map_cons, number, Text.decode?_bytesOf, String.toList_ofList,
      withoutReturns_eq hl.unreturned, hl.counts, if_true, texts]
    exact ⟨failure, trivial⟩

/-- The lines of a text are those it was written from. -/
theorem ofSource_linesText {ls : List (List Char)} (h : ∀ l ∈ ls, PlainLine l) (size : Nat) :
    let lines := ofSource (.buffered size (Text.encode (String.ofList (linesText ls))))
    lines.failure = none ∧ lines.lines.map (·.text) = ls := by
  have raw : (Source.buffered size (Text.encode (String.ofList (linesText ls)))).rawLines =
      ls.map Text.bytesOf := by
    rw [Source.rawLines, Source.bytes_buffered, Text.encode_ofList,
      splitLines_linesText (fun l hl => (h l hl).whole)]
    rfl
  rw [ofSource, raw]
  exact number_plain h 0

end Lines
end ScriptedInput

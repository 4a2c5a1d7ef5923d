import Mathlib.Data.List.TakeWhile
import ScriptedInput.Proofs.Recording.EventLine
import ScriptedInput.Proofs.Recording.Written

/-! Lines of words: the words are read back, and so are the numbers that they write. -/
namespace ScriptedInput

def IsWord (w : List Char) : Prop := w ≠ [] ∧ ∀ c ∈ w, Text.isBlank c = false ∧ c ≠ '#'

/-- What follows a word is set apart from it by a blank. -/
theorem words_word_append {w : List Char} (hne : w ≠ []) (hw : ∀ c ∈ w, Text.isBlank c = false)
    {rest : List Char} (hr : ∀ c ∈ rest.head?, Text.isBlank c) :
    words (w ++ rest) = w :: words rest := by
  induction w with
  | nil => exact absurd rfl hne
  | cons c w ih =>
    obtain ⟨hc, hcs⟩ := List.forall_mem_cons.mp hw
    cases w with
    | nil =>
      cases rest with
      | nil => simp [words, List.splitOnP_cons_eq_if_modifyHead, hc]
      | cons d rest => exact words_cons_cons_blank hc (hr d rfl) rest
    | cons d w =>
      obtain ⟨word, after, hd, hcd⟩ := words_cons_cons hc (hcs d List.mem_cons_self) (w ++ rest)
      have tail := ih (by simp) hcs
      rw [List.cons_append, hd, List.cons.injEq] at tail
      rw [List.cons_append, List.cons_append, hcd, tail.1, tail.2]

/-- The words of a line are those it is made of. -/
theorem words_spaced {ws : List (List Char)} (h : ∀ w ∈ ws, IsWord w) : words (spaced ws) = ws := by
  induction ws with
  | nil => rfl
  | cons w ws ih =>
    obtain ⟨hw, hws⟩ := List.forall_mem_cons.mp h
    have apart : ∀ c ∈ (spaced ws).head?, Text.isBlank c := by
      cases ws <;> simp [spaced, Text.isBlank]
    have first : spaced (w :: ws) = ' ' :: (w ++ spaced ws) := rfl
    rw [first, words_cons_blank (by decide),
      words_word_append hw.1 (fun c hc => (hw.2 c hc).1) apart, ih hws]

/-- The characters of a line of words are blanks and those of the words. -/
private theorem forall_mem_spaced {P : Char → Prop} (blank : P ' ') {ws : List (List Char)}
    (h : ∀ w ∈ ws, ∀ c ∈ w, P c) : ∀ c ∈ spaced ws, P c := by
  intro c hc
  obtain ⟨w, hw, hc⟩ := List.mem_flatMap.mp hc
  rcases List.mem_cons.mp hc with rfl | hc
  · exact blank
  · exact h w hw c hc

theorem beforeComment_spaced {ws : List (List Char)} (h : ∀ w ∈ ws, IsWord w) :
    beforeComment (spaced ws) = spaced ws := by
  refine List.takeWhile_eq_self_iff.mpr fun c hc => ?_
  exact decide_eq_true (forall_mem_spaced (by decide) (fun w hw c hc => ((h w hw).2 c hc).2) c hc)

theorem map_text_fields {ws : List (List Char)} (h : ∀ w ∈ ws, IsWord w) (column : Nat) :
    (lineFields column (beforeComment (spaced ws))).map (·.text) = ws := by
  rw [map_text_lineFields, beforeComment_spaced h, words_spaced h]

/-- A line of words is read as it is written: the only blanks in it are spaces. -/
theorem plainLine_tagged (tag : Char) (ht : Text.isBlank tag = false ∧ tag ≠ '#')
    {ws : List (List Char)} (h : ∀ w ∈ ws, IsWord w) : PlainLine (taggedLine tag ws) := by
  have chars : ∀ c ∈ taggedLine tag ws, c = ' ' ∨ Text.isBlank c = false := by
    refine List.forall_mem_cons.mpr ⟨.inr ht.1, List.forall_mem_cons.mpr ⟨.inr (by decide), ?_⟩⟩
    exact forall_mem_spaced (.inl rfl) fun w hw c hc => .inr ((h w hw).2 c hc).1
  have none_of {d : Char} (hd : ¬ (d = ' ' ∨ Text.isBlank d = false)) : d ∉ taggedLine tag ws :=
    fun hm => hd (chars d hm)
  refine ⟨none_of (by decide), fun last => none_of (by decide) (List.mem_of_getLast? last), ?_⟩
  simp [Lines.counts, taggedLine, ht.1, ht.2]

open Text.Numeral (written decimal exists_of_mem_written exists_of_mem_toDigits)

private theorem isWord_char_digitChar {base : Nat} (hb : base ≤ 16) {d : Nat} (hd : d < base) :
    Text.isBlank d.digitChar = false ∧ d.digitChar ≠ '#' := by
  have all : ∀ d < 16, Text.isBlank (Nat.digitChar d) = false ∧ Nat.digitChar d ≠ '#' := by decide
  exact all d (by omega)

theorem isWord_written {base : Nat} (h1 : 1 < base) (hb : base ≤ 16) (width n : Nat) :
    IsWord (written base width n) := by
  refine ⟨Text.Numeral.written_ne_nil width n, fun c hc => ?_⟩
  obtain ⟨d, hd, rfl⟩ := exists_of_mem_written h1 hc
  exact isWord_char_digitChar hb hd

private theorem isWord_toDigits (n : Nat) : IsWord (Nat.toDigits 10 n) := by
  refine ⟨Nat.toDigits_ne_nil, fun c hc => ?_⟩
  obtain ⟨d, hd, rfl⟩ := exists_of_mem_toDigits (by decide) hc
  exact isWord_char_digitChar (by decide) hd

private theorem isWord_cons {c : Char} (hc : Text.isBlank c = false ∧ c ≠ '#') {w : List Char}
    (h : IsWord w) : IsWord (c :: w) := ⟨by simp, List.forall_mem_cons.mpr ⟨hc, h.2⟩⟩

private theorem isWord_append {v w : List Char} (hv : IsWord v) (hw : IsWord w) : IsWord (v ++ w) :=
  ⟨by simp [hv.1], List.forall_mem_append.mpr ⟨hv.2, hw.2⟩⟩

theorem isWord_decimal (n : Int) : IsWord (decimal n) := by
  cases n with
  | ofNat n => exact isWord_toDigits n
  | negSucc n => exact isWord_cons (by decide) (isWord_toDigits (n + 1))

theorem isWord_timeWord (micros : Nat) : IsWord (timeWord micros) :=
  isWord_append (isWord_toDigits _)
    (isWord_cons (by decide) (isWord_written (by decide) (by decide) 6 _))

/-- A point sets the seconds of a time apart from their fraction. -/
theorem timestamp?_point {whole fraction : List Char} {seconds micros : Nat}
    (point : ∀ c ∈ whole, (c ≠ '.' : Bool))
    (hw : Text.Numeral.unsigned? 10 whole = some seconds)
    (hf : LineField.micros? fraction = some micros)
    (fits : seconds * 1000000 + micros < LineField.timestampBound) :
    LineField.timestamp? (whole ++ '.' :: fraction) = some (seconds * 1000000 + micros) := by
  have before : (whole ++ '.' :: fraction).takeWhile (· ≠ '.') = whole := by
    rw [List.takeWhile_append_of_pos point]
    simp
  have after : (whole ++ '.' :: fraction).dropWhile (· ≠ '.') = '.' :: fraction := by
    rw [List.dropWhile_append_of_pos point]
    simp
  rw [LineField.timestamp?, after]
  dsimp only
  rw [before, hf, hw, Option.bind_eq_bind, Option.bind_some, Option.bind_some, Option.filter_some,
    if_pos (decide_eq_true fits)]

/-- A time of 64 bits is read back from its seconds and microseconds. -/
theorem timestamp?_timeWord {micros : Nat} (h : micros < UInt64.size) :
    LineField.timestamp? (timeWord micros) = some micros := by
  have point : ∀ c ∈ Nat.toDigits 10 (micros / 1000000), (c ≠ '.' : Bool) := by
    intro c hc
    obtain ⟨d, -, rfl⟩ := exists_of_mem_toDigits (by decide) hc
    exact decide_eq_true (Nat.digitChar_ne '.' (by decide))
  have seconds := Text.Numeral.unsigned?_toDigits (b := 10) (by decide) (by decide)
    (micros / 1000000)
  have six : (written 10 6 (micros % 1000000)).length = 6 := by
    have digits : (Nat.toDigits 10 (micros % 1000000)).length ≤ 6 :=
      (Nat.length_toDigits_le_iff (by decide) (by decide)).mpr (by omega)
    rw [written, List.length_leftpad]
    omega
  have fraction : LineField.micros? (written 10 6 (micros % 1000000)) =
      some (micros % 1000000) := by
    simp [LineField.micros?, six, Text.Numeral.digits?_written]
  have sum : micros / 1000000 * 1000000 + micros % 1000000 = micros := Nat.div_add_mod' _ _
  have read := timestamp?_point point seconds fraction (by rwa [sum])
  rwa [sum] at read

end ScriptedInput

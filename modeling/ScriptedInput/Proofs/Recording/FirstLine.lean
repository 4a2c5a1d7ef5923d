import Mathlib.Data.List.TakeWhile
import ScriptedInput.Proofs.Json.OwnText
import ScriptedInput.Proofs.Recording.Feed
import ScriptedInput.Proofs.Text.Utf8

/-! What a recording cannot start with. A header line starts with its tag and a comment with a number
sign, so that a text which starts in another way, after any white space, is refused at its first line.
-/
namespace ScriptedInput

theorem Json.isSpace_cases {b : UInt8} (h : isSpace b) : b = 32 ∨ b = 9 ∨ b = 10 ∨ b = 13 := by
  simpa only [isSpace, Bool.or_eq_true, decide_eq_true_eq, or_assoc] using h

def jsonSpaces : List Char := [' ', '\t', '\n', '\r']

theorem mem_jsonSpaces {c : Char} {b : UInt8} (same : c.toNat = b.toNat) (h : Json.isSpace b) :
    c ∈ jsonSpaces := by
  have known {d : Char} (hd : c.toNat = d.toNat) : c = d := Char.ext (UInt32.toNat_inj.mp hd)
  rcases Json.isSpace_cases h with rfl | rfl | rfl | rfl
  · exact known (d := ' ') same ▸ by simp [jsonSpaces]
  · exact known (d := '\t') same ▸ by simp [jsonSpaces]
  · exact known (d := '\n') same ▸ by simp [jsonSpaces]
  · exact known (d := '\r') same ▸ by simp [jsonSpaces]

theorem toNat_lt_of_isSpace {b : UInt8} (h : Json.isSpace b) : b.toNat < 128 := by
  rcases Json.isSpace_cases h with rfl | rfl | rfl | rfl <;> decide

/-- The characters of a text that starts with white space and then a byte below 128. -/
theorem chars_of_bytesOf {spaces tail : List UInt8} (blank : BlankBytes spaces) {b : UInt8}
    (small : b.toNat < 128) {cs : List Char} (h : Text.bytesOf cs = spaces ++ b :: tail) :
    ∃ front c rest, cs = front ++ c :: rest ∧ c.toNat = b.toNat ∧ ∀ x ∈ front, x ∈ jsonSpaces := by
  induction spaces generalizing cs with
  | nil =>
    obtain ⟨c, rest, rfl, same, -⟩ := Text.cons_of_bytesOf h small
    exact ⟨[], c, rest, rfl, same, by simp⟩
  | cons s spaces ih =>
    obtain ⟨hs, later⟩ := List.forall_mem_cons.mp blank
    obtain ⟨x, xs, rfl, same, bytes⟩ := Text.cons_of_bytesOf h (toNat_lt_of_isSpace hs)
    obtain ⟨front, c, rest, rfl, number, all⟩ := ih later bytes
    exact ⟨x :: front, c, rest, rfl, number, List.forall_mem_cons.mpr ⟨mem_jsonSpaces same hs, all⟩⟩

theorem jsonSpaces_of_bytesOf {cs : List Char} (blank : BlankBytes (Text.bytesOf cs)) :
    ∀ c ∈ cs, c ∈ jsonSpaces := by
  induction cs with
  | nil => simp
  | cons c cs ih =>
    rw [Text.bytesOf_cons] at blank
    have byte : (String.utf8EncodeChar c).head? ≠ none := by
      rw [ne_eq, List.head?_eq_none_iff]
      have := c.utf8Size_pos
      exact List.ne_nil_of_length_pos (by simpa using this)
    obtain ⟨b, hb⟩ := Option.ne_none_iff_exists'.mp byte
    have member := List.mem_of_mem_head? (Option.mem_def.mpr hb)
    have space := blank b (List.mem_append_left _ member)
    have same : b.toNat = c.toNat := by
      have small := toNat_lt_of_isSpace space
      rcases Text.toNat_of_mem_utf8EncodeChar member with same | large
      · exact same
      · omega
    exact List.forall_mem_cons.mpr ⟨mem_jsonSpaces same.symm space,
      ih fun b hb => blank b (List.mem_append_right _ hb)⟩

namespace Lines

/-- Only carriage returns at the end are taken away. -/
theorem exists_withoutReturns (cs : List Char) :
    ∃ returns, cs = withoutReturns cs ++ returns ∧ ∀ c ∈ returns, c = '\r' := by
  refine ⟨(cs.reverse.takeWhile (· = '\r')).reverse, ?_, ?_⟩
  · rw [withoutReturns, ← List.reverse_append, List.takeWhile_append_dropWhile, List.reverse_reverse]
  · intro c hc
    have taken := List.mem_takeWhile_imp (List.mem_reverse.mp hc)
    simpa using taken

/-- White space alone makes no line. -/
theorem not_counts {cs : List Char} (h : ∀ c ∈ cs, c ∈ jsonSpaces) :
    counts (withoutReturns cs) = false := by
  obtain ⟨returns, whole, -⟩ := exists_withoutReturns cs
  have blank : ∀ c ∈ jsonSpaces, Text.isBlank c := by simp [jsonSpaces, Text.isBlank]
  have all : ∀ c ∈ withoutReturns cs, Text.isBlank c := fun c hc =>
    blank c (h c (whole ▸ List.mem_append_left _ hc))
  simp [counts, List.all_eq_true.mpr all]

/-- Blank lines do not count. -/
private theorem lines_blank (failure : Option IoError) (n : Nat) {raws : List (List UInt8)}
    (blank : ∀ raw ∈ raws, BlankBytes raw) : (number failure n raws).lines = [] := by
  induction raws generalizing n with
  | nil => rfl
  | cons raw raws ih =>
    obtain ⟨first, later⟩ := List.forall_mem_cons.mp blank
    cases hd : Text.decode? raw with
    | none => simp [number, hd]
    | some s =>
      have spaces : ∀ c ∈ s.toList, c ∈ jsonSpaces :=
        jsonSpaces_of_bytesOf (Text.bytesOf_of_decode? hd ▸ first)
      simp only [number, hd, not_counts spaces, Bool.false_eq_true, if_false]
      exact ih (n + 1) later

end Lines

def Header.tags : List Char := ['E', 'N', 'I', 'P', 'B', 'A', 'L', 'S']

/-- A line that starts with no tag is no header line. -/
private theorem Header.step_refused (h : Header) {line : Line} {c : Char} {rest : List Char}
    (text : line.text = c :: rest) (other : c ∉ tags) : ∃ f, h.step line = .error f := by
  simp only [tags, List.mem_cons, List.not_mem_nil, or_false, not_or] at other
  obtain ⟨e, n, i, p, b, a, l, s⟩ := other
  rw [step, text]
  split
  · next tag body ht =>
    obtain ⟨rfl, -⟩ := List.cons.inj ht
    simp only [e, n, i, p, b, a, l, s, or_self, if_false]
    split
    · exact ⟨_, rfl⟩
    · exact ⟨_, rfl⟩
  · exact ⟨_, rfl⟩

/-- A byte that starts neither a header line nor a comment, and is not blank. -/
structure Foreign (b : UInt8) : Prop where
  small : b.toNat < 128
  other : ∀ c : Char, c.toNat = b.toNat → c ≠ '#' ∧ c ∉ Header.tags ∧ Text.isBlank c = false

/-- Lines of white space, and then one in which a byte comes first that starts no line. -/
inductive Led (b : UInt8) : List (List UInt8) → Prop where
  | here {spaces tail : List UInt8} {more : List (List UInt8)} (blank : BlankBytes spaces) :
    Led b ((spaces ++ b :: tail) :: more)
  | later {raw : List UInt8} {raws : List (List UInt8)} (blank : BlankBytes raw) (led : Led b raws) :
    Led b (raw :: raws)

private theorem Led.prepend {b s : UInt8} (hs : Json.isSpace s) {raw : List UInt8}
    {raws : List (List UInt8)} (h : Led b (raw :: raws)) : Led b ((s :: raw) :: raws) := by
  cases h with
  | here blank => exact .here (List.forall_mem_cons.mpr ⟨hs, blank⟩)
  | later blank led => exact .later (List.forall_mem_cons.mpr ⟨hs, blank⟩) led

/-- The lines of a text that starts with white space and then another byte. -/
private theorem led_splitLines {b : UInt8} (feed : b ≠ 10) {spaces : List UInt8}
    (blank : BlankBytes spaces) (post : List UInt8) :
    Led b ((splitLines (spaces ++ b :: post)).1 ++ [(splitLines (spaces ++ b :: post)).2]) := by
  induction spaces with
  | nil =>
    have none : BlankBytes [] := by simp [BlankBytes]
    rw [List.nil_append, splitLines]
    rcases splitLines post with ⟨_ | ⟨line, lines⟩, left⟩
    · simp only [feed, if_false]
      exact .here none
    · simp only [feed, if_false]
      exact .here none
  | cons s spaces ih =>
    obtain ⟨space, blank⟩ := List.forall_mem_cons.mp blank
    specialize ih blank
    rw [List.cons_append, splitLines]
    rcases hs : splitLines (spaces ++ b :: post) with ⟨_ | ⟨line, lines⟩, left⟩ <;> rw [hs] at ih
    · by_cases hf : s = 10
      · simp only [hf, if_true]
        exact .later (by simp [BlankBytes]) ih
      · simp only [hf, if_false]
        exact ih.prepend space
    · by_cases hf : s = 10
      · simp only [hf, if_true]
        exact .later (by simp [BlankBytes]) ih
      · simp only [hf, if_false]
        exact ih.prepend space

/-- The lines of white space are white space. -/
private theorem BlankBytes.splitLines {bytes : List UInt8} (blank : BlankBytes bytes) :
    (∀ raw ∈ (splitLines bytes).1, BlankBytes raw) ∧ BlankBytes (splitLines bytes).2 := by
  induction bytes with
  | nil => simp [ScriptedInput.splitLines, BlankBytes]
  | cons b bs ih =>
    obtain ⟨space, blank⟩ := List.forall_mem_cons.mp blank
    obtain ⟨lines, left⟩ := ih blank
    rw [ScriptedInput.splitLines]
    rcases hs : ScriptedInput.splitLines bs with ⟨_ | ⟨line, more⟩, last⟩ <;> rw [hs] at lines left
    · by_cases feed : b = 10
      · simp only [feed, if_true]
        exact ⟨List.forall_mem_cons.mpr ⟨by simp [BlankBytes], lines⟩, left⟩
      · simp only [feed, if_false]
        exact ⟨lines, List.forall_mem_cons.mpr ⟨space, left⟩⟩
    · by_cases feed : b = 10
      · simp only [feed, if_true]
        exact ⟨List.forall_mem_cons.mpr ⟨by simp [BlankBytes], lines⟩, left⟩
      · simp only [feed, if_false]
        obtain ⟨first, later⟩ := List.forall_mem_cons.mp lines
        exact ⟨List.forall_mem_cons.mpr ⟨List.forall_mem_cons.mpr ⟨space, first⟩, later⟩, left⟩

/-- The lines of a source that has nothing but white space are blank. -/
theorem Source.blank_rawLines {s : Source} (blank : BlankBytes s.bytes) :
    ∀ raw ∈ s.rawLines, BlankBytes raw := by
  obtain ⟨lines, left⟩ := blank.splitLines
  rw [rawLines]
  dsimp only
  split
  · exact lines
  · intro raw hr
    rcases List.mem_append.mp hr with hr | hr
    · exact lines raw hr
    · exact List.mem_singleton.mp hr ▸ left

/-- The line that leads may be the last one, which is then the only one that is not blank. -/
private theorem Led.of_append {b : UInt8} {raws : List (List UInt8)} {last : List UInt8}
    (h : Led b (raws ++ [last])) : Led b raws ∨ ∀ raw ∈ raws, BlankBytes raw := by
  induction raws with
  | nil => exact .inr (by simp)
  | cons raw raws ih =>
    cases h with
    | here blank => exact .inl (.here blank)
    | later blank led =>
      rcases ih led with led | all
      · exact .inl (.later blank led)
      · exact .inr (List.forall_mem_cons.mpr ⟨blank, all⟩)

namespace Recording

def Refuses (failure : Option IoError) (raws : List (List UInt8)) : Prop :=
  ∀ n, ∃ e, ({ lines := Lines.number failure n raws } : Recording).next.1 = .failed e

private theorem refuses_of_readHeader {failure : Option IoError} {raws : List (List UInt8)}
    (h : ∀ n, ∃ e, readHeader (Lines.number failure n raws).failure {}
      (Lines.number failure n raws).lines = .error e) : Refuses failure raws := by
  intro n
  obtain ⟨e, refused⟩ := h n
  exact ⟨e, congrArg Prod.fst (next_headless refused)⟩

theorem refuses_undecodable {failure : Option IoError} {raw : List UInt8} {raws : List (List UInt8)}
    (h : Text.decode? raw = none) : Refuses failure (raw :: raws) := by
  apply refuses_of_readHeader
  intro n
  exact ⟨.io .notUtf8, by simp only [Lines.number, h, readHeader]⟩

private theorem refuses_cons_blank {failure : Option IoError} {raw : List UInt8}
    {raws : List (List UInt8)}
    (blank : BlankBytes raw) (h : Refuses failure raws) : Refuses failure (raw :: raws) := by
  cases hd : Text.decode? raw with
  | none => exact refuses_undecodable hd
  | some s =>
    intro n
    have spaces : ∀ c ∈ s.toList, c ∈ jsonSpaces :=
      jsonSpaces_of_bytesOf (Text.bytesOf_of_decode? hd ▸ blank)
    simp only [Lines.number, hd, Lines.not_counts spaces, Bool.false_eq_true, if_false]
    exact h (n + 1)

/-- Blank lines are no header. -/
theorem refuses_blank {failure : Option IoError} {raws : List (List UInt8)}
    (blank : ∀ raw ∈ raws, BlankBytes raw) : Refuses failure raws := by
  apply refuses_of_readHeader
  intro n
  rw [Lines.lines_blank failure n blank]
  cases (Lines.number failure n raws).failure with
  | none => exact ⟨_, rfl⟩
  | some e => exact ⟨_, rfl⟩

/-- A first line that is not blank is refused unless it starts, without white space, with a tag or a
number sign. -/
theorem refuses_line {failure : Option IoError} {raw : List UInt8} {raws : List (List UInt8)}
    {s : String} (hd : Text.decode? raw = some s) {front rest : List Char} {c : Char}
    (chars : s.toList = front ++ c :: rest) (spaces : ∀ x ∈ front, x ∈ jsonSpaces)
    (shown : Text.isBlank c = false) (start : front = [] → c ≠ '#' ∧ c ∉ Header.tags) :
    Refuses failure (raw :: raws) := by
  apply refuses_of_readHeader
  intro n
  obtain ⟨returns, whole, only⟩ := Lines.exists_withoutReturns s.toList
  -- The character stays in the line, so that this is not blank and starts as the text does.
  have kept : c ∈ Lines.withoutReturns s.toList := by
    have member : c ∈ Lines.withoutReturns s.toList ++ returns := by
      rw [← whole, chars]
      exact List.mem_append_right _ List.mem_cons_self
    rcases List.mem_append.mp member with kept | taken
    · exact kept
    · rw [only c taken] at shown
      cases shown
  obtain ⟨x, line, hl⟩ := List.exists_cons_of_ne_nil (List.ne_nil_of_mem kept)
  have first : x ≠ '#' ∧ x ∉ Header.tags := by
    rw [hl, chars] at whole
    cases front with
    | nil => exact (List.cons.inj whole).1 ▸ start rfl
    | cons y front =>
      have spaced : ∀ y ∈ jsonSpaces, y ≠ '#' ∧ y ∉ Header.tags := by simp [jsonSpaces, Header.tags]
      exact (List.cons.inj whole).1 ▸ spaced y (spaces y List.mem_cons_self)
  have counted : Lines.counts (Lines.withoutReturns s.toList) := by
    have notBlank : (Lines.withoutReturns s.toList).all Text.isBlank = false := by
      rw [List.all_eq_false]
      exact ⟨c, kept, by simp [shown]⟩
    rw [Lines.counts, notBlank, hl]
    simp [first.1]
  obtain ⟨f, refused⟩ :
      ∃ f, Header.step {} ⟨n + 1, Lines.withoutReturns s.toList⟩ = .error f :=
    Header.step_refused {} hl first.2
  exact ⟨fault ⟨n + 1, Lines.withoutReturns s.toList⟩ f, by
    simp only [Lines.number, hd, counted, if_true, readHeader, refused]⟩

/-- A line that starts with a byte which starts no line is refused. -/
private theorem refuses_led {failure : Option IoError} {b : UInt8} (foreign : Foreign b)
    {raws : List (List UInt8)} (led : Led b raws) : Refuses failure raws := by
  induction led with
  | later blank _ ih => exact refuses_cons_blank blank ih
  | @here spaces tail more blank =>
    cases hd : Text.decode? (spaces ++ b :: tail) with
    | none => exact refuses_undecodable hd
    | some s =>
      obtain ⟨front, c, rest, chars, same, all⟩ :=
        chars_of_bytesOf blank foreign.small (Text.bytesOf_of_decode? hd)
      obtain ⟨noComment, noTag, shown⟩ := foreign.other c same
      exact refuses_line hd chars all shown fun _ => ⟨noComment, noTag⟩

/-- A script gives no recording if a byte comes first that starts no line. -/
theorem refuses_foreign {s : Source} {spaces post : List UInt8} {b : UInt8}
    (bytes : s.bytes = spaces ++ b :: post) (blank : BlankBytes spaces) (foreign : Foreign b) :
    Refuses s.failure s.rawLines := by
  have feed : b ≠ 10 := by
    rintro rfl
    exact absurd (foreign.other '\n' rfl).2.2 (by decide)
  have led := led_splitLines feed blank post
  rw [← bytes] at led
  rw [Source.rawLines]
  dsimp only
  split
  · rcases led.of_append with led | blank
    · exact refuses_led foreign led
    · exact refuses_blank blank
  · exact refuses_led foreign led

end Recording
end ScriptedInput

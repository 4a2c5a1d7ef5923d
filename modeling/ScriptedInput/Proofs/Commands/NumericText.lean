import ScriptedInput.Proofs.Commands.Spelling

/-! The texts that mean a number: those with words for it, and hexadecimal numerals that have a sign
behind their marker. All others are refused as unknown names. -/
namespace ScriptedInput
namespace Scalar

open Text.Numeral

/-- A hexadecimal numeral with a sign between its marker and its digits. -/
inductive InnerSigned : Int → List Char → Prop where
  | plus {x : Char} {digits : List Char} {width n : Nat} (mark : x = 'x' ∨ x = 'X')
    (lower : digits.map Char.toLower = written 16 width n) : InnerSigned n ('0' :: x :: '+' :: digits)
  | minus {x : Char} {digits : List Char} {width n : Nat} (mark : x = 'x' ∨ x = 'X')
    (lower : digits.map Char.toLower = written 16 width n) :
    InnerSigned (-n) ('0' :: x :: '-' :: digits)

/-- What texts denote: words a number of at most 63 bits and its sign, numerals with an inner sign one of
64 bits, and a minus sign in front of such a numeral turns it round. -/
inductive Denotes : Int → List Char → Prop where
  | words {n : Int} {cs : List Char} (wording : Wording n cs) (bound : n.natAbs < 2 ^ 63) : Denotes n cs
  | inner {n : Int} {cs : List Char} (numeral : InnerSigned n cs) (bound : inWord n) : Denotes n cs
  | outer {n : Int} {cs : List Char} (numeral : InnerSigned n cs) (bound : inWord n) :
    Denotes (-n) ('-' :: cs)

/-- The least number of 64 bits in a numeral with an inner sign, behind a minus sign. Turned round it
would be no number of 64 bits. -/
def Overturned (cs : List Char) : Prop :=
  ∃ numeral, cs = '-' :: numeral ∧ InnerSigned (-0x8000000000000000) numeral

theorem inWord_iff {n : Int} : inWord n ↔ -0x8000000000000000 ≤ n ∧ n < 0x8000000000000000 := by
  rw [inWord, Bool.and_eq_true, decide_eq_true_eq, decide_eq_true_eq]

/-- What follows the marker is digits, or digits after a sign. -/
private theorem signed?_marked {x : Char} (mark : x = 'x' ∨ x = 'X') {hex : List Char} {k : Int}
    (h : signed? 16 hex = some k) :
    (∃ n : Nat, k = n ∧ Magnitude n ('0' :: x :: hex)) ∨ InnerSigned k ('0' :: x :: hex) := by
  cases (signed?_eq_some_iff (by decide) (by decide)).mp h with
  | bare digits => exact .inl ⟨_, rfl, .hexadecimal mark digits⟩
  | plus digits => exact .inr (.plus mark digits)
  | minus digits => exact .inr (.minus mark digits)

theorem magnitude?_eq_some_iff {cs : List Char} {k : Int} :
    magnitude? cs = some k ↔ (∃ n : Nat, k = n ∧ Magnitude n cs) ∨ InnerSigned k cs := by
  constructor
  · intro h
    unfold magnitude? at h
    split at h
    · exact signed?_marked (.inl rfl) h
    · exact signed?_marked (.inr rfl) h
    · obtain ⟨n, digits, rfl⟩ := Option.map_eq_some_iff.mp h
      refine .inl ⟨n, rfl, ?_⟩
      rw [written_ten_of_digits? digits]
      exact .decimal _ n
  · have value {digits : List Char} {width n : Nat}
        (lower : digits.map Char.toLower = written 16 width n) : Digits 16 n digits := by
      rw [← digits?_eq_some_iff (by decide) (by decide), ← digits?_map_toLower, lower]
      exact digits?_written (by decide) (by decide) width n
    have read {digits : List Char} {k : Int} (signed : Signed 16 k digits) :
        signed? 16 digits = some k :=
      (signed?_eq_some_iff (by decide) (by decide)).mpr signed
    rintro (⟨n, rfl, magnitude⟩ | inner)
    · exact magnitude.magnitude?_eq
    · cases inner with
      | plus mark lower => rcases mark with rfl | rfl <;> exact read (.plus (value lower))
      | minus mark lower => rcases mark with rfl | rfl <;> exact read (.minus (value lower))

theorem numeral?_negated (digits : List Char) :
    numeral? ('-' :: digits) = ((magnitude? digits).filter inWord).map turned := rfl

theorem numeral?_unsigned {cs : List Char} (h : cs.head? ≠ some '-') :
    numeral? cs = (magnitude? cs).filter inWord := by
  rw [numeral?_eq]
  split
  · exact absurd rfl h
  · rfl

/-- Numerals denote the number that they are read as, as long as it does not wrap around. -/
private theorem denotes_of_numeral? {cs : List Char} {n : Int} (h : numeral? cs = some n)
    (fits : ¬ Overturned cs) : Denotes n cs := by
  have natural {n : Nat} (word : inWord n) : (n : Int).natAbs < 2 ^ 63 := by
    have := inWord_iff.mp word
    omega
  by_cases minus : cs.head? = some '-'
  · obtain ⟨digits, rfl⟩ : ∃ digits, cs = '-' :: digits := by
      cases cs with
      | nil => cases minus
      | cons c cs => exact ⟨cs, congrArg (· :: cs) (Option.some.inj minus)⟩
    rw [numeral?_negated] at h
    obtain ⟨k, read, rfl⟩ := Option.map_eq_some_iff.mp h
    obtain ⟨read, word⟩ := Option.filter_eq_some_iff.mp read
    rcases magnitude?_eq_some_iff.mp read with ⟨n, rfl, magnitude⟩ | inner
    · rw [turned_of_ne (by omega)]
      exact .words (.negative magnitude) (by rw [Int.natAbs_neg]; exact natural word)
    · rw [turned_of_ne (by rintro rfl; exact fits ⟨digits, rfl, inner⟩)]
      exact .outer inner word
  · rw [numeral?_unsigned minus] at h
    obtain ⟨read, word⟩ := Option.filter_eq_some_iff.mp h
    rcases magnitude?_eq_some_iff.mp read with ⟨n, rfl, magnitude⟩ | inner
    · exact .words (.plain magnitude) (natural word)
    · exact .inner inner word

/-- The values of symbolic names are small. -/
private theorem known_values : ∀ e ∈ CodeNames.all, e.2 < 2 ^ 63 := by decide +kernel

private theorem denotes_of_lookup? {name : String} {n : Nat} (h : CodeNames.lookup? name = some n) :
    Denotes n name.toList := by
  obtain ⟨before, after, all, -⟩ := List.lookup_eq_some_iff.mp h
  have small := known_values (name, n) (by rw [all]; simp)
  exact .words (.named h) (by simpa using small)

/-- What a text denotes, a numeral reads, or else a symbolic name stands for. -/
private theorem read_of_denotes {cs : List Char} {n : Int} (h : Denotes n cs) (fits : ¬ Overturned cs) :
    numeral? cs = some n ∨
      numeral? cs = none ∧ (CodeNames.lookup? (String.ofList cs)).map Int.ofNat = some n := by
  cases h with
  | words wording bound =>
    cases wording with
    | plain magnitude => exact .inl (magnitude.numeral?_plain (by simpa using bound))
    | negative magnitude =>
      exact .inl (magnitude.numeral?_negative (by simpa [Int.natAbs_neg] using bound))
    | named known =>
      refine .inr ⟨(of_lookup? known).1, ?_⟩
      rw [String.ofList_toList, known]
      rfl
  | inner numeral word =>
    have unsigned : cs.head? ≠ some '-' := by cases numeral <;> exact nofun
    rw [numeral?_unsigned unsigned, magnitude?_eq_some_iff.mpr (.inr numeral), Option.filter_some,
      if_pos word]
    exact .inl rfl
  | @outer k cs numeral word =>
    have least : k ≠ -0x8000000000000000 := by
      rintro rfl
      exact fits ⟨cs, rfl, numeral⟩
    rw [numeral?_negated, magnitude?_eq_some_iff.mpr (.inr numeral), Option.filter_some, if_pos word,
      Option.map_some, turned_of_ne least]
    exact .inl rfl

end Scalar

open Scalar (Denotes InnerSigned Overturned Wording Magnitude)

/-- A text means the number that it denotes, whatever blanks are around it. If it denotes none, it is
refused as an unknown name. -/
theorem numeric_text_denotes {s : String} (fits : ¬ Overturned (Text.trim s.toList)) (place : Place) :
    (∀ n, (Scalar.text s).resolve place = .ok n ↔ Denotes n (Text.trim s.toList)) ∧
    ((∀ n, ¬ Denotes n (Text.trim s.toList)) →
      (Scalar.text s).resolve place =
        .error (.unknownName (String.ofList (Text.trim s.toList)) place)) := by
  have sound (n : Int) (h : (Scalar.text s).resolve place = .ok n) :
      Denotes n (Text.trim s.toList) := by
    rw [Scalar.resolve] at h
    split at h
    · next numeral => exact Except.ok.inj h ▸ Scalar.denotes_of_numeral? numeral fits
    · split at h
      · next name =>
        obtain rfl := Except.ok.inj h
        have denotes := Scalar.denotes_of_lookup? name
        rwa [String.toList_ofList] at denotes
      · cases h
  refine ⟨fun n => ⟨sound n, fun h => ?_⟩, fun none => ?_⟩
  · rcases Scalar.read_of_denotes h fits with numeral | ⟨numeral, name⟩
    · rw [Scalar.resolve, numeral]
    · obtain ⟨v, known, rfl⟩ := Option.map_eq_some_iff.mp name
      rw [Scalar.resolve, numeral, known]
      rfl
  · cases resolved : (Scalar.text s).resolve place with
    | ok n => exact absurd (sound n resolved) (none n)
    | error f =>
      rw [Scalar.resolve] at resolved
      split at resolved
      · cases resolved
      · split at resolved
        · cases resolved
        · exact resolved.symm

def twoSigns : String := " -0x-10\n"

private theorem trim_twoSigns : Text.trim twoSigns.toList = "-0x-10".toList := by decide

theorem twoSigns_denotes : ¬ Overturned (Text.trim twoSigns.toList) ∧
    Denotes 16 (Text.trim twoSigns.toList) ∧
    (Scalar.text twoSigns).resolve (.field .id) = .ok 16 := by
  have fits : ¬ Overturned (Text.trim twoSigns.toList) := by
    rintro ⟨numeral, text, inner⟩
    rw [trim_twoSigns] at text
    obtain rfl : "0x-10".toList = numeral := (List.cons.inj text).2
    have value := Scalar.magnitude?_eq_some_iff.mpr (.inr inner)
    exact absurd value (by decide)
  have denotes : Denotes 16 (Text.trim twoSigns.toList) := by
    rw [trim_twoSigns]
    exact .outer (@InnerSigned.minus 'x' ['1', '0'] 0 16 (.inl rfl) rfl) (by decide)
  exact ⟨fits, denotes, ((numeric_text_denotes fits (.field .id)).1 16).mpr denotes⟩

/-- A numeral with an inner sign is no words for a number, and yet it means one. -/
theorem inner_sign_accepted : (Scalar.text "0x-10").resolve (.field .id) = .ok (-16) ∧
    ¬ ∃ n, Wording n (Text.trim "0x-10".toList) := by
  have trimmed : Text.trim "0x-10".toList = "0x-10".toList := by decide
  refine ⟨by rfl, ?_⟩
  rintro ⟨n, wording⟩
  rw [trimmed] at wording
  generalize text : "0x-10".toList = cs at wording
  cases wording with
  | plain magnitude =>
    have value := magnitude.magnitude?_eq
    rw [← text] at value
    cases value
  | negative => cases text
  | named known =>
    have underscore := (Scalar.of_lookup? known).2.2
    rw [← text] at underscore
    exact absurd underscore (by decide)

end ScriptedInput

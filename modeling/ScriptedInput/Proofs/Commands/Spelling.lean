import Mathlib.Data.List.TakeWhile
import ScriptedInput.Proofs.Text.Numeral
import ScriptedInput.Proofs.Text.Utf8
import ScriptedInput.Script.CommandReader

/-! The spellings of a number in a command: a whole number, or a text with a decimal or hexadecimal
numeral or a symbolic name, and blanks around it. Whichever is written, the same number is read. -/
namespace ScriptedInput

open Json (Value)
open Text.Numeral

/-- Blanks around a text that has none do not count. -/
private theorem Text.trim_eq {before cs after : List Char} (hb : ∀ c ∈ before, isBlank c)
    (hcs : ∀ c ∈ cs, isBlank c = false) (ha : ∀ c ∈ after, isBlank c) :
    trim (before ++ cs ++ after) = cs := by
  have back : (cs ++ after).reverse.dropWhile isBlank = cs.reverse := by
    rw [List.reverse_append, List.dropWhile_append_of_pos (by simpa using ha),
      List.dropWhile_eq_self_iff]
    intro some
    have mem : cs.reverse[0] ∈ cs := List.mem_reverse.mp (List.getElem_mem some)
    rw [hcs _ mem]
    exact Bool.false_ne_true
  rw [trim, trimStart, List.append_assoc, List.dropWhile_append_of_pos hb]
  cases cs with
  | nil =>
    rw [List.nil_append, List.dropWhile_eq_nil_iff.mpr ha]
    rfl
  | cons c cs =>
    rw [List.cons_append, List.dropWhile_cons_of_neg (by simp [hcs c]), ← List.cons_append, trimEnd,
      back, List.reverse_reverse]

/-- Blanks are no letters. -/
private theorem Text.toLower_of_isBlank {c : Char} (h : isBlank c) : c.toLower = c := by
  refine dif_neg ?_
  rintro ⟨low, high⟩
  have low : 0x41 ≤ c.toNat := low
  have high : c.toNat ≤ 0x5a := high
  simp only [isBlank, Bool.or_eq_true, Bool.and_eq_true, decide_eq_true_eq, beq_iff_eq] at h
  omega

namespace Scalar

/-- The digits of a number: decimal ones, or hexadecimal ones after `0x`, the letters of either case.
Zeros may stand in front. -/
inductive Magnitude : Nat → List Char → Prop where
  | decimal (width n : Nat) : Magnitude n (written 10 width n)
  | hexadecimal {x : Char} {digits : List Char} {width n : Nat} (mark : x = 'x' ∨ x = 'X')
      (lower : digits.map Char.toLower = written 16 width n) : Magnitude n ('0' :: x :: digits)

inductive Wording : Int → List Char → Prop where
  | plain {n : Nat} {cs : List Char} (h : Magnitude n cs) : Wording n cs
  | negative {n : Nat} {cs : List Char} (h : Magnitude n cs) : Wording (-n) ('-' :: cs)
  | named {name : String} {n : Nat} (h : CodeNames.lookup? name = some n) : Wording n name.toList

/-- The values that spell a number: itself, or a text with words for it. -/
inductive Spells (n : Int) : Value → Prop where
  | number : Spells n (.int n)
  | text {s : String} {before cs after : List Char} (parts : s.toList = before ++ cs ++ after)
      (blank_before : ∀ c ∈ before, Text.isBlank c) (wording : Wording n cs)
      (blank_after : ∀ c ∈ after, Text.isBlank c) : Spells n (.string s)

theorem numeral?_eq (cs : List Char) : numeral? cs =
    match cs with
    | '-' :: digits => ((magnitude? digits).filter inWord).map turned
    | digits => (magnitude? digits).filter inWord := rfl

theorem turned_of_ne {n : Int} (h : n ≠ -0x8000000000000000) : turned n = -n := if_neg h

private theorem inWord_of_natAbs {n : Int} (h : n.natAbs < 2 ^ 63) : inWord n = true := by
  rw [inWord, Bool.and_eq_true, decide_eq_true_eq, decide_eq_true_eq]
  omega

namespace Magnitude
variable {n : Nat} {cs : List Char}

private theorem signed?_hexadecimal {width : Nat} (lower : cs.map Char.toLower = written 16 width n) :
    signed? 16 cs = some (n : Int) := by
  have mem {c : Char} (hc : c ∈ cs) : c.toLower ∈ written 16 width n :=
    lower ▸ List.mem_map_of_mem hc
  have plus : '+' ∉ cs := fun hc =>
    notMem_written (by decide) (fun _ => Nat.digitChar_ne '+' (by decide)) width n (mem hc)
  have minus : '-' ∉ cs := fun hc =>
    notMem_written (by decide) (fun _ => Nat.digitChar_ne '-' (by decide)) width n (mem hc)
  have value : digits? 16 cs = some n := by
    rw [← digits?_map_toLower, lower]
    exact digits?_written (by decide) (by decide) width n
  unfold signed?
  split
  · exact absurd List.mem_cons_self plus
  · exact absurd List.mem_cons_self minus
  · rw [value]
    rfl

theorem magnitude?_eq (h : Magnitude n cs) : magnitude? cs = some (n : Int) := by
  cases h with
  | decimal width =>
    have small : 'x' ∉ written 10 width n :=
      notMem_written (by decide) (fun _ => Nat.digitChar_ne 'x' (by decide)) width n
    have capital : 'X' ∉ written 10 width n :=
      notMem_written (by decide) (fun _ => Nat.digitChar_ne 'X' (by decide)) width n
    unfold magnitude?
    split
    · next h => simp [h] at small
    · next h => simp [h] at capital
    · rw [digits?_written (by decide) (by decide) width n]
      rfl
  | hexadecimal mark lower =>
    rcases mark with rfl | rfl <;> exact signed?_hexadecimal lower

private theorem head?_ne_minus (h : Magnitude n cs) : cs.head? ≠ some '-' := by
  cases h with
  | decimal width =>
    have minus : '-' ∉ written 10 width n :=
      notMem_written (by decide) (fun _ => Nat.digitChar_ne '-' (by decide)) width n
    exact fun first => minus (List.mem_of_head? first)
  | hexadecimal => exact nofun

private theorem not_blank (h : Magnitude n cs) : ∀ c ∈ cs, Text.isBlank c = false := by
  have digits : ∀ d < 16, Text.isBlank d.digitChar = false := by decide
  cases h with
  | decimal width =>
    intro c hc
    obtain ⟨d, small, rfl⟩ := exists_of_mem_written (by decide) hc
    exact digits d (by omega)
  | @hexadecimal x cs width _ mark lower =>
    have marked : Text.isBlank x = false := by rcases mark with rfl | rfl <;> rfl
    refine List.forall_mem_cons.mpr ⟨rfl, List.forall_mem_cons.mpr ⟨marked, fun c hc => ?_⟩⟩
    have mem : c.toLower ∈ written 16 width n := lower ▸ List.mem_map_of_mem hc
    obtain ⟨d, small, hd⟩ := exists_of_mem_written (by decide) mem
    by_contra blank
    rw [Bool.not_eq_false] at blank
    rw [Text.toLower_of_isBlank blank] at hd
    rw [hd, digits d small] at blank
    exact Bool.false_ne_true blank

theorem numeral?_plain (h : Magnitude n cs) (bound : n < 2 ^ 63) : numeral? cs = some (n : Int) := by
  rw [numeral?_eq]
  split
  · exact absurd rfl h.head?_ne_minus
  · rw [h.magnitude?_eq, Option.filter_some, if_pos (inWord_of_natAbs (by simpa using bound))]

theorem numeral?_negative (h : Magnitude n cs) (bound : n < 2 ^ 63) :
    numeral? ('-' :: cs) = some (-n : Int) := by
  have positive : inWord n = true := inWord_of_natAbs (by simpa using bound)
  have unfolded : numeral? ('-' :: cs) = ((magnitude? cs).filter inWord).map turned := rfl
  rw [unfolded, h.magnitude?_eq, Option.filter_some, if_pos positive, Option.map_some,
    turned_of_ne (by omega)]

end Magnitude

private theorem numeral?_eq_none {c : Char} {cs : List Char} (sign : c ≠ '-')
    (digit : digit? 10 c = none) : numeral? (c :: cs) = none := by
  have zero : c ≠ '0' := by
    rintro rfl
    cases digit
  rw [numeral?_eq]
  split
  · next h => exact absurd (List.cons.inj h).1 sign
  · unfold magnitude?
    split
    · next h => exact absurd (List.cons.inj h).1 zero
    · next h => exact absurd (List.cons.inj h).1 zero
    · simp [digits?, digit]

/-- Symbolic names are no numerals, and have underscores but no blanks in them. -/
private theorem known_names : ∀ e ∈ CodeNames.all,
    let bytes := e.1.toByteArray.data.toList
    let cs := bytes.map fun b => Char.ofNat b.toNat
    bytes.all (· < 128) ∧ numeral? cs = none ∧ cs.all (!Text.isBlank ·) ∧ '_' ∈ cs := by
  -- The characters are taken from the bytes, since evaluating `String.toList` takes longer.
  decide +kernel

theorem of_lookup? {name : String} {n : Nat} (h : CodeNames.lookup? name = some n) :
    numeral? name.toList = none ∧ (∀ c ∈ name.toList, Text.isBlank c = false) ∧
      '_' ∈ name.toList := by
  obtain ⟨before, after, all, -⟩ := List.lookup_eq_some_iff.mp h
  have member : (name, n) ∈ CodeNames.all := by
    rw [all]
    simp
  obtain ⟨small, numeral, blank, underscore⟩ := known_names _ member
  have small : ∀ b ∈ name.toByteArray.data.toList, b < 128 := fun b hb =>
    of_decide_eq_true (List.all_eq_true.mp small b hb)
  rw [← Text.eq_map_of_bytesOf (Text.bytesOf_toList name) small] at numeral blank underscore
  exact ⟨numeral, by simpa using blank, underscore⟩

def Means (s : Scalar) (n : Int) : Prop := ∀ place, s.resolve place = .ok n

private theorem Wording.not_blank {n : Int} {cs : List Char} (h : Wording n cs) :
    ∀ c ∈ cs, Text.isBlank c = false := by
  cases h with
  | plain h => exact h.not_blank
  | negative h => exact List.forall_mem_cons.mpr ⟨rfl, h.not_blank⟩
  | named h => exact (of_lookup? h).2.1

/-- What spells a number is read as that number. -/
theorem Spells.means {n : Int} {v : Value} (h : Spells n v) (bound : n.natAbs < 2 ^ 63) :
    ∃ s, ofValue v = .ok s ∧ s.Means n := by
  cases h with
  | number => exact ⟨.int n, if_pos (inWord_of_natAbs bound), fun _ => rfl⟩
  | text parts blank_before wording blank_after =>
    refine ⟨_, rfl, fun place => ?_⟩
    rw [resolve, parts, Text.trim_eq blank_before wording.not_blank blank_after]
    cases wording with
    | plain h => rw [h.numeral?_plain bound]
    | negative h => rw [h.numeral?_negative (by rwa [Int.natAbs_neg] at bound)]
    | named h => rw [(of_lookup? h).1, String.ofList_toList, h]

/-- The words for buses are neither numerals nor symbolic names. -/
theorem no_number_of_word {cs : List Char}
    (h : cs.map Char.toLower ∈ ["usb", "bluetooth", "virtual"].map String.toList) :
    numeral? cs = none ∧ CodeNames.lookup? (String.ofList cs) = none := by
  constructor
  · cases cs with
    | nil => rfl
    | cons c cs =>
      have first : c.toLower ∈ ['u', 'b', 'v'] := by
        have heads := List.mem_map_of_mem (f := List.head?) h
        simpa using heads
      have letter {d : Char} (hd : d ∈ ['u', 'b', 'v']) : d ≠ '-' ∧ digit? 10 d = none := by
        simp only [List.mem_cons, List.not_mem_nil, or_false] at hd
        rcases hd with rfl | rfl | rfl <;> decide
      obtain ⟨sign, digit⟩ := letter first
      rw [digit?_toLower] at digit
      refine numeral?_eq_none ?_ digit
      rintro rfl
      exact sign rfl
  · rw [Option.eq_none_iff_forall_ne_some]
    intro n known
    have underscore := (of_lookup? known).2.2
    rw [String.toList_ofList] at underscore
    have lower : '_' ∈ cs.map Char.toLower := List.mem_map_of_mem (f := Char.toLower) underscore
    have words : ["usb", "bluetooth", "virtual"].all fun w => '_' ∉ w.toList := by decide
    obtain ⟨w, hw, same⟩ := List.mem_map.mp h
    rw [← same] at lower
    exact of_decide_eq_true (List.all_eq_true.mp words w hw) lower

/-- A bus that is a number is that of its number. -/
theorem Means.bus_eq {s : Scalar} {n : Int} (h : s.Means n) :
    s.bus = (s.uint16 (.field .bus)).map Bus.ofRaw := by
  cases s with
  | int => rfl
  | text written =>
    have other (word : String) (hw : word ∈ ["usb", "bluetooth", "virtual"]) :
        String.ofList ((Text.trim written.toList).map Char.toLower) ≠ word := by
      rintro rfl
      have listed := List.mem_map_of_mem (f := String.toList) hw
      rw [String.toList_ofList] at listed
      obtain ⟨numeral, name⟩ := no_number_of_word listed
      have read := h (.field .bus)
      rw [resolve, numeral, name] at read
      cases read
    have usb := other "usb" (by simp)
    have bluetooth := other "bluetooth" (by simp)
    have virtual := other "virtual" (by simp)
    simp only [bus, usb, bluetooth, virtual, if_false]

end Scalar
end ScriptedInput

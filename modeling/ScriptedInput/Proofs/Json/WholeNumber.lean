import ScriptedInput.Proofs.Json.OwnText
import ScriptedInput.Proofs.Json.ReadBack

/-! Whole numbers of any size in a text. Such a number is read exactly if it fits 64 bits and is not a
negative zero, and otherwise, if at all, as a number that is not kept exactly. -/
namespace ScriptedInput.Json

open Text (bytesOf)
open NumberSoFar (firstDigit)
open Machine (Opened resume)

/-- A text with one value left open. Behind its front a value may begin inside an array or object, and
its back completes the whole, whichever value that is. -/
inductive TextHole (whole : Value → Value) (front back : List UInt8) : Prop
  | mk {m : Machine} {frame : Frame} {stack : List Frame} (bare : ∃ b ∈ front.head?, isSpace b = false)
    (begun : Machine.start.after front = some m) (opened : Opened (frame :: stack) m)
    (completes : ∀ v, (resume v frame stack).Spells (whole v) back)

def wholeNumber (negative : Bool) (m : Nat) : Int := if negative then -m else m

def wholeText (negative : Bool) (m : Nat) : List UInt8 :=
  (if negative then [45] else []) ++ bytesOf (Nat.toDigits 10 m)

namespace NumberSoFar
variable {negative : Bool} {m : Nat} {k : NumberSoFar}

/-- A number that ends behind its digits is kept exactly, or is a float. -/
private theorem ending_of_wholeRead (read : WholeRead negative m k) {v : Number}
    (ends : k.ending = .number v) :
    (v = .int (wholeNumber negative m) ∧ ¬ (negative ∧ m = 0)) ∨ ∃ x, v = .float x := by
  have float {e : Int} (h : k.asFloat e = .number v) : ∃ x, v = .float x := by
    rw [asFloat] at h
    split at h
    · exact ⟨_, (Ending.number.inj h).symm⟩
    · cases h
  rcases read with ⟨-, rfl⟩ | ⟨-, phase⟩
  · cases negative with
    | false =>
      rw [ending_positive] at ends
      exact .inl ⟨(Ending.number.inj ends).symm, by simp⟩
    | true =>
      by_cases small : 0 < m ∧ m ≤ 0x8000000000000000
      · rw [ending_negative small.1 small.2] at ends
        exact .inl ⟨(Ending.number.inj ends).symm, by simp; omega⟩
      · refine .inr (float (e := 0) ?_)
        rw [← ends]
        by_cases zero : m = 0
        · simp [ending, firstDigit, zero]
        · simp [ending, firstDigit, zero]
          omega
  · refine .inr (float (e := k.exponent) ?_)
    simpa only [ending, phase] using ends

end NumberSoFar

namespace Machine
variable {frame : Frame} {stack : List Frame}

/-- The text of a whole number is read wherever a value may begin. -/
private theorem Opened.after_wholeText {frames : List Frame} {machine : Machine}
    (h : Opened frames machine) (negative : Bool) (m : Nat) :
    ∃ k, machine.after (wholeText negative m) = some ⟨.number k, frames⟩ ∧ WholeRead negative m k := by
  cases negative with
  | false => exact after_wholeDigits (fun d hd => h.step_digit hd) m
  | true =>
    have sign : machine.step 45 = .next ⟨.number { negative := true, phase := .sign }, frames⟩ :=
      h 45 rfl (by decide)
    obtain ⟨k, read⟩ := after_wholeDigits (fun d hd => step_sign_digit frames hd) m
    exact ⟨k, by simpa [wholeText] using (after_cons sign _).trans read.1, read.2⟩

/-- Only white space and the bytes that end an item or a member may follow a value. -/
private theorem exists_fault_resume {b : UInt8} (h : ¬ (isSpace b ∨ IsCloser b)) (v : Value) :
    ∃ f, (resume v frame stack).step b = .fault f 0 := by
  obtain ⟨space, comma, bracket, brace⟩ : isSpace b = false ∧ b ≠ 44 ∧ b ≠ 93 ∧ b ≠ 125 := by
    simpa [IsCloser] using h
  cases frame with
  | item items => exact ⟨_, by simp [resume, step, afterItem, space, comma, bracket]; rfl⟩
  | member members key => exact ⟨_, by simp [resume, step, afterMember, space, comma, brace]; rfl⟩

private theorem Spells.of_resume {v w : Value} {bytes : List UInt8}
    (h : (resume v frame stack).Spells w bytes) :
    ∃ b rest, bytes = b :: rest ∧ (isSpace b ∨ IsCloser b) := by
  have follows {b : UInt8} (moves : ∀ f, (resume v frame stack).step b ≠ .fault f 0) :
      isSpace b ∨ IsCloser b := by
    by_contra other
    obtain ⟨f, fault⟩ := exists_fault_resume other v
    exact moves f fault
  cases h with
  | next step => exact ⟨_, _, rfl, follows fun f => by simp [step]⟩
  | closed step => exact ⟨_, _, rfl, follows fun f => by simp [step]⟩
  | settled last => cases frame <;> cases last

private theorem Spells.congr {m n : Machine} {v : Value} {b : UInt8} {bs : List UInt8}
    (h : m.Spells v (b :: bs)) (same : n.step b = m.step b) : n.Spells v (b :: bs) := by
  cases h with
  | next step later => exact .next (same.trans step) later
  | closed step => exact .closed (same.trans step)

end Machine

namespace TextHole
variable {whole : Value → Value} {front back : List UInt8} {negative : Bool} {m : Nat}

/-- What a whole number is read as in a text. -/
theorem of_whole (hole : TextHole whole front back) {w : Value}
    (own : OwnText w (front ++ wholeText negative m ++ back)) :
    ∃ v, w = whole v ∧
      ((v = .int (wholeNumber negative m) ∧ ¬ (negative ∧ m = 0)) ∨ ∃ x, v = .number (.float x)) := by
  obtain @⟨machine, frame, stack, bare, begun, opened, completes⟩ := hole
  obtain ⟨k, digits, read⟩ := opened.after_wholeText negative m
  obtain ⟨b, rest, rfl, follows⟩ := (completes .null).of_resume
  have spells := own.spells
  rw [List.append_assoc] at spells
  replace spells := (spells.of_append begun).of_append digits
  have ended := ended_of_digits read.digits follows
  cases ends : k.ending with
  | number n =>
    have resumed := spells.congr (step_ended ended ends frame stack).symm
    refine ⟨.number n, resumed.unique (completes _), ?_⟩
    exact (NumberSoFar.ending_of_wholeRead read ends).imp
      (fun kept => ⟨congrArg Value.number kept.1, kept.2⟩)
      fun ⟨x, float⟩ => ⟨x, congrArg Value.number float⟩
  | outOfRange | unfinished =>
    have fault : ∃ f, (Machine.mk (.number k) (frame :: stack)).step b = .fault f 0 := by
      simp [Machine.step, Machine.numberStep, ended, ends]
    obtain ⟨f, fault⟩ := fault
    cases spells with
    | next step => rw [fault] at step; cases step
    | closed step => rw [fault] at step; cases step

/-- A whole number of 64 bits is read exactly, unless it is zero with a minus sign. -/
theorem ownText_whole (hole : TextHole whole front back)
    (low : -0x8000000000000000 ≤ wholeNumber negative m)
    (high : wholeNumber negative m < 0x10000000000000000) (nonzero : ¬ (negative ∧ m = 0)) :
    OwnText (whole (.int (wholeNumber negative m))) (front ++ wholeText negative m ++ back) := by
  obtain @⟨machine, frame, stack, bare, begun, opened, completes⟩ := hole
  obtain ⟨k, digits, read⟩ := opened.after_wholeText negative m
  obtain ⟨b, rest, rfl, follows⟩ := (completes .null).of_resume
  have ended := ended_of_digits read.digits follows
  have fits : m < UInt64.size := by
    cases negative <;> simp only [wholeNumber, Bool.false_eq_true, if_false, if_true] at low high <;>
      simp only [UInt64.size] <;> omega
  obtain ⟨-, rfl⟩ | ⟨wide, -⟩ := read
  swap
  · exact absurd fits (Nat.not_lt.mpr wide)
  have ends : (firstDigit negative m).ending = .number (.int (wholeNumber negative m)) := by
    cases negative with
    | false => exact ending_positive m
    | true =>
      simp only [wholeNumber, if_true] at low
      exact ending_negative (by simpa [Nat.pos_iff_ne_zero] using nonzero) (by omega)
  have spells := (completes (.int (wholeNumber negative m))).congr (step_ended ended ends frame stack)
  refine ⟨?_, ?_⟩
  · rw [List.append_assoc]
    exact .append begun (.append digits spells)
  · obtain ⟨c, first, shown⟩ := bare
    intro d hd
    rw [List.append_assoc, List.head?_append, first, Option.some_or] at hd
    exact Option.some.inj hd ▸ shown

end TextHole

end ScriptedInput.Json

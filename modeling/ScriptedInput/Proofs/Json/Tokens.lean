import Mathlib.Tactic.IntervalCases
import ScriptedInput.Json.Printer
import ScriptedInput.Json.Reader
import ScriptedInput.Proofs.Text.Utf8

/-! The reader on strings and whole numbers that the printer wrote. -/
namespace ScriptedInput.Json

open Text (bytesOf)

namespace Machine

/-- The machine after bytes that end no value of the stream and are not at fault. -/
def after (m : Machine) : List UInt8 → Option Machine
  | [] => some m
  | b :: bs =>
    match m.step b with
    | .next m => m.after bs
    | _ => none

theorem after_cons {m n : Machine} {b : UInt8} (h : m.step b = .next n) (bs : List UInt8) :
    m.after (b :: bs) = n.after bs := by
  rw [after, h]

theorem after_append {m n : Machine} {bs : List UInt8} (h : m.after bs = some n)
    (cs : List UInt8) : m.after (bs ++ cs) = n.after cs := by
  induction bs generalizing m with
  | nil =>
    obtain rfl : m = n := by simpa [after] using h
    rfl
  | cons b bs ih =>
    rw [after] at h
    split at h
    · next next hs => rw [List.cons_append, after_cons hs, ih h]
    · cases h

/-- Reading goes on where the machine stands after the bytes. -/
theorem pullFrom_after {m n : Machine} {bs : List UInt8} (h : m.after bs = some n)
    (failure : Option IoError) (p : Position) (rest : List UInt8) :
    ∃ q, pullFrom failure m p (bs ++ rest) = pullFrom failure n q rest := by
  induction bs generalizing m p with
  | nil =>
    obtain rfl : m = n := by simpa [after] using h
    exact ⟨p, rfl⟩
  | cons b bs ih =>
    rw [after] at h
    split at h
    · next next hs =>
      rw [List.cons_append, pullFrom, hs]
      exact ih h _
    · cases h

end Machine

section Strings
variable (role : StringRole) (stack : List Frame)

abbrev within (read : List UInt8) : Machine := ⟨.string role .plain read.reverse, stack⟩

/-- Bytes that stand for themselves in a string. -/
private theorem after_plain {bs : List UInt8} (h : ∀ b ∈ bs, b ≠ 34 ∧ b ≠ 92 ∧ 32 ≤ b)
    (read : List UInt8) : (within role stack read).after bs = some (within role stack (read ++ bs)) := by
  induction bs generalizing read with
  | nil => simp [Machine.after]
  | cons b bs ih =>
    obtain ⟨⟨quote, escape, control⟩, hbs⟩ := List.forall_mem_cons.mp h
    have step : (within role stack read).step b = .next (within role stack (read ++ [b])) := by
      simp [within, Machine.step, Machine.stringStep, quote, escape, UInt8.not_lt.mpr control]
    rw [Machine.after_cons step, ih hbs, List.append_assoc, List.singleton_append]

/-- Controls are escaped. -/
private theorem after_control {c : Char} (h : c.toNat < 32) (read : List UInt8) :
    (within role stack read).after (bytesOf (stringChar c)) =
      some (within role stack (read ++ String.utf8EncodeChar c)) := by
  have known : c = Char.ofNat c.toNat := (Char.ofNat_toNat c).symm
  generalize c.toNat = n at h known
  subst known
  simp only [within, List.reverse_append]
  generalize read.reverse = read
  interval_cases n <;> rfl

private theorem stringChar_plain {c : Char} (quote : c ≠ '"') (backslash : c ≠ '\\') (h : 32 ≤ c.toNat) :
    stringChar c = [c] := by
  have other {d : Char} (hd : d.toNat < 32) : c ≠ d := fun eq => by
    rw [eq] at h
    omega
  rw [stringChar, if_neg quote, if_neg backslash, if_neg (by omega), if_neg (by omega),
    if_neg (other (by decide)), if_neg (other (by decide)), if_neg (other (by decide)),
    if_neg (by omega), if_neg (by omega)]

/-- A character is read back, escaped or not. -/
private theorem after_stringChar (c : Char) (read : List UInt8) :
    (within role stack read).after (bytesOf (stringChar c)) =
      some (within role stack (read ++ String.utf8EncodeChar c)) := by
  by_cases control : c.toNat < 32
  · exact after_control role stack control read
  by_cases quote : c = '"'
  · subst quote
    simp only [within, List.reverse_append]
    rfl
  by_cases backslash : c = '\\'
  · subst backslash
    simp only [within, List.reverse_append]
    rfl
  rw [stringChar_plain quote backslash (by omega)]
  refine (after_plain role stack (fun b hb => ?_) read).trans (by simp [bytesOf])
  have hb : b ∈ String.utf8EncodeChar c := by simpa [bytesOf] using hb
  have number {d : Char} (hd : c ≠ d) : c.toNat ≠ d.toNat := fun eq =>
    hd (Char.ext (UInt32.toNat_inj.mp eq))
  have bytes : b.toNat ≠ 34 ∧ b.toNat ≠ 92 ∧ 32 ≤ b.toNat := by
    rcases Text.toNat_of_mem_utf8EncodeChar hb with same | other
    · rw [same]
      exact ⟨number quote, number backslash, by omega⟩
    · omega
  refine ⟨fun eq => bytes.1 (by rw [eq]; rfl), fun eq => bytes.2.1 (by rw [eq]; rfl), ?_⟩
  exact UInt8.le_iff_toNat_le.mpr bytes.2.2

theorem after_stringChars (cs : List Char) (read : List UInt8) :
    (within role stack read).after (bytesOf (cs.flatMap stringChar)) =
      some (within role stack (read ++ bytesOf cs)) := by
  induction cs generalizing read with
  | nil => simp [Machine.after]
  | cons c cs ih =>
    rw [List.flatMap_cons, Text.bytesOf_append,
      Machine.after_append (after_stringChar role stack c read), ih, Text.bytesOf_cons,
      List.append_assoc]

/-- At its closing quote a string is complete. -/
theorem step_quote (s : String) :
    (within role stack (bytesOf s.toList)).step 34 =
      match role with
      | .value => Machine.close (.string s) stack
      | .key members => .next ⟨.afterKey members s, stack⟩ := by
  have decoded : Text.decode? (bytesOf s.toList) = some s := by
    rw [Text.decode?_bytesOf, String.ofList_toList]
  cases role <;> simp [Machine.step, Machine.stringStep, Machine.stringEnd, decoded]

end Strings

section Numbers
variable {negative : Bool}

open NumberSoFar (firstDigit)

def digitByte (d : Nat) : UInt8 := UInt8.ofNat (48 + d)

private theorem bytesOf_digitChar {d : Nat} (h : d < 10) : bytesOf [d.digitChar] = [digitByte d] := by
  have all : ∀ d < 10, bytesOf [Nat.digitChar d] = [digitByte d] := by decide
  exact all d h

theorem digitOf?_digitByte {d : Nat} (h : d < 10) : digitOf? (digitByte d) = some d := by
  have all : ∀ d < 10, digitOf? (digitByte d) = some d := by decide
  exact all d h

private theorem firstDigit_of_ne {n : Nat} (h : n ≠ 0) :
    firstDigit negative n = { negative, significand := n, phase := .whole } := if_neg h

/-- A further digit of a number that fits 64 bits. -/
private theorem step_digit {n d : Nat} (hn : n ≠ 0) (hd : d < 10) (fits : n * 10 + d < UInt64.size) :
    (firstDigit negative n).step (digitByte d) = .more (firstDigit negative (n * 10 + d)) := by
  have wider : n * 10 + d ≠ 0 := by omega
  rw [firstDigit_of_ne hn, firstDigit_of_ne wider, NumberSoFar.step, digitOf?_digitByte hd]
  exact if_pos fits

def WholeRead (negative : Bool) (m : Nat) (k : NumberSoFar) : Prop :=
  (m < UInt64.size ∧ k = firstDigit negative m) ∨ (UInt64.size ≤ m ∧ k.phase = .wideWhole)

/-- One more digit. -/
private theorem step_wholeRead {m d : Nat} {k : NumberSoFar} (positive : m ≠ 0) (hd : d < 10)
    (read : WholeRead negative m k) :
    ∃ l, k.step (digitByte d) = .more l ∧ WholeRead negative (m * 10 + d) l := by
  rcases read with ⟨fits, rfl⟩ | ⟨wide, phase⟩
  · by_cases wider : m * 10 + d < UInt64.size
    · exact ⟨_, step_digit positive hd wider, .inl ⟨wider, rfl⟩⟩
    · refine ⟨{ negative, significand := m, exponent := 1, phase := .wideWhole }, ?_,
        .inr ⟨Nat.le_of_not_lt wider, rfl⟩⟩
      rw [firstDigit_of_ne positive, NumberSoFar.step, digitOf?_digitByte hd]
      exact if_neg wider
  · refine ⟨{ k with exponent := k.exponent + 1 }, ?_, .inr ⟨by omega, phase⟩⟩
    simp only [NumberSoFar.step, phase, digitOf?_digitByte hd]

/-- The digits of a number are read one by one, from a machine that takes the first one. -/
theorem after_wholeDigits {machine : Machine} {stack : List Frame}
    (begins : ∀ d < 10,
      machine.step (digitByte d) = .next ⟨.number (firstDigit negative d), stack⟩) (m : Nat) :
    ∃ k, machine.after (bytesOf (Nat.toDigits 10 m)) = some ⟨.number k, stack⟩ ∧
      WholeRead negative m k := by
  induction m using Nat.strongRecOn with
  | _ m ih =>
    rw [Nat.toDigits_eq_if (by decide)]
    split_ifs with small
    · rw [bytesOf_digitChar small, Machine.after_cons (begins m small)]
      exact ⟨_, rfl, .inl ⟨Nat.lt_trans small (by decide), rfl⟩⟩
    · have last : m % 10 < 10 := Nat.mod_lt m (by decide)
      obtain ⟨k, front, read⟩ := ih (m / 10) (by omega)
      obtain ⟨l, step, read⟩ := step_wholeRead (by omega) last read
      have next : (Machine.mk (.number k) stack).step (digitByte (m % 10)) =
          .next ⟨.number l, stack⟩ := by
        simp only [Machine.step, Machine.numberStep, step]
      rw [Text.bytesOf_append, Machine.after_append front, bytesOf_digitChar last,
        Machine.after_cons next]
      exact ⟨l, rfl, by rwa [Nat.div_add_mod' m 10] at read⟩

/-- Whole numbers that fit 64 bits are read exactly. -/
theorem after_toDigits {m : Machine} {stack : List Frame}
    (begins : ∀ d < 10,
      m.step (digitByte d) = .next ⟨.number (firstDigit negative d), stack⟩)
    {n : Nat} (h : n < UInt64.size) :
    m.after (bytesOf (Nat.toDigits 10 n)) = some ⟨.number (firstDigit negative n), stack⟩ := by
  obtain ⟨k, read, ⟨-, rfl⟩ | ⟨wide, -⟩⟩ := after_wholeDigits begins n
  · exact read
  · exact absurd h (Nat.not_lt.mpr wide)

def IsCloser (b : UInt8) : Prop := b = 44 ∨ b = 93 ∨ b = 125

/-- The digits of a number end before white space and before these bytes. -/
theorem ended_of_digits {k : NumberSoFar}
    (digits : k.phase = .zero ∨ k.phase = .whole ∨ k.phase = .wideWhole) {b : UInt8}
    (hb : isSpace b ∨ IsCloser b) : k.step b = .ended := by
  have bytes : b = 32 ∨ b = 9 ∨ b = 10 ∨ b = 13 ∨ b = 44 ∨ b = 93 ∨ b = 125 := by
    simpa [isSpace, IsCloser, or_assoc] using hb
  rcases digits with phase | phase | phase <;>
    rcases bytes with rfl | rfl | rfl | rfl | rfl | rfl | rfl <;>
    simp [NumberSoFar.step, phase, digitOf?]

private theorem phase_firstDigit (n : Nat) :
    (firstDigit negative n).phase = .zero ∨ (firstDigit negative n).phase = .whole := by
  by_cases hn : n = 0 <;> simp [firstDigit, hn]

theorem WholeRead.digits {m : Nat} {k : NumberSoFar} (read : WholeRead negative m k) :
    k.phase = .zero ∨ k.phase = .whole ∨ k.phase = .wideWhole := by
  rcases read with ⟨-, rfl⟩ | ⟨-, phase⟩
  · exact (phase_firstDigit m).imp_right .inl
  · exact .inr (.inr phase)

/-- A number that ended inside an array or object is put there. -/
theorem step_ended {k : NumberSoFar} {b : UInt8} {v : Number} (ended : k.step b = .ended)
    (ends : k.ending = .number v) (frame : Frame) (stack : List Frame) :
    (Machine.mk (.number k) (frame :: stack)).step b =
      (Machine.resume (.number v) frame stack).step b := by
  simp only [Machine.step, Machine.numberStep, ended, ends]
  cases frame <;> rfl

/-- A whole number inside an array or object is complete where the next item or member, or the end of
these, begins. -/
theorem step_closer {n : Nat} {v : Number}
    (ends : (firstDigit negative n).ending = .number v) (frame : Frame) (stack : List Frame)
    {b : UInt8} (hb : IsCloser b) :
    (Machine.mk (.number (firstDigit negative n)) (frame :: stack)).step b =
      (Machine.resume (.number v) frame stack).step b :=
  step_ended (ended_of_digits ((phase_firstDigit n).imp_right .inl) (.inr hb)) ends frame stack

theorem ending_positive (n : Nat) : (firstDigit false n).ending = .number (.int n) := by
  by_cases hn : n = 0 <;> simp [firstDigit, hn, NumberSoFar.ending]

theorem ending_negative {n : Nat} (h0 : 0 < n) (h : n ≤ 0x8000000000000000) :
    (firstDigit true n).ending = .number (.int (-n)) := by
  simp [firstDigit, NumberSoFar.ending, h0, h, Nat.pos_iff_ne_zero.mp h0]

end Numbers
end ScriptedInput.Json

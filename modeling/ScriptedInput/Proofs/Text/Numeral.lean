import Mathlib.Data.List.Basic
import Mathlib.Data.List.Induction
import Mathlib.Tactic.IntervalCases
import Mathlib.Tactic.SplitIfs
import ScriptedInput.Text.Numeral

/-! Numerals are read back: the digits that a number has in a base, zeros before them or not, stand
for that number again; and nothing else does. -/
namespace ScriptedInput.Text.Numeral
variable {b : Nat}

def digitsAfter? (b value : Nat) (cs : List Char) : Option Nat :=
  cs.foldlM (fun value c => (digit? b c).map (value * b + ·)) value

theorem digits?_eq {cs : List Char} (h : cs ≠ []) : digits? b cs = digitsAfter? b 0 cs := by
  simp [digits?, digitsAfter?, h]

theorem digitsAfter?_append (value : Nat) (cs ds : List Char) :
    digitsAfter? b value (cs ++ ds) =
      (digitsAfter? b value cs).bind (fun v => digitsAfter? b v ds) :=
  List.foldlM_append

private theorem digit?_digitChar (hb : b ≤ 16) {d : Nat} (hd : d < b) :
    digit? b d.digitChar = some d := by
  have known : ∀ d < 16, digit? 16 d.digitChar = some d := by decide
  have value := known d (by omega)
  simp only [digit?, Option.filter_eq_some_iff] at value ⊢
  exact ⟨value.1, decide_eq_true hd⟩

/-- The last digit counts once, those before it as often as the base says. -/
private theorem digitsAfter?_toDigits (h1 : 1 < b) (hb : b ≤ 16) (n : Nat) :
    digitsAfter? b 0 (Nat.toDigits b n) = some n := by
  induction n using Nat.strongRecOn with
  | _ n ih =>
    rw [Nat.toDigits_eq_if h1]
    by_cases hn : n < b
    · simp [hn, digitsAfter?, digit?_digitChar hb hn]
    · have less : n / b < n := Nat.div_lt_self (by omega) h1
      have last : n % b < b := Nat.mod_lt n (by omega)
      rw [if_neg hn, digitsAfter?_append, ih _ less]
      simp [digitsAfter?, digit?_digitChar hb last, Nat.div_add_mod' n b]

private theorem digitsAfter?_replicate (h1 : 1 < b) (count : Nat) :
    digitsAfter? b 0 (List.replicate count '0') = some 0 := by
  have zero : digit? b '0' = some 0 := by
    simp only [digit?, Option.filter_eq_some_iff]
    exact ⟨by decide, by simpa using Nat.zero_lt_of_lt h1⟩
  induction count with
  | zero => rfl
  | succ count ih =>
    rw [digitsAfter?] at ih ⊢
    simp [List.replicate_succ, zero, ih]

/-- A number in a base, with zeros in front up to a width. -/
def written (b width n : Nat) : List Char := (Nat.toDigits b n).leftpad width '0'

def decimal : Int → List Char
  | .ofNat n => Nat.toDigits 10 n
  | .negSucc n => '-' :: Nat.toDigits 10 (n + 1)

theorem written_ne_nil (width n : Nat) : written b width n ≠ [] := by
  simp [written, List.leftpad, Nat.toDigits_ne_nil]

theorem digits?_written (h1 : 1 < b) (hb : b ≤ 16) (width n : Nat) :
    digits? b (written b width n) = some n := by
  rw [digits?_eq (written_ne_nil width n), written, List.leftpad, digitsAfter?_append,
    digitsAfter?_replicate h1]
  exact digitsAfter?_toDigits h1 hb n

/-- Letters among the digits may be of either case. -/
theorem digit?_toLower (c : Char) : digit? b c.toLower = digit? b c := by
  have capitals (n : Nat) (low : 0x41 ≤ n) (high : n ≤ 0x5a) :
      digit? b (Char.ofNat n).toLower = digit? b (Char.ofNat n) := by
    interval_cases n <;> rfl
  by_cases capital : c.val ≥ 'A'.val ∧ c.val ≤ 'Z'.val
  · have same := capitals c.toNat capital.1 capital.2
    rwa [Char.ofNat_toNat] at same
  · have kept : c.toLower = c := dif_neg capital
    rw [kept]

theorem digits?_map_toLower (cs : List Char) : digits? b (cs.map Char.toLower) = digits? b cs := by
  simp only [digits?, List.foldlM_map, digit?_toLower, List.isEmpty_map]

private theorem digits?_toDigits (h1 : 1 < b) (hb : b ≤ 16) (n : Nat) :
    digits? b (Nat.toDigits b n) = some n := by
  rw [digits?_eq Nat.toDigits_ne_nil, digitsAfter?_toDigits h1 hb]

/-- Numerals are made of digits. -/
theorem exists_of_mem_toDigits (h1 : 1 < b) {n : Nat} {c : Char}
    (hc : c ∈ Nat.toDigits b n) : ∃ d < b, c = d.digitChar := by
  induction n using Nat.strongRecOn with
  | _ n ih =>
    rw [Nat.toDigits_eq_if h1] at hc
    split at hc
    · next hn => exact ⟨n, hn, List.mem_singleton.mp hc⟩
    · rcases List.mem_append.mp hc with hc | hc
      · exact ih _ (Nat.div_lt_self (by omega) h1) hc
      · exact ⟨n % b, Nat.mod_lt n (by omega), List.mem_singleton.mp hc⟩

theorem exists_of_mem_written (h1 : 1 < b) {width n : Nat} {c : Char}
    (hc : c ∈ written b width n) : ∃ d < b, c = d.digitChar := by
  rcases List.mem_append.mp hc with hc | hc
  · exact ⟨0, by omega, (List.mem_replicate.mp hc).2⟩
  · exact exists_of_mem_toDigits h1 hc

theorem notMem_written (h1 : 1 < b) {c : Char} (other : ∀ d, Nat.digitChar d ≠ c) (width n : Nat) :
    c ∉ written b width n := by
  intro hc
  obtain ⟨d, -, hd⟩ := exists_of_mem_written h1 hc
  exact other d hd.symm

private theorem sign_notMem_toDigits (h1 : 1 < b) (n : Nat) :
    '+' ∉ Nat.toDigits b n ∧ '-' ∉ Nat.toDigits b n := by
  constructor <;> intro hc <;> obtain ⟨d, -, hd⟩ := exists_of_mem_toDigits h1 hc
  · exact Nat.digitChar_ne '+' (by decide) hd.symm
  · exact Nat.digitChar_ne '-' (by decide) hd.symm

theorem unsigned?_written (h1 : 1 < b) (hb : b ≤ 16) (width n : Nat) :
    unsigned? b (written b width n) = some n := by
  unfold unsigned?
  split
  · next h =>
    have sign : '+' ∈ written b width n := h ▸ List.mem_cons_self
    exact absurd sign (notMem_written h1 (fun _ => Nat.digitChar_ne '+' (by decide)) width n)
  · exact digits?_written h1 hb width n

theorem unsigned?_toDigits (h1 : 1 < b) (hb : b ≤ 16) (n : Nat) :
    unsigned? b (Nat.toDigits b n) = some n := by
  have value := unsigned?_written h1 hb 0 n
  rwa [written, List.leftpad, Nat.zero_sub, List.replicate_zero, List.nil_append] at value

theorem signed?_decimal (n : Int) : signed? 10 (decimal n) = some n := by
  have value := digits?_toDigits (b := 10) (by decide) (by decide)
  cases n with
  | ofNat n =>
    obtain ⟨plus, minus⟩ := sign_notMem_toDigits (b := 10) (by decide) n
    unfold decimal signed?
    split
    · next h => simp [h] at plus
    · next h => simp [h] at minus
    · rw [value]
      rfl
  | negSucc n =>
    rw [decimal, signed?, value]
    rfl

/-- A digit is written as it was, but for the case of letters. -/
private theorem digitChar_of_digit? {c : Char} {d : Nat} (h : digit? b c = some d) :
    d < b ∧ d.digitChar = c.toLower := by
  have known : ∀ n < 0x67, ∀ d < 16, digit? 16 (Char.ofNat n) = some d →
      d.digitChar = (Char.ofNat n).toLower := by decide +kernel
  obtain ⟨value, small⟩ := Option.filter_eq_some_iff.mp h
  have bounds : c.toNat < 0x67 ∧ d < 16 := by
    have within {low high : Char} (h : low ≤ c ∧ c ≤ high) :
        low.toNat ≤ c.toNat ∧ c.toNat ≤ high.toNat := h
    split_ifs at value with decimal lower capital
    · have range : 48 ≤ c.toNat ∧ c.toNat ≤ 57 := within decimal
      obtain rfl := Option.some.inj value
      omega
    · have range : 97 ≤ c.toNat ∧ c.toNat ≤ 102 := within lower
      obtain rfl := Option.some.inj value
      omega
    · have range : 65 ≤ c.toNat ∧ c.toNat ≤ 70 := within capital
      obtain rfl := Option.some.inj value
      omega
  have digit : digit? 16 c = some d :=
    Option.filter_eq_some_iff.mpr ⟨value, decide_eq_true bounds.2⟩
  have same := known c.toNat bounds.1 d bounds.2 (by rwa [Char.ofNat_toNat])
  rw [Char.ofNat_toNat] at same
  exact ⟨of_decide_eq_true small, same⟩

/-- A text of digits is the number it stands for, with zeros in front up to its own length. -/
private theorem written_of_digitsAfter? (h1 : 1 < b) {cs : List Char} (hne : cs ≠ []) {n : Nat}
    (h : digitsAfter? b 0 cs = some n) : cs.map Char.toLower = written b cs.length n := by
  induction cs using List.reverseRecOn generalizing n with
  | nil => exact absurd rfl hne
  | append_singleton cs c ih =>
    rw [digitsAfter?_append] at h
    obtain ⟨v, front, last⟩ := Option.bind_eq_some_iff.mp h
    obtain ⟨d, digit, rfl⟩ : ∃ d, digit? b c = some d ∧ v * b + d = n := by
      simpa [digitsAfter?] using last
    obtain ⟨small, lower⟩ := digitChar_of_digit? digit
    rw [List.map_append, List.map_singleton, ← lower, List.length_append, List.length_singleton]
    have one : Nat.toDigits b d = [d.digitChar] := Nat.toDigits_of_lt_base small
    by_cases hcs : cs = []
    · subst hcs
      obtain rfl : 0 = v := by simpa [digitsAfter?] using front
      simp [written, List.leftpad, one]
    · have before := ih hcs front
      have length : cs.length ≠ 0 := by simpa using hcs
      rw [before]
      by_cases zero : v = 0
      · subst zero
        have zeros : Nat.toDigits b 0 = ['0'] := Nat.toDigits_of_lt_base (by omega)
        rw [Nat.zero_mul, Nat.zero_add, written, written, List.leftpad, List.leftpad, one, zeros]
        rw [List.length_singleton, List.length_singleton, ← List.replicate_succ']
        congr 2
        omega
      · have more := Nat.toDigits_append_toDigits h1 (Nat.pos_of_ne_zero zero) small
        rw [one, Nat.mul_comm] at more
        rw [written, written, List.leftpad, List.leftpad, ← more, List.length_append,
          List.length_singleton, Nat.add_sub_add_right, List.append_assoc]

private theorem written_of_digits? (h1 : 1 < b) {cs : List Char} {n : Nat} (h : digits? b cs = some n) :
    cs.map Char.toLower = written b cs.length n := by
  have hne : cs ≠ [] := by
    rintro rfl
    cases h
  exact written_of_digitsAfter? h1 hne (digits?_eq hne ▸ h)

theorem digit?_of_mem {cs : List Char} {value n : Nat} (h : digitsAfter? b value cs = some n) :
    ∀ c ∈ cs, ∃ d, digit? b c = some d := by
  induction cs generalizing value with
  | nil => exact fun c hc => nomatch hc
  | cons c cs ih =>
    rw [digitsAfter?, List.foldlM_cons] at h
    obtain ⟨v, first, later⟩ := Option.bind_eq_some_iff.mp h
    obtain ⟨d, digit, -⟩ := Option.map_eq_some_iff.mp first
    exact List.forall_mem_cons.mpr ⟨⟨d, digit⟩, ih later⟩

/-- There are no letters among decimal digits. -/
private theorem toLower_of_digit?_ten {c : Char} {d : Nat} (h : digit? 10 c = some d) :
    c.toLower = c := by
  have known : ∀ d < 10, ∀ n ≤ 0x5a, 0x41 ≤ n → d.digitChar ≠ (Char.ofNat n).toLower := by decide
  obtain ⟨small, same⟩ := digitChar_of_digit? h
  refine dif_neg fun capital => ?_
  have other := known d small c.toNat capital.2 capital.1
  rw [Char.ofNat_toNat] at other
  exact other same

theorem written_ten_of_digits? {cs : List Char} {n : Nat} (h : digits? 10 cs = some n) :
    cs = written 10 cs.length n := by
  have hne : cs ≠ [] := by
    rintro rfl
    cases h
  have kept : cs.map Char.toLower = cs.map id := List.map_congr_left fun c hc => by
    obtain ⟨d, digit⟩ := digit?_of_mem (digits?_eq hne ▸ h) c hc
    exact toLower_of_digit?_ten digit
  rw [← written_of_digits? (by decide) h, kept, List.map_id]

theorem digitsAfter?_zeros (value count : Nat) :
    digitsAfter? 10 value (List.replicate count '0') = some (value * Nat.pow 10 count) := by
  induction count generalizing value with
  | zero => simp [digitsAfter?]
  | succ count ih =>
    have zero : digit? 10 '0' = some 0 := by decide
    have step : digitsAfter? 10 value ('0' :: List.replicate count '0') =
        digitsAfter? 10 (value * 10) (List.replicate count '0') := by
      simp [digitsAfter?, zero]
    rw [List.replicate_succ, step, ih]
    simp [Nat.pow_succ, Nat.mul_assoc, Nat.mul_comm]

theorem lt_of_digitsAfter? {value n : Nat} {cs : List Char} (h : digitsAfter? 10 value cs = some n) :
    n < (value + 1) * Nat.pow 10 cs.length := by
  induction cs generalizing value with
  | nil =>
    obtain rfl : value = n := by simpa [digitsAfter?] using h
    simp
  | cons c cs ih =>
    rw [digitsAfter?, List.foldlM_cons] at h
    obtain ⟨v, first, later⟩ := Option.bind_eq_some_iff.mp h
    obtain ⟨d, digit, rfl⟩ := Option.map_eq_some_iff.mp first
    have small : d < 10 := (digitChar_of_digit? digit).1
    calc n < (value * 10 + d + 1) * Nat.pow 10 cs.length := ih later
      _ ≤ ((value + 1) * 10) * Nat.pow 10 cs.length := Nat.mul_le_mul_right _ (by omega)
      _ = (value + 1) * Nat.pow 10 (c :: cs).length := by
        simp [Nat.pow_succ, Nat.mul_assoc, Nat.mul_comm]

theorem isDigit_of_digit?_ten {c : Char} {d : Nat} (h : digit? 10 c = some d) : c.isDigit := by
  have known : ∀ d < 10, d.digitChar.isDigit := by decide
  obtain ⟨small, same⟩ := digitChar_of_digit? h
  rw [← toLower_of_digit?_ten h, ← same]
  exact known d small

/-- Digits of a base, one or more, and the number that they write. Zeros may stand in front, and letters
are of either case. -/
def Digits (b n : Nat) (cs : List Char) : Prop := cs.map Char.toLower = written b cs.length n

inductive Unsigned (b n : Nat) : List Char → Prop where
  | bare {cs : List Char} (digits : Digits b n cs) : Unsigned b n cs
  | plus {cs : List Char} (digits : Digits b n cs) : Unsigned b n ('+' :: cs)

inductive Signed (b : Nat) : Int → List Char → Prop where
  | bare {n : Nat} {cs : List Char} (digits : Digits b n cs) : Signed b n cs
  | plus {n : Nat} {cs : List Char} (digits : Digits b n cs) : Signed b n ('+' :: cs)
  | minus {n : Nat} {cs : List Char} (digits : Digits b n cs) : Signed b (-n) ('-' :: cs)

theorem digits?_eq_some_iff (h1 : 1 < b) (hb : b ≤ 16) {cs : List Char} {n : Nat} :
    digits? b cs = some n ↔ Digits b n cs := by
  refine ⟨written_of_digits? h1, fun digits => ?_⟩
  rw [← digits?_map_toLower, digits]
  exact digits?_written h1 hb cs.length n

/-- Signs are no digits. -/
private theorem digits?_sign {c : Char} (sign : c = '+' ∨ c = '-') (cs : List Char) :
    digits? b (c :: cs) = none := by
  have none : digit? b c = none := by rcases sign with rfl | rfl <;> rfl
  simp [digits?, none]

theorem unsigned?_eq_some_iff (h1 : 1 < b) (hb : b ≤ 16) {cs : List Char} {n : Nat} :
    unsigned? b cs = some n ↔ Unsigned b n cs := by
  have value {cs : List Char} : digits? b cs = some n ↔ Digits b n cs := digits?_eq_some_iff h1 hb
  unfold unsigned?
  split
  · next digits =>
    refine ⟨fun h => .plus (value.mp h), fun h => ?_⟩
    cases h with
    | bare signed => simp [← value, digits?_sign] at signed
    | plus h => exact value.mpr h
  · next unsigned =>
    refine ⟨fun h => .bare (value.mp h), fun h => ?_⟩
    cases h with
    | bare h => exact value.mpr h
    | plus => exact absurd rfl (unsigned _)

theorem signed?_eq_some_iff (h1 : 1 < b) (hb : b ≤ 16) {cs : List Char} {k : Int} :
    signed? b cs = some k ↔ Signed b k cs := by
  have value {cs : List Char} {n : Nat} : digits? b cs = some n ↔ Digits b n cs :=
    digits?_eq_some_iff h1 hb
  have mapped {cs : List Char} {f : Nat → Int} :
      (digits? b cs).map f = some k ↔ ∃ n, Digits b n cs ∧ f n = k := by
    simp only [Option.map_eq_some_iff, value]
  have negated {cs : List Char} : ((digits? b cs).map fun n => -(n : Int)) = some k ↔
      ∃ n : Nat, Digits b n cs ∧ -(n : Int) = k := by
    simp only [← value]
    cases digits? b cs <;> simp
  unfold signed?
  split
  · rw [mapped]
    constructor
    · rintro ⟨n, digits, rfl⟩
      exact .plus digits
    · intro h
      cases h with
      | bare signed => simp [← value, digits?_sign] at signed
      | plus digits => exact ⟨_, digits, rfl⟩
  · rw [negated]
    constructor
    · rintro ⟨n, digits, rfl⟩
      exact .minus digits
    · intro h
      cases h with
      | bare signed => simp [← value, digits?_sign] at signed
      | minus digits => exact ⟨_, digits, rfl⟩
  · next plus minus =>
    rw [mapped]
    constructor
    · rintro ⟨n, digits, rfl⟩
      exact .bare digits
    · intro h
      cases h with
      | bare digits => exact ⟨_, digits, rfl⟩
      | plus => exact absurd rfl (plus _)
      | minus => exact absurd rfl (minus _)

end ScriptedInput.Text.Numeral

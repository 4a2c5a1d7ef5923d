import ScriptedInput.Decimal.Binary64

/-! The shortest decimal that reads back as a given binary64 number, and its written form. -/
namespace ScriptedInput.Decimal

structure Scaled where
  digits : Nat
  exponent : Int
  deriving DecidableEq, Repr

namespace Shortest

/-- Twice the magnitude, and twice the distance to the midpoints below and above it, all over one
denominator: `(value, below, above, denominator)`. A number at the bottom of a range of one exponent
has its lower neighbour at half the usual distance. -/
def interval (m : Magnitude) : Nat × Nat × Nat × Nat :=
  let (n, d) := m.toRatio
  let (unit, _) := Magnitude.toRatio ⟨1, m.exponent⟩
  let atBottom := 2 * m.mantissa = Magnitude.mantissaBound ∧ Magnitude.minExponent < m.exponent
  (4 * n, if atBottom then unit else 2 * unit, 2 * unit, 4 * d)

def decimalExponent (num den : Nat) : Int :=
  if den ≤ num then (digitCount (num.log2 + 1) (num / den) : Int)
  else -(leadingZeros 400 num den : Int)
where
  digitCount : Nat → Nat → Nat
    | 0, _ => 0
    | fuel + 1, n => if n = 0 then 0 else digitCount fuel (n / 10) + 1
  leadingZeros : Nat → Nat → Nat → Nat
    | 0, _, _ => 0
    | fuel + 1, num, den => if den ≤ num * 10 then 0 else leadingZeros fuel (num * 10) den + 1

/-- The nearest decimal in units of `10 ^ exponent` that reads back, if there is one. -/
def onGrid? (m : Magnitude) (exponent : Int) : Option Scaled :=
  let (value, below, above, den) := interval m
  let up := Nat.pow 10 exponent.toNat
  let down := Nat.pow 10 (-exponent).toNat
  let unit := den * up
  let floor := value * down / unit
  let lowGap := value * down - floor * unit
  let highGap := (floor + 1) * unit - value * down
  let even := m.mantissa % 2 = 0
  let lowFits := lowGap < below * down ∨ (even ∧ lowGap = below * down)
  let highFits := highGap < above * down ∨ (even ∧ highGap = above * down)
  if lowFits ∧ (¬ highFits ∨ lowGap < highGap ∨ (lowGap = highGap ∧ floor % 2 = 0)) then
    some ⟨floor, exponent⟩
  else if highFits then some ⟨floor + 1, exponent⟩
  else none

/-- The shortest decimal that reads back as a positive magnitude; of several the nearest. -/
def ofMagnitude (m : Magnitude) : Scaled :=
  let (n, d) := m.toRatio
  let top := decimalExponent n d
  let found := (List.range 17).findSome? (fun (places : Nat) => onGrid? m (top - (places + 1)))
  normalize 20 (found.getD ⟨n / d, 0⟩)
where
  /-- Moves zeros at the end of the digits into the exponent. -/
  normalize : Nat → Scaled → Scaled
    | 0, s => s
    | fuel + 1, s =>
      if s.digits % 10 = 0 ∧ s.digits ≠ 0 then normalize fuel ⟨s.digits / 10, s.exponent + 1⟩ else s

end Shortest

/-- A positive decimal is written positionally from `10 ^ -5` up to below `10 ^ 16`, always with a
point, and with an exponent elsewhere. -/
def Scaled.text (s : Scaled) : String :=
  let digits := Nat.toDigits 10 s.digits
  let length : Int := digits.length
  let point := length + s.exponent
  if 0 ≤ s.exponent ∧ point ≤ 16 then
    String.ofList (digits ++ List.replicate s.exponent.toNat '0' ++ ['.', '0'])
  else if 0 < point ∧ point ≤ 16 then
    String.ofList (digits.take point.toNat ++ '.' :: digits.drop point.toNat)
  else if -5 < point ∧ point ≤ 0 then
    String.ofList (['0', '.'] ++ List.replicate (-point).toNat '0' ++ digits)
  else
    let mantissa := match digits with
      | [d] => [d]
      | d :: rest => d :: '.' :: rest
      | [] => []
    let power := point - 1
    String.ofList mantissa ++ (if power < 0 then "e" else "e+") ++ toString power

def Binary64.text (x : Binary64) : String :=
  let text := if x.magnitude.mantissa = 0 then "0.0" else (Shortest.ofMagnitude x.magnitude).text
  if x.negative then "-" ++ text else text

end ScriptedInput.Decimal

/-! Numbers of binary64 precision: a sign and a magnitude `mantissa * 2 ^ exponent`, with products
and quotients rounded to the nearest, ties to the even mantissa. -/
namespace ScriptedInput.Decimal

/-- A non-negative binary64 number, with the exponent as small as its precision allows. -/
structure Magnitude where
  mantissa : Nat
  exponent : Int
  deriving DecidableEq, Repr

namespace Magnitude

def minExponent : Int := -1074

def maxExponent : Int := 971

def mantissaBound : Nat := 0x20000000000000

def zero : Magnitude := ⟨0, minExponent⟩

/-- The quotient of two numbers of which the second is positive, rounded to a whole number with ties
to even. -/
def roundedQuotient (num den : Nat) : Nat :=
  let q := num / den
  let r := num % den
  if 2 * r < den ∨ (2 * r = den ∧ q % 2 = 0) then q else q + 1

/-- Numerator and denominator of `num / den` in units of `2 ^ exponent`. -/
def inUnits (num den : Nat) (exponent : Int) : Nat × Nat :=
  (num * Nat.pow 2 (-exponent).toNat, den * Nat.pow 2 exponent.toNat)

/-- The number nearest to `num / den`; none if that is beyond the largest. -/
def ofRatio? (num den : Nat) : Option Magnitude :=
  if num = 0 then some zero else
  let low := max minExponent ((num.log2 : Int) - den.log2 - 53)
  let (n, d) := inUnits num den low
  let exponent := if mantissaBound ≤ n / d then low + 1 else low
  let (n, d) := inUnits num den exponent
  let mantissa := roundedQuotient n d
  let m : Magnitude :=
    if mantissa = mantissaBound then ⟨mantissa / 2, exponent + 1⟩ else ⟨mantissa, exponent⟩
  if m.exponent ≤ maxExponent then some m else none

def toRatio (m : Magnitude) : Nat × Nat :=
  (m.mantissa * Nat.pow 2 m.exponent.toNat, Nat.pow 2 (-m.exponent).toNat)

def mul? (a b : Magnitude) : Option Magnitude :=
  let (an, ad) := a.toRatio
  let (bn, bd) := b.toRatio
  ofRatio? (an * bn) (ad * bd)

def div? (a b : Magnitude) : Option Magnitude :=
  let (an, ad) := a.toRatio
  let (bn, bd) := b.toRatio
  ofRatio? (an * bd) (ad * bn)

def maxPowerOfTen : Nat := 308

def powerOfTen? (k : Nat) : Option Magnitude := ofRatio? (Nat.pow 10 k) 1

/-- Reads `significand * 10 ^ exponent` by rounding the significand first and the scaled result
again. Exponents below the table of powers are reached in several divisions; a result beyond the
largest number is none. -/
def ofDecimal? (significand : Nat) (exponent : Int) : Option Magnitude := do
  scale? (← ofRatio? significand 1) exponent
where
  scale? (m : Magnitude) (exponent : Int) : Option Magnitude :=
    if m.mantissa = 0 then some m
    else if exponent > maxPowerOfTen then none
    else if 0 ≤ exponent then do m.mul? (← powerOfTen? exponent.toNat)
    else if -(maxPowerOfTen : Int) ≤ exponent then do m.div? (← powerOfTen? (-exponent).toNat)
    else do
      let smaller ← m.div? (← powerOfTen? maxPowerOfTen)
      scale? smaller (exponent + maxPowerOfTen)
  termination_by (-exponent).toNat
  decreasing_by
    simp only [maxPowerOfTen] at *
    omega

end Magnitude

structure Binary64 where
  negative : Bool
  magnitude : Magnitude
  deriving DecidableEq, Repr

end ScriptedInput.Decimal

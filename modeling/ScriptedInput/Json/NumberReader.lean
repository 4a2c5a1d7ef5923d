import ScriptedInput.Json.Fault
import ScriptedInput.Json.Value

/-! Reading a JSON number byte by byte. The digits are collected as a significand of at most 64 bits
and a power of ten; digits that no longer fit count for the power only, or, after the point, not at
all. -/
namespace ScriptedInput.Json

inductive NumberPhase where
  /-- After the minus sign. -/
  | sign
  /-- After a zero that starts the number. -/
  | zero
  /-- Within the digits before the point. -/
  | whole
  /-- Within digits before the point that no longer fit. -/
  | wideWhole
  /-- After the point, before any digit. -/
  | point
  /-- Within the digits after the point. -/
  | fraction
  /-- Within digits after the point that no longer fit. -/
  | wideFraction
  /-- After `e` or `E`. -/
  | mark
  /-- After the sign of the exponent. -/
  | markSign (negative : Bool)
  /-- Within the digits of the exponent. -/
  | power (negative : Bool) (read : Nat)
  /-- Within digits of an exponent so large that the number is zero. -/
  | widePower
  deriving DecidableEq, Repr

/-- What has been read of a number: its value is `significand * 10 ^ exponent`, with a sign. -/
structure NumberSoFar where
  negative : Bool
  significand : Nat := 0
  exponent : Int := 0
  phase : NumberPhase
  deriving DecidableEq, Repr

def digitOf? (b : UInt8) : Option Nat := if 48 ≤ b ∧ b ≤ 57 then some (b.toNat - 48) else none

namespace NumberSoFar

def significandBound : Nat := UInt64.size
def powerBound : Nat := 0x80000000

inductive Step where
  | more (n : NumberSoFar)
  /-- The number ended before the byte. -/
  | ended
  | fault (f : Fault)

def firstDigit (negative : Bool) (d : Nat) : NumberSoFar :=
  if d = 0 then { negative, phase := .zero } else { negative, significand := d, phase := .whole }

def step (n : NumberSoFar) (b : UInt8) : Step :=
  let widened := fun d => n.significand * 10 + d
  match n.phase, digitOf? b with
  | .sign, some d => .more (firstDigit n.negative d)
  | .sign, none => .fault .invalidNumber
  | .zero, some _ => .fault .invalidNumber
  | .whole, some d =>
    if widened d < significandBound then .more { n with significand := widened d }
    else .more { n with exponent := 1, phase := .wideWhole }
  | .wideWhole, some _ => .more { n with exponent := n.exponent + 1 }
  | .point, some d | .fraction, some d =>
    if widened d < significandBound then
      .more { n with significand := widened d, exponent := n.exponent - 1, phase := .fraction }
    else .more { n with phase := .wideFraction }
  | .wideFraction, some _ => .more n
  | .mark, some d => .more { n with phase := .power false d }
  | .markSign negative, some d => .more { n with phase := .power negative d }
  | .power negative read, some d =>
    if read * 10 + d < powerBound then .more { n with phase := .power negative (read * 10 + d) }
    else if n.significand ≠ 0 ∧ ¬ negative then .fault .numberOutOfRange
    else .more { n with phase := .widePower }
  | .widePower, some _ => .more n
  | .point, none => .fault .invalidNumber
  | .markSign _, none => .fault .invalidNumber
  | .mark, none =>
    if b = 43 then .more { n with phase := .markSign false }
    else if b = 45 then .more { n with phase := .markSign true }
    else .fault .invalidNumber
  | .zero, none | .whole, none | .wideWhole, none =>
    if b = 46 then .more { n with phase := .point }
    else if b = 69 ∨ b = 101 then .more { n with phase := .mark }
    else .ended
  | .fraction, none | .wideFraction, none =>
    if b = 69 ∨ b = 101 then .more { n with phase := .mark } else .ended
  | .power _ _, none | .widePower, none => .ended

inductive Ending where
  | number (n : Number)
  | outOfRange
  | unfinished

def asFloat (n : NumberSoFar) (exponent : Int) : Ending :=
  match Decimal.Magnitude.ofDecimal? n.significand exponent with
  | some m => .number (.float ⟨n.negative, m⟩)
  | none => .outOfRange

/-- The value of the number if it ends here. Without point and exponent it is kept exactly, if it
fits 64 bits (signed if negative) and is not a negative zero. -/
def ending (n : NumberSoFar) : Ending :=
  match n.phase with
  | .sign | .point | .mark | .markSign _ => .unfinished
  | .zero | .whole =>
    if ¬ n.negative then .number (.int n.significand)
    else if 0 < n.significand ∧ n.significand ≤ 0x8000000000000000 then
      .number (.int (-(n.significand : Int)))
    else n.asFloat 0
  | .wideWhole | .fraction | .wideFraction => n.asFloat n.exponent
  | .power negative read => n.asFloat (if negative then n.exponent - read else n.exponent + read)
  | .widePower => .number (.float ⟨n.negative, .zero⟩)

end NumberSoFar
end ScriptedInput.Json

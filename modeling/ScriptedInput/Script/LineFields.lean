import ScriptedInput.Script.RecordingFault
import ScriptedInput.Text.Blank
import ScriptedInput.Text.Numeral

/-! The fields of a recording's line, each with the column it starts at, and the numbers they hold.
-/
namespace ScriptedInput

structure LineField where
  text : List Char
  column : Nat
  deriving DecidableEq, Repr

structure LineFault where
  column : Nat
  fault : RecordingFault
  deriving DecidableEq, Repr

def lineFields : (column : Nat) → List Char → List LineField
  | _, [] => []
  | column, c :: cs =>
    let after := lineFields (column + c.utf8Size) cs
    if Text.isBlank c then after
    else match cs, after with
      | d :: _, f :: rest =>
        if Text.isBlank d then ⟨[c], column⟩ :: after else ⟨c :: f.text, column⟩ :: rest
      | _, _ => ⟨[c], column⟩ :: after

def beforeComment (cs : List Char) : List Char := cs.takeWhile (· ≠ '#')

namespace LineField

def string (f : LineField) : String := String.ofList f.text

def hex (f : LineField) (what : RecordedNumber) (bound : Nat) : Except LineFault Nat :=
  match (Text.Numeral.unsigned? 16 f.text).filter (· < bound) with
  | some n => .ok n
  | none => .error ⟨f.column, .notHex what f.string⟩

def hex16 (f : LineField) (what : RecordedNumber) : Except LineFault UInt16 :=
  (f.hex what UInt16.size).map UInt16.ofNat

def hex8 (f : LineField) (what : RecordedNumber) : Except LineFault UInt8 :=
  (f.hex what UInt8.size).map UInt8.ofNat

def int32 (f : LineField) (what : RecordedNumber) : Except LineFault Int32 :=
  match (Text.Numeral.signed? 10 f.text).filter (fun n => -0x80000000 ≤ n ∧ n < 0x80000000) with
  | some n => .ok (Int32.ofInt n)
  | none => .error ⟨f.column, .notDecimal what f.string⟩

/-- The digits after the point of a timestamp: at most six, read as millionths. -/
def micros? (digits : List Char) : Option Nat :=
  if digits.length ≤ 6 then
    (Text.Numeral.digits? 10 digits).map (· * Nat.pow 10 (6 - digits.length))
  else none

def timestampBound : Nat := UInt64.size

def timestamp? (cs : List Char) : Option Nat :=
  match cs.dropWhile (· ≠ '.') with
  | [] => none
  | _ :: fraction => do
    let micros ← micros? fraction
    let seconds ← Text.Numeral.unsigned? 10 (cs.takeWhile (· ≠ '.'))
    (some (seconds * 1000000 + micros)).filter (· < timestampBound)

def timestamp (f : LineField) : Except LineFault Nat :=
  match timestamp? f.text with
  | some t => .ok t
  | none => .error ⟨f.column, .notTimestamp f.string⟩

end LineField
end ScriptedInput

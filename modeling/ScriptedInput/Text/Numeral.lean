/-! Numerals as scripts write them: digits of a base, leading zeros allowed, with a sign where one
is accepted. Whether the value fits where it is wanted is for the reader of the field to say. -/
namespace ScriptedInput.Text.Numeral

def digit? (base : Nat) (c : Char) : Option Nat :=
  let v? :=
    if '0' ≤ c ∧ c ≤ '9' then some (c.toNat - 48)
    else if 'a' ≤ c ∧ c ≤ 'f' then some (c.toNat - 87)
    else if 'A' ≤ c ∧ c ≤ 'F' then some (c.toNat - 55)
    else none
  v?.filter (· < base)

def digits? (base : Nat) (cs : List Char) : Option Nat :=
  if cs.isEmpty then none
  else cs.foldlM (fun value c => (digit? base c).map (value * base + ·)) 0

def unsigned? (base : Nat) : List Char → Option Nat
  | '+' :: cs => digits? base cs
  | cs => digits? base cs

def signed? (base : Nat) : List Char → Option Int
  | '+' :: cs => (digits? base cs).map Int.ofNat
  | '-' :: cs => (digits? base cs).map (fun n => -(n : Int))
  | cs => (digits? base cs).map Int.ofNat

end ScriptedInput.Text.Numeral

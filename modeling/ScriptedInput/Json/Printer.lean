import ScriptedInput.Json.Value
import ScriptedInput.Text.Quoted

/-! The compact written form of JSON values: no blanks, members in the order of their keys. -/
namespace ScriptedInput.Json

/-- One character of a JSON string. Quotes, backslashes and controls are escaped, all else stands
for itself. -/
def stringChar (c : Char) : List Char :=
  if c = '"' then ['\\', '"']
  else if c = '\\' then ['\\', '\\']
  else if c.toNat = 8 then ['\\', 'b']
  else if c.toNat = 12 then ['\\', 'f']
  else if c = '\n' then ['\\', 'n']
  else if c = '\r' then ['\\', 'r']
  else if c = '\t' then ['\\', 't']
  else if c.toNat < 16 then ['\\', 'u', '0', '0', '0'] ++ Text.hexDigits c.toNat
  else if c.toNat < 32 then ['\\', 'u', '0', '0'] ++ Text.hexDigits c.toNat
  else [c]

def stringText (s : String) : List Char := '"' :: s.toList.flatMap stringChar ++ ['"']

def Number.text : Number → List Char
  | .int (.ofNat n) => Nat.toDigits 10 n
  | .int (.negSucc n) => '-' :: Nat.toDigits 10 (n + 1)
  | .float x => x.text.toList

namespace Value

mutual

def text : Value → List Char
  | .null => "null".toList
  | .bool b => (if b then "true" else "false").toList
  | .number n => n.text
  | .string s => stringText s
  | .array items => '[' :: itemTexts items ++ [']']
  | .object members => '\x7b' :: memberTexts members ++ ['\x7d']

def itemTexts : List Value → List Char
  | [] => []
  | [v] => v.text
  | v :: w :: rest => v.text ++ ',' :: itemTexts (w :: rest)

def memberTexts : List (String × Value) → List Char
  | [] => []
  | [(k, v)] => stringText k ++ ':' :: v.text
  | (k, v) :: m :: rest => stringText k ++ ':' :: v.text ++ ',' :: memberTexts (m :: rest)

end

def compact (v : Value) : String := String.ofList v.text

end Value
end ScriptedInput.Json

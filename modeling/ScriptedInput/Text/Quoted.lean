import ScriptedInput.Text.Unprintable
import ScriptedInput.Text.GraphemeExtend
import ScriptedInput.Text.Ignorable

/-! Texts as messages quote them: between double quotes, with escapes for what would not show. -/
namespace ScriptedInput.Text

def hexDigits (n : Nat) : List Char := Nat.toDigits 16 n

/-- The two halfwidth sound marks. They extend a grapheme, yet are letters that take a cell of
their own, so they show by themselves. -/
def isHalfwidthSoundMark (c : Char) : Bool := c.toNat = 0xff9e || c.toNat = 0xff9f

/-- Whether a character would not show, or not apart from the character before it. -/
def isHidden (c : Char) : Bool :=
  (isGraphemeExtend c && !isHalfwidthSoundMark c) || isIgnorable c || isUnprintable c

/-- One character between the quotes. Characters that do not print by themselves are written by
their number in braces. -/
def quotedChar (c : Char) : List Char :=
  if c = '"' then ['\\', '"']
  else if c = '\\' then ['\\', '\\']
  else if c = '\n' then ['\\', 'n']
  else if c = '\r' then ['\\', 'r']
  else if c = '\t' then ['\\', 't']
  else if c.toNat = 0 then ['\\', '0']
  else if isHidden c then
    ['\\', 'u', '\x7b'] ++ hexDigits c.toNat ++ ['\x7d']
  else [c]

def quoted (s : String) : String :=
  String.ofList ('"' :: s.toList.flatMap quotedChar ++ ['"'])

end ScriptedInput.Text

/-! White space in the sense of Unicode's White_Space property, and trimming by it. -/
namespace ScriptedInput.Text

/-- The code points with the White_Space property. -/
def isBlank (c : Char) : Bool :=
  let n := c.toNat
  (0x09 ≤ n && n ≤ 0x0d) || n == 0x20 || n == 0x85 || n == 0xa0 || n == 0x1680 ||
    (0x2000 ≤ n && n ≤ 0x200a) || n == 0x2028 || n == 0x2029 || n == 0x202f || n == 0x205f ||
    n == 0x3000

def trimStart (cs : List Char) : List Char := cs.dropWhile isBlank

def trimEnd (cs : List Char) : List Char := cs.reverse.dropWhile isBlank |>.reverse

def trim (cs : List Char) : List Char := trimEnd (trimStart cs)

end ScriptedInput.Text

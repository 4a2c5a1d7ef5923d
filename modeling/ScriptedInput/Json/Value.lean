import ScriptedInput.CodeMap
import ScriptedInput.Decimal.Shortest

/-! JSON values. An object has each of its keys once, in ascending order; a member read later takes
the place of an earlier one with the same key. -/
namespace ScriptedInput.Json

/-- Whole numbers are kept exactly, all others at binary64 precision. -/
inductive Number where
  | int (n : Int)
  | float (x : Decimal.Binary64)
  deriving DecidableEq, Repr

inductive Value where
  | null
  | bool (b : Bool)
  | number (n : Number)
  | string (s : String)
  | array (items : List Value)
  | object (members : List (String × Value))
  deriving Repr, Inhabited

namespace Value

def int (n : Int) : Value := .number (.int n)

def ofMembers (members : List (String × Value)) : Value :=
  .object (members.foldl (fun ms m => insertAscending m.1 m.2 ms) [])

end Value
end ScriptedInput.Json

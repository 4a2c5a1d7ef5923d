import ScriptedInput.Script.Source
import ScriptedInput.Text.Blank
import ScriptedInput.Text.Utf8

/-! The lines of a recording that count: those that are neither blank nor comments. -/
namespace ScriptedInput

/-- A line without its terminator, and its number. All lines are numbered, from 1. -/
structure Line where
  number : Nat
  text : List Char
  deriving DecidableEq, Repr

def Line.string (l : Line) : String := String.ofList l.text

def splitLines : List UInt8 → List (List UInt8) × List UInt8
  | [] => ([], [])
  | b :: bs =>
    let (lines, left) := splitLines bs
    if b = 10 then ([] :: lines, left)
    else match lines with
      | [] => ([], b :: left)
      | line :: lines => ((b :: line) :: lines, left)

def Source.rawLines (s : Source) : List (List UInt8) :=
  let (lines, left) := splitLines s.bytes
  if left.isEmpty || s.failure.isSome then lines else lines ++ [left]

/-- The lines that count, how many lines were read in all, and what kept the rest from being read.
-/
structure Lines where
  lines : List Line
  count : Nat
  failure : Option IoError
  deriving DecidableEq, Repr

namespace Lines

/-- Carriage returns at the end of a line belong to its terminator. -/
def withoutReturns (cs : List Char) : List Char :=
  cs.reverse.dropWhile (· = '\r') |>.reverse

/-- Blank lines and comments do not count. -/
def counts (cs : List Char) : Bool := !cs.all Text.isBlank && cs.head? != some '#'

/-- Numbers the lines from `number + 1` on. Reading ends at a line that is not UTF-8. -/
def number (failure : Option IoError) (n : Nat) : List (List UInt8) → Lines
  | [] => ⟨[], n, failure⟩
  | raw :: rest =>
    match Text.decode? raw with
    | none => ⟨[], n, some .notUtf8⟩
    | some s =>
      let text := withoutReturns s.toList
      let after := number failure (n + 1) rest
      if counts text then { after with lines := ⟨n + 1, text⟩ :: after.lines } else after

def ofSource (s : Source) : Lines := number s.failure 0 s.rawLines

end Lines
end ScriptedInput

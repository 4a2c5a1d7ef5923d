import ScriptedInput.Script.Source

/-! Telling the two dialects of scripts apart. A recording starts, after any line breaks, with `#`
or `N`; all else is read as JSON commands. Looking does not use up what was looked at. -/
namespace ScriptedInput

inductive Dialect where
  | json | evemu
  deriving DecidableEq, Repr

def Dialect.name : Dialect → String
  | .json => "JSON"
  | .evemu => "evemu"

def isLineSeparator (b : UInt8) : Bool := b = 10 || b = 13

def Dialect.ofFirst : Option UInt8 → Dialect
  | some 35 => .evemu
  | some 78 => .evemu
  | _ => .json

namespace Source

/-- Line separators at the front of the buffers, the byte after them, and what is left to read from
that byte on. -/
def skipSeparators : List (List UInt8) → List UInt8 × Option UInt8 × List (List UInt8)
  | [] => ([], none, [])
  | buffer :: rest =>
    match buffer.dropWhile isLineSeparator with
    | [] =>
      let (skipped, first, left) := skipSeparators rest
      (buffer ++ skipped, first, left)
    | b :: bs => (buffer.takeWhile isLineSeparator, some b, (b :: bs) :: rest)

/-- The dialect of a script, with a source that still yields all of it. Fails only if reading fails
before a byte that decides. -/
def sniff (s : Source) : Except IoError (Dialect × Source) :=
  match skipSeparators s.buffers, s.failure with
  | (_, none, _), some e => .error e
  | (skipped, first, left), failure => .ok (.ofFirst first, ⟨skipped :: left, failure⟩)

end Source
end ScriptedInput

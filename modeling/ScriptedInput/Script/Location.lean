import ScriptedInput.Script.Dialect

/-! Places in a script, and how a malformed script is reported. -/
namespace ScriptedInput

inductive Location where
  /-- Lines and columns count from 1, columns in bytes. -/
  | line (row column : Nat)
  /-- The command with this index, whose text had ended when `offset` bytes were read. -/
  | entry (index offset : Nat)
  | endOfInput
  deriving DecidableEq, Repr

def Location.message : Location → String
  | .line row column => s!"line {row}, column {column}"
  | .entry index offset => s!"command #{index} (ending at byte {offset})"
  | .endOfInput => "end of input"

def malformedMessage (dialect : Dialect) (location : Location) (reason : String) : String :=
  s!"{dialect.name} parse error at {location.message}: {reason}"

end ScriptedInput

import ScriptedInput.Backend.Uinput.Request

/-! The options of a replay, and how the arguments of the program spell them. -/
namespace ScriptedInput.CommandLine

def nodeVariable : String := "UIREPLAY_UINPUT"

structure Options where
  /-- The path of the script, or `-` for what is read from standard input. -/
  script : String
  /-- The node to create devices through. -/
  node : String := Uinput.defaultPath
  /-- Whether calls are only printed. -/
  dryRun : Bool := false
  deriving DecidableEq, Repr

inductive UsageError where
  | noScript
  | unexpected (argument : String)
  | noValue (option : String)
  | needlessValue (option : String)
  | repeated (option : String)
  deriving DecidableEq, Repr

def UsageError.message : UsageError → String
  | noScript => "a script is required"
  | unexpected argument => s!"unexpected argument {argument}"
  | noValue option => s!"{option} needs a value"
  | needlessValue option => s!"{option} takes no value"
  | repeated option => s!"{option} is given more than once"

inductive Word where
  /-- What follows are operands, whatever they look like. -/
  | terminator
  | option (name : String) (value : Option String)
  | operand (text : String)
  deriving DecidableEq, Repr

/-- Reads an argument: a dash makes it an option, unless nothing follows the dash. An equals sign in
a long option sets off its value. -/
def Word.ofString (s : String) : Word :=
  match s.toList with
  | ['-', '-'] => .terminator
  | '-' :: '-' :: _ =>
    let name := s.toList.takeWhile (· ≠ '=')
    match s.toList.drop name.length with
    | [] => .option (String.ofList name) none
    | _ :: value => .option (String.ofList name) (some (String.ofList value))
  | '-' :: _ :: _ => .option s none
  | _ => .operand s

structure Given where
  script : Option String := none
  node : Option String := none
  dryRun : Bool := false
  deriving DecidableEq, Repr

namespace Given

def operand (g : Given) (text : String) : Except UsageError Given :=
  match g.script with
  | none => .ok { g with script := some text }
  | some _ => .error (.unexpected text)

/-- Sets the node, once and not to an empty path. -/
def setNode (g : Given) (value : String) : Except UsageError Given :=
  if value.isEmpty then .error (.noValue "--uinput")
  else match g.node with
    | none => .ok { g with node := some value }
    | some _ => .error (.repeated "--uinput")

def setDryRun (g : Given) : Option String → Except UsageError Given
  | none => if g.dryRun then .error (.repeated "--dry-run") else .ok { g with dryRun := true }
  | some _ => .error (.needlessValue "--dry-run")

def operands (g : Given) : List String → Except UsageError Given
  | [] => .ok g
  | text :: rest => do (← g.operand text).operands rest

/-- Reads arguments. The value of an option may be an argument of its own, if it is an operand. -/
def read (g : Given) : List String → Except UsageError Given
  | [] => .ok g
  | word :: rest =>
    match Word.ofString word with
    | .terminator => g.operands rest
    | .operand text => do (← g.operand text).read rest
    | .option name value =>
      if name = "--dry-run" then do (← g.setDryRun value).read rest
      else if name = "--uinput" then
        match value, rest with
        | some value, rest => do (← g.setNode value).read rest
        | none, [] => .error (.noValue name)
        | none, next :: rest =>
          match Word.ofString next with
          | .operand value => do (← g.setNode value).read rest
          | _ => .error (.noValue name)
      else .error (.unexpected word)

end Given

def Options.ofArguments (environment : Option String) (arguments : List String) :
    Except UsageError Options := do
  let given ← Given.read {} arguments
  let given ← match given.node, environment with
    | none, some value => given.setNode value
    | _, _ => .ok given
  match given.script with
  | none => .error .noScript
  | some script =>
    return { script, node := given.node.getD Uinput.defaultPath, dryRun := given.dryRun }

end ScriptedInput.CommandLine

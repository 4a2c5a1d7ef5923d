import ScriptedInput.Backend.Trace
import ScriptedInput.Backend.Uinput.Handle
import ScriptedInput.CommandLine.Options
import ScriptedInput.Script.Reading
import ScriptedInput.Session

/-! The program as a whole: from its arguments and what is found around it to what it prints, how
long it sleeps and how it ends. -/
namespace ScriptedInput.CommandLine

structure Surroundings where
  /-- The value of the variable that names the node. -/
  environment : Option String
  /-- What standard input gives. -/
  input : Source
  /-- What opening a file for reading gives. -/
  file : String → Except IoError Source
  /-- The node at a path, which perhaps cannot be opened. -/
  node : String → Uinput.Node

inductive Failure where
  | usage (error : UsageError)
  | notOpened (script : String) (error : IoError)
  | notRead (error : IoError)
  | replay (error : ReplayError)
  deriving DecidableEq, Repr

namespace Failure

def exitCode : Failure → Nat
  | usage _ => 2
  | _ => 1

def message : Failure → String
  | usage error => error.message
  | notOpened script _ => s!"failed to open script {script}"
  | notRead _ => "failed to read script"
  | replay error => error.message

def causes : Failure → List String
  | usage _ => []
  | notOpened _ error => [error.message]
  | notRead error => [error.message]
  | replay error => error.causes

/-- Causes on a line each, numbered if there are several. -/
def causeLines : List String → List String
  | [] => []
  | [cause] => ["", "Caused by:", "    " ++ cause]
  | causes => "" :: "Caused by:" :: causes.mapIdx (fun n cause => s!"    {n}: {cause}")

def report (f : Failure) : String :=
  String.join ((("Error: " ++ f.message) :: causeLines f.causes).map (· ++ "\n"))

end Failure

inductive Step where
  | output (bytes : List UInt8)
  | sleep (millis : Nat)
  deriving DecidableEq, Repr

structure Run where
  steps : List Step := []
  failure : Option Failure := none
  deriving DecidableEq, Repr

namespace Run

def exitCode (r : Run) : Nat :=
  match r.failure with
  | none => 0
  | some f => f.exitCode

def output (r : Run) : List UInt8 :=
  r.steps.flatMap (fun
    | .output bytes => bytes
    | .sleep _ => [])

end Run

def Step.ofEntry? {ε : Type} (printed : ε → List UInt8) : Entry ε → Option Step
  | .effect e => some (.output (printed e))
  | .slept millis => some (.sleep millis)
  | _ => none

def reportLine : Uinput.Effect → List UInt8
  | .report r => r.json.line
  | _ => []

def replay {σ η ε : Type} (b : Backend σ η ε) (backend : σ) (printed : ε → List UInt8)
    (s : Script) : Run :=
  let done := (Session.runFeed b s.feed).run { backend }
  let steps := done.log.filterMap (Step.ofEntry? printed)
  match done.answer with
  | .ok () => { steps }
  | .error e => { steps, failure := some (.replay e) }

def Options.source (o : Options) (around : Surroundings) : Except Failure Source :=
  if o.script = "-" then .ok around.input
  else (around.file o.script).mapError (.notOpened o.script)

def run (around : Surroundings) (arguments : List String) : Run :=
  match Options.ofArguments around.environment arguments with
  | .error e => { failure := some (.usage e) }
  | .ok options =>
    match options.source around with
    | .error failure => { failure }
    | .ok source =>
      match Script.openSource source with
      | .error e => { failure := some (.notRead e) }
      | .ok (_, script) =>
        if options.dryRun then replay tracer {} (fun line => line) script
        else replay uinput (around.node options.node) reportLine script

end ScriptedInput.CommandLine

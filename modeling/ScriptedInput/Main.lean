import ScriptedInput.CommandLine.Replay

/-! The program: gathers what a run needs, then takes the steps of the run. -/
namespace ScriptedInput.CommandLine

def systemError : IO.Error → IoError
  | .alreadyExists _ n _ => .os n.toNat
  | .otherError n _ => .os n.toNat
  | .resourceBusy n _ => .os n.toNat
  | .resourceVanished n _ => .os n.toNat
  | .unsupportedOperation n _ => .os n.toNat
  | .hardwareFault n _ => .os n.toNat
  | .unsatisfiedConstraints n _ => .os n.toNat
  | .illegalOperation n _ => .os n.toNat
  | .protocolError n _ => .os n.toNat
  | .timeExpired n _ => .os n.toNat
  | .interrupted _ n _ => .os n.toNat
  | .noFileOrDirectory _ n _ => .os n.toNat
  | .invalidArgument _ n _ => .os n.toNat
  | .permissionDenied _ n _ => .os n.toNat
  | .resourceExhausted _ n _ => .os n.toNat
  | .inappropriateType _ n _ => .os n.toNat
  | .noSuchThing _ n _ => .os n.toNat
  | .unexpectedEof => .custom "unexpected end of file"
  | .userError text => .custom text

/-- Reads a stream to its end or to its first failure. -/
partial def readAll (stream : IO.FS.Stream) (buffers : List (List UInt8)) : IO Source := do
  match ← (stream.read 8192).toBaseIO with
  | .error e => return ⟨buffers.reverse, some (systemError e)⟩
  | .ok bytes =>
    if bytes.isEmpty then return ⟨buffers.reverse, none⟩
    else readAll stream (bytes.toList :: buffers)

def readFile (path : String) : IO (Except IoError Source) := do
  match ← (IO.FS.Handle.mk path .read).toBaseIO with
  | .error e => return .error (systemError e)
  | .ok handle => return .ok (← readAll (.ofHandle handle) [])

/-- Tries to open a node. One that opens is no more than a file here, and makes no devices. -/
def findNode (path : String) : IO Uinput.Node := do
  match ← (IO.FS.Handle.mk path .readWrite).toBaseIO with
  | .ok _ => return { faults := fun _ _ => some noSuchRequest }
  | .error e =>
    match systemError e with
    | .os errno => return { openFailure := some errno }
    | _ => return { openFailure := some 0 }
where
  noSuchRequest : Nat := 25

/-- Gathers what a run needs. Only the script and the node that the options name are looked at. -/
def lookAround (arguments : List String) : IO Surroundings := do
  let environment ← IO.getEnv nodeVariable
  match Options.ofArguments environment arguments with
  | .error _ =>
    return { environment, input := nothing, file := fun _ => .ok nothing, node := fun _ => {} }
  | .ok options =>
    let input ← if options.script = "-" then readAll (← IO.getStdin) [] else pure nothing
    let file ← if options.script = "-" then pure (.ok nothing) else readFile options.script
    let node ← if options.dryRun then pure {} else findNode options.node
    return { environment, input, file := fun _ => file, node := fun _ => node }
where
  nothing : Source := ⟨[], none⟩

def take (step : Step) : IO Unit := do
  match step with
  | .sleep millis => IO.sleep (UInt32.ofNat millis)
  | .output bytes =>
    let stdout ← IO.getStdout
    stdout.write ⟨bytes.toArray⟩
    stdout.flush

def runProgram (arguments : List String) : IO UInt32 := do
  let run := run (← lookAround arguments) arguments
  for step in run.steps do take step
  match run.failure with
  | none => pure ()
  | some failure => IO.eprint failure.report
  return UInt32.ofNat run.exitCode

end ScriptedInput.CommandLine

def main (arguments : List String) : IO UInt32 :=
  ScriptedInput.CommandLine.runProgram arguments

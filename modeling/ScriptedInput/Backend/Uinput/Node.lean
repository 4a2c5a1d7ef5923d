import ScriptedInput.Act
import ScriptedInput.Backend.Uinput.Request
import ScriptedInput.Device.Error
import ScriptedInput.Json.Printer
import ScriptedInput.Json.Value

/-! A uinput node as the replay meets it: the results that its system calls will have, and what is
done to it. -/
namespace ScriptedInput.Uinput

def interrupted : Nat := 4
def tryAgain : Nat := 11

inductive ReadResult where
  /-- A whole event record. -/
  | event (e : RawEvent)
  /-- Fewer bytes than a record has. -/
  | short (count : Nat)
  | error (errno : Nat)
  deriving DecidableEq, Repr

inductive WriteResult where
  /-- At most so many bytes are taken. -/
  | accept (count : Nat)
  | error (errno : Nat)
  deriving DecidableEq, Repr

/-- A node that answers as scripted. When the results run out, reads find nothing to read and writes
take everything. All devices created through the node share it. -/
structure Node where
  openFailure : Option Nat := none
  reads : List ReadResult := []
  writes : List WriteResult := []
  /-- The error number with which the nth use of a request fails, counting from 0. -/
  faults : Request → Nat → Option Nat := fun _ _ => none
  /-- How often each request was used. -/
  used : Request → Nat := fun _ => 0
  /-- The effects that begun uploads and erasures are for. -/
  effects : List Int := []

inductive Report where
  /-- A barrier was reached. -/
  | sync (id : DeviceId) (token : String)
  /-- An effect is to start or to stop. -/
  | vibrating (id : DeviceId) (effect : UInt16) (status : Bool)
  deriving DecidableEq, Repr

def Report.json : Report → Json.Value
  | .sync id token =>
    .ofMembers [
      ("reason", .string "sync"), ("id", .int id.toInt), ("syncToken", .string token)]
  | .vibrating id effect status =>
    .ofMembers [
      ("reason", .string "vibrating"), ("id", .int id.toInt), ("effect", .int effect.toNat),
      ("status", .bool status)]

inductive Effect where
  | request (r : Request) (argument : Argument) (errno : Option Nat)
  | wrote (bytes : List UInt8)
  | writeFailed (errno : Nat)
  | report (r : Report)
  /-- A device could not be destroyed. -/
  | destroyFailed (id : DeviceId) (error : BackendError)
  deriving DecidableEq, Repr

def destroyFailureMessage (id : DeviceId) (error : BackendError) : String :=
  s!"Device {id}: {error.message}"

namespace Node

def request (r : Request) (argument : Argument) : Act Node Effect (Except BackendError Unit) := do
  let n ← Act.get
  let uses := n.used r
  let errno := n.faults r uses
  Act.set { n with used := fun q => if q = r then uses + 1 else n.used q }
  Act.log (.request r argument errno)
  return match errno with
    | none => .ok ()
    | some e => .error (.os r.name (.os e))

def requestAll : List (Request × Argument) → Act Node Effect (Except BackendError Unit)
  | [] => return .ok ()
  | (r, argument) :: rest => do
    match ← request r argument with
    | .ok () => requestAll rest
    | .error e => return .error e

def requestEffect (r : Request) (f : Feedback) : Act Node Effect (Except BackendError Int) := do
  match ← request r (.feedback f) with
  | .error e => return .error e
  | .ok () =>
    let n ← Act.get
    Act.set { n with effects := n.effects.tail }
    return .ok (n.effects.headD 0)

/-- Writes all bytes, with as many writes as that takes. An interrupted write is made again; one
that takes nothing is a failure. -/
def writeFrom (bytes : List UInt8) (writes : List WriteResult) :
    Act Node Effect (Except BackendError Unit) :=
  if bytes.isEmpty then do
    Act.modify (fun n => { n with writes })
    return .ok ()
  else match writes with
    | [] => do
      Act.modify (fun n => { n with writes := [] })
      Act.log (.wrote bytes)
      return .ok ()
    | .error errno :: rest => do
      Act.log (.writeFailed errno)
      if errno = interrupted then writeFrom bytes rest
      else
        Act.modify (fun n => { n with writes := rest })
        return .error (.os "write uinput" (.os errno))
    | .accept count :: rest => do
      Act.log (.wrote (bytes.take count))
      if count = 0 then
        Act.modify (fun n => { n with writes := rest })
        return .error (.os "write uinput" .writeCutShort)
      else writeFrom (bytes.drop count) rest

def writeAll (bytes : List UInt8) : Act Node Effect (Except BackendError Unit) := do
  writeFrom bytes (← Act.get).writes

end Node
end ScriptedInput.Uinput

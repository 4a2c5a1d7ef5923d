import ScriptedInput.Backend.Call
import ScriptedInput.Json.Printer
import ScriptedInput.Json.Registration
import ScriptedInput.Text.Utf8

/-! A back end that writes each call as a line of JSON, so that a script can be tried out without
creating devices. -/
namespace ScriptedInput

/-- A call as a JSON object. A call made during a wait says nothing new and has none. -/
def Call.json? : Call → Option Json.Value
  | .create id r =>
    some (.ofMembers [("call", .string "create"), ("id", .int id.toInt), ("registration", r.json)])
  | .inject id events =>
    some (.ofMembers [
      ("call", .string "inject"), ("id", .int id.toInt), ("events", .array (events.map (·.json)))])
  | .delay id millis =>
    some (.ofMembers [
      ("call", .string "delay"), ("id", .int id.toInt), ("millis", .int millis.toNat)])
  | .idle _ => none
  | .sync id token =>
    some (.ofMembers [
      ("call", .string "sync"), ("id", .int id.toInt), ("syncToken", .string token)])
  | .close id => some (.ofMembers [("call", .string "close"), ("id", .int id.toInt)])

def Json.Value.line (v : Json.Value) : List UInt8 := Text.encode v.compact ++ [10]

namespace Trace

/-- What takes the lines: it may have room for so many more bytes only, and may fail to flush from
some flush on. -/
structure Sink where
  room : Option Nat := none
  flushes : Nat := 0
  flushFailure : Option Nat := none
  deriving DecidableEq, Repr

def Sink.accepts (s : Sink) (line : List UInt8) : List UInt8 :=
  match s.room with
  | none => line
  | some room => line.take room

/-- Writes a line and flushes it. The effects are the bytes the sink took. -/
def write (line : List UInt8) : Act Sink (List UInt8) (Except BackendError Unit) := do
  let s ← Act.get
  let taken := s.accepts line
  Act.log taken
  Act.set { s with room := s.room.map (· - taken.length) }
  if taken.length < line.length then
    return .error (.os "trace" (.custom "sink full"))
  else
    Act.modify (fun s => { s with flushes := s.flushes + 1 })
    match s.flushFailure with
    | some n =>
      if n ≤ s.flushes then return .error (.os "trace" (.custom "flush failed")) else return .ok ()
    | none => return .ok ()

def emit (c : Call) : Act Sink (List UInt8) (Except BackendError Unit) :=
  match c.json? with
  | none => return .ok ()
  | some v => write v.line

end Trace

/-- The tracing back end. Its handles are the numbers of the devices. -/
def tracer : Backend Trace.Sink DeviceId (List UInt8) where
  create id r := do return (← Trace.emit (.create id r)).map (fun _ => id)
  inject id events := Trace.emit (.inject id events)
  delay id millis := Trace.emit (.delay id millis)
  idle id := Trace.emit (.idle id)
  sync id token := Trace.emit (.sync id token)
  close id := do return (← Trace.emit (.close id), id)

end ScriptedInput

import ScriptedInput.Script.CommandStream
import ScriptedInput.Script.Recording

/-! Reading a script of either dialect event by event, and the whole of what it gives. -/
namespace ScriptedInput

inductive Script where
  | commands (s : CommandStream)
  | recording (r : Recording)

namespace Script

def ofSource : Dialect → Source → Script
  | .json, s => .commands (.ofSource s)
  | .evemu, s => .recording (.ofSource s)

def openSource (s : Source) : Except IoError (Dialect × Script) :=
  s.sniff.map (fun (dialect, s) => (dialect, ofSource dialect s))

def next : Script → Outcome × Script
  | commands s => let (o, s) := s.next; (o, commands s)
  | recording r => let (o, r) := r.next; (o, recording r)

def size : Script → Nat × Nat
  | commands s => s.size
  | recording r => r.size

private theorem size_lt_of_next {s t : Script} {d : Delivery} (h : s.next = (.event d, t)) :
    Prod.Lex (· < ·) (· < ·) t.size s.size := by
  cases s with
  | commands s =>
    obtain ⟨ho, rfl⟩ := Prod.mk.inj h
    exact CommandStream.size_lt_of_next (Prod.ext ho rfl)
  | recording r =>
    obtain ⟨ho, rfl⟩ := Prod.mk.inj h
    exact Recording.size_lt_of_next (Prod.ext ho rfl)

def feed (s : Script) : Feed :=
  match _ : s.next with
  | (.event d, rest) =>
    let after := feed rest
    { after with deliveries := d :: after.deliveries }
  | (.ended, _) => ⟨[], none⟩
  | (.failed e, _) => ⟨[], some e⟩
  termination_by s.size
  decreasing_by exact size_lt_of_next ‹_›

def events (s : Script) : Except ParseError (List Event) :=
  match s.feed.failure with
  | none => .ok s.feed.events
  | some e => .error e

end Script
end ScriptedInput

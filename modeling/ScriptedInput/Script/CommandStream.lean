import ScriptedInput.Json.Reader
import ScriptedInput.Script.CommandReader
import ScriptedInput.Script.ParseError
import ScriptedInput.Script.Outcome
import ScriptedInput.Script.Source

/-! Replaying a stream of JSON commands. A value of the stream is one command, or an array of
commands that are given one by one. -/
namespace ScriptedInput

structure CommandStream where
  cursor : Json.Cursor
  failure : Option IoError
  /-- Commands of an array that have not been given yet. -/
  pending : List Json.Value := []
  /-- How many commands have been asked for. -/
  index : Nat := 0
  done : Bool := false

namespace CommandStream

def ofSource (s : Source) : CommandStream :=
  { cursor := { bytes := s.bytes }, failure := s.failure }

def finished (s : CommandStream) : CommandStream := { s with done := true, pending := [] }

/-- The next command of a stream as a value. Arrays are opened; empty ones are passed over. -/
def nextValue (s : CommandStream) : Except ParseError (Option Json.Value) × CommandStream :=
  match s.pending with
  | v :: rest => (.ok (some v), { s with pending := rest })
  | [] =>
    if s.done then (.ok none, s)
    else match _ : Json.pull s.failure s.cursor with
      | .finished => (.ok none, s.finished)
      | .failed e => (.error (.io e), s.finished)
      | .unfinished what => (.error (.malformed .endOfInput (.unfinished what)), s.finished)
      | .fault f p => (.error (.malformed (.line p.row p.column) (.grammar f)), s.finished)
      | .value (.array []) rest => nextValue { s with cursor := rest }
      | .value (.array (v :: vs)) rest => (.ok (some v), { s with cursor := rest, pending := vs })
      | .value v rest => (.ok (some v), { s with cursor := rest })
  termination_by s.cursor.bytes.length
  decreasing_by exact Json.length_lt_of_pull ‹_›

/-- The next event of a stream. A fault is located at the end of the text that was read for the
command, and ends the stream. -/
def next (s : CommandStream) : Outcome × CommandStream :=
  match s.nextValue with
  | (.error e, s) => (.failed e, s)
  | (.ok none, s) => (.ended, s)
  | (.ok (some v), s) =>
    match Event.ofValue v with
    | .ok e => (.event { event := e }, { s with index := s.index + 1 })
    | .error f =>
      (.failed (.malformed (.entry s.index s.cursor.position.offset) (.command f)),
        { s.finished with index := s.index + 1 })

/-- How much of a stream there is still to give: bytes to read first, then commands that wait. -/
def size (s : CommandStream) : Nat × Nat := (s.cursor.bytes.length, s.pending.length)

/-- A value that was given is no longer there to be given. -/
private theorem size_lt_of_nextValue {s t : CommandStream} {v : Json.Value}
    (h : s.nextValue = (.ok (some v), t)) : Prod.Lex (· < ·) (· < ·) t.size s.size := by
  fun_induction nextValue s with
  | case1 s v rest hp =>
    obtain ⟨-, rfl⟩ := Prod.mk.inj h
    simp [Prod.lex_def, size, hp]
  | case7 s _ _ rest hr ih =>
    have := Json.length_lt_of_pull hr
    have := ih h
    simp only [Prod.lex_def, size] at this ⊢
    omega
  | case8 | case9 =>
    have := Json.length_lt_of_pull ‹_›
    obtain ⟨-, rfl⟩ := Prod.mk.inj h
    simp [Prod.lex_def, size, this]
  | _ => simp at h

theorem size_lt_of_next {s t : CommandStream} {d : Delivery} (h : s.next = (.event d, t)) :
    Prod.Lex (· < ·) (· < ·) t.size s.size := by
  unfold next at h
  split at h
  · simp at h
  · simp at h
  · next hv =>
    split at h
    · obtain ⟨-, rfl⟩ := Prod.mk.inj h
      have := size_lt_of_nextValue hv
      exact this
    · simp at h

end CommandStream
end ScriptedInput

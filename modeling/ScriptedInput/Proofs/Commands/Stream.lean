import ScriptedInput.Proofs.Script.Feed

/-! A stream of commands between two of its values. Reading a value puts its commands before what
follows, whether it is an array of them or a single one. -/
namespace ScriptedInput

/-- The commands in a value of a stream: the items of an array, else the value itself. -/
def Json.Value.commands : Json.Value → List Json.Value
  | .array items => items
  | v => [v]

namespace CommandStream
variable {s t : CommandStream}

/-- A stream that stands between two of its values. -/
structure Ready (s : CommandStream) : Prop where
  pending : s.pending = []
  going : s.done = false

theorem nextValue_pending {v : Json.Value} {vs : List Json.Value} (h : s.pending = v :: vs) :
    s.nextValue = (.ok (some v), { s with pending := vs }) := by
  rw [nextValue, h]

/-- What a stream gives next, by what comes next in its text. -/
theorem Ready.nextValue_eq (h : s.Ready) :
    s.nextValue =
      match Json.pull s.failure s.cursor with
      | .finished => (.ok none, s.finished)
      | .failed e => (.error (.io e), s.finished)
      | .unfinished what => (.error (.malformed .endOfInput (.unfinished what)), s.finished)
      | .fault f p => (.error (.malformed (.line p.row p.column) (.grammar f)), s.finished)
      | .value v rest =>
        ({ s with cursor := rest, pending := v.commands } : CommandStream).nextValue := by
  obtain ⟨cursor, failure, pending, index, done⟩ := s
  obtain ⟨rfl, rfl⟩ : pending = [] ∧ done = false := ⟨h.pending, h.going⟩
  conv => lhs; rw [nextValue]
  simp only [Bool.false_eq_true, if_false]
  split
  · next hp => rw [hp]
  · next hp => rw [hp]
  · next hp => rw [hp]
  · next hp => rw [hp]
  · next hp =>
    rw [hp]
    rfl
  · next v vs rest hp =>
    rw [hp]
    symm
    apply nextValue_pending
    rfl
  · next v rest empty items hp =>
    rw [hp]
    have single : v.commands = [v] := by
      cases v with
      | array vs => cases vs <;> simp_all
      | _ => rfl
    dsimp only
    rw [single]
    symm
    apply nextValue_pending
    rfl

private theorem next_congr (h : s.nextValue = t.nextValue) : s.next = t.next := by
  rw [next, next, h]

private theorem feed_congr (h : s.nextValue = t.nextValue) :
    (Script.commands s).feed = (Script.commands t).feed := by
  have same : (Script.commands s).next = (Script.commands t).next := by
    rw [Script.next, Script.next, next_congr h]
  rcases hs : (Script.commands s).next with ⟨d | _ | e, u⟩
  · rw [Script.feed_event hs, Script.feed_event (same.symm.trans hs)]
  · rw [Script.feed_ended hs, Script.feed_ended (same.symm.trans hs)]
  · rw [Script.feed_failed hs, Script.feed_failed (same.symm.trans hs)]

/-- What a stream gives in all. After a value has been read its commands come next. -/
theorem Ready.feed_eq (h : s.Ready) :
    (Script.commands s).feed =
      match Json.pull s.failure s.cursor with
      | .finished => ⟨[], none⟩
      | .failed e => ⟨[], some (.io e)⟩
      | .unfinished what => ⟨[], some (.malformed .endOfInput (.unfinished what))⟩
      | .fault f p => ⟨[], some (.malformed (.line p.row p.column) (.grammar f))⟩
      | .value v rest =>
        (Script.commands { s with cursor := rest, pending := v.commands }).feed := by
  have value := h.nextValue_eq
  cases hp : Json.pull s.failure s.cursor with
  | value v rest =>
    rw [hp] at value
    exact feed_congr value
  | finished =>
    rw [hp] at value
    apply Script.feed_ended (t := .commands s.finished)
    rw [Script.next, next, value]
  | failed | fault | unfinished =>
    rw [hp] at value
    apply Script.feed_failed (t := .commands s.finished)
    rw [Script.next, next, value]

/-- Where no value comes next, nothing more is given. -/
theorem Ready.feed_none (h : s.Ready) (none : ∀ v rest, Json.pull s.failure s.cursor ≠ .value v rest) :
    (Script.commands s).feed.deliveries = [] := by
  rw [h.feed_eq]
  cases hp : Json.pull s.failure s.cursor with
  | value v rest => exact absurd hp (none v rest)
  | finished | failed | fault | unfinished => rfl

end CommandStream
end ScriptedInput

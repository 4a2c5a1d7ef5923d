import ScriptedInput.Proofs.Commands.Stream
import ScriptedInput.Proofs.Json.Cut
import ScriptedInput.Proofs.Script.Pieces

/-! A stream of commands piece by piece, one for each of its values, and what is left of it where
reading fails. -/
namespace ScriptedInput

open Json (Value Cursor)

namespace CommandStream

/-- What commands tell: their events up to the first that is at fault, and that fault. -/
def tell : List Value → List Event × Option CommandFault
  | [] => ([], none)
  | v :: vs =>
    match Event.ofValue v with
    | .error f => ([], some f)
    | .ok e => let (events, fault) := tell vs; (e :: events, fault)

/-- The values of a text, each with what its commands tell and where it ends, up to one with a fault. -/
def pieces (c : Cursor) : List Piece :=
  match _ : Json.pull none c with
  | .value v rest =>
    ⟨(tell v.commands).1, some rest.position.offset⟩ ::
      if (tell v.commands).2.isSome then [] else pieces rest
  | .finished | .failed _ | .unfinished _ | .fault _ _ => []
  termination_by c.bytes.length
  decreasing_by exact Json.length_lt_of_pull ‹_›

theorem tell_scalar {v : Value} (h : v.IsScalar) : ∃ f, tell v.commands = ([], some f) := by
  cases v with
  | array items => exact h.elim
  | object members => exact h.elim
  | null | bool | number | string => exact ⟨_, rfl⟩

private theorem pieces_value {c rest : Cursor} {v : Value} (h : Json.pull none c = .value v rest) :
    pieces c = ⟨(tell v.commands).1, some rest.position.offset⟩ ::
      if (tell v.commands).2.isSome then [] else pieces rest := by
  rw [pieces]
  split <;> simp_all

private theorem pieces_nil {c : Cursor} (h : ∀ v rest, Json.pull none c ≠ .value v rest) :
    pieces c = [] := by
  rw [pieces]
  split <;> simp_all

/-- Pieces end behind where they are read from. -/
private theorem le_of_mem_pieces {c : Cursor} :
    ∀ p ∈ pieces c, ∀ m, p.stop = some m → c.position.offset ≤ m := by
  fun_induction pieces c with
  | case1 c v rest pulled ih =>
    have forward := Json.offset_le_of_pull pulled
    intro p hp m hm
    rcases List.mem_cons.mp hp with rfl | later
    · obtain rfl : rest.position.offset = m := by simpa using hm
      exact forward
    · split at later
      · simp at later
      · exact Nat.le_trans forward (ih p later m hm)
  | _ => simp

def underway (failure : Option IoError) (c : Cursor) (index : Nat) : CommandStream :=
  { cursor := c, failure, index }

theorem feed_underway (failure : Option IoError) (c : Cursor) (index : Nat) :
    (Script.commands (underway failure c index)).feed =
      match Json.pull failure c with
      | .finished => ⟨[], none⟩
      | .failed e => ⟨[], some (.io e)⟩
      | .unfinished what => ⟨[], some (.malformed .endOfInput (.unfinished what))⟩
      | .fault f p => ⟨[], some (.malformed (.line p.row p.column) (.grammar f))⟩
      | .value v rest =>
        (Script.commands { underway failure rest index with pending := v.commands }).feed :=
  Ready.feed_eq (s := underway failure c index) ⟨rfl, rfl⟩

/-- What follows the events that commands tell: more of the stream, or else the report of the fault. -/
def afterTold (failure : Option IoError) (c : Cursor) (index : Nat) :
    List Event × Option CommandFault → Feed
  | (events, none) => (Script.commands (underway failure c (index + events.length))).feed
  | (events, some f) =>
    ⟨[], some (.malformed (.entry (index + events.length) c.position.offset) (.command f))⟩

private theorem afterTold_cons (failure : Option IoError) (c : Cursor) (index : Nat) (e : Event)
    (events : List Event) (fault : Option CommandFault) :
    afterTold failure c index (e :: events, fault) =
      afterTold failure c (index + 1) (events, fault) := by
  have count : index + (e :: events).length = index + 1 + events.length := by
    rw [List.length_cons]
    omega
  cases fault <;> simp only [afterTold, count]

/-- Commands that wait are given first, up to one that is at fault. -/
private theorem feed_waiting (failure : Option IoError) (c : Cursor) (index : Nat) (vs : List Value) :
    Feed.Adds (tell vs).1 (afterTold failure c index (tell vs))
      (Script.commands { underway failure c index with pending := vs }).feed := by
  induction vs generalizing index with
  | nil => exact ⟨rfl, rfl⟩
  | cons v vs ih =>
    have value : nextValue { underway failure c index with pending := v :: vs } =
        (.ok (some v), { underway failure c index with pending := vs }) := by
      apply nextValue_pending
      rfl
    cases read : Event.ofValue v with
    | error f =>
      have told : tell (v :: vs) = ([], some f) := by rw [tell, read]
      have step : (Script.commands { underway failure c index with pending := v :: vs }).next =
          (.failed (.malformed (.entry index c.position.offset) (.command f)),
            .commands { finished (underway failure c index) with index := index + 1 }) := by
        rw [Script.next, next, value]
        simp only [read]
        rfl
      rw [told, Script.feed_failed step]
      exact ⟨rfl, rfl⟩
    | ok e =>
      have told : tell (v :: vs) = (e :: (tell vs).1, (tell vs).2) := by rw [tell, read]
      have step : (Script.commands { underway failure c index with pending := v :: vs }).next =
          (.event { event := e },
            .commands { underway failure c (index + 1) with pending := vs }) := by
        rw [Script.next, next, value]
        simp only [read]
        rfl
      obtain ⟨events, ending⟩ := ih (index + 1)
      rw [told, afterTold_cons, Script.feed_event step]
      exact ⟨congrArg (e :: ·) events, ending⟩

/-- After a value has been read comes what its commands tell. -/
theorem feed_value {failure : Option IoError} {c rest : Cursor} {v : Value} (index : Nat)
    (pulled : Json.pull failure c = .value v rest) :
    Feed.Adds (tell v.commands).1 (afterTold failure rest index (tell v.commands))
      (Script.commands (underway failure c index)).feed := by
  rw [feed_underway, pulled]
  exact feed_waiting failure rest index v.commands

/-- The events of a stream that can be read to its end are those of its pieces. -/
private theorem feed_pieces (c : Cursor) (index : Nat) :
    (Script.commands (underway none c index)).feed.events = (pieces c).flatMap (·.events) := by
  induction hn : c.bytes.length using Nat.strongRecOn generalizing c index with
  | _ n ih =>
    by_cases more : ∃ v rest, Json.pull none c = .value v rest
    · obtain ⟨v, rest, pulled⟩ := more
      rw [(feed_value index pulled).events_eq, pieces_value pulled, List.flatMap_cons]
      congr 1
      rcases tell v.commands with ⟨events, _ | f⟩
      · exact ih _ (hn ▸ Json.length_lt_of_pull pulled) rest _ rfl
      · rfl
    · simp only [not_exists] at more
      rw [pieces_nil more, feed_underway]
      cases hp : Json.pull none c with
      | value v rest => exact absurd hp (more v rest)
      | finished | failed | fault | unfinished => rfl

/-- Where a value ends too late or is a scalar, nothing is complete that has any events. -/
private theorem silent_of_late {n : Nat} {c : Cursor}
    (late : ∀ v rest, Json.pull none c = .value v rest → v.IsScalar ∨ n < rest.position.offset) :
    ∀ p ∈ pieces c, p.endsBy n → p.events = [] := by
  intro p hp ends
  obtain ⟨m, stop, within⟩ := Piece.endsBy_iff.mp ends
  by_cases more : ∃ v rest, Json.pull none c = .value v rest
  · obtain ⟨v, rest, pulled⟩ := more
    rw [pieces_value pulled] at hp
    rcases late v rest pulled with scalar | behind
    · obtain ⟨f, told⟩ := tell_scalar scalar
      obtain rfl : p = ⟨[], some rest.position.offset⟩ := by simpa [told] using hp
      rfl
    · have far : rest.position.offset ≤ m := by
        rcases List.mem_cons.mp hp with rfl | later
        · exact Nat.le_of_eq (Option.some.inj stop)
        · split at later
          · simp at later
          · exact le_of_mem_pieces p later m stop
      omega
  · simp only [not_exists] at more
    simp [pieces_nil more] at hp

/-- Cutting a text off takes away what its end has told, and nothing else. -/
theorem cutOff_underway {n : Nat} (e : IoError) {c : Cursor} (within : c.position.offset ≤ n)
    (index : Nat) :
    CutOff n e (pieces c) (Script.commands (underway none c index)).feed
      (Script.commands (underway (some e) (c.upTo n) index)).feed := by
  induction hn : c.bytes.length using Nat.strongRecOn generalizing c index with
  | _ k ih =>
    have cut := Json.cutShort_pull e within
    generalize hw : Json.pull none c = whole at cut
    generalize hs : Json.pull (some e) (c.upTo n) = short at cut
    cases cut with
    | @value v rest inside =>
      have given := feed_value index hw
      have given' := feed_value index hs
      rw [pieces_value hw]
      rcases told : tell v.commands with ⟨events, _ | f⟩
      · rw [told] at given given'
        have shorter : rest.bytes.length < k := hn ▸ Json.length_lt_of_pull hw
        have later := ih _ shorter inside (index + events.length) rfl
        exact later.cons (by simpa [Piece.endsBy] using inside) given given'
      · rw [told] at given given'
        apply CutOff.unharmed
        · rw [given.events_eq]
          rfl
        · simpa [Piece.endsBy] using inside
        · rw [given.failure_eq]
          rfl
        · rw [given.events_eq, given'.events_eq]
          rfl
        · rw [given.failure_eq, given'.failure_eq]
          rfl
    | fault f p =>
      have none : pieces c = [] := pieces_nil fun v rest pulled => by rw [hw] at pulled; cases pulled
      rw [none, feed_underway, feed_underway, hw, hs]
      exact .unharmed rfl (by simp) rfl rfl rfl
    | failed late =>
      have all := feed_pieces c index
      rw [← hw] at late
      rw [feed_underway (some e), hs]
      exact .nothing all rfl (silent_of_late late) rfl

end CommandStream
end ScriptedInput

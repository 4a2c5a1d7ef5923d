import ScriptedInput.Proofs.Commands.Stream
import ScriptedInput.Proofs.Recording.Feed

/-! Scripts that differ only in where their parts lie. Positions, offsets and line numbers are told
in warnings and in reports of faults, and change nothing else. -/
namespace ScriptedInput

/-- What keeps a script from being read to its end, wherever that is. -/
def ParseError.cause : ParseError → ScriptFault ⊕ IoError
  | .malformed _ fault => .inl fault
  | .io e => .inr e

/-- Two feeds with the same events that end in the same way, but perhaps in other places. -/
structure Feed.Alike (f g : Feed) : Prop where
  events : f.events = g.events
  cause : f.failure.map (·.cause) = g.failure.map (·.cause)

theorem Feed.Alike.refl (f : Feed) : f.Alike f := ⟨rfl, rfl⟩

theorem Feed.Alike.symm {f g : Feed} (h : f.Alike g) : g.Alike f := ⟨h.events.symm, h.cause.symm⟩

theorem Feed.Alike.trans {f g h : Feed} (fg : f.Alike g) (gh : g.Alike h) : f.Alike h :=
  ⟨fg.events.trans gh.events, fg.cause.trans gh.cause⟩

inductive ReadAlike {α : Type} (R : α → α → Prop) :
    Except ParseError α → Except ParseError α → Prop where
  | ok {a b : α} (same : R a b) : ReadAlike R (.ok a) (.ok b)
  | error {e e' : ParseError} (cause : e.cause = e'.cause) : ReadAlike R (.error e) (.error e')

namespace Json

inductive PullAlike : Pulled → Pulled → Prop where
  | value (v : Value) {c d : Cursor} (bytes : c.bytes = d.bytes) : PullAlike (.value v c) (.value v d)
  | finished : PullAlike .finished .finished
  | fault (f : Fault) (p q : Position) : PullAlike (.fault f p) (.fault f q)
  | unfinished (u : Unfinished) : PullAlike (.unfinished u) (.unfinished u)
  | failed (e : IoError) : PullAlike (.failed e) (.failed e)

/-- Pulling does not look at where the bytes lie. -/
private theorem pullFrom_alike (failure : Option IoError) (m : Machine) (p q : Position)
    (bytes : List UInt8) : PullAlike (pullFrom failure m p bytes) (pullFrom failure m q bytes) := by
  induction bytes generalizing m p q with
  | nil =>
    cases failure with
    | some e => exact .failed e
    | none =>
      rw [pullFrom, pullFrom]
      cases m.last with
      | nothing => exact .finished
      | value v => exact .value v rfl
      | fault f => exact .fault f p q
      | unfinished u => exact .unfinished u
  | cons b bs ih =>
    rw [pullFrom, pullFrom]
    cases m.step b with
    | next m => exact ih m _ _
    | value v => exact .value v rfl
    | before v => exact .value v rfl
    | fault f back => exact .fault f _ _

end Json

namespace CommandStream

structure Alike (s t : CommandStream) : Prop where
  bytes : s.cursor.bytes = t.cursor.bytes
  failure : s.failure = t.failure
  pending : s.pending = t.pending
  done : s.done = t.done

variable {s t : CommandStream}

private theorem Alike.pull (h : s.Alike t) :
    Json.PullAlike (Json.pull s.failure s.cursor) (Json.pull t.failure t.cursor) := by
  rw [Json.pull, Json.pull, h.failure, h.bytes]
  exact Json.pullFrom_alike _ _ _ _ _

private theorem Alike.finished (h : s.Alike t) : s.finished.Alike t.finished :=
  ⟨h.bytes, h.failure, rfl, rfl⟩

private theorem nextValue_over (pending : s.pending = []) (done : s.done = true) :
    s.nextValue = (.ok none, s) := by
  rw [nextValue, pending]
  simp only [done, if_true]

private theorem nextValue_alike (h : s.Alike t) :
    ReadAlike Eq s.nextValue.1 t.nextValue.1 ∧ s.nextValue.2.Alike t.nextValue.2 := by
  -- An empty array is passed over, and leaves fewer bytes.
  induction hn : s.cursor.bytes.length using Nat.strongRecOn generalizing s t with
  | _ n ih =>
    cases hp : s.pending with
    | cons v vs =>
      rw [nextValue_pending hp, nextValue_pending (h.pending ▸ hp)]
      exact ⟨.ok rfl, h.bytes, h.failure, rfl, h.done⟩
    | nil =>
      have hp' : t.pending = [] := h.pending ▸ hp
      cases hd : s.done with
      | true =>
        rw [nextValue_over hp hd, nextValue_over hp' (h.done ▸ hd)]
        exact ⟨.ok rfl, h⟩
      | false =>
        have ready : s.Ready := ⟨hp, hd⟩
        have ready' : t.Ready := ⟨hp', h.done ▸ hd⟩
        rw [ready.nextValue_eq, ready'.nextValue_eq]
        have pulled := h.pull
        generalize ht : Json.pull t.failure t.cursor = found' at pulled ⊢
        generalize hs : Json.pull s.failure s.cursor = found at pulled ⊢
        cases pulled with
        | @value v c c' bytes =>
          have fewer : c.bytes.length < n := hn ▸ Json.length_lt_of_pull hs
          exact ih _ fewer ⟨bytes, h.failure, rfl, h.done⟩ rfl
        | finished => exact ⟨.ok rfl, h.finished⟩
        | fault | unfinished | failed => exact ⟨.error rfl, h.finished⟩

inductive StepAlike : Outcome × CommandStream → Outcome × CommandStream → Prop where
  | event {d d' : Delivery} {s t : CommandStream} (same : d.event = d'.event) (later : s.Alike t) :
    StepAlike (.event d, s) (.event d', t)
  | ended {s t : CommandStream} : StepAlike (.ended, s) (.ended, t)
  | failed {e e' : ParseError} {s t : CommandStream} (cause : e.cause = e'.cause) :
    StepAlike (.failed e, s) (.failed e', t)

private theorem next_alike (h : s.Alike t) : StepAlike s.next t.next := by
  obtain ⟨value, later⟩ := nextValue_alike h
  rw [next, next]
  rcases hs : s.nextValue with ⟨r, s'⟩
  rcases ht : t.nextValue with ⟨r', t'⟩
  rw [hs, ht] at value later
  cases value with
  | error cause => exact .failed cause
  | @ok v _ same =>
    subst same
    cases v with
    | none => exact .ended
    | some v =>
      dsimp only
      cases Event.ofValue v with
      | error f => exact .failed rfl
      | ok e => exact .event rfl ⟨later.bytes, later.failure, later.pending, later.done⟩

/-- Streams with the same bytes to come give alike. -/
theorem feed_alike {s t : CommandStream} (h : s.Alike t) :
    (Script.commands s).feed.Alike (Script.commands t).feed := by
  have answers := next_alike h
  generalize ht : t.next = answer' at answers
  generalize hs : s.next = answer at answers
  have step {u v : CommandStream} {o : Outcome} (hu : u.next = (o, v)) :
      (Script.commands u).next = (o, .commands v) := by rw [Script.next, hu]
  cases answers with
  | @event d d' s' t' same later =>
    obtain ⟨events, cause⟩ := feed_alike later
    rw [Script.feed_event (step hs), Script.feed_event (step ht)]
    refine ⟨?_, cause⟩
    simp only [Feed.events, List.map_cons, same]
    exact congrArg _ events
  | ended =>
    rw [Script.feed_ended (step hs), Script.feed_ended (step ht)]
    exact .refl _
  | failed cause =>
    rw [Script.feed_failed (step hs), Script.feed_failed (step ht)]
    exact ⟨rfl, congrArg some cause⟩
  termination_by s.size
  decreasing_by exact size_lt_of_next hs

end CommandStream

def Line.Alike (l k : Line) : Prop := l.text = k.text

structure Lines.Alike (l k : Lines) : Prop where
  lines : List.Forall₂ Line.Alike l.lines k.lines
  failure : l.failure = k.failure

/-- Lines are read alike wherever they are counted from. -/
theorem Lines.number_alike (failure : Option IoError) (n m : Nat) (raws : List (List UInt8)) :
    (number failure n raws).Alike (number failure m raws) := by
  induction raws generalizing n m with
  | nil => exact ⟨.nil, rfl⟩
  | cons raw raws ih =>
    rw [number, number]
    cases Text.decode? raw with
    | none => exact ⟨.nil, rfl⟩
    | some s =>
      obtain ⟨lines, failure⟩ := ih (n + 1) (m + 1)
      dsimp only
      split
      · exact ⟨.cons rfl lines, failure⟩
      · exact ⟨lines, failure⟩

namespace Recording

private theorem step_alike (h : Header) {l k : Line} (same : l.Alike k) : h.step l = h.step k := by
  obtain ⟨n, text⟩ := l
  obtain ⟨m, _⟩ := k
  obtain rfl : text = _ := same
  rfl

private theorem eventOfLine_alike {l k : Line} (same : l.Alike k) : eventOfLine l = eventOfLine k := by
  obtain ⟨n, text⟩ := l
  obtain ⟨m, _⟩ := k
  obtain rfl : text = _ := same
  rfl

private theorem readHeader_alike (failure : Option IoError) (h : Header) {ls ks : List Line}
    (same : List.Forall₂ Line.Alike ls ks) :
    ReadAlike (fun a b => a.1 = b.1 ∧ List.Forall₂ Line.Alike a.2 b.2) (readHeader failure h ls)
      (readHeader failure h ks) := by
  induction same generalizing h with
  | nil =>
    cases failure with
    | some e => exact .error rfl
    | none =>
      rw [readHeader]
      cases h.registration with
      | ok r => exact .ok ⟨rfl, .nil⟩
      | error f => exact .error rfl
  | cons first later ih =>
    rw [readHeader, readHeader, step_alike h first]
    split
    · exact .error rfl
    · exact ih _
    · cases h.registration with
      | ok r => exact .ok ⟨rfl, .cons first later⟩
      | error f => exact .error rfl

private theorem addEvent_alike {begun begun' : Option EventFrame}
    (same : begun.map (·.timed) = begun'.map (·.timed)) (l k : Line) (e : TimedEvent) :
    (addEvent begun l e).timed = (addEvent begun' k e).timed := by
  cases begun <;> cases begun' <;> simp_all [addEvent, EventFrame.timed]

private theorem readFrames_alike (failure : Option IoError) {ls ks : List Line}
    (same : List.Forall₂ Line.Alike ls ks) (n m : Nat) (begun begun' : Option EventFrame)
    (started : begun.map (·.timed) = begun'.map (·.timed)) :
    (readFrames n failure begun ls).1.map (·.timed) =
        (readFrames m failure begun' ks).1.map (·.timed) ∧
      (readFrames n failure begun ls).2.map (·.cause) =
        (readFrames m failure begun' ks).2.map (·.cause) := by
  induction same generalizing begun begun' with
  | nil =>
    cases failure with
    | some e => exact ⟨rfl, rfl⟩
    | none =>
      rw [readFrames, readFrames]
      cases begun <;> cases begun' <;> simp_all [EventFrame.timed]
  | @cons l k ls ks first later ih =>
    rw [readFrames, readFrames, eventOfLine_alike first]
    cases eventOfLine k with
    | error f => exact ⟨rfl, rfl⟩
    | ok e =>
      have frame := addEvent_alike started l k e
      dsimp only
      split
      · obtain ⟨frames, cause⟩ := ih none none rfl
        refine ⟨?_, cause⟩
        rw [List.map_cons, List.map_cons, frame, frames]
      · exact ih _ _ (congrArg some frame)

/-- Recordings with the same lines give alike. -/
theorem feed_alike {l k : Lines} (h : l.Alike k) :
    ({ lines := l } : Recording).feed.Alike ({ lines := k } : Recording).feed := by
  have header := readHeader_alike l.failure {} h.lines
  cases hl : readHeader l.failure {} l.lines with
  | error e =>
    cases hk : readHeader k.failure {} k.lines <;> rw [hl, h.failure, hk] at header
    · cases header with
      | error cause =>
        rw [feed_failed (next_headless hl), feed_failed (next_headless hk)]
        exact ⟨rfl, congrArg some cause⟩
    · cases header
  | ok read =>
    cases hk : readHeader k.failure {} k.lines <;> rw [hl, h.failure, hk] at header
    · cases header
    · next read' =>
      cases header with
      | ok same =>
        obtain ⟨registration, rest⟩ := same
        obtain ⟨events, cause⟩ := feed_event (next_registered hl)
        obtain ⟨events', cause'⟩ := feed_event (next_registered hk)
        obtain ⟨frames, failure⟩ := feed_frames { l with lines := read.2 } none
        obtain ⟨frames', failure'⟩ := feed_frames { k with lines := read'.2 } none
        obtain ⟨timed, causes⟩ := readFrames_alike l.failure rest l.count k.count none none rfl
        refine ⟨?_, ?_⟩
        · rw [events, events', frames, frames', registration]
          dsimp only
          rw [timed, h.failure]
        · rw [cause, cause', failure, failure']
          dsimp only
          rw [causes, h.failure]

end Recording
end ScriptedInput

import ScriptedInput.Proofs.Backend.Annotated
import ScriptedInput.Proofs.Backend.Uinput.Creation
import ScriptedInput.Proofs.Backend.Uinput.Records

/-! Requests for force feedback. Whatever waits to be read, each whole event is answered once and in
order, until there is nothing more to read or something fails. -/
namespace ScriptedInput.Uinput
open Act

inductive FeedbackKind where
  | upload | erase
  deriving DecidableEq, Repr

namespace FeedbackKind

def code : FeedbackKind → UInt16
  | upload => 1
  | erase => 2

def begins : FeedbackKind → Request
  | upload => .beginUpload
  | erase => .beginErase

def ends : FeedbackKind → Request
  | upload => .endUpload
  | erase => .endErase

private theorem begins_ne_ends (k : FeedbackKind) : k.begins ≠ k.ends := by cases k <;> decide

def effect : FeedbackKind → Int → Int
  | upload, n => (Int16.ofInt n).toInt
  | erase, n => (UInt32.ofInt n).toNat

/-- The event asks for this. What is asked is the argument that its answer begins with. -/
structure Asks (k : FeedbackKind) (e : RawEvent) (asked : Feedback) : Prop where
  type : e.type = 0x0101
  code : e.code = k.code
  request : (asked.request.toNat : Int) = e.value.toInt % 0x100000000
  blank : asked.result = 0 ∧ asked.effect = 0

end FeedbackKind

def Effect.begins : Effect → Bool
  | .request .beginUpload _ none | .request .beginErase _ none => true
  | _ => false

/-- The effect that the next answer to be begun is for, after what was logged. -/
def Node.nextEffect (n : Node) (past : List Effect) : Int :=
  n.effects.getD (past.countP Effect.begins) 0

inductive Answered (h : Handle) (n : Node) (past : List Effect) (e : RawEvent) :
    List Effect → Option BackendError → Prop where
  /-- What cannot be begun is not ended either. -/
  | refused {k : FeedbackKind} {asked : Feedback} {errno : Nat} (asks : k.Asks e asked)
    (fails : n.fault past k.begins = some errno) :
    Answered h n past e [.request k.begins (.feedback asked) (some errno)]
      (some (.os k.begins.name (.os errno)))
  /-- What was begun is ended at once, for the effect that the system told. -/
  | acknowledged {k : FeedbackKind} {asked : Feedback} (asks : k.Asks e asked)
    (begun : n.fault past k.begins = none) :
    Answered h n past e
      [.request k.begins (.feedback asked) none,
        .request k.ends (.feedback {
          request := asked.request, result := 0, effect := k.effect (n.nextEffect past) })
          (n.fault past k.ends)]
      ((n.fault past k.ends).map fun errno => .os k.ends.name (.os errno))
  | played (type : e.type = EventType.ff) (below : e.code < 0x60) :
    Answered h n past e [.report (.vibrating h.id e.code (e.value ≠ 0))] none
  | ignored (unasked : ∀ k asked, ¬ FeedbackKind.Asks k e asked)
    (unplayed : ¬ (e.type = EventType.ff ∧ e.code < 0x60)) : Answered h n past e [] none

inductive AllAnswered (h : Handle) (n : Node) : List RawEvent → List Effect → Prop where
  | none : AllAnswered h n [] []
  | next {es : List RawEvent} {past : List Effect} {e : RawEvent} {log : List Effect}
    (before : AllAnswered h n es past) (last : Answered h n past e log .none) :
    AllAnswered h n (es ++ [e]) (past ++ log)

namespace ReadResult

def event? : ReadResult → Option RawEvent
  | event e => some e
  | short _ | error _ => none

def Stops : ReadResult → Prop
  | event _ => False
  | short _ => True
  | error errno => errno ≠ interrupted

def outcome : ReadResult → Except BackendError Unit
  | event _ | short _ => .ok ()
  | error errno => if errno = tryAgain then .ok () else .error (.os "read uinput" (.os errno))

end ReadResult

/-- How attending to a device ends after these answers: from what is left to read, to what is then
left unread, with what is done last. -/
inductive Ends (h : Handle) (n : Node) (past : List Effect) :
    List ReadResult → List ReadResult → List Effect → Except BackendError Unit → Prop where
  | drained : Ends h n past [] [] [] (.ok ())
  | stopped {r : ReadResult} {later : List ReadResult} (stops : r.Stops) :
    Ends h n past (r :: later) later [] r.outcome
  | failed {e : RawEvent} {later : List ReadResult} {log : List Effect} {error : BackendError}
    (answered : Answered h n past e log (some error)) :
    Ends h n past (.event e :: later) later log (.error error)

structure Node.Serves (n : Node) (past : List Effect) (m : Node) : Prop extends
    n.Tracks past m where
  effects : m.effects = n.effects.drop (past.countP Effect.begins)

private theorem FeedbackKind.asks_value {k : FeedbackKind} {e : RawEvent} (type : e.type = 0x0101)
    (code : e.code = k.code) : k.Asks e { request := e.value.toUInt32 } where
  type := type
  code := code
  request := toNat_toUInt32 e.value
  blank := ⟨rfl, rfl⟩

namespace Node.Serves
variable {n m : Node} {past : List Effect}

private theorem start (n : Node) : n.Serves [] n := ⟨.start n, rfl⟩

private theorem nextEffect (h : n.Serves past m) : m.effects.headD 0 = n.nextEffect past := by
  rw [h.effects, Node.nextEffect, List.headD_eq_head?_getD, List.head?_drop,
    List.getD_eq_getElem?_getD]

/-- What begins no answer leaves the effects that the system tells as they are. -/
private theorem request (h : n.Serves past m) (r : Request) (argument : Argument)
    (quiet : (Effect.request r argument (n.fault past r)).begins = false) :
    n.Serves (past ++ [.request r argument (n.fault past r)])
      ((Node.request r argument).run m).state where
  toTracks := h.toTracks.request r argument
  effects := by
    rw [List.countP_append, List.countP_singleton, quiet]
    exact h.effects

/-- A request fails as the node has it, and the failure names it. -/
private theorem request_told (h : n.Serves past m) (r : Request) (argument : Argument) :
    let done := (Node.request r argument).run m
    done.log = [.request r argument (n.fault past r)] ∧
      failureOf done.answer = (n.fault past r).map fun errno => .os r.name (.os errno) := by
  rw [Node.run_request, h.fault]
  cases n.fault past r <;> exact ⟨rfl, rfl⟩

private theorem begin (h : n.Serves past m) (k : FeedbackKind) (asked : Feedback)
    (begun : n.fault past k.begins = none) :
    n.Serves (past ++ [.request k.begins (.feedback asked) none])
      { ((Node.request k.begins (.feedback asked)).run m).state with
        effects := m.effects.tail } where
  toTracks := by
    have tracked := h.toTracks.request k.begins (.feedback asked)
    rw [begun] at tracked
    exact ⟨tracked.faults, tracked.used, tracked.foretold⟩
  effects := by
    have counted : (Effect.request k.begins (.feedback asked) none).begins = true := by
      cases k <;> rfl
    rw [List.countP_append, List.countP_singleton, counted, if_pos rfl, ← List.tail_drop, ← h.effects]

/-- What is reported changes nothing. -/
private theorem report (h : n.Serves past m) (r : Report) : n.Serves (past ++ [.report r]) m where
  toTracks := h.toTracks.other rfl
  effects := by
    rw [List.countP_append]
    exact h.effects

private theorem replaceReads (h : n.Serves past m) (reads : List ReadResult) :
    n.Serves past { m with reads } :=
  ⟨⟨h.faults, h.used, h.foretold⟩, h.effects⟩

end Node.Serves

private theorem Node.run_requestEffect (r : Request) (f : Feedback) (m : Node) :
    let asked := (Node.request r (.feedback f)).run m
    (Node.requestEffect r f).run m = match m.faults r (m.used r) with
      | some errno => ⟨.error (.os r.name (.os errno)), asked.state, asked.log⟩
      | none => ⟨.ok (m.effects.headD 0), { asked.state with effects := m.effects.tail },
        asked.log⟩ := by
  intro asked
  simp only [requestEffect, Act.run_bind, run_request, asked]
  cases m.faults r (m.used r) <;> simp

private theorem acknowledge_answered (h : Handle) {n m : Node} {past : List Effect}
    (serves : n.Serves past m) {k : FeedbackKind} {e : RawEvent} (type : e.type = 0x0101)
    (code : e.code = k.code) :
    let done := (acknowledge k.begins k.ends k.effect e.value).run m
    Answered h n past e done.log (failureOf done.answer) ∧ n.Serves (past ++ done.log) done.state ∧
      done.state.reads = m.reads := by
  intro done
  have asks := FeedbackKind.asks_value type code
  let asked : Feedback := { request := e.value.toUInt32 }
  have fault := serves.fault k.begins
  cases begun : n.fault past k.begins with
  | some errno =>
    have run : done = ⟨.error (.os k.begins.name (.os errno)),
        ((Node.request k.begins (.feedback asked)).run m).state,
        [.request k.begins (.feedback asked) (some errno)]⟩ := by
      simp [done, acknowledge, Node.run_requestEffect, Node.run_request, fault, begun, asked]
    have after := serves.request k.begins (.feedback asked) (by rw [begun]; cases k <;> rfl)
    rw [begun] at after
    rw [run]
    exact ⟨.refused asks begun, after, rfl⟩
  | none =>
    let ended : Feedback := { asked with effect := k.effect (n.nextEffect past) }
    let told : Node := { ((Node.request k.begins (.feedback asked)).run m).state with
      effects := m.effects.tail }
    let last := (Node.request k.ends (.feedback ended)).run told
    have run : done =
        ⟨last.answer, last.state, .request k.begins (.feedback asked) none :: last.log⟩ := by
      simp [done, acknowledge, Node.run_requestEffect, Node.run_request, fault, begun, asked, last,
        ended, told, ← serves.nextEffect]
    have next : n.fault (past ++ [.request k.begins (.feedback asked) none]) k.ends =
        n.fault past k.ends :=
      n.fault_concat past fun same => k.begins_ne_ends (Option.some.inj same)
    have middle := serves.begin k asked begun
    have after := middle.request k.ends (.feedback ended) (by cases k <;> rfl)
    obtain ⟨log, failure⟩ := middle.request_told k.ends (.feedback ended)
    rw [next] at after log failure
    rw [run]
    refine ⟨?_, ?_, rfl⟩
    · rw [log, failure]
      exact .acknowledged asks begun
    · rw [log, List.append_cons]
      exact after

private theorem answer_answered (h : Handle) {n m : Node} {past : List Effect} (serves : n.Serves past m)
    (e : RawEvent) :
    let done := (answer h e).run m
    Answered h n past e done.log (failureOf done.answer) ∧ n.Serves (past ++ done.log) done.state ∧
      done.state.reads = m.reads := by
  by_cases upload : e.type = feedbackType ∧ e.code = uploadCode
  · rw [answer, if_pos upload]
    exact acknowledge_answered h serves (k := .upload) upload.1 upload.2
  · by_cases erase : e.type = feedbackType ∧ e.code = eraseCode
    · rw [answer, if_neg upload, if_pos erase]
      exact acknowledge_answered h serves (k := .erase) erase.1 erase.2
    · rw [answer, if_neg upload, if_neg erase]
      by_cases play : e.type = EventType.ff ∧ e.code < gainCode
      · rw [if_pos play]
        exact ⟨.played play.1 play.2, serves.report _, rfl⟩
      · rw [if_neg play]
        have unasked (k : FeedbackKind) (asked : Feedback) : ¬ k.Asks e asked := fun asks => by
          cases k with
          | upload => exact upload ⟨asks.type, asks.code⟩
          | erase => exact erase ⟨asks.type, asks.code⟩
        refine ⟨.ignored unasked play, ?_, rfl⟩
        simpa using serves

private theorem run_serveFrom_stops (h : Handle) {r : ReadResult} (stops : r.Stops)
    (later : List ReadResult) (m : Node) :
    (serveFrom h (r :: later)).run m = ⟨r.outcome, { m with reads := later }, []⟩ := by
  cases r with
  | event e => exact stops.elim
  | short count => rfl
  | error errno =>
    rw [serveFrom, if_neg stops]
    rfl

/-- Reading goes on from any past, until it ends. -/
private theorem serveFrom_answered (h : Handle) {n m : Node} {past : List Effect} {es : List RawEvent}
    (serves : n.Serves past m) (answered : AllAnswered h n es past) (reads : List ReadResult) :
    let done := (serveFrom h reads).run m
    ∃ front rest log last, reads = front ++ rest ∧ (∀ r ∈ front, ¬ r.Stops) ∧
      AllAnswered h n (es ++ front.filterMap ReadResult.event?) log ∧
      Ends h n log rest done.state.reads last done.answer ∧ past ++ done.log = log ++ last := by
  induction reads generalizing m past es with
  | nil =>
    refine ⟨[], [], past, [], rfl, nofun, ?_, .drained, rfl⟩
    rwa [List.filterMap_nil, List.append_nil]
  | cons r later ih =>
    by_cases stops : r.Stops
    · rw [run_serveFrom_stops h stops]
      refine ⟨[], r :: later, past, [], rfl, nofun, ?_, .stopped stops, rfl⟩
      rwa [List.filterMap_nil, List.append_nil]
    · cases r with
      | short count => exact absurd trivial stops
      | error errno =>
        rw [serveFrom, if_pos (not_not.mp stops)]
        obtain ⟨front, rest, log, last, split, on, all, ends, told⟩ := ih serves answered
        exact ⟨.error errno :: front, rest, log, last, congrArg _ split,
          List.forall_mem_cons.mpr ⟨stops, on⟩, all, ends, told⟩
      | event e =>
        let first := (answer h e).run { m with reads := later }
        obtain ⟨own, after, unread⟩ : Answered h n past e first.log (failureOf first.answer) ∧
            n.Serves (past ++ first.log) first.state ∧ first.state.reads = later :=
          answer_answered h (serves.replaceReads later) e
        cases ha : first.answer with
        | error error =>
          have run : (serveFrom h (.event e :: later)).run m =
              ⟨.error error, first.state, first.log⟩ := by
            simp [serveFrom, first, ha]
          rw [ha] at own
          rw [run]
          dsimp only
          rw [unread]
          refine ⟨[], .event e :: later, past, first.log, rfl, nofun, ?_, .failed own, rfl⟩
          rwa [List.filterMap_nil, List.append_nil]
        | ok =>
          have run : (serveFrom h (.event e :: later)).run m =
              let others := (serveFrom h later).run first.state
              ⟨others.answer, others.state, first.log ++ others.log⟩ := by
            simp [serveFrom, first, ha]
          rw [ha] at own
          rw [run]
          dsimp only
          rw [← List.append_assoc]
          obtain ⟨front, rest, log, last, split, on, all, ends, told⟩ := ih after (answered.next own)
          refine ⟨.event e :: front, rest, log, last, congrArg _ split,
            List.forall_mem_cons.mpr ⟨stops, on⟩, ?_, ends, told⟩
          rw [← List.append_cons] at all
          exact all

/-- Without effect slots, a call reads nothing and makes no request. -/
private theorem unserved_calls {h : Handle} (live : h.live) (slotless : h.forceFeedback = false)
    (node : Node) (events : List RawEvent) (millis : UInt64) (token : String) :
    ∀ call ∈ [uinput.inject h events, uinput.delay h millis, uinput.idle h, uinput.sync h token],
      (call.run node).state.reads = node.reads ∧
      ∀ e ∈ (call.run node).log, e.request? = none ∧ ¬ IsService e := by
  have idle : serve h = pure (.ok ()) := by simp [serve, slotless]
  have attended : ((serve h).run node).state.reads = node.reads ∧
      ∀ e ∈ ((serve h).run node).log, e.request? = none ∧ ¬ IsService e := by
    rw [idle]
    exact ⟨rfl, nofun⟩
  simp only [List.forall_mem_cons, List.not_mem_nil, false_imp_iff, forall_true_iff, and_true]
  refine ⟨?_, ?_, ?_, ?_⟩
  · let wrote := (Node.writeAll (batchBytes events)).run node
    have same : ((inject h events).run node).state = wrote.state ∧
        ((inject h events).run node).log = wrote.log := by
      cases answer : wrote.answer with
      | error e =>
        rw [run_inject_unwritten live answer]
        exact ⟨rfl, rfl⟩
      | ok =>
        rw [run_inject_written live answer, idle]
        exact ⟨rfl, List.append_nil _⟩
    obtain ⟨left, state⟩ : ∃ left, wrote.state = { node with writes := left } :=
      Node.writeFrom_state (batchBytes events) node.writes node
    change ((inject h events).run node).state.reads = node.reads ∧
      ∀ e ∈ ((inject h events).run node).log, _
    rw [same.1, same.2]
    refine ⟨by rw [state], fun e he => ?_⟩
    exact unserved_of_writing (Node.writeAll_only _ node e he)
  · exact attended
  · exact attended
  · have told : (sync h token).run node = ⟨.ok (), node, [.report (.sync h.id token)]⟩ := by
      simp [sync, idle]
    change ((sync h token).run node).state.reads = node.reads ∧ ∀ e ∈ ((sync h token).run node).log, _
    rw [told]
    exact ⟨rfl, List.forall_mem_singleton.mpr ⟨rfl, id⟩⟩

/-- Each request for force feedback is answered exactly once. Attending to a device with effect slots
takes what waits to be read in order, over interrupted reads, and answers every whole event before
going on; it ends with what stops it, and leaves what comes later unread. A device without effect
slots is never attended to. -/
theorem requests_answered_once {id : DeviceId} {r : Registration} {before : Node} {h : Handle}
    (made : ((create id r).run before).answer = .ok h) (node : Node) :
    (0 < r.ffEffectsMax →
      let served := (serve h).run node
      ∃ front rest log last, node.reads = front ++ rest ∧ (∀ r ∈ front, ¬ r.Stops) ∧
        AllAnswered h node (front.filterMap ReadResult.event?) log ∧
        Ends h node log rest served.state.reads last served.answer ∧ served.log = log ++ last) ∧
    (r.ffEffectsMax = 0 → ∀ events millis token,
      ∀ call ∈ [uinput.inject h events, uinput.delay h millis, uinput.idle h, uinput.sync h token],
        (call.run node).state.reads = node.reads ∧
        ∀ e ∈ (call.run node).log, e.request? = none ∧ ¬ IsService e) := by
  obtain rfl := handle_of_create made
  refine ⟨fun slots => ?_, fun none => unserved_calls rfl (by simp [none]) node⟩
  have attended : serve { id, forceFeedback := 0 < r.ffEffectsMax } =
      (do serveFrom { id, forceFeedback := 0 < r.ffEffectsMax } (← Act.get).reads) := by
    simp [serve, slots]
  rw [attended]
  exact serveFrom_answered _ (.start node) .none node.reads

def wheel : Registration := { stick with name := "wheel", ffEffectsMax := 16 }

def busyNode : Node where
  reads := [
    .error interrupted, .event ⟨0x0101, 1, -1⟩, .event ⟨0x15, 3, 1⟩, .error interrupted,
    .event ⟨0x0101, 2, 9⟩, .short 7]
  faults r _ := if r = .beginErase then some 22 else none
  effects := [3]

theorem wheel_answered :
    let held : Handle := { id := 4, forceFeedback := true }
    ((create 4 wheel).run {}).answer = .ok held ∧
    ∃ front rest log last, busyNode.reads = front ++ rest ∧ (∀ r ∈ front, ¬ r.Stops) ∧
      AllAnswered held busyNode (front.filterMap ReadResult.event?) log ∧
      Ends held busyNode log rest [.short 7] last (.error (.os "UI_BEGIN_FF_ERASE" (.os 22))) ∧
      log ++ last = [
        .request .beginUpload (.feedback { request := 4294967295 }) none,
        .request .endUpload (.feedback { request := 4294967295, effect := 3 }) none,
        .report (.vibrating 4 3 true),
        .request .beginErase (.feedback { request := 9 }) (some 22)] := by
  intro held
  have made : ((create 4 wheel).run {}).answer = .ok held := by decide
  obtain ⟨front, rest, log, last, split, on, all, ends, told⟩ :=
    (requests_answered_once made busyNode).1 (by decide)
  have left : ((serve held).run busyNode).state.reads = [.short 7] := by decide
  have answer : ((serve held).run busyNode).answer = .error (.os "UI_BEGIN_FF_ERASE" (.os 22)) := by
    decide
  rw [left, answer] at ends
  refine ⟨made, front, rest, log, last, split, on, all, ends, told.symm.trans ?_⟩
  decide

end ScriptedInput.Uinput

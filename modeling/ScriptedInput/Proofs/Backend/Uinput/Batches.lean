import Mathlib.Algebra.GroupWithZero.Nat
import ScriptedInput.Proofs.Backend.Uinput.Faults
import ScriptedInput.Proofs.Backend.Uinput.Records
import ScriptedInput.Proofs.Backend.Uinput.Willing

/-! Batches on their way to the node. However the node cuts up and interrupts the writes, it takes the
records of a batch from the first byte on, and all of them unless a write fails for good. -/
namespace ScriptedInput.Uinput
open Act

/-- The bytes hold an event: a time of zero, the type, the code, and the value in two's complement,
each with its lowest byte first. -/
structure IsRecord (e : RawEvent) (bytes : List UInt8) : Prop where
  size : bytes.length = 24
  time : bytes.take 16 = List.replicate 16 0
  type : ofLittleEndian ((bytes.drop 16).take 2) = e.type.toNat
  code : ofLittleEndian ((bytes.drop 18).take 2) = e.code.toNat
  value : (ofLittleEndian (bytes.drop 20) : Int) = e.value.toInt % 0x100000000

private theorem isRecord_eventRecord (e : RawEvent) : IsRecord e (eventRecord e) := by
  have type : ofLittleEndian (littleEndian 2 e.type.toNat) = e.type.toNat :=
    ofLittleEndian_of_lt e.type.toNat_lt
  have code : ofLittleEndian (littleEndian 2 e.code.toNat) = e.code.toNat :=
    ofLittleEndian_of_lt e.code.toNat_lt
  have value : ofLittleEndian (littleEndian 4 e.value.toUInt32.toNat) = e.value.toUInt32.toNat :=
    ofLittleEndian_of_lt e.value.toUInt32.toNat_lt
  have toType : (List.replicate 16 (0 : UInt8)).length = 16 := List.length_replicate
  have toCode : (List.replicate 16 0 ++ littleEndian 2 e.type.toNat).length = 18 := by
    simp [length_littleEndian]
  have toValue : (List.replicate 16 0 ++ littleEndian 2 e.type.toNat ++
      littleEndian 2 e.code.toNat).length = 20 := by
    simp [length_littleEndian]
  refine ⟨length_eventRecord e, ?_, ?_, ?_, ?_⟩
  · rw [eventRecord, List.append_assoc, List.append_assoc, List.take_left' toType]
  · rw [eventRecord, List.append_assoc, List.append_assoc, List.drop_left' toType,
      List.take_left' (length_littleEndian ..), type]
  · rw [eventRecord, List.append_assoc _ _ (littleEndian 4 _), List.drop_left' toCode,
      List.take_left' (length_littleEndian ..), code]
  · rw [eventRecord, List.drop_left' toValue, value, toNat_toUInt32]

/-- A batch is written as one record for each event, in order. -/
private theorem batchBytes_records (events : List RawEvent) :
    ∃ records, batchBytes events = records.flatten ∧ List.Forall₂ IsRecord events records := by
  refine ⟨events.map eventRecord, List.flatMap_def .., ?_⟩
  exact List.forall₂_map_right_iff.mpr (List.forall₂_same.mpr fun e _ => isRecord_eventRecord e)

namespace WriteResult

def taken : WriteResult → Nat
  | accept count => count
  | error _ => 0

def effect (w : WriteResult) (bytes : List UInt8) : Effect :=
  match w with
  | accept count => .wrote (bytes.take count)
  | error errno => .writeFailed errno

def reason : WriteResult → IoError
  | accept _ => .writeCutShort
  | error errno => .os errno

private theorem accepted_effect (w : WriteResult) (bytes : List UInt8) :
    (w.effect bytes).accepted = bytes.take w.taken := by
  cases w <;> rfl

private theorem taken_of_not_benign {w : WriteResult} (fatal : ¬ w.Benign) : w.taken = 0 := by
  cases w with
  | accept count => exact Nat.eq_zero_of_not_pos fatal
  | error errno => rfl

end WriteResult

/-- With these results, writing so many bytes fails for good before all are taken. -/
def BreaksOff (writes : List WriteResult) (size : Nat) (why : IoError) : Prop :=
  ∃ front last later, writes = front ++ last :: later ∧ (∀ w ∈ front, w.Benign) ∧
    (front.map WriteResult.taken).sum < size ∧ ¬ last.Benign ∧ last.reason = why

namespace Node

private theorem run_writeFrom_nil (writes : List WriteResult) (n : Node) :
    (writeFrom [] writes).run n = ⟨.ok (), { n with writes }, []⟩ := by
  unfold writeFrom
  rfl

private theorem run_writeFrom_benign {bytes : List UInt8} (more : bytes ≠ []) {w : WriteResult}
    (benign : w.Benign) (rest : List WriteResult) (n : Node) :
    let later := (writeFrom (bytes.drop w.taken) rest).run n
    (writeFrom bytes (w :: rest)).run n =
      ⟨later.answer, later.state, w.effect bytes :: later.log⟩ := by
  have more : bytes.isEmpty = false := by simpa using more
  cases w with
  | accept count =>
    have positive : count ≠ 0 := Nat.ne_of_gt benign
    simp [writeFrom, more, positive, WriteResult.taken, WriteResult.effect]
  | error errno =>
    have again : errno = interrupted := benign
    simp [writeFrom, more, again, WriteResult.taken, WriteResult.effect]

private theorem run_writeFrom_fatal {bytes : List UInt8} (more : bytes ≠ []) {w : WriteResult}
    (fatal : ¬ w.Benign) (rest : List WriteResult) (n : Node) :
    (writeFrom bytes (w :: rest)).run n =
      ⟨.error (.os "write uinput" w.reason), { n with writes := rest }, [w.effect bytes]⟩ := by
  have more : bytes.isEmpty = false := by simpa using more
  cases w with
  | accept count =>
    have none : count = 0 := Nat.eq_zero_of_not_pos fatal
    simp [writeFrom, more, none, WriteResult.reason, WriteResult.effect]
  | error errno =>
    have other : errno ≠ interrupted := fatal
    simp [writeFrom, more, other, WriteResult.reason, WriteResult.effect]

/-- A fatal result ends the writing, after what the results before it took. -/
private theorem writeFrom_breaks {front : List WriteResult} (benign : ∀ w ∈ front, w.Benign)
    {last : WriteResult} (fatal : ¬ last.Benign) (later : List WriteResult) {bytes : List UInt8}
    (short : (front.map WriteResult.taken).sum < bytes.length) (n : Node) :
    let done := (writeFrom bytes (front ++ last :: later)).run n
    done.answer = .error (.os "write uinput" last.reason) ∧
      done.log.flatMap Effect.accepted = bytes.take (front.map WriteResult.taken).sum := by
  -- On the front, which leaves bytes to write for each result after it.
  have more : bytes ≠ [] := List.ne_nil_of_length_pos (Nat.zero_lt_of_lt short)
  induction front generalizing bytes with
  | nil =>
    rw [List.nil_append, run_writeFrom_fatal more fatal]
    refine ⟨rfl, ?_⟩
    rw [List.flatMap_singleton, WriteResult.accepted_effect, WriteResult.taken_of_not_benign fatal]
    rfl
  | cons w front ih =>
    obtain ⟨first, others⟩ := List.forall_mem_cons.mp benign
    rw [List.map_cons, List.sum_cons] at short ⊢
    have left : (front.map WriteResult.taken).sum < (bytes.drop w.taken).length := by
      rw [List.length_drop]
      omega
    obtain ⟨answer, accepted⟩ := ih others left (List.ne_nil_of_length_pos (Nat.zero_lt_of_lt left))
    rw [List.cons_append, run_writeFrom_benign more first]
    refine ⟨answer, ?_⟩
    rw [List.flatMap_cons, WriteResult.accepted_effect, accepted, List.take_add]

/-- Without such a result, all bytes are taken. -/
private theorem writeFrom_whole_or_breaks (bytes : List UInt8) (writes : List WriteResult) (n : Node) :
    let done := (writeFrom bytes writes).run n
    (done.answer = .ok () ∧ done.log.flatMap Effect.accepted = bytes) ∨
      ∃ why, BreaksOff writes bytes.length why := by
  induction writes generalizing bytes with
  | nil =>
    left
    cases bytes with
    | nil => exact ⟨rfl, rfl⟩
    | cons b bytes => exact ⟨rfl, List.append_nil (b :: bytes)⟩
  | cons w rest ih =>
    by_cases none : bytes = []
    · rw [none, run_writeFrom_nil]
      exact .inl ⟨rfl, rfl⟩
    by_cases benign : w.Benign
    · rw [run_writeFrom_benign none benign]
      rcases ih (bytes.drop w.taken) with
        ⟨answer, accepted⟩ | ⟨why, front, last, later, split, others, short, fatal, reason⟩
      · refine .inl ⟨answer, ?_⟩
        rw [List.flatMap_cons, WriteResult.accepted_effect, accepted, List.take_append_drop]
      · refine .inr ⟨why, w :: front, last, later, congrArg _ split,
          List.forall_mem_cons.mpr ⟨benign, others⟩, ?_, fatal, reason⟩
        rw [List.length_drop] at short
        rw [List.map_cons, List.sum_cons]
        omega
    · exact .inr ⟨w.reason, [], w, rest, rfl, List.forall_mem_nil _, List.length_pos_of_ne_nil none,
        benign, rfl⟩

/-- Writing either succeeds with all bytes taken, or fails with some that are not. -/
private theorem writeAll_outcome (bytes : List UInt8) (n : Node) :
    let done := (writeAll bytes).run n
    let accepted := done.log.flatMap Effect.accepted
    (∀ why, done.answer = .error (.os "write uinput" why) ↔ BreaksOff n.writes bytes.length why) ∧
    ((done.answer = .ok () ∧ accepted = bytes) ∨
      ∃ why, done.answer = .error (.os "write uinput" why) ∧
        ∃ count < bytes.length, accepted = bytes.take count) := by
  intro done accepted
  have broken {why : IoError} (breaks : BreaksOff n.writes bytes.length why) :
      done.answer = .error (.os "write uinput" why) ∧
        ∃ count < bytes.length, accepted = bytes.take count := by
    obtain ⟨front, last, later, split, benign, short, fatal, rfl⟩ := breaks
    have written : done = (writeFrom bytes (front ++ last :: later)).run n := by
      rw [← split]
      rfl
    obtain ⟨answer, taken⟩ := writeFrom_breaks benign fatal later short n
    rw [← written] at answer taken
    exact ⟨answer, _, short, taken⟩
  rcases writeFrom_whole_or_breaks bytes n.writes n with ⟨answer, whole⟩ | ⟨why, breaks⟩
  · have answer : done.answer = .ok () := answer
    refine ⟨fun why => ⟨fun failed => ?_, fun breaks => (broken breaks).1⟩, .inl ⟨answer, whole⟩⟩
    rw [answer] at failed
    cases failed
  · obtain ⟨answer, short⟩ := broken breaks
    refine ⟨fun other => ⟨fun failed => ?_, fun breaks => (broken breaks).1⟩,
      .inr ⟨why, answer, short⟩⟩
    rw [answer] at failed
    cases failed
    exact breaks

end Node

/-- The action uses up no result of a write, and does not fail to write. -/
def Unwriting {α : Type} (x : Act Node Effect (Except BackendError α)) : Prop :=
  ∀ n, (x.run n).state.writes = n.writes ∧ ∀ why, (x.run n).answer ≠ .error (.os "write uinput" why)

namespace Unwriting
variable {α β : Type}

private theorem ok (a : α) : Unwriting (pure (.ok a)) := fun _ => ⟨rfl, nofun⟩

/-- What follows a failure is that failure again. -/
private theorem bind {x : Act Node Effect (Except BackendError α)}
    {f : Except BackendError α → Act Node Effect (Except BackendError β)} (first : Unwriting x)
    (passes : ∀ e, f (.error e) = pure (.error e)) (second : ∀ a, Unwriting (f (.ok a))) :
    Unwriting (x >>= f) := by
  intro n
  obtain ⟨writes, failure⟩ := first n
  rw [Act.run_bind]
  cases ha : (x.run n).answer with
  | error e =>
    rw [ha] at failure
    rw [passes]
    exact ⟨writes, fun why same => failure why (congrArg _ (Except.error.inj same))⟩
  | ok a =>
    obtain ⟨rest, failure⟩ := second a (x.run n).state
    exact ⟨rest.trans writes, failure⟩

private theorem after {x : Act Node Effect α} {f : α → Act Node Effect (Except BackendError β)}
    (first : ∀ n, (x.run n).state.writes = n.writes) (second : ∀ a, Unwriting (f a)) :
    Unwriting (x >>= f) := fun n =>
  let ⟨rest, failure⟩ := second (x.run n).answer (x.run n).state
  ⟨rest.trans (first n), failure⟩

end Unwriting

private theorem Request.name_ne_write (r : Request) : r.name ≠ "write uinput" := by
  rcases r with _ | _ | _ | _ | s | _ | _ | _ | _ | _
  case setBit => cases s <;> decide
  all_goals decide

private theorem request_unwriting (r : Request) (argument : Argument) :
    Unwriting (Node.request r argument) := by
  intro n
  rw [Node.run_request]
  refine ⟨rfl, fun why same => ?_⟩
  dsimp only at same
  split at same
  · cases same
  · exact r.name_ne_write (BackendError.os.inj (Except.error.inj same)).1

private theorem acknowledge_unwriting (begins ends : Request) (wrap : Int → Int) (value : Int32) :
    Unwriting (acknowledge begins ends wrap value) := by
  refine .bind (.bind (request_unwriting begins _) (fun _ => rfl) fun _ => ?_) (fun _ => rfl) ?_
  · exact fun _ => ⟨rfl, nofun⟩
  · exact fun _ => request_unwriting ends _

private theorem answer_unwriting (h : Handle) (e : RawEvent) : Unwriting (answer h e) := by
  unfold answer
  split
  · exact acknowledge_unwriting _ _ _ _
  · split
    · exact acknowledge_unwriting _ _ _ _
    · split
      · exact .after (fun _ => rfl) fun _ => .ok _
      · exact .ok _

private theorem serveFrom_unwriting (h : Handle) (reads : List ReadResult) :
    Unwriting (serveFrom h reads) := by
  induction reads with
  | nil => exact .after (fun _ => rfl) fun _ => .ok _
  | cons r rest ih =>
    cases r with
    | short count => exact .after (fun _ => rfl) fun _ => .ok _
    | error errno =>
      unfold serveFrom
      split
      · exact ih
      · refine .after (fun _ => rfl) fun _ => ?_
        split
        · exact .ok _
        · exact fun _ => ⟨rfl, fun why same => by simp at same⟩
    | event e =>
      exact .after (fun _ => rfl) fun _ => .bind (answer_unwriting h e) (fun _ => rfl) fun _ => ih

private theorem serve_unwriting (h : Handle) : Unwriting (serve h) := by
  unfold serve
  split
  · exact .ok _
  · split
    · exact fun _ => ⟨rfl, fun _ same => by cases same⟩
    · exact .after (fun _ => rfl) fun _ => serveFrom_unwriting h _

private theorem accepted_of_service {e : Effect} (h : IsService e) : e.accepted = [] := by
  cases e with
  | wrote => exact h.elim
  | request | writeFailed | report | destroyFailed => rfl

/-- Attending to a device has the node take no bytes. -/
private theorem serve_accepted (h : Handle) (n : Node) :
    ((serve h).run n).log.flatMap Effect.accepted = [] :=
  (serve_only h).flatMap_eq_nil (fun _ => accepted_of_service) n

/-- Injecting fails to write just where writing the batch breaks. Unless it does, all bytes are taken;
if it does, some are not, and nothing is read or requested. -/
private theorem inject_outcome {h : Handle} (live : h.live) (events : List RawEvent) (n : Node) :
    let encoding := batchBytes events
    let done := (inject h events).run n
    let accepted := done.log.flatMap Effect.accepted
    (∀ why, done.answer = .error (.os "write uinput" why) ↔ BreaksOff n.writes encoding.length why) ∧
    ((accepted = encoding ∧ ∀ why, done.answer ≠ .error (.os "write uinput" why)) ∨
      (∃ why, done.answer = .error (.os "write uinput" why)) ∧
      (∃ count < encoding.length, accepted = encoding.take count) ∧
      done.state.reads = n.reads ∧ ∀ e ∈ done.log, e.request? = none) := by
  intro encoding done accepted
  let wrote := (Node.writeAll encoding).run n
  let served := (serve h).run wrote.state
  obtain ⟨breaks, outcome⟩ : (∀ why, wrote.answer = .error (.os "write uinput" why) ↔
      BreaksOff n.writes encoding.length why) ∧ _ := Node.writeAll_outcome encoding n
  rcases outcome with ⟨answer, whole⟩ | ⟨why, answer, cut⟩
  · have run : done = ⟨served.answer, served.state, wrote.log ++ served.log⟩ :=
      run_inject_written live answer
    have whole : wrote.log.flatMap Effect.accepted = encoding := whole
    have unfailed (why : IoError) : done.answer ≠ .error (.os "write uinput" why) := by
      rw [run]
      exact (serve_unwriting h wrote.state).2 why
    have written : wrote.answer = .ok () := answer
    refine ⟨fun why => ?_, .inl ⟨?_, unfailed⟩⟩
    · rw [← breaks, written]
      exact iff_of_false (unfailed why) nofun
    · simp only [accepted, run, List.flatMap_append, whole]
      rw [serve_accepted, List.append_nil]
  · have run : done = ⟨.error (.os "write uinput" why), wrote.state, wrote.log⟩ :=
      run_inject_unwritten live answer
    have failed : wrote.answer = .error (.os "write uinput" why) := answer
    obtain ⟨left, state⟩ : ∃ left, wrote.state = { n with writes := left } :=
      Node.writeFrom_state encoding n.writes n
    refine ⟨fun other => ?_, .inr ⟨⟨why, ?_⟩, ?_, ?_, fun e he => ?_⟩⟩
    · rw [← breaks, run, failed]
    · rw [run]
    · simp only [accepted, run]
      exact cut
    · rw [run, state]
    · rw [run] at he
      exact (unserved_of_writing (Node.writeAll_only encoding n e he)).1

private theorem inject_nil_writes {h : Handle} (live : h.live) (n : Node) :
    ((inject h []).run n).state.writes = n.writes := by
  have wrote : (Node.writeAll (batchBytes [])).run n = ⟨.ok (), n, []⟩ :=
    Node.run_writeFrom_nil n.writes n
  rw [run_inject_written live (congrArg Done.answer wrote), wrote]
  exact (serve_unwriting h n).1

/-- A batch reaches the node verbatim, or as a clean prefix if writing it fails. The failures to write
it are told from those of attending to the device by the operation that they name. -/
theorem batch_written_verbatim {h : Handle} (live : h.live) (events : List RawEvent) (node : Node) :
    let encoding := batchBytes events
    let done := (inject h events).run node
    let accepted := done.log.flatMap Effect.accepted
    let failed why := done.answer = .error (.os "write uinput" why)
    (∃ records, encoding = records.flatten ∧ List.Forall₂ IsRecord events records) ∧
    readRecords? encoding = some events ∧
    accepted <+: encoding ∧
    (accepted = encoding ↔ ¬ ∃ why, failed why) ∧
    (∀ why, failed why ↔ BreaksOff node.writes encoding.length why) ∧
    ((∃ why, failed why) → done.state.reads = node.reads ∧ ∀ e ∈ done.log, e.request? = none) ∧
    (events = [] → done.state.writes = node.writes) := by
  intro encoding done accepted failed
  refine ⟨batchBytes_records events, readRecords?_batchBytes events, ?_⟩
  have empty : events = [] → done.state.writes = node.writes := by
    rintro rfl
    exact inject_nil_writes live node
  obtain ⟨breaks, outcome⟩ : (∀ why, failed why ↔ BreaksOff node.writes encoding.length why) ∧
      (accepted = encoding ∧ (∀ why, ¬ failed why) ∨ (∃ why, failed why) ∧
        (∃ count < encoding.length, accepted = encoding.take count) ∧ _) :=
    inject_outcome live events node
  rcases outcome with ⟨whole, unfailed⟩ | ⟨failing, ⟨count, short, cut⟩, untouched⟩
  · have succeeds : ¬ ∃ why, failed why := fun ⟨why, f⟩ => unfailed why f
    exact ⟨whole ▸ List.prefix_rfl, iff_of_true whole succeeds, breaks,
      fun f => (succeeds f).elim, empty⟩
  · have part : accepted ≠ encoding := fun whole => by
      have size : (encoding.take count).length = encoding.length :=
        congrArg List.length (cut.symm.trans whole)
      rw [List.length_take] at size
      omega
    exact ⟨cut ▸ List.take_prefix count encoding, iff_of_false part (not_not_intro failing), breaks,
      fun _ => untouched, empty⟩

def brokenNode : Node where
  reads := [.event ⟨0x0101, 1, 1⟩]
  writes := [.accept 20, .error interrupted, .accept 16, .error 28, .accept 100]

theorem brokenNode_takes_prefix :
    let pad : Handle := { id := 4, forceFeedback := true }
    let done := (inject pad [⟨3, 0, -1⟩, ⟨0, 0, 0⟩]).run brokenNode
    pad.live ∧ (done.log.flatMap Effect.accepted).length = 36 ∧
      done.log.flatMap Effect.accepted <+: batchBytes [⟨3, 0, -1⟩, ⟨0, 0, 0⟩] ∧
      done.answer = .error (.os "write uinput" (.os 28)) ∧ done.state.reads = brokenNode.reads := by
  intro pad done
  obtain ⟨-, -, part, -, fails, untouched, -⟩ :=
    batch_written_verbatim (h := pad) rfl [⟨3, 0, -1⟩, ⟨0, 0, 0⟩] brokenNode
  have failed : done.answer = .error (.os "write uinput" (.os 28)) := (fails _).mpr
    ⟨[.accept 20, .error interrupted, .accept 16], .error 28, [.accept 100], rfl,
      by simp [WriteResult.Benign], by decide, by simp [WriteResult.Benign, interrupted], rfl⟩
  exact ⟨rfl, by decide, part, failed, (untouched ⟨_, failed⟩).1⟩

end ScriptedInput.Uinput

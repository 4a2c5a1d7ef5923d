import ScriptedInput.Proofs.Commands.Fields
import ScriptedInput.Proofs.Commands.Stream
import ScriptedInput.Proofs.Json.ReadBack

/-! Scripts of commands are read back: the objects that events are written as, one after the other,
give these events and nothing else. -/
namespace ScriptedInput

open Json (Value)

namespace Json.Value
variable {depth : Nat}

theorem plain_nat {n : Nat} (h : n < 0x10000000000000000) : Plain depth (.int n) :=
  .int (by omega) (by omega)

theorem plain_int32 (v : Int32) : Plain depth (.int v.toInt) :=
  .int (by have := v.le_toInt; omega) (by have := v.toInt_lt; omega)

theorem plain_uint16 (v : UInt16) : Plain depth (.int v.toNat) :=
  plain_nat (by have := v.toNat_lt; omega)

theorem plain_uint32 (v : UInt32) : Plain depth (.int v.toNat) :=
  plain_nat (by have := v.toNat_lt; omega)

end Json.Value

open Json.Value (Plain plain_nat plain_int32 plain_uint16 plain_uint32)

variable {depth : Nat}

private theorem ConfigEntry.plain_value (e : ConfigEntry) : Plain (depth + 2) e.value := by
  have codes : Plain (depth + 1) (.array (e.codes.map fun c => .int c.toNat)) :=
    .array (List.forall_mem_map.mpr fun c _ => plain_uint16 c)
  have type : Plain (depth + 1) (.int e.setter.controlCode) := by
    cases e.setter <;> exact plain_nat (by decide)
  rw [e.value_eq]
  exact .object (by simp [-String.lt_iff_ltb]) (by simp [codes, type])

theorem AbsInfo.plain_json (a : AbsInfo) : Plain (depth + 1) a.json := by
  rw [a.json_eq]
  exact .object (by simp [-String.lt_iff_ltb]) (by simp [plain_int32])

private theorem plain_axisValue (code : UInt16) (info : AbsInfo) :
    Plain (depth + 2) (axisValue code info) := by
  rw [axisValue_eq]
  exact .object (by simp [-String.lt_iff_ltb]) (by simp [plain_uint16, info.plain_json])

/-- The fields of a command are plain values. -/
private theorem Event.plain_sortedFields (e : Event) : ∀ f ∈ e.sortedFields, Plain (depth + 3) f.2 := by
  obtain ⟨id, action⟩ := e
  cases action with
  | register r =>
    have configuration : Plain (depth + 3) (.array (r.configuration.map (·.value))) :=
      .array (List.forall_mem_map.mpr fun e _ => e.plain_value)
    have axes : Plain (depth + 3) (.array (r.axes.entries.map fun a => axisValue a.1 a.2)) :=
      .array (List.forall_mem_map.mpr fun a _ => plain_axisValue a.1 a.2)
    cases hp : r.port <;>
      simp [sortedFields, hp, configuration, axes, plain_uint16, plain_uint32, plain_int32,
        Plain.string]
  | inject events =>
    have triples : Plain (depth + 3) (.array (events.flatMap (·.triple))) := by
      refine .array fun v hv => ?_
      obtain ⟨e, -, hv⟩ := List.mem_flatMap.mp hv
      obtain rfl | rfl | rfl : v = _ ∨ v = _ ∨ v = _ := by simpa [RawEvent.triple] using hv
      · exact plain_uint16 e.type
      · exact plain_uint16 e.code
      · exact plain_int32 e.value
    simp [sortedFields, triples, plain_int32, Plain.string]
  | delay millis =>
    have duration : Plain (depth + 3) (.int millis.toNat) := plain_nat millis.toNat_lt
    simp [sortedFields, duration, plain_int32, Plain.string]
  | sync token => simp [sortedFields, plain_int32, Plain.string]

private theorem Event.ascending_sortedFields (e : Event) :
    (e.sortedFields.map fun f => (f.1.label, f.2)).Pairwise (fun a b => a.1 < b.1) := by
  obtain ⟨id, action⟩ := e
  cases action with
  | register r => cases hp : r.port <;> simp [-String.lt_iff_ltb, sortedFields, hp, Field.label]
  | inject | delay | sync => simp [-String.lt_iff_ltb, sortedFields, Field.label]

/-- Commands are written as plain objects. -/
private theorem Event.plain_value (e : Event) : ∃ members, e.value = .object members ∧
    Plain Json.depthLimit (.object members) :=
  ⟨_, e.value_eq, .object e.ascending_sortedFields
    (List.forall_mem_map.mpr fun f hf => e.plain_sortedFields f hf)⟩

namespace CommandStream
variable {s : CommandStream}

/-- The next value of a stream, if it is an object, is its next event. -/
private theorem Ready.next_object (h : s.Ready) {members : Json.Members} {rest : Json.Cursor} {e : Event}
    (pulled : Json.pull s.failure s.cursor = .value (.object members) rest)
    (read : Event.ofValue (.object members) = .ok e) :
    s.next = (.event { event := e }, { s with cursor := rest, index := s.index + 1 }) := by
  obtain ⟨cursor, failure, pending, index, done⟩ := s
  obtain ⟨rfl, rfl⟩ : pending = [] ∧ done = false := ⟨h.pending, h.going⟩
  have value : nextValue ⟨cursor, failure, [], index, false⟩ =
      (.ok (some (.object members)), ⟨rest, failure, [], index, false⟩) := by
    rw [h.nextValue_eq, pulled]
    apply nextValue_pending
    rfl
  rw [next, value]
  simp only [read]

private theorem Ready.next_finished (h : s.Ready) (pulled : Json.pull s.failure s.cursor = .finished) :
    s.next = (.ended, s.finished) := by
  rw [next, h.nextValue_eq, pulled]

/-- Commands are given one after the other, up to the end of the text. -/
theorem Ready.feed_commands {events : List Event} (tellable : ∀ e ∈ events, e.Tellable)
    (h : s.Ready) (whole : s.failure = none)
    (bytes : s.cursor.bytes = Text.bytesOf (events.flatMap (·.value.text))) :
    (Script.commands s).feed.events = events ∧ (Script.commands s).feed.failure = none := by
  induction events generalizing s with
  | nil =>
    have pulled : Json.pull s.failure s.cursor = .finished := by
      rw [Json.pull, bytes, whole]
      rfl
    have step : (Script.commands s).next = (.ended, .commands s.finished) := by
      rw [Script.next, h.next_finished pulled]
    rw [Script.feed_ended step]
    exact ⟨rfl, rfl⟩
  | cons e events ih =>
    obtain ⟨he, hes⟩ := List.forall_mem_cons.mp tellable
    obtain ⟨members, hm, plain⟩ := e.plain_value
    let tail := Text.bytesOf (events.flatMap (·.value.text))
    obtain ⟨q, pulled⟩ := Json.pull_text plain s.failure s.cursor.position tail
    have text : s.cursor.bytes = Text.bytesOf (Value.object members).text ++ tail := by
      rw [bytes, List.flatMap_cons, Text.bytesOf_append, hm]
    rw [← text] at pulled
    have read : Event.ofValue (.object members) = .ok e := hm ▸ Event.ofValue_value he
    let left : CommandStream := { s with cursor := ⟨q, tail⟩, index := s.index + 1 }
    have step : (Script.commands s).next = (.event { event := e }, .commands left) := by
      rw [Script.next, h.next_object pulled read]
    obtain ⟨given, ended⟩ := ih hes (s := left) ⟨h.pending, h.going⟩ whole rfl
    rw [Script.feed_event step]
    exact ⟨congrArg (e :: ·) given, ended⟩

end CommandStream

/-- Every event can be told by a command: the JSON objects of any events, one after the other and in
whatever buffers they arrive, are read back as exactly these events. -/
theorem commands_read_back {events : List Event} (h : ∀ e ∈ events, e.Tellable) (size : Nat) :
    (Script.ofSource .json (.buffered size (Text.encode (commandsText events)))).events =
      .ok events := by
  have ready : (CommandStream.ofSource
      (.buffered size (Text.encode (commandsText events)))).Ready := ⟨rfl, rfl⟩
  have bytes : (CommandStream.ofSource
      (.buffered size (Text.encode (commandsText events)))).cursor.bytes =
      Text.bytesOf (events.flatMap (·.value.text)) := by
    rw [CommandStream.ofSource, Source.bytes_buffered, commandsText, Text.encode_ofList]
  obtain ⟨given, ended⟩ := ready.feed_commands h rfl bytes
  exact Script.events_eq_ok_iff.mpr ⟨ended, given⟩

/-- One event of each kind, with characters that are escaped and such that are not. -/
def oneOfEach : List Event :=
  [⟨-1, .register {
      name := "Pad \"1\"\n", vendor := 0x45e, product := 0xffff, bus := .ofRaw 3,
      configuration := [⟨.evBit, [3]⟩, ⟨.absBit, [0]⟩],
      axes := .ofList [(0, { minimum := -32768, maximum := 32767 })], port := some "é" }⟩,
   ⟨-1, .inject [⟨3, 0, -7⟩, ⟨0, 0, 0⟩]⟩, ⟨-1, .delay 20⟩, ⟨-1, .sync "\t🎮"⟩]

theorem oneOfEach_read_back : (∀ e ∈ oneOfEach, e.Tellable) ∧
    (Script.ofSource .json (.buffered 16 (Text.encode (commandsText oneOfEach)))).events =
      .ok oneOfEach := by
  have tellable : ∀ e ∈ oneOfEach, e.Tellable := by
    simp only [oneOfEach, List.forall_mem_cons]
    exact ⟨⟨3, rfl⟩, trivial, (by decide : (20 : UInt64).toNat ≤ 0x7fffffffffffffff), trivial,
      by simp⟩
  exact ⟨tellable, commands_read_back tellable 16⟩

end ScriptedInput

import ScriptedInput.Proofs.Backend.Trace.ReadBack
import ScriptedInput.Proofs.Device.HandleTable
import ScriptedInput.Proofs.Json.Controls

/-! The lines of a trace. Calls that succeed leave one line each, whatever texts they hold, and the
lines tell the calls with the devices they were made for. -/
namespace ScriptedInput
open Json (Value)

def HandleTable.Request.extend (handles : List DeviceId) : HandleTable.Request → List DeviceId
  | .create id _ => handles ++ [id]
  | .inject _ _ | .delay _ _ | .idle _ | .sync _ _ | .close _ => handles

/-- The call that a request comes to, on one of these handles. There is none on a handle that was
never given out. -/
def HandleTable.Request.call? (handles : List DeviceId) : HandleTable.Request → Option Call
  | .create id r => some (.create id r)
  | .inject n events => handles[n]?.map (.inject · events)
  | .delay n millis => handles[n]?.map (.delay · millis)
  | .idle n => handles[n]?.map .idle
  | .sync n token => handles[n]?.map (.sync · token)
  | .close n => handles[n]?.map .close

def HandleTable.calls (handles : List DeviceId) : List HandleTable.Request → List Call
  | [] => []
  | r :: rest => (r.call? handles).toList ++ calls (r.extend handles) rest

def HandleTable.given (handles : List DeviceId) : List HandleTable.Request → Bool
  | [] => true
  | r :: rest => (r.call? handles).isSome && given (r.extend handles) rest

namespace Trace

/-- A line, without the line feed at its end, is one JSON object, and tells a call. -/
def TellsOf (line : List UInt8) (c : Call) : Prop :=
  10 ∉ line ∧ ∃ members p, Json.pull none { bytes := line } = .value (.object members) ⟨p, []⟩ ∧
    Call.ofJson? (.object members) = some c

private theorem tellsOf_compact {c : Call} {v : Value} (h : c.json? = some v) :
    TellsOf (Text.encode v.compact) c := by
  obtain ⟨members, rfl, plain⟩ := Call.plain_json h
  have bytes : Text.encode (Value.object members).compact =
      Text.bytesOf (Value.object members).text := by rw [Value.compact, Text.encode_ofList]
  rw [bytes]
  refine ⟨fun feed => ?_, ?_⟩
  · have control := (Json.Uncontrolled.text plain).le_of_mem_bytesOf feed
    revert control
    decide
  · obtain ⟨q, pulled⟩ := Json.pull_text plain none {} []
    rw [List.append_nil] at pulled
    exact ⟨members, q, pulled, Call.ofJson?_json h⟩

/-- Calls are written as lines that tell of them in order. Those that are made during a wait have
none. -/
private theorem lines_told (calls : List Call) : ∃ lines : List (List UInt8),
    (calls.flatMap told).flatten = lines.flatMap (· ++ [10]) ∧
      List.Forall₂ TellsOf lines (calls.filter (·.kind ≠ .idle)) := by
  induction calls with
  | nil => exact ⟨[], rfl, .nil⟩
  | cons c calls ih =>
    obtain ⟨lines, bytes, tell⟩ := ih
    rw [List.flatMap_cons, List.flatten_append, bytes]
    cases hv : c.json? with
    | none =>
      have idle := Call.json?_eq_none_iff.mp hv
      exact ⟨lines, by simp [told, hv], by simpa [idle] using tell⟩
    | some v =>
      have traced : c.kind ≠ .idle := by
        rw [Ne, ← Call.json?_eq_none_iff, hv]
        exact Option.some_ne_none v
      refine ⟨Text.encode v.compact :: lines, by simp [told, hv, Value.line], ?_⟩
      rw [List.filter_cons_of_pos (by simpa using traced)]
      exact .cons (tellsOf_compact hv) tell

/-- Line feeds stand at the ends of lines only. -/
private theorem count_lines {lines : List (List UInt8)} {calls : List Call}
    (tell : List.Forall₂ TellsOf lines calls) :
    (lines.flatMap (· ++ [10])).count 10 = calls.length := by
  induction tell with
  | nil => rfl
  | cons first _ ih =>
    rw [List.flatMap_cons, List.count_append, ih, List.count_append,
      List.count_eq_zero_of_not_mem first.1]
    simp [Nat.add_comm]

/-- A line is written whole if that succeeds. -/
private theorem log_write {line : List UInt8} {s : Sink}
    (succeeded : ((write line).run s).answer = .ok ()) : ((write line).run s).log = [line] := by
  have whole : s.accepts line = line := by
    rw [Sink.accepts]
    cases hr : s.room with
    | none => rfl
    | some room =>
      rcases Nat.lt_or_ge room line.length with more | fits
      · simp [write, Sink.accepts, hr, more] at succeeded
      · exact List.take_of_length_le fits
  simp only [write, Act.run_bind, Act.run_get, Act.run_log, Act.run_set, whole, Nat.lt_irrefl,
    if_false, Act.run_modify]
  cases s.flushFailure with
  | none => rfl
  | some n =>
    by_cases failed : n ≤ s.flushes <;> simp [failed]

private theorem log_emit {c : Call} {s : Sink} (succeeded : ((emit c).run s).answer = .ok ()) :
    ((emit c).run s).log = told c := by
  rw [emit] at succeeded ⊢
  rw [told]
  cases hv : c.json? with
  | none => rfl
  | some v =>
    rw [hv] at succeeded
    exact log_write succeeded

section Perform
variable {table : HandleTable Sink DeviceId}

/-- All requests but creations are calls on a handle that is there already. -/
private theorem perform_eq_call (r : HandleTable.Request) :
    (∃ id registration, r = .create id registration) ∨
    ∃ n f, HandleTable.perform tracer r = HandleTable.call n (fun h => emit (f h)) ∧
      ∀ handles, r.call? handles = handles[n]?.map f ∧ r.extend handles = handles := by
  cases r with
  | create id r => exact .inl ⟨id, r, rfl⟩
  | inject n events => exact .inr ⟨n, (.inject · events), rfl, fun _ => ⟨rfl, rfl⟩⟩
  | delay n millis => exact .inr ⟨n, (.delay · millis), rfl, fun _ => ⟨rfl, rfl⟩⟩
  | idle n => exact .inr ⟨n, .idle, rfl, fun _ => ⟨rfl, rfl⟩⟩
  | sync n token => exact .inr ⟨n, (.sync · token), rfl, fun _ => ⟨rfl, rfl⟩⟩
  | close n => exact .inr ⟨n, .close, rfl, fun _ => ⟨rfl, rfl⟩⟩

private theorem run_create_table (id : DeviceId) (registration : Registration) :
    (HandleTable.create tracer id registration).run table =
      match (emit (.create id registration)).run table.backend with
      | ⟨.error e, s, log⟩ => ⟨.error e, { table with backend := s }, log⟩
      | ⟨.ok (), s, log⟩ => ⟨.ok (), ⟨table.handles ++ [id], s⟩, log⟩ := by
  simp only [HandleTable.create, HandleTable.onBackend, tracer, Act.run_bind, Act.run_onPart,
    Act.run_pure]
  rcases (emit (.create id registration)).run table.backend with ⟨e | _, s, log⟩ <;>
    simp [Except.map]

/-- A request for a handle that was given out does what its call does. -/
private theorem run_perform {r : HandleTable.Request} {c : Call}
    (known : r.call? table.handles = some c) :
    let done := (HandleTable.perform tracer r).run table
    let emitted := (emit c).run table.backend
    done.answer = emitted.answer ∧ done.log = emitted.log ∧ done.state.backend = emitted.state ∧
      (emitted.answer = .ok () → done.state.handles = r.extend table.handles) := by
  rcases perform_eq_call r with ⟨id, registration, rfl⟩ | ⟨n, f, call, same⟩
  · cases known
    rw [HandleTable.perform, run_create_table]
    rcases (emit (.create id registration)).run table.backend with ⟨e | _, s, log⟩
    · exact ⟨rfl, rfl, rfl, nofun⟩
    · exact ⟨rfl, rfl, rfl, fun _ => rfl⟩
  · obtain ⟨found, extend⟩ := same table.handles
    obtain ⟨h, given, rfl⟩ := Option.map_eq_some_iff.mp (found.symm.trans known)
    rw [call, HandleTable.run_call_some _ given]
    exact ⟨rfl, rfl, rfl, fun _ => extend.symm⟩

private theorem run_perform_unknown {r : HandleTable.Request} (unknown : r.call? table.handles = none) :
    ((HandleTable.perform tracer r).run table).answer = .error (.rejected .noHandle) := by
  rcases perform_eq_call r with ⟨id, registration, rfl⟩ | ⟨n, f, call, same⟩
  · cases unknown
  · have missing := Option.map_eq_none_iff.mp ((same table.handles).1.symm.trans unknown)
    rw [call, HandleTable.run_call_none _ missing]

/-- A request that succeeds writes the line of its call. -/
private theorem log_perform {r : HandleTable.Request}
    (succeeded : ((HandleTable.perform tracer r).run table).answer = .ok ()) :
    ((HandleTable.perform tracer r).run table).log = (r.call? table.handles).toList.flatMap told ∧
      ((HandleTable.perform tracer r).run table).state.handles = r.extend table.handles := by
  cases known : r.call? table.handles with
  | none =>
    rw [run_perform_unknown known] at succeeded
    cases succeeded
  | some c =>
    obtain ⟨answer, log, -, handles⟩ := run_perform known
    rw [answer] at succeeded
    rw [log, log_emit succeeded]
    exact ⟨(List.flatMap_singleton ..).symm, handles succeeded⟩

end Perform

private theorem log_performAll {requests : List HandleTable.Request} {table : HandleTable Sink DeviceId}
    (succeeded : ∀ a ∈ ((HandleTable.performAll tracer requests).run table).answer, a = .ok ()) :
    ((HandleTable.performAll tracer requests).run table).log =
      (HandleTable.calls table.handles requests).flatMap told := by
  induction requests generalizing table with
  | nil => rfl
  | cons r rest ih =>
    simp only [HandleTable.performAll, Act.run_bind, Act.run_pure, List.append_nil] at succeeded ⊢
    obtain ⟨first, others⟩ := List.forall_mem_cons.mp succeeded
    obtain ⟨log, handles⟩ := log_perform first
    rw [log, ih others, handles, HandleTable.calls, List.flatMap_append]

/-- On a sink that takes everything, all requests for handles that were given out succeed. -/
private theorem performAll_succeeds {requests : List HandleTable.Request}
    {table : HandleTable Sink DeviceId} (endless : table.backend.Unlimited)
    (given : HandleTable.given table.handles requests) :
    ∀ a ∈ ((HandleTable.performAll tracer requests).run table).answer, a = .ok () := by
  induction requests generalizing table with
  | nil => exact nofun
  | cons r rest ih =>
    obtain ⟨known, others⟩ := Bool.and_eq_true_iff.mp given
    obtain ⟨c, hc⟩ := Option.isSome_iff_exists.mp known
    obtain ⟨answer, -, state, handles⟩ := run_perform hc
    obtain ⟨ok, endless, -⟩ := emit_leaves c table.backend endless
    simp only [HandleTable.performAll, Act.run_bind, Act.run_pure]
    refine List.forall_mem_cons.mpr ⟨answer.trans ok, ih (state ▸ endless) ?_⟩
    rwa [handles ok]

/-- The trace can be decoded. If calls on the tracing back end succeed, what they write has a line for
each of them, apart from those made during a wait; each line is one JSON object that tells its call,
and the lines read in order give all the calls, with the devices they were made for. -/
theorem trace_decoded (sink : Sink) (requests : List HandleTable.Request)
    (succeeded : ∀ a ∈ ((HandleTable.performAll tracer requests).run { backend := sink }).answer,
      a = .ok ()) :
    let bytes := ((HandleTable.performAll tracer requests).run { backend := sink }).log.flatten
    let calls := (HandleTable.calls [] requests).filter (·.kind ≠ .idle)
    bytes.count 10 = calls.length ∧
      (∃ lines : List (List UInt8), bytes = lines.flatMap (· ++ [10]) ∧
        List.Forall₂ TellsOf lines calls) ∧
      read? bytes = some calls := by
  intro bytes calls
  have written : bytes = ((HandleTable.calls [] requests).flatMap told).flatten :=
    congrArg List.flatten (log_performAll succeeded)
  obtain ⟨lines, same, tell⟩ := lines_told (HandleTable.calls [] requests)
  rw [written]
  exact ⟨same ▸ count_lines tell, ⟨lines, same, tell⟩, read?_told _⟩

/-- Calls with texts that would break lines and quotes, on two handles, and axes whose keys stand in
another order than their numbers. -/
def awkward : List HandleTable.Request :=
  let name := "a\n\"b\\\u0000"
  let axes : CodeMap AbsInfo := .ofList [(9, {}), (10, { maximum := 255 })]
  [.create 7 { name, vendor := 1, product := 2, bus := .other 9, axes, port := some "\n" },
    .create (-7) { name := "", vendor := 0, product := 0, axes }, .inject 1 [⟨1, 30, -1⟩], .idle 0,
    .delay 0 250, .sync 1 "\r\n\n", .close 0]

theorem awkward_decoded :
    let done := (HandleTable.performAll tracer awkward).run { backend := {} }
    let calls := (HandleTable.calls [] awkward).filter (·.kind ≠ .idle)
    (∀ a ∈ done.answer, a = .ok ()) ∧ calls.length = 6 ∧ done.log.flatten.count 10 = calls.length ∧
      read? done.log.flatten = some calls := by
  intro done calls
  have succeeded : ∀ a ∈ done.answer, a = .ok () :=
    performAll_succeeds ⟨rfl, rfl⟩ (by decide)
  obtain ⟨count, -, read⟩ := trace_decoded {} awkward succeeded
  exact ⟨succeeded, by decide, count, read⟩

end Trace
end ScriptedInput

import ScriptedInput.Proofs.Backend.Trace.ReadBack
import ScriptedInput.Proofs.Backend.Uinput.Records
import ScriptedInput.Proofs.Backend.Uinput.Willing

/-! A dry run predicts the real one. What the tracing back end writes down for a script tells what
the uinput back end does for it, byte by byte, on a node that refuses nothing. -/
namespace ScriptedInput

def Call.events : Call → List RawEvent
  | .inject _ events => events
  | .create _ _ | .delay _ _ | .idle _ | .sync _ _ | .close _ => []

def Call.barrier? : Call → Option (DeviceId × String)
  | .sync id token => some (id, token)
  | .create _ _ | .inject _ _ | .delay _ _ | .idle _ | .close _ => none

namespace Uinput

def Effect.barrier? : Effect → Option (DeviceId × String)
  | .report (.sync id token) => some (id, token)
  | _ => none

def Deed.byte? : Deed → Option UInt8
  | .wrote byte => some byte
  | .made | .destroyed | .reached _ _ => none

def Deed.barrier? : Deed → Option (DeviceId × String)
  | .reached id token => some (id, token)
  | .made | .destroyed | .wrote _ => none

private theorem byte?_wrote (bytes : List UInt8) :
    (bytes.map Deed.wrote).filterMap Deed.byte? = bytes := by
  rw [List.filterMap_map]
  exact List.filterMap_some

private theorem barrier?_wrote (bytes : List UInt8) :
    (bytes.map Deed.wrote).filterMap Deed.barrier? = [] := by
  rw [List.filterMap_map]
  exact List.filterMap_eq_nil_iff.mpr fun _ _ => rfl

private theorem byte?_requestDeeds (r : Request) : (requestDeeds r).filterMap Deed.byte? = [] := by
  cases r <;> rfl

private theorem barrier?_requestDeeds (r : Request) : (requestDeeds r).filterMap Deed.barrier? = [] := by
  cases r <;> rfl

/-- The deeds tell the bytes that were taken. -/
private theorem byte?_deeds (e : Effect) : (deeds e).filterMap Deed.byte? = e.accepted := by
  cases e with
  | request r argument errno =>
    cases errno with
    | none => exact byte?_requestDeeds r
    | some errno => rfl
  | wrote bytes => exact byte?_wrote bytes
  | report r => cases r <;> rfl
  | writeFailed | destroyFailed => rfl

/-- The deeds tell the barriers that were reported. -/
private theorem barrier?_deeds (e : Effect) : (deeds e).filterMap Deed.barrier? = e.barrier?.toList := by
  cases e with
  | request r argument errno =>
    cases errno with
    | none => exact barrier?_requestDeeds r
    | some errno => rfl
  | wrote bytes => exact barrier?_wrote bytes
  | report r => cases r <;> rfl
  | writeFailed | destroyFailed => rfl

private theorem byte?_callDeeds (c : Call) :
    (callDeeds c).filterMap Deed.byte? = batchBytes c.events := by
  cases c with
  | inject id events => exact byte?_wrote _
  | _ => rfl

private theorem barrier?_callDeeds (c : Call) :
    (callDeeds c).filterMap Deed.barrier? = c.barrier?.toList := by
  cases c with
  | inject id events => exact barrier?_wrote _
  | _ => rfl

/-- Effects that do what calls are for have the bytes of their events taken. -/
private theorem accepted_of_deeds {es : List Effect} {calls : List Call}
    (done : es.flatMap deeds = calls.flatMap callDeeds) :
    es.flatMap Effect.accepted = batchBytes (calls.flatMap Call.events) :=
  calc es.flatMap Effect.accepted
      = (es.flatMap deeds).filterMap Deed.byte? := by
        simp only [List.filterMap_flatMap, byte?_deeds]
    _ = calls.flatMap fun c => batchBytes c.events := by
        simp only [done, List.filterMap_flatMap, byte?_callDeeds]
    _ = batchBytes (calls.flatMap Call.events) := (batchBytes_flatMap _ _).symm

/-- Effects that do what calls are for report their barriers. -/
private theorem barriers_of_deeds {es : List Effect} {calls : List Call}
    (done : es.flatMap deeds = calls.flatMap callDeeds) :
    es.filterMap Effect.barrier? = calls.filterMap Call.barrier? :=
  calc es.filterMap Effect.barrier?
      = es.flatMap fun e => e.barrier?.toList := List.filterMap_eq_flatMap_toList ..
    _ = (es.flatMap deeds).filterMap Deed.barrier? := by
        simp only [List.filterMap_flatMap, barrier?_deeds]
    _ = calls.flatMap fun c => c.barrier?.toList := by
        simp only [done, List.filterMap_flatMap, barrier?_callDeeds]
    _ = calls.filterMap Call.barrier? := (List.filterMap_eq_flatMap_toList ..).symm

/-- Calls made during a wait are for nothing. -/
private theorem flatMap_callDeeds_filter (calls : List Call) :
    (calls.filter (·.kind ≠ .idle)).flatMap callDeeds = calls.flatMap callDeeds := by
  induction calls with
  | nil => rfl
  | cons c calls ih => cases c <;> simp_all [Call.kind, callDeeds]

end Uinput

open Uinput in
/-- The dry run predicts the real run. On a node that refuses nothing, however it cuts up writes and
whatever force feedback it asks for, a script whose ports can be handed on ends as in the dry run.
The trace of the dry run tells calls, and in the real run the bytes that the node takes are the
records of the events to inject by these calls, the reports are those of the barriers they reach,
and devices are made and destroyed where these calls create and close them, between the same bytes
and barriers. -/
theorem dry_run_predicts {node : Node} (willing : node.Willing) {f : Feed}
    (portable : f.Fits fun r => portHasNul r = false) :
    let real := (Session.runFeed uinput f).run { backend := node }
    let dry := (Session.runFeed tracer f).run { backend := {} }
    real.answer = dry.answer ∧ ∃ calls, Trace.read? (effects dry.log).flatten = some calls ∧
      readRecords? ((effects real.log).flatMap Effect.accepted) = some (calls.flatMap Call.events) ∧
      (effects real.log).filterMap Effect.barrier? = calls.filterMap Call.barrier? ∧
      (effects real.log).flatMap deeds = calls.flatMap callDeeds := by
  intro real dry
  obtain ⟨answer, done⟩ := Uinput.compliant.runFeed portable willing
  have any : f.Fits fun _ => True := fun _ _ _ _ => trivial
  have endless : Trace.Sink.Unlimited {} := ⟨rfl, rfl⟩
  obtain ⟨answer', lines⟩ := Trace.compliant.runFeed any endless
  let asked := Recorder.calls
    ((Session.runFeed (recorder Recorder.neverFails) f).run { backend := {} }).log
  let calls := asked.filter (·.kind ≠ .idle)
  have done : (effects real.log).flatMap deeds = calls.flatMap callDeeds :=
    done.trans (flatMap_callDeeds_filter asked).symm
  have trace : effects dry.log = asked.flatMap Trace.told := by
    rw [← lines, List.flatMap_singleton']
  refine ⟨answer.trans answer'.symm, calls, ?_, ?_, ?_, done⟩
  · rw [trace]
    exact Trace.read?_told asked
  · rw [accepted_of_deeds done]
    exact readRecords?_batchBytes _
  · exact barriers_of_deeds done

namespace Uinput

def slowNode : Node where
  reads := [.error interrupted, .event ⟨feedbackType, uploadCode, 7⟩, .short 3, .error tryAgain]
  writes := [.accept 5, .error interrupted, .accept 30]

def rumblePad : Feed where
  deliveries := [
    { event := ⟨1, .register
        { name := "Pad", vendor := 0x45e, product := 0x28e, ffEffectsMax := 4
          axes := .ofList [(0, { minimum := -32768, maximum := 32767 })], port := some "p" }⟩ },
    { event := ⟨1, .inject [⟨3, 0, -7⟩, ⟨0, 0, 0⟩]⟩ }, { event := ⟨1, .sync "moved"⟩ }]
  failure := none

theorem rumblePad_predicted :
    slowNode.Willing ∧ (rumblePad.Fits fun r => portHasNul r = false) ∧
    let real := (Session.runFeed uinput rumblePad).run { backend := slowNode }
    let dry := (Session.runFeed tracer rumblePad).run { backend := {} }
    real.answer = dry.answer ∧ ∃ calls, Trace.read? (effects dry.log).flatten = some calls ∧
      readRecords? ((effects real.log).flatMap Effect.accepted) =
        some (calls.flatMap Call.events) := by
  have willing : slowNode.Willing := by
    refine ⟨rfl, ?_, ?_, fun _ _ => rfl⟩
    · simp [slowNode, ReadResult.Benign]
    · simp [slowNode, WriteResult.Benign]
  have portable : rumblePad.Fits fun r => portHasNul r = false := by
    intro d hd r hr
    simp only [rumblePad, List.mem_cons, List.not_mem_nil, or_false] at hd
    rcases hd with rfl | rfl | rfl <;> cases hr
    decide
  obtain ⟨answer, calls, trace, records, -⟩ := dry_run_predicts willing portable
  exact ⟨willing, portable, answer, calls, trace, records⟩

end Uinput
end ScriptedInput

import ScriptedInput.Backend.Uinput.Handle
import ScriptedInput.Proofs.Ensures

/-! What the calls of the uinput back end do to its node. A device is there only after the last
request of its creation; attending to it makes requests of force feedback alone. -/
namespace ScriptedInput.Uinput
open Act

def IsService : Effect → Prop
  | .request r _ _ => r ∈ [.beginUpload, .endUpload, .beginErase, .endErase]
  | .report (.vibrating _ _ _) => True
  | .report (.sync _ _) | .wrote _ | .writeFailed _ | .destroyFailed _ _ => False

def Effect.accepted : Effect → List UInt8
  | .wrote bytes => bytes
  | _ => []

def IsWriting : Effect → Prop
  | .wrote _ | .writeFailed _ => True
  | .request _ _ _ | .report _ | .destroyFailed _ _ => False

namespace Node

theorem run_request (r : Request) (argument : Argument) (n : Node) :
    (request r argument).run n =
      ⟨match n.faults r (n.used r) with
        | none => .ok ()
        | some e => .error (.os r.name (.os e)),
        { n with used := fun q => if q = r then n.used r + 1 else n.used q },
        [.request r argument (n.faults r (n.used r))]⟩ := rfl

private theorem request_only {p : Effect → Prop} {r : Request} {argument : Argument}
    (h : ∀ errno, p (.request r argument errno)) : (request r argument).Only p := by
  intro n
  rw [run_request]
  exact List.forall_mem_singleton.mpr (h _)

/-- Requests are made up to the first that fails, and the failure names it. -/
theorem requestAll_cases (rs : List (Request × Argument)) (n : Node) :
    (((requestAll rs).run n).answer = .ok () ∧
      ((requestAll rs).run n).log = rs.map fun q => .request q.1 q.2 none) ∨
    ∃ before last errno after,
      ((requestAll rs).run n).answer = .error (.os last.1.name (.os errno)) ∧
      rs = before ++ last :: after ∧
      ((requestAll rs).run n).log =
        before.map (fun q => .request q.1 q.2 none) ++ [.request last.1 last.2 (some errno)] := by
  induction rs generalizing n with
  | nil => exact .inl ⟨rfl, rfl⟩
  | cons q rs ih =>
    obtain ⟨r, argument⟩ := q
    cases hf : n.faults r (n.used r) with
    | some errno =>
      refine .inr ⟨[], (r, argument), errno, rs, ?_⟩
      simp [requestAll, run_request, hf]
    | none =>
      have step : (requestAll ((r, argument) :: rs)).run n =
          ⟨((requestAll rs).run ((request r argument).run n).state).answer,
            ((requestAll rs).run ((request r argument).run n).state).state,
            .request r argument none ::
              ((requestAll rs).run ((request r argument).run n).state).log⟩ := by
        simp [requestAll, run_request, hf]
      rw [step]
      rcases ih ((request r argument).run n).state with
        ⟨answer, log⟩ | ⟨before, last, errno, after, answer, split, log⟩
      · exact .inl ⟨answer, by rw [log]; rfl⟩
      · exact .inr ⟨(r, argument) :: before, last, errno, after, answer, by rw [split]; rfl,
          by rw [log]; rfl⟩

private theorem writeFrom_only (bytes : List UInt8) (writes : List WriteResult) :
    (writeFrom bytes writes).Only IsWriting := by
  induction writes generalizing bytes with
  | nil =>
    unfold writeFrom
    split
    · exact .bind (.modify _) fun _ => .pure _
    · exact .bind (.modify _) fun _ => .bind (.log trivial) fun _ => .pure _
  | cons w rest ih =>
    unfold writeFrom
    split
    · exact .bind (.modify _) fun _ => .pure _
    · cases w with
      | error errno =>
        refine .bind (.log trivial) fun _ => ?_
        split
        · exact ih bytes
        · exact .bind (.modify _) fun _ => .pure _
      | accept count =>
        refine .bind (.log trivial) fun _ => ?_
        split
        · exact .bind (.modify _) fun _ => .pure _
        · exact ih _

/-- Writing uses up results of writes, and leaves the node as it is otherwise. -/
theorem writeFrom_state (bytes : List UInt8) (writes : List WriteResult) (n : Node) :
    ∃ left, ((writeFrom bytes writes).run n).state = { n with writes := left } := by
  induction writes generalizing bytes with
  | nil => unfold writeFrom; split <;> exact ⟨_, rfl⟩
  | cons w rest ih =>
    unfold writeFrom
    split
    · exact ⟨_, rfl⟩
    · cases w with
      | error errno =>
        simp only [Act.run_bind, Act.run_log]
        split
        · exact ih bytes
        · exact ⟨rest, rfl⟩
      | accept count =>
        simp only [Act.run_bind, Act.run_log]
        split
        · exact ⟨rest, rfl⟩
        · exact ih _

theorem writeAll_only (bytes : List UInt8) : (writeAll bytes).Only IsWriting :=
  .bind .get fun _ => writeFrom_only bytes _

end Node

private theorem acknowledge_only {begins ends : Request} (wrap : Int → Int) (value : Int32)
    (hb : begins ∈ [.beginUpload, .endUpload, .beginErase, .endErase])
    (he : ends ∈ [.beginUpload, .endUpload, .beginErase, .endErase]) :
    (acknowledge begins ends wrap value).Only IsService := by
  refine .bind (.bind (Node.request_only fun _ => hb) ?_) ?_
  · rintro (e | _)
    · exact .pure _
    · exact .bind .get fun _ => .bind (fun _ _ h => nomatch h) fun _ => .pure _
  · rintro (e | effect)
    · exact .pure _
    · exact Node.request_only fun _ => he

private theorem answer_only (h : Handle) (e : RawEvent) : (answer h e).Only IsService := by
  unfold answer
  split
  · exact acknowledge_only _ _ (by simp) (by simp)
  · split
    · exact acknowledge_only _ _ (by simp) (by simp)
    · split
      · exact .bind (.log trivial) fun _ => .pure _
      · exact .pure _

private theorem serveFrom_only (h : Handle) (reads : List ReadResult) :
    (serveFrom h reads).Only IsService := by
  induction reads with
  | nil => exact .bind (.modify _) fun _ => .pure _
  | cons r rest ih =>
    cases r with
    | short count => exact .bind (.modify _) fun _ => .pure _
    | error errno =>
      unfold serveFrom
      split
      · exact ih
      · exact .bind (.modify _) fun _ => .pure _
    | event e =>
      refine .bind (.modify _) fun _ => .bind (answer_only h e) ?_
      rintro (e | _)
      · exact .pure _
      · exact ih

theorem serve_only (h : Handle) : (serve h).Only IsService := by
  unfold serve
  split
  · exact .pure _
  · split
    · exact .pure _
    · exact .bind .get fun _ => serveFrom_only h _

section Inject
variable {h : Handle} (live : h.live) {events : List RawEvent} {n : Node}
include live

/-- After a batch was written, the device is attended to. -/
theorem run_inject_written (written : ((Node.writeAll (batchBytes events)).run n).answer = .ok ()) :
    let wrote := (Node.writeAll (batchBytes events)).run n
    let served := (serve h).run wrote.state
    (inject h events).run n = ⟨served.answer, served.state, wrote.log ++ served.log⟩ := by
  simp [inject, live, written]

/-- If a batch cannot be written, that is all. -/
theorem run_inject_unwritten {e : BackendError}
    (failed : ((Node.writeAll (batchBytes events)).run n).answer = .error e) :
    let wrote := (Node.writeAll (batchBytes events)).run n
    (inject h events).run n = ⟨.error e, wrote.state, wrote.log⟩ := by
  simp [inject, live, failed]

end Inject

end ScriptedInput.Uinput

import ScriptedInput.Proofs.Backend.Uinput.KernelDevices
import ScriptedInput.Proofs.Session.Compliance

/-! The uinput back end on a node that does what it is asked, however slowly: each call succeeds,
and what it does to the node is what the call is for, whatever force feedback comes in between. -/
namespace ScriptedInput
namespace Uinput

/-- What a replay does through a node, byte by byte, with the barriers it reports. -/
inductive Deed where
  | made
  | destroyed
  | wrote (byte : UInt8)
  | reached (id : DeviceId) (token : String)
  deriving DecidableEq, Repr

def requestDeeds : Request → List Deed
  | .devCreate => [.made]
  | .devDestroy => [.destroyed]
  | _ => []

def deeds : Effect → List Deed
  | .request r _ none => requestDeeds r
  | .wrote bytes => bytes.map .wrote
  | .report (.sync id token) => [.reached id token]
  | .request _ _ (some _) | .writeFailed _ | .report (.vibrating _ _ _) | .destroyFailed _ _ => []

def callDeeds : Call → List Deed
  | .create _ _ => [.made]
  | .inject _ events => (batchBytes events).map .wrote
  | .delay _ _ | .idle _ => []
  | .sync id token => [.reached id token]
  | .close _ => [.destroyed]

def ReadResult.Benign : ReadResult → Prop
  | .event _ | .short _ => True
  | .error errno => errno = interrupted ∨ errno = tryAgain

def WriteResult.Benign : WriteResult → Prop
  | .accept count => 0 < count
  | .error errno => errno = interrupted

/-- A node that can be opened and refuses nothing. Reads may find nothing or parts of a record,
writes may take less than they are given, and both may be interrupted. -/
structure Node.Willing (n : Node) : Prop where
  opens : n.openFailure = none
  reads : ∀ r ∈ n.reads, r.Benign
  writes : ∀ w ∈ n.writes, w.Benign
  requests : ∀ r k, n.faults r k = none

/-- The action succeeds on a willing node, leaves it willing, and does just this. -/
abbrev Does (done : List Deed) (x : Act Node Effect (Except BackendError Unit)) : Prop :=
  x.Leaves deeds Node.Willing (· = .ok ()) done

private theorem requestDeeds_other {r : Request} (h : r ≠ .devCreate ∧ r ≠ .devDestroy) :
    requestDeeds r = [] := by
  unfold requestDeeds
  split <;> simp_all

private theorem Preparing.deeds {rs : List (Request × Argument)} (h : Preparing rs) :
    (rs.flatMap fun q => requestDeeds q.1) = [] :=
  List.flatMap_eq_nil_iff.mpr fun q hq => requestDeeds_other (h q hq)

namespace Node
variable {n : Node}

private theorem Willing.replaceReads (h : n.Willing) {reads : List ReadResult}
    (benign : ∀ r ∈ reads, r.Benign) : Willing { n with reads } :=
  ⟨h.opens, benign, h.writes, h.requests⟩

private theorem Willing.replaceWrites (h : n.Willing) {writes : List WriteResult}
    (benign : ∀ w ∈ writes, w.Benign) : Willing { n with writes } :=
  ⟨h.opens, h.reads, benign, h.requests⟩

private theorem request_does (r : Request) (argument : Argument) :
    Does (requestDeeds r) (request r argument) := by
  intro n willing
  rw [run_request, willing.requests]
  exact ⟨rfl, ⟨willing.opens, willing.reads, willing.writes, willing.requests⟩,
    List.flatMap_singleton ..⟩

private theorem requestAll_does (rs : List (Request × Argument)) :
    Does (rs.flatMap fun q => requestDeeds q.1) (requestAll rs) := by
  induction rs with
  | nil => exact .pure rfl
  | cons q rs ih =>
    refine .bind (request_does q.1 q.2) ?_
    rintro _ rfl
    exact ih

/-- All bytes are written in the end. -/
private theorem writeFrom_does {writes : List WriteResult} (benign : ∀ w ∈ writes, w.Benign)
    (bytes : List UInt8) : Does (bytes.map .wrote) (writeFrom bytes writes) := by
  -- Each result leaves as many bytes to write or fewer; after the last one all that is left is taken.
  induction writes generalizing bytes with
  | nil =>
    unfold writeFrom
    split
    · next none =>
      rw [List.isEmpty_iff.mp none]
      exact .silent_bind (.modify fun _ h => h.replaceWrites benign) fun _ _ => .pure rfl
    · refine .silent_bind (.modify fun _ h => h.replaceWrites benign) fun _ _ => ?_
      exact .bind_silent (.log rfl) fun _ _ => .pure rfl
  | cons w rest ih =>
    obtain ⟨first, later⟩ := List.forall_mem_cons.mp benign
    unfold writeFrom
    split
    · next none =>
      rw [List.isEmpty_iff.mp none]
      exact .silent_bind (.modify fun _ h => h.replaceWrites benign) fun _ _ => .pure rfl
    · cases w with
      | error errno =>
        refine .silent_bind (.log rfl) fun _ _ => ?_
        rw [WriteResult.Benign] at first
        rw [if_pos first]
        exact ih later bytes
      | accept count =>
        have whole : bytes.map Deed.wrote =
            (bytes.take count).map .wrote ++ (bytes.drop count).map .wrote := by
          rw [← List.map_append, List.take_append_drop]
        rw [whole]
        refine .bind (.log rfl) fun _ _ => ?_
        rw [if_neg (Nat.ne_of_gt first)]
        exact ih later _

private theorem writeAll_does (bytes : List UInt8) : Does (bytes.map .wrote) (writeAll bytes) :=
  .silent_bind .get fun _ willing => writeFrom_does willing.writes bytes

end Node

/-- The answer to a request for force feedback makes and destroys nothing. -/
private theorem acknowledge_does {begins ends : Request} (wrap : Int → Int) (value : Int32)
    (hb : begins ≠ .devCreate ∧ begins ≠ .devDestroy) (he : ends ≠ .devCreate ∧ ends ≠ .devDestroy) :
    Does [] (acknowledge begins ends wrap value) := by
  have quiet {r : Request} (h : r ≠ .devCreate ∧ r ≠ .devDestroy) (argument : Argument) :
      Does [] (Node.request r argument) := requestDeeds_other h ▸ Node.request_does r argument
  refine .silent_bind (A := fun a => ∃ effect, a = .ok effect) (.silent_bind (quiet hb _) ?_) ?_
  · rintro _ rfl
    refine .silent_bind .get fun n willing => .silent_bind (.set ?_) fun _ _ => .pure ⟨_, rfl⟩
    exact ⟨willing.opens, willing.reads, willing.writes, willing.requests⟩
  · rintro _ ⟨effect, rfl⟩
    exact quiet he _

private theorem answer_does (h : Handle) (e : RawEvent) : Does [] (answer h e) := by
  unfold answer
  split
  · exact acknowledge_does _ _ (by simp) (by simp)
  · split
    · exact acknowledge_does _ _ (by simp) (by simp)
    · split
      · exact .silent_bind (.log rfl) fun _ _ => .pure rfl
      · exact .pure rfl

private theorem serveFrom_does (h : Handle) {reads : List ReadResult} (benign : ∀ r ∈ reads, r.Benign) :
    Does [] (serveFrom h reads) := by
  induction reads with
  | nil => exact .silent_bind (.modify fun _ h => h.replaceReads benign) fun _ _ => .pure rfl
  | cons r rest ih =>
    obtain ⟨first, later⟩ := List.forall_mem_cons.mp benign
    have left := fun (n : Node) (h : n.Willing) => h.replaceReads later
    cases r with
    | short count => exact .silent_bind (.modify left) fun _ _ => .pure rfl
    | error errno =>
      unfold serveFrom
      split
      · exact ih later
      · next other =>
        refine .silent_bind (.modify left) fun _ _ => ?_
        rw [if_pos (first.resolve_left other)]
        exact .pure rfl
    | event e =>
      refine .silent_bind (.modify left) fun _ _ => .silent_bind (answer_does h e) ?_
      rintro _ rfl
      exact ih later

/-- Attending to a device makes and destroys nothing. -/
private theorem serve_does {h : Handle} (live : h.live) : Does [] (serve h) := by
  simp only [serve, live, not_true_eq_false, if_false]
  split
  · exact .pure rfl
  · exact .silent_bind .get fun _ willing => serveFrom_does h willing.reads

private theorem inject_does {h : Handle} (live : h.live) (events : List RawEvent) :
    Does ((batchBytes events).map .wrote) (inject h events) := by
  simp only [inject, live, not_true_eq_false, if_false]
  refine .bind_silent (Node.writeAll_does _) ?_
  rintro _ rfl
  exact serve_does live

private theorem sync_does {h : Handle} (live : h.live) (token : String) :
    Does [.reached h.id token] (sync h token) := by
  refine .silent_bind (serve_does live) ?_
  rintro _ rfl
  exact .bind_silent (.log rfl) fun _ _ => .pure rfl

private theorem close_does {h : Handle} (live : h.live) :
    (close h).Leaves deeds Node.Willing (fun a => a.1 = .ok ()) [.destroyed] := by
  simp only [close, live, not_true_eq_false, if_false]
  refine .bind_silent (Node.request_does .devDestroy .none) ?_
  rintro _ rfl
  exact .pure rfl

private theorem create_does (id : DeviceId) {r : Registration} (portable : portHasNul r = false) :
    (create id r).Leaves deeds Node.Willing (fun a => ∃ h, a = .ok h ∧ h.id = id ∧ h.live)
      [.made] := by
  have properties := (preparing_properties r).deeds
  refine .silent_bind .get fun n willing => ?_
  rw [willing.opens]
  refine .silent_bind (A := (· = .ok ())) (properties ▸ Node.requestAll_does _) ?_
  rintro _ rfl
  simp only [portable, Bool.false_eq_true, if_false]
  have making :
      ((portRequests r ++ setupRequests r).flatMap fun q => requestDeeds q.1) = [.made] := by
    rw [setup_eq, List.flatMap_append, (preparing_setup r).deeds]
    rfl
  refine .bind_silent (making ▸ Node.requestAll_does (portRequests r ++ setupRequests r)) ?_
  rintro _ rfl
  exact .pure ⟨_, rfl, rfl, rfl⟩

/-- On a willing node, for registrations without a NUL in the port, no call fails, and each does
what it is for. -/
theorem compliant : uinput.Compliant Node.Willing (fun r => portHasNul r = false)
    (fun id h => h.id = id ∧ h.live) deeds callDeeds where
  create id ready := create_does id ready
  inject own events := inject_does own.2 events
  delay own _ := serve_does own.2
  idle own := serve_does own.2
  sync own token := own.1 ▸ sync_does own.2 token
  close own := close_does own.2

end Uinput
end ScriptedInput

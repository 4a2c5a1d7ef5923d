import ScriptedInput.Proofs.Backend.Annotated
import ScriptedInput.Proofs.Backend.Uinput.Requests

/-! The devices that the system has for a session. Each creation that succeeds is followed by
exactly one request to destroy the device, whatever fails, and at every moment the devices that are
there are those that are open. -/
namespace ScriptedInput
namespace Uinput

/-- What becomes of a device of the system. Destroying is one request, which may fail. -/
inductive Milestone where
  | made | destroyed
  deriving DecidableEq, Repr

def milestones : Effect → List Milestone
  | .request .devCreate _ none => [.made]
  | .request .devDestroy _ _ => [.destroyed]
  | _ => []

def callMilestones : Call → Option BackendError → List Milestone
  | .create _ _, none => [.made]
  | .close _, _ => [.destroyed]
  | _, _ => []

private theorem milestones_other {r : Request} (h : r ≠ .devCreate ∧ r ≠ .devDestroy)
    (argument : Argument) (errno : Option Nat) : milestones (.request r argument errno) = [] := by
  unfold milestones
  split <;> simp_all

private theorem milestones_refused {r : Request} (h : r ≠ .devDestroy) (argument : Argument)
    (errno : Nat) : milestones (.request r argument (some errno)) = [] := by
  unfold milestones
  split <;> simp_all

private theorem milestones_service {e : Effect} (h : IsService e) : milestones e = [] := by
  cases e with
  | request r argument errno =>
    apply milestones_other
    rw [IsService] at h
    constructor <;> rintro rfl <;> simp at h
  | _ => rfl

private theorem milestones_writing {e : Effect} (h : IsWriting e) : milestones e = [] := by
  cases e with
  | request => exact h.elim
  | _ => rfl

/-- Requests that neither make nor destroy a device. -/
def Preparing (rs : List (Request × Argument)) : Prop :=
  ∀ q ∈ rs, q.1 ≠ .devCreate ∧ q.1 ≠ .devDestroy

theorem preparing_properties (r : Registration) :
    Preparing (capabilityRequests r ++ axisRequests r) := by
  intro q hq
  simp only [List.mem_append, capabilityRequests, axisRequests, List.mem_flatMap, List.mem_map] at hq
  rcases hq with ⟨e, -, c, -, rfl⟩ | ⟨a, -, rfl⟩ <;> simp

theorem preparing_setup (r : Registration) :
    Preparing (portRequests r ++ [(.devSetup, .setup (.ofRegistration r))]) := by
  refine List.forall_mem_append.mpr ⟨?_, List.forall_mem_singleton.mpr (by simp)⟩
  unfold portRequests
  split
  · exact fun _ h => nomatch h
  · exact List.forall_mem_singleton.mpr (by simp)

/-- The last request of all makes the device. -/
theorem setup_eq (r : Registration) : portRequests r ++ setupRequests r =
    portRequests r ++ [(.devSetup, .setup (.ofRegistration r))] ++ [(.devCreate, .none)] := by
  rw [List.append_assoc]
  rfl

variable {rs : List (Request × Argument)}

private theorem Preparing.milestones (h : Preparing rs) :
    (rs.map fun q => Effect.request q.1 q.2 none).flatMap milestones = [] := by
  rw [List.flatMap_map, List.flatMap_eq_nil_iff]
  exact fun q hq => milestones_other (h q hq) q.2 none

private theorem Preparing.milestones_requestAll (h : Preparing rs) (n : Node) :
    ((Node.requestAll rs).run n).log.flatMap Uinput.milestones = [] := by
  rcases Node.requestAll_cases rs n with ⟨-, log⟩ | ⟨before, last, errno, after, -, split, log⟩
  · rw [log, h.milestones]
  · have front : Preparing before := fun q hq => h q (split ▸ List.mem_append_left _ hq)
    have other := h last (split ▸ List.mem_append_right _ List.mem_cons_self)
    simp [log, front.milestones, milestones_other other]

/-- The last of these requests makes the device, if it and all before it succeed. -/
private theorem Preparing.milestones_creating (h : Preparing rs) (n : Node) :
    ((Node.requestAll (rs ++ [(.devCreate, .none)])).run n).log.flatMap Uinput.milestones =
      match ((Node.requestAll (rs ++ [(.devCreate, .none)])).run n).answer with
      | .ok () => [.made]
      | .error _ => [] := by
  rcases Node.requestAll_cases (rs ++ [(.devCreate, .none)]) n with
    ⟨answer, log⟩ | ⟨before, last, errno, after, answer, split, log⟩
  · rw [answer, log, List.map_append, List.flatMap_append, h.milestones]
    rfl
  · -- What comes before a request that fails is not the last one.
    have front : Preparing before := by
      intro q hq
      have shorter : before <+: rs := by
        have whole : before <+: rs ++ [(.devCreate, .none)] := split ▸ List.prefix_append _ _
        rcases List.prefix_concat_iff.mp whole with all | shorter
        · simp [all] at split
        · exact shorter
      exact h q (shorter.subset hq)
    have kept : last.1 ≠ .devDestroy := by
      have member : last ∈ rs ++ [(.devCreate, .none)] :=
        split ▸ List.mem_append_right _ List.mem_cons_self
      rcases List.mem_append.mp member with member | member
      · exact (h last member).2
      · rw [List.mem_singleton.mp member]
        simp
    simp [answer, log, front.milestones, milestones_refused kept]

private theorem milestones_create (id : DeviceId) (r : Registration) (n : Node) :
    (∀ h, ((create id r).run n).answer = .ok h → h.live) ∧
      ((create id r).run n).log.flatMap milestones =
        callMilestones (.create id r) (failureOf ((create id r).run n).answer) := by
  have properties := (preparing_properties r).milestones_requestAll n
  have making := (preparing_setup r).milestones_creating
    ((Node.requestAll (capabilityRequests r ++ axisRequests r)).run n).state
  rw [← setup_eq] at making
  unfold create
  simp only [Act.run_bind, Act.run_get]
  cases n.openFailure with
  | some errno => exact ⟨by rintro h ⟨⟩, rfl⟩
  | none =>
    simp only [Act.run_bind, List.nil_append]
    cases first : ((Node.requestAll (capabilityRequests r ++ axisRequests r)).run n).answer with
    | error e => exact ⟨by rintro h ⟨⟩, by simpa [callMilestones, failureOf] using properties⟩
    | ok =>
      dsimp only
      split
      · exact ⟨by rintro h ⟨⟩, by simpa [callMilestones, failureOf] using properties⟩
      · simp only [Act.run_bind, List.flatMap_append, properties, List.nil_append, making]
        cases ((Node.requestAll (portRequests r ++ setupRequests r)).run
          ((Node.requestAll (capabilityRequests r ++ axisRequests r)).run n).state).answer with
        | error e => exact ⟨by rintro h ⟨⟩, rfl⟩
        | ok => exact ⟨by rintro h ⟨⟩; rfl, rfl⟩

private theorem milestones_serve (h : Handle) (n : Node) :
    ((serve h).run n).log.flatMap milestones = [] :=
  (serve_only h).flatMap_eq_nil (fun _ => milestones_service) n

private theorem milestones_inject (h : Handle) (events : List RawEvent) (n : Node) :
    ((inject h events).run n).log.flatMap milestones = [] := by
  unfold inject
  split
  · rfl
  · rw [Act.run_bind, List.flatMap_append,
      (Node.writeAll_only _).flatMap_eq_nil (fun _ => milestones_writing), List.nil_append]
    split
    · rfl
    · exact milestones_serve h _

private theorem milestones_sync (h : Handle) (token : String) (n : Node) :
    ((sync h token).run n).log.flatMap milestones = [] := by
  rw [sync, Act.run_bind, List.flatMap_append, milestones_serve, List.nil_append]
  split <;> rfl

private theorem milestones_close {h : Handle} (live : h.live) (n : Node) :
    ((close h).run n).log.flatMap milestones = [.destroyed] := by
  simp only [close, live, not_true_eq_false, if_false, Act.run_bind, Node.run_request]
  cases n.faults .devDestroy (n.used .devDestroy) with
  | none => rfl
  | some errno => rfl

/-- Which calls make and destroy devices, on devices that have not been destroyed. -/
private theorem tells_milestones : uinput.Tells (·.live) milestones callMilestones where
  create := milestones_create
  inject _ _ events n := milestones_inject _ events n
  delay _ _ _ n := milestones_serve _ n
  idle _ _ n := milestones_serve _ n
  sync _ _ token n := milestones_sync _ token n
  close live _ n := milestones_close live n

def Balanced (present : Nat) (past : List Effect) : Prop :=
  (past.flatMap milestones).count .made = (past.flatMap milestones).count .destroyed + present

variable {present : Nat} {past log : List Effect}

private theorem Balanced.quiet (h : Balanced present past) (told : log.flatMap milestones = []) :
    Balanced present (past ++ log) := by
  rwa [Balanced, List.flatMap_append, told, List.append_nil]

private theorem Balanced.made (h : Balanced present past) (told : log.flatMap milestones = [.made]) :
    Balanced (present + 1) (past ++ log) := by
  rw [Balanced] at h
  simp [Balanced, List.flatMap_append, told, h]
  omega

private theorem Balanced.destroyed (h : Balanced (present + 1) past)
    (told : log.flatMap milestones = [.destroyed]) : Balanced present (past ++ log) := by
  rw [Balanced] at h
  simp [Balanced, List.flatMap_append, told, h]
  omega

end Uinput

open Uinput in
/-- The devices that the system has are those of the open handles. -/
def uinputBalance : Custody uinput where
  holds hs past _ := Balanced hs.card past ∧ ∀ h ∈ hs, h.live
  create hs id r := by
    rintro past n ⟨balanced, live⟩
    obtain ⟨given, told⟩ := milestones_create id r n
    change Balanced (withCreated hs ((create id r).run n).answer).card _ ∧
      ∀ h ∈ withCreated hs ((create id r).run n).answer, h.live
    cases ha : ((create id r).run n).answer with
    | error e =>
      rw [ha] at told
      exact ⟨balanced.quiet told, live⟩
    | ok h =>
      rw [ha] at told
      rw [withCreated, Multiset.card_cons]
      exact ⟨balanced.made told, Multiset.forall_mem_cons.mpr ⟨given h ha, live⟩⟩
  inject _ events := fun _ n h => ⟨h.1.quiet (milestones_inject _ events n), h.2⟩
  delay _ _ := fun _ n h => ⟨h.1.quiet (milestones_serve _ n), h.2⟩
  idle _ := fun _ n h => ⟨h.1.quiet (milestones_serve _ n), h.2⟩
  sync _ token := fun _ n h => ⟨h.1.quiet (milestones_sync _ token n), h.2⟩
  close hs h := by
    rintro past n ⟨balanced, live⟩
    obtain ⟨own, others⟩ := Multiset.forall_mem_cons.mp live
    rw [Multiset.card_cons] at balanced
    exact ⟨balanced.destroyed (milestones_close own n), others⟩

def Registry.openCount {η : Type} (r : Registry η) : Nat := r.devices.countP (·.state = .opened)

private theorem card_openHandles {η : Type} (ds : List (Device η)) :
    (openHandles ds).card = ds.countP (·.state = .opened) := by
  induction ds with
  | nil => rfl
  | cons d ds ih =>
    cases hd : d.state with
    | opened => simp [openHandles_cons_opened hd, ih, hd]
    | closed => simp [openHandles_cons_closed hd, ih, hd]

open Uinput Backend.Accounted in
/-- Kernel devices never leak. Whatever is asked of a session and whatever the system answers,
between any two requests and between any two events of a run the creations that succeeded are as
many more than the requests to destroy a device as there are open devices, and at the end of the
session they are equally many. Call by call, a creation that fails made no device and is given no
handle; of the calls on a handle, the creation made a device, the closing requests once that it is
destroyed, whether or not that succeeds, and no other call does either. -/
theorem kernel_devices_never_leak (node : Node) (requests : List Session.Request) (f : Feed) :
    let new : Session Node Handle := { backend := node }
    let reached := (do
      let _ ← Session.performAll uinput requests
      Session.processAll uinput f.failure f.deliveries).run new
    let whole := effects ((Session.lifetime uinput requests).run new).log
    let calls :=
      effects ((Session.lifetime uinput.annotated requests).run { backend := (node, 0) }).log
    Balanced reached.state.registry.openCount (effects reached.log) ∧
    Balanced 0 whole ∧
    whole = calls.flatMap (·.effects) ∧
    (∀ n, on n calls = [] ∨
      (on n calls).flatMap (·.effects.flatMap milestones) = [.made, .destroyed]) ∧
    (∀ c ∈ calls, c.record.handle = none ↔
      c.record.call.kind = .create ∧ c.record.failure ≠ none) ∧
    (∀ c ∈ calls, c.effects.flatMap milestones =
      callMilestones c.record.call c.record.failure) := by
  intro new reached whole calls
  have fresh : uinputBalance.Sound [] new :=
    ⟨Session.distinct_new _, rfl, fun _ h => absurd h (Multiset.notMem_zero _)⟩
  have sound : uinputBalance.Sound reached.log reached.state :=
    Act.Keeps.bind (uinputBalance.performAll_sound requests)
      (fun _ => Session.Keeps.processAll
        (fun past s w h => ⟨h.1, by simpa [Custody.At] using h.2⟩) uinputBalance.process_sound
        f.failure f.deliveries) [] new fresh
  have released := uinputBalance.lifetime_releases requests [] new fresh
  obtain ⟨same, t, account⟩ := Backend.lifetime_accounted tells_milestones node requests
  refine ⟨?_, released.1, same, fun n => ?_, fun c hc => ?_, account.told⟩
  · rw [Registry.openCount, ← card_openHandles]
    exact sound.2.1
  · rcases account.told_on n with none | ⟨id, r, uses, failure, used, told⟩
    · exact .inl none
    · have silent : uses.flatMap (fun c => callMilestones c.call c.failure) = [] := by
        rw [List.flatMap_eq_nil_iff]
        intro c hc
        obtain ⟨-, made, closed⟩ := used c hc
        cases hcall : c.call <;> simp_all [callMilestones, Call.kind]
      right
      rw [told, silent]
      rfl
  · exact account.tracked.refused c.record (List.mem_map_of_mem hc)

end ScriptedInput

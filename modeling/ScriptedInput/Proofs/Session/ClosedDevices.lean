import ScriptedInput.Proofs.Session.Compliance
import ScriptedInput.Proofs.Session.Lifecycle

/-! Devices that were closed are of no account. A session in which some devices were closed answers
events for other devices as a session without them does, and refuses all commands for the closed
ones. -/
namespace ScriptedInput
variable {σ η ε α α' β β' : Type}

namespace Registry

def behind (old r : Registry η) : Registry η := ⟨old.devices ++ r.devices⟩

variable {old : Registry η} {id : DeviceId} {d : Device η}

private theorem get?_behind (new : id ∉ old.ids) (r : Registry η) :
    (behind old r).get? id = r.get? id := by
  have none : old.devices.find? (·.id = id) = none := get?_eq_none_iff.mpr new
  rw [get?, behind, List.find?_append, none]
  rfl

private theorem insert?_behind (new : d.id ∉ old.ids) (r : Registry η) :
    (behind old r).insert? d = (r.insert? d).map (behind old) := by
  rw [insert?, insert?, contains_eq, contains_eq, get?_behind new]
  split
  · rfl
  · simp [behind]

private theorem update_behind (new : d.id ∉ old.ids) (r : Registry η) :
    (behind old r).update d = behind old (r.update d) := by
  have kept : old.devices.map (fun e => if e.id = d.id then d else e) = old.devices := by
    refine (List.map_congr_left fun e he => ?_).trans (List.map_id _)
    have other : e.id ≠ d.id := fun same => new (same ▸ List.mem_map_of_mem he)
    simp [other]
  rw [update, behind, List.map_append, kept]
  rfl

private theorem run_closeEach_closed (b : Backend σ η ε) {ds : List (Device η)}
    (closed : ∀ d ∈ ds, d.state = .closed) (rest : List (Device η)) (s : σ) :
    (closeEach b (ds ++ rest)).run s =
      ⟨ds ++ ((closeEach b rest).run s).answer, ((closeEach b rest).run s).state,
        ((closeEach b rest).run s).log⟩ := by
  induction ds with
  | nil => rfl
  | cons d ds ih =>
    obtain ⟨first, others⟩ := List.forall_mem_cons.mp closed
    rw [List.cons_append, run_closeEach_cons, Device.run_close_closed b first, ih others]
    rfl

end Registry

namespace Session
variable (old : Registry η)

def behind (s : Session σ η) : Session σ η := { s with registry := old.behind s.registry }

/-- Actions that run alike from a session, and from this session with devices registered before its
own: they log the same, and in the end those devices are there as they were. -/
abbrev Beside (A : α → α' → Prop) (x : Act (Session σ η) (Entry ε) α)
    (x' : Act (Session σ η) (Entry ε) α') : Prop :=
  Act.Alike (fun entry => [entry]) (fun entry => [entry]) (fun s s' => s' = behind old s) A x x'

section Beside
variable {old} {b : Backend σ η ε} {A : α → α → Prop}

private theorem onBackend_beside {x : Act σ (Entry ε) α} (h : ∀ s, A (x.run s).answer (x.run s).answer) :
    Beside old A (onBackend x) (onBackend x) := by
  rintro s _ rfl
  exact ⟨h _, rfl, rfl⟩

private theorem modifyRegistry_beside {g g' : Registry η → Registry η}
    (same : ∀ r, g' (old.behind r) = old.behind (g r)) :
    Beside old (fun _ _ => True) (modifyRegistry g : Act (Session σ η) (Entry ε) Unit)
      (modifyRegistry g') := by
  refine .modify ?_
  rintro s _ rfl
  exact congrArg (fun registry => { s with registry }) (same s.registry)

private theorem create_beside {id : DeviceId} (new : id ∉ old.ids) (r : Registration) :
    Beside old Eq (create b id r) (create b id r) := by
  refine .bind (onBackend_beside (A := fun a a' => a = a' ∧ ∀ d, a = .ok d → d.id = id)
    fun s => ⟨rfl, fun d => Device.id_of_create⟩) ?_
  rintro (e | d) _ ⟨rfl, own⟩
  · exact .pure rfl
  · have new : d.id ∉ old.ids := own d rfl ▸ new
    refine .bind .get ?_
    rintro s _ rfl
    simp only [behind, Registry.insert?_behind new]
    cases s.registry.insert? d with
    | some registry => exact .bind (modifyRegistry_beside fun _ => rfl) fun _ _ _ => .pure rfl
    | none =>
      exact .bind (.log rfl) fun _ _ _ =>
        .bind (onBackend_beside fun _ => rfl) fun _ _ _ => .pure rfl

private theorem process_beside {e : Event} (new : e.id ∉ old.ids) :
    Beside old Eq (process b e) (process b e) := by
  refine .bind .get ?_
  rintro s _ rfl
  simp only [behind, Registry.get?_behind new]
  cases found : s.registry.get? e.id with
  | none =>
    cases e.action with
    | register r => exact create_beside new r
    | inject | delay | sync => exact .bind (.log rfl) fun _ _ _ => .pure rfl
  | some d =>
    have new : d.id ∉ old.ids := (Registry.mem_of_get? found).2 ▸ new
    cases e.action with
    | register r => exact .bind (.log rfl) fun _ _ _ => .pure rfl
    | inject events => exact onBackend_beside fun _ => rfl
    | sync token => exact onBackend_beside fun _ => rfl
    | delay millis =>
      refine .bind (onBackend_beside (A := fun a a' => a = a' ∧ a.2.id = d.id) fun s => ?_) ?_
      · have ht : (Action.delay millis).task? = some (.delay millis) := rfl
        obtain ⟨clock, same⟩ := d.perform_device b ht s
        exact ⟨rfl, congrArg (·.id) same⟩
      · rintro ⟨answer, d'⟩ _ ⟨rfl, own⟩
        refine .bind (modifyRegistry_beside fun r => ?_) fun _ _ _ => .pure rfl
        exact Registry.update_behind (own ▸ new) r

private theorem processAll_beside (failure : Option ParseError) {ds : List Delivery}
    (new : ∀ d ∈ ds, d.event.id ∉ old.ids) :
    Beside old Eq (processAll b failure ds) (processAll b failure ds) := by
  induction ds with
  | nil => exact .pure rfl
  | cons d ds ih =>
    obtain ⟨first, later⟩ := List.forall_mem_cons.mp new
    refine .bind (.logAll rfl) fun _ _ _ => .bind (process_beside first) ?_
    rintro (e | _) _ rfl
    · exact .pure rfl
    · exact ih later

/-- Closing all devices passes over those that were closed before. -/
private theorem shutdown_beside (closed : old.AllClosed) :
    Beside old (fun _ _ => True) (shutdown b) (shutdown b) := by
  rintro s _ rfl
  have passed : (Registry.closeEach b (behind old s).registry.devices).run s.backend = _ :=
    Registry.run_closeEach_closed b closed s.registry.devices s.backend
  rw [run_shutdown, run_shutdown, show (behind old s).backend = s.backend from rfl, passed]
  exact ⟨trivial, rfl, rfl⟩

/-- A run for other devices goes on beside closed ones as it does without them. -/
private theorem runFeed_beside (closed : old.AllClosed) {f : Feed}
    (new : ∀ e ∈ f.events, e.id ∉ old.ids) : Beside old Eq (runFeed b f) (runFeed b f) := by
  have others : ∀ d ∈ f.deliveries, d.event.id ∉ old.ids :=
    fun d hd => new d.event (List.mem_map_of_mem hd)
  refine .bind (processAll_beside f.failure others) ?_
  rintro answer _ rfl
  exact .bind (shutdown_beside closed) fun _ _ _ => .pure rfl

end Beside

/-- A closed device refuses its commands, and nothing comes of them. -/
private theorem run_process_closed (b : Backend σ η ε) {s : Session σ η} (hs : s.registry.Distinct)
    {e : Event} {d : Device η} (found : s.registry.get? e.id = some d) (closed : d.state = .closed)
    (command : e.command ≠ .register) :
    (process b e).run s = ⟨.error (.closed e.id e.command), s, []⟩ := by
  obtain ⟨task, ht⟩ : ∃ task, e.action.task? = some task :=
    Option.ne_none_iff_exists'.mp fun none => command ((Action.task?_eq_none_iff _).mp none)
  have own : d.id = e.id := (Registry.mem_of_get? found).2
  have kept : s.registry.update d = s.registry := Registry.update_self hs (own ▸ found)
  rw [run_process_task b hs found ht, Device.run_perform_closed b closed ht, kept, own]
  rfl

end Session

namespace Recorder

def told (log : List (Entry Record)) : List (Entry Call) :=
  log.flatMap (Entry.tells fun record => [record.call])

/-- A recorder that never fails records the calls that are asked for. -/
private theorem compliant : (recorder neverFails).Compliant (fun _ => True) (fun _ => True)
    (fun id h => h.id = id) (fun record => [record.call]) (fun call => [call]) where
  create {r} id _ := by
    intro s _
    have given : ((recorder neverFails).create id r).run s = _ := run_create_accepted rfl id r
    rw [given]
    exact ⟨⟨_, rfl, rfl⟩, trivial, rfl⟩
  inject own events _ _ := own ▸ ⟨rfl, trivial, rfl⟩
  delay own millis _ _ := own ▸ ⟨rfl, trivial, rfl⟩
  idle own _ _ := own ▸ ⟨rfl, trivial, rfl⟩
  sync own token _ _ := own ▸ ⟨rfl, trivial, rfl⟩
  close own _ _ := own ▸ ⟨rfl, trivial, rfl⟩

end Recorder

open Recorder in
/-- Closed devices are inert. Whatever happened in a session before, once all its devices are closed a
run for other devices goes as it does in a new session on the same back end, and leaves the closed
devices as they were; if no call of the run fails, that is also how it goes on a back end on which
nothing happened before. A command for a closed device is refused, and nothing else comes of it. -/
theorem closed_devices_inert (plan later : FailurePlan) (requests : List Session.Request)
    (f : Feed) (e : Event) :
    let old := Session.after (recorder plan) requests { backend := {} }
    (old.registry.AllClosed → (∀ e ∈ f.events, e.id ∉ old.registry.ids) →
      (let again := (Session.runFeed (recorder later) f).run old
        let new := (Session.runFeed (recorder later) f).run { backend := old.backend }
        again.answer = new.answer ∧ again.log = new.log ∧
          again.state.registry.devices = old.registry.devices ++ new.state.registry.devices) ∧
      (let again := (Session.runFeed (recorder neverFails) f).run old
        let new := (Session.runFeed (recorder neverFails) f).run { backend := {} }
        again.answer = new.answer ∧ told again.log = told new.log)) ∧
    (∀ d, old.registry.get? e.id = some d → d.state = .closed → e.command ≠ .register →
      (Session.process (recorder later) e).run old = ⟨.error (.closed e.id e.command), old, []⟩) := by
  intro old
  -- The session is a new one behind the devices that were closed.
  have front : old = { backend := old.backend : Session State Handle }.behind old.registry := by
    rw [Session.behind, Registry.behind, List.append_nil]
  refine ⟨fun closed others => ?_, fun d found closed command => ?_⟩
  · have beside (plan : FailurePlan) :=
      Session.runFeed_beside (b := recorder plan) closed others { backend := old.backend } old front
    refine ⟨?_, ?_⟩
    · intro again new
      obtain ⟨answer, state, log⟩ := beside later
      rw [List.flatMap_singleton', List.flatMap_singleton'] at log
      exact ⟨answer.symm, log.symm, congrArg (·.registry.devices) state⟩
    · intro again new
      obtain ⟨answer, -, log⟩ := beside neverFails
      rw [List.flatMap_singleton', List.flatMap_singleton'] at log
      obtain ⟨answer', -, log'⟩ := compliant.simulation.runFeed f (fun _ _ _ _ => trivial)
        { backend := old.backend } { backend := {} } ⟨.nil, trivial⟩
      refine ⟨answer.symm.trans answer', ?_⟩
      rw [told, ← log]
      exact log'
  · exact Session.run_process_closed _ (Session.distinct_after _ (Session.distinct_new _) requests)
      found closed command

def unclosable : FailurePlan
  | .close, _ => some (.rejected .noHandle)
  | _, _ => none

def plainPad : Registration := { name := "pad", vendor := 1, product := 2, axes := .ofList [] }

def retirement : List Session.Request :=
  [.register ⟨4, .register plainPad⟩, .process ⟨4, .delay 450⟩, .shutdown]

def succession : Feed :=
  ⟨[{ event := ⟨5, .register plainPad⟩ }, { event := ⟨5, .delay 201⟩ },
    { event := ⟨6, .sync "unheard"⟩ }], none⟩

open Recorder in
theorem succession_unaffected :
    let old := Session.after (recorder unclosable) retirement { backend := {} }
    let again := (Session.runFeed (recorder neverFails) succession).run old
    let new := (Session.runFeed (recorder neverFails) succession).run { backend := {} }
    old.registry.AllClosed ∧ (∀ e ∈ succession.events, e.id ∉ old.registry.ids) ∧
      told again.log = told new.log ∧
      (Session.process (recorder neverFails) ⟨4, .sync "late"⟩).run old =
        ⟨.error (.closed 4 .sync), old, []⟩ := by
  intro old again new
  let retired : Device Handle := ⟨4, plainPad, ⟨0, 4⟩, .closed, 450⟩
  have devices : old.registry.devices = [retired] := by decide +kernel
  have closed : old.registry.AllClosed := by
    rw [Registry.AllClosed, devices]
    decide
  have others : ∀ e ∈ succession.events, e.id ∉ old.registry.ids := by
    rw [Registry.ids, devices]
    decide
  have found : old.registry.get? 4 = some retired := by
    rw [Registry.get?, devices]
    rfl
  obtain ⟨run, refused⟩ := closed_devices_inert unclosable neverFails retirement succession
    ⟨4, .sync "late"⟩
  exact ⟨closed, others, (run closed others).2.2, refused _ found rfl (by decide)⟩

end ScriptedInput

import Mathlib.Data.List.Forall2
import ScriptedInput.Proofs.Session.Routing

/-! Back ends that cannot be told apart. If each call on one back end answers as on another, and
leaves effects that tell the same, then all sessions on the two answer alike and have logs that tell
the same. -/
namespace ScriptedInput
variable {σ σ' η η' ε ε' δ α α' β β' : Type}

inductive AnswerAlike {φ : Type} (A : α → α' → Prop) : Except φ α → Except φ α' → Prop where
  | ok {a : α} {a' : α'} (same : A a a') : AnswerAlike A (.ok a) (.ok a')
  | error (e : φ) : AnswerAlike A (.error e) (.error e)

def Entry.tells (f : ε → List δ) : Entry ε → List (Entry δ)
  | .warning w => [.warning w]
  | .closeFailed id e => [.closeFailed id e]
  | .slept n => [.slept n]
  | .effect e => (f e).map .effect

/-- Only effects tell effects. -/
theorem effects_flatMap_tells (f : ε → List δ) (log : List (Entry ε)) :
    effects (log.flatMap (Entry.tells f)) = (effects log).flatMap f := by
  induction log with
  | nil => rfl
  | cons entry log ih =>
    rw [List.flatMap_cons, effects_append, ih]
    cases entry <;> simp [Entry.tells]

namespace Act

/-- Two actions that run alike from related states: they give related answers, lead to related
states again, and their logs tell the same. -/
def Alike (f : ε → List δ) (f' : ε' → List δ) (R : σ → σ' → Prop) (A : α → α' → Prop)
    (x : Act σ ε α) (x' : Act σ' ε' α') : Prop :=
  ∀ s s', R s s' → A (x.run s).answer (x'.run s').answer ∧ R (x.run s).state (x'.run s').state ∧
    (x.run s).log.flatMap f = (x'.run s').log.flatMap f'

namespace Alike
variable {f : ε → List δ} {f' : ε' → List δ} {R : σ → σ' → Prop} {A : α → α' → Prop}
  {B : β → β' → Prop} {x : Act σ ε α} {x' : Act σ' ε' α'}

theorem bind {y : α → Act σ ε β} {y' : α' → Act σ' ε' β'} (first : Alike f f' R A x x')
    (second : ∀ a a', A a a' → Alike f f' R B (y a) (y' a')) :
    Alike f f' R B (x >>= y) (x' >>= y') := by
  intro s s' related
  obtain ⟨answer, state, log⟩ := first s s' related
  obtain ⟨answer', state', log'⟩ := second _ _ answer _ _ state
  refine ⟨answer', state', ?_⟩
  simp only [run_bind, List.flatMap_append, log, log']

theorem pure {a : α} {a' : α'} (same : A a a') :
    Alike f f' R A (Pure.pure a : Act σ ε α) (Pure.pure a' : Act σ' ε' α') :=
  fun _ _ related => ⟨same, related, rfl⟩

theorem get : Alike f f' R R (Act.get : Act σ ε σ) (Act.get : Act σ' ε' σ') :=
  fun _ _ related => ⟨related, related, rfl⟩

theorem modify {g : σ → σ} {g' : σ' → σ'} (kept : ∀ s s', R s s' → R (g s) (g' s')) :
    Alike f f' R (fun _ _ => True) (Act.modify g : Act σ ε Unit) (Act.modify g' : Act σ' ε' Unit) :=
  fun s s' related => ⟨trivial, kept s s' related, rfl⟩

theorem logAll {es : List ε} {es' : List ε'} (same : es.flatMap f = es'.flatMap f') :
    Alike f f' R (fun _ _ => True) (Act.logAll es : Act σ ε Unit)
      (Act.logAll es' : Act σ' ε' Unit) :=
  fun _ _ related => ⟨trivial, related, same⟩

theorem log {e : ε} {e' : ε'} (same : f e = f' e') :
    Alike f f' R (fun _ _ => True) (Act.log e : Act σ ε Unit) (Act.log e' : Act σ' ε' Unit) :=
  logAll (by simpa using same)

/-- Calls that run alike do so inside a larger log. -/
private theorem within (calls : Alike f f' R A x x') :
    Alike (Entry.tells f) (Entry.tells f') R A (x.within .effect) (x'.within .effect) := by
  intro s s' related
  obtain ⟨answer, state, log⟩ := calls s s' related
  have told {φ : Type} (g : φ → List δ) (es : List φ) :
      (es.map Entry.effect).flatMap (Entry.tells g) = (es.flatMap g).map Entry.effect := by
    rw [List.flatMap_map, List.map_flatMap]
    rfl
  refine ⟨answer, state, ?_⟩
  simp only [run_within, told, log]

end Alike
end Act

/-- Two devices that differ at most in the handles they were realised as, which are related as long
as the devices are open. -/
inductive Device.Alike (H : η → η' → Prop) : Device η → Device η' → Prop where
  | intro (id : DeviceId) (registration : Registration) {h : η} {h' : η'} {state : DeviceState}
    (clock : UInt64) (handle : state = .opened → H h h') :
    Alike H ⟨id, registration, h, state, clock⟩ ⟨id, registration, h', state, clock⟩

private theorem Device.Alike.id {H : η → η' → Prop} {d : Device η} {d' : Device η'}
    (same : d.Alike H d') : d'.id = d.id := by
  cases same
  rfl

def Registry.Alike (H : η → η' → Prop) (r : Registry η) (r' : Registry η') : Prop :=
  List.Forall₂ (Device.Alike H) r.devices r'.devices

structure Session.Alike (R : σ → σ' → Prop) (H : η → η' → Prop) (s : Session σ η)
    (s' : Session σ' η') : Prop where
  registry : s.registry.Alike H s'.registry
  backend : R s.backend s'.backend

/-- How calls on one back end correspond to calls on another, for registrations that are fit for it.
What is related of handles need not last beyond closing them. -/
structure Simulation (b : Backend σ η ε) (b' : Backend σ' η' ε') (f : ε → List δ)
    (f' : ε' → List δ) where
  states : σ → σ' → Prop
  handles : η → η' → Prop
  fit : Registration → Prop
  create {r : Registration} (id : DeviceId) (ready : fit r) :
    Act.Alike f f' states (AnswerAlike handles) (b.create id r) (b'.create id r)
  inject {h : η} {h' : η'} (same : handles h h') (events : List RawEvent) :
    Act.Alike f f' states Eq (b.inject h events) (b'.inject h' events)
  delay {h : η} {h' : η'} (same : handles h h') (millis : UInt64) :
    Act.Alike f f' states Eq (b.delay h millis) (b'.delay h' millis)
  idle {h : η} {h' : η'} (same : handles h h') :
    Act.Alike f f' states Eq (b.idle h) (b'.idle h')
  sync {h : η} {h' : η'} (same : handles h h') (token : String) :
    Act.Alike f f' states Eq (b.sync h token) (b'.sync h' token)
  close {h : η} {h' : η'} (same : handles h h') :
    Act.Alike f f' states (fun a a' => a.1 = a'.1) (b.close h) (b'.close h')

namespace Registry.Alike
variable {H : η → η' → Prop} {r : Registry η} {r' : Registry η'}

private theorem get? (h : r.Alike H r') (id : DeviceId) :
    (r.get? id = none ∧ r'.get? id = none) ∨
      ∃ d d', r.get? id = some d ∧ r'.get? id = some d' ∧ d.Alike H d' := by
  obtain ⟨ds⟩ := r
  obtain ⟨ds'⟩ := r'
  simp only [Registry.Alike] at h
  induction h with
  | nil => exact .inl ⟨rfl, rfl⟩
  | @cons d d' ds ds' first _ ih =>
    simp only [Registry.get?, List.find?_cons, first.id]
    by_cases here : d.id = id
    · simp only [here, decide_true]
      exact .inr ⟨d, d', rfl, rfl, first⟩
    · simp only [here, decide_false]
      exact ih

private theorem insert? (h : r.Alike H r') {d : Device η} {d' : Device η'} (same : d.Alike H d') :
    (r.insert? d = none ∧ r'.insert? d' = none) ∨
      ∃ s s', r.insert? d = some s ∧ r'.insert? d' = some s' ∧ s.Alike H s' := by
  rw [Registry.insert?, Registry.insert?, Registry.contains_eq, Registry.contains_eq, same.id]
  rcases h.get? d.id with ⟨none, none'⟩ | ⟨_, _, found, found', -⟩
  · rw [none, none']
    exact .inr ⟨_, _, rfl, rfl, List.rel_append h (.cons same .nil)⟩
  · rw [found, found']
    exact .inl ⟨rfl, rfl⟩

private theorem update (h : r.Alike H r') {d : Device η} {d' : Device η'} (same : d.Alike H d') :
    (r.update d).Alike H (r'.update d') := by
  rw [Registry.Alike, Registry.update, Registry.update, List.forall₂_map_left_iff,
    List.forall₂_map_right_iff]
  refine List.Forall₂.imp ?_ h
  intro old old' alike
  rw [alike.id, same.id]
  split
  · exact same
  · exact alike

end Registry.Alike

def Action.Fits (fit : Registration → Prop) (action : Action) : Prop :=
  ∀ r, action = .register r → fit r

def Feed.Fits (fit : Registration → Prop) (f : Feed) : Prop :=
  ∀ d ∈ f.deliveries, d.event.action.Fits fit

def Session.Request.Fits (fit : Registration → Prop) : Session.Request → Prop
  | .run f => f.Fits fit
  | .process e => e.action.Fits fit
  | .register e => e.action.Fits fit
  | .shutdown => True

namespace Simulation
variable {b : Backend σ η ε} {b' : Backend σ' η' ε'} {f : ε → List δ} {f' : ε' → List δ}
  (sim : Simulation b b' f f')

abbrev Runs (A : α → α' → Prop) (x : Act σ (Entry ε) α) (x' : Act σ' (Entry ε') α') : Prop :=
  Act.Alike (Entry.tells f) (Entry.tells f') sim.states A x x'

abbrev Sessions (A : α → α' → Prop) (x : Act (Session σ η) (Entry ε) α)
    (x' : Act (Session σ' η') (Entry ε') α') : Prop :=
  Act.Alike (Entry.tells f) (Entry.tells f') (Session.Alike sim.states sim.handles) A x x'

variable {d : Device η} {d' : Device η'}

private theorem createDevice {r : Registration} (id : DeviceId) (ready : sim.fit r) :
    sim.Runs (AnswerAlike (Device.Alike sim.handles)) (Device.create b id r)
      (Device.create b' id r) := by
  refine .bind (sim.create id ready).within ?_
  rintro _ _ (same | e)
  · exact .pure (.ok (.intro id r 0 fun _ => same))
  · exact .pure (.error _)

private theorem command (same : d.Alike sim.handles d') (c : Command)
    {call : η → Act σ ε (Except BackendError Unit)}
    {call' : η' → Act σ' ε' (Except BackendError Unit)}
    (calls : ∀ h h', sim.handles h h' → Act.Alike f f' sim.states Eq (call h) (call' h')) :
    sim.Runs Eq (d.command c (call d.handle)) (d'.command c (call' d'.handle)) := by
  obtain ⟨id, registration, clock, handle⟩ := same
  next h h' state =>
  cases state with
  | closed => exact .pure rfl
  | opened =>
    refine .bind (calls h h' (handle rfl)).within ?_
    rintro (e | _) _ rfl
    · exact .pure rfl
    · exact .pure rfl

private theorem waitSlices {h : η} {h' : η'} (same : sim.handles h h') (n : Nat) :
    sim.Runs Eq (Device.waitSlices b h n) (Device.waitSlices b' h' n) := by
  induction n using Device.waitSlices_induction with
  | short n hn =>
    rw [Device.waitSlices_of_le hn, Device.waitSlices_of_le hn]
    exact .pure rfl
  | long n hn ih =>
    rw [Device.waitSlices_of_lt hn, Device.waitSlices_of_lt hn]
    refine .bind (.log rfl) fun _ _ _ => .bind (sim.idle same).within ?_
    rintro (e | _) _ rfl
    · exact .pure rfl
    · exact ih

private theorem delayDevice (same : d.Alike sim.handles d') (millis : UInt64) :
    sim.Runs (fun a a' => a.1 = a'.1 ∧ a.2.Alike sim.handles a'.2) (d.delay b millis)
      (d'.delay b' millis) := by
  obtain ⟨id, registration, clock, handle⟩ := same
  next h h' state =>
  cases state with
  | closed => exact .pure ⟨rfl, .intro id registration clock handle⟩
  | opened =>
    refine .bind (sim.waitSlices (handle rfl) _) ?_
    rintro (e | _) _ rfl
    · exact .pure ⟨rfl, .intro id registration clock handle⟩
    · refine .bind (.log rfl) fun _ _ _ => .bind (sim.delay (handle rfl) millis).within ?_
      rintro (e | _) _ rfl
      · exact .pure ⟨rfl, .intro id registration _ handle⟩
      · exact .pure ⟨rfl, .intro id registration _ handle⟩

private theorem closeDevice (same : d.Alike sim.handles d') :
    sim.Runs (Device.Alike sim.handles) (d.close b) (d'.close b') := by
  obtain ⟨id, registration, clock, handle⟩ := same
  next h h' state =>
  cases state with
  | closed => exact .pure (.intro id registration clock handle)
  | opened =>
    refine .bind (sim.close (handle rfl)).within ?_
    rintro ⟨answer, h⟩ ⟨_, h'⟩ rfl
    cases answer with
    | ok => exact .pure (.intro id registration clock nofun)
    | error e =>
      exact .bind (.log rfl) fun _ _ _ => .pure (.intro id registration clock nofun)

private theorem closeEach {ds : List (Device η)} {ds' : List (Device η')}
    (same : List.Forall₂ (Device.Alike sim.handles) ds ds') :
    sim.Runs (List.Forall₂ (Device.Alike sim.handles)) (Registry.closeEach b ds)
      (Registry.closeEach b' ds') := by
  induction same with
  | nil => exact .pure .nil
  | cons first _ ih =>
    refine .bind (sim.closeDevice first) fun _ _ closed => .bind ih fun _ _ rest => ?_
    exact .pure (.cons closed rest)

private theorem onBackend {A : α → α' → Prop} {x : Act σ (Entry ε) α} {x' : Act σ' (Entry ε') α'}
    (runs : sim.Runs A x x') : sim.Sessions A (Session.onBackend x) (Session.onBackend x') := by
  rintro s s' ⟨registry, backend⟩
  obtain ⟨answer, state, log⟩ := runs _ _ backend
  exact ⟨answer, ⟨registry, state⟩, log⟩

private theorem modifyRegistry {g : Registry η → Registry η} {g' : Registry η' → Registry η'}
    (kept : ∀ r r', r.Alike sim.handles r' → (g r).Alike sim.handles (g' r')) :
    sim.Sessions (fun _ _ => True) (Session.modifyRegistry g : Act (Session σ η) (Entry ε) Unit)
      (Session.modifyRegistry g') :=
  .modify fun _ _ same => ⟨kept _ _ same.registry, same.backend⟩

private theorem createSession {r : Registration} (id : DeviceId) (ready : sim.fit r) :
    sim.Sessions Eq (Session.create b id r) (Session.create b' id r) := by
  refine .bind (sim.onBackend (sim.createDevice id ready)) ?_
  rintro _ _ (same | e)
  · refine .bind .get fun s s' sessions => ?_
    rcases sessions.registry.insert? same with ⟨taken, taken'⟩ | ⟨r, r', free, free', registries⟩
    · simp only [taken, taken']
      refine .bind (.log rfl) fun _ _ _ => ?_
      exact .bind (sim.onBackend (sim.closeDevice same)) fun _ _ _ => .pure rfl
    · simp only [free, free']
      exact .bind (sim.modifyRegistry fun _ _ _ => registries) fun _ _ _ => .pure rfl
  · exact .pure rfl

private theorem process (e : Event) (ready : e.action.Fits sim.fit) :
    sim.Sessions Eq (Session.process b e) (Session.process b' e) := by
  obtain ⟨id, action⟩ := e
  refine .bind .get fun s s' sessions => ?_
  rcases sessions.registry.get? id with ⟨none, none'⟩ | ⟨d, d', found, found', same⟩
  · simp only [none, none']
    cases action with
    | register r => exact sim.createSession id (ready r rfl)
    | _ => exact .bind (.log rfl) fun _ _ _ => .pure rfl
  · simp only [found, found']
    cases action with
    | register r => exact .bind (.log rfl) fun _ _ _ => .pure rfl
    | inject events =>
      exact sim.onBackend (sim.command same _ fun _ _ handles => sim.inject handles events)
    | sync token =>
      exact sim.onBackend (sim.command same _ fun _ _ handles => sim.sync handles token)
    | delay millis =>
      refine .bind (sim.onBackend (sim.delayDevice same millis)) ?_
      rintro ⟨answer, d⟩ ⟨_, d'⟩ ⟨rfl, later⟩
      exact .bind (sim.modifyRegistry fun _ _ registries => registries.update later) fun _ _ _ =>
        .pure rfl

theorem processAll (failure : Option ParseError) {ds : List Delivery}
    (ready : ∀ d ∈ ds, d.event.action.Fits sim.fit) :
    sim.Sessions Eq (Session.processAll b failure ds) (Session.processAll b' failure ds) := by
  induction ds with
  | nil => cases failure <;> exact .pure rfl
  | cons d ds ih =>
    obtain ⟨first, later⟩ := List.forall_mem_cons.mp ready
    refine .bind (.logAll (by simp [Entry.tells, List.flatMap_map])) fun _ _ _ => ?_
    refine .bind (sim.process d.event first) ?_
    rintro (e | _) _ rfl
    · exact .pure rfl
    · exact ih later

private theorem shutdown : sim.Sessions (fun _ _ => True) (Session.shutdown b) (Session.shutdown b') := by
  refine .bind .get fun s s' sessions => ?_
  refine .bind (A := Registry.Alike sim.handles) (sim.onBackend ?_) fun r r' registries =>
    sim.modifyRegistry fun _ _ _ => registries
  exact .bind (sim.closeEach sessions.registry) fun _ _ closed => .pure closed

theorem runFeed (f : Feed) (ready : f.Fits sim.fit) :
    sim.Sessions Eq (Session.runFeed b f) (Session.runFeed b' f) := by
  refine .bind (sim.processAll f.failure ready) ?_
  rintro answer _ rfl
  exact .bind sim.shutdown fun _ _ _ => .pure rfl

private theorem perform {request : Session.Request} (ready : request.Fits sim.fit) :
    sim.Sessions Eq (Session.perform b request) (Session.perform b' request) := by
  cases request with
  | run f => exact sim.runFeed f ready
  | process e => exact sim.process e ready
  | register e =>
    obtain ⟨id, action⟩ := e
    cases action with
    | register r => exact sim.createSession id (ready r rfl)
    | _ => exact .pure rfl
  | shutdown => exact .bind sim.shutdown fun _ _ _ => .pure rfl

private theorem performAll {requests : List Session.Request}
    (ready : ∀ request ∈ requests, request.Fits sim.fit) :
    sim.Sessions Eq (Session.performAll b requests) (Session.performAll b' requests) := by
  induction requests with
  | nil => exact .pure rfl
  | cons request requests ih =>
    obtain ⟨first, later⟩ := List.forall_mem_cons.mp ready
    refine .bind (sim.perform first) ?_
    rintro answer _ rfl
    refine .bind (ih later) ?_
    rintro answers _ rfl
    exact .pure rfl

/-- Whole sessions on the two back ends run alike. -/
theorem lifetime {requests : List Session.Request}
    (ready : ∀ request ∈ requests, request.Fits sim.fit) :
    sim.Sessions Eq (Session.lifetime b requests) (Session.lifetime b' requests) := by
  refine .bind (sim.performAll ready) ?_
  rintro answers _ rfl
  exact .bind sim.shutdown fun _ _ _ => .pure rfl

end Simulation
end ScriptedInput

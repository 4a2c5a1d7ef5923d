import ScriptedInput.Proofs.Session.Separation
import ScriptedInput.Proofs.Session.Simulation

/-! Back ends that do what they are asked. If each call succeeds and leaves effects that tell what
is due for it, a run ends as it does when no call fails at all, and tells what is due for its calls
in order. -/
namespace ScriptedInput
variable {σ η ε δ α β : Type}

namespace Act

/-- From any state that is fit, the action gives such an answer, leads to a fit state again, and
leaves entries that tell just this. -/
def Leaves (f : ε → List δ) (fit : σ → Prop) (A : α → Prop) (told : List δ) (x : Act σ ε α) : Prop :=
  ∀ s, fit s → A (x.run s).answer ∧ fit (x.run s).state ∧ (x.run s).log.flatMap f = told

namespace Leaves
variable {f : ε → List δ} {fit : σ → Prop} {A : α → Prop} {B : β → Prop} {told later : List δ}
  {x : Act σ ε α}

theorem bind {y : α → Act σ ε β} (first : x.Leaves f fit A told)
    (second : ∀ a, A a → (y a).Leaves f fit B later) :
    (x >>= y).Leaves f fit B (told ++ later) := by
  intro s ready
  obtain ⟨answer, state, log⟩ := first s ready
  obtain ⟨answer', state', log'⟩ := second _ answer _ state
  refine ⟨answer', state', ?_⟩
  simp only [run_bind, List.flatMap_append, log, log']

/-- What goes before may tell nothing. -/
theorem silent_bind {y : α → Act σ ε β} (first : x.Leaves f fit A [])
    (second : ∀ a, A a → (y a).Leaves f fit B told) : (x >>= y).Leaves f fit B told :=
  first.bind second

/-- What comes after may tell nothing. -/
theorem bind_silent {y : α → Act σ ε β} (first : x.Leaves f fit A told)
    (second : ∀ a, A a → (y a).Leaves f fit B []) : (x >>= y).Leaves f fit B told := by
  rw [← List.append_nil told]
  exact first.bind second

theorem pure {a : α} (h : A a) : (Pure.pure a : Act σ ε α).Leaves f fit A [] :=
  fun _ ready => ⟨h, ready, rfl⟩

theorem get : (Act.get : Act σ ε σ).Leaves f fit fit [] := fun _ ready => ⟨ready, ready, rfl⟩

theorem set {t : σ} (ready : fit t) :
    (Act.set t : Act σ ε Unit).Leaves f fit (fun _ => True) [] :=
  fun _ _ => ⟨trivial, ready, rfl⟩

theorem modify {g : σ → σ} (kept : ∀ s, fit s → fit (g s)) :
    (Act.modify g : Act σ ε Unit).Leaves f fit (fun _ => True) [] :=
  fun s ready => ⟨trivial, kept s ready, rfl⟩

theorem log {e : ε} (tells : f e = told) :
    (Act.log e : Act σ ε Unit).Leaves f fit (fun _ => True) told :=
  fun _ ready => ⟨trivial, ready, (List.flatMap_singleton ..).trans tells⟩

/-- It runs like any action that always gives such an answer and leaves the same. -/
private theorem alike {σ' ε' α' : Type} {f' : ε' → List δ} {A' : α → α' → Prop} {x' : Act σ' ε' α'}
    (leaves : x.Leaves f fit A told)
    (model : ∀ s, (∀ a, A a → A' a (x'.run s).answer) ∧ (x'.run s).log.flatMap f' = told) :
    Act.Alike f f' (fun s _ => fit s) A' x x' := by
  intro s s' ready
  obtain ⟨answer, state, log⟩ := leaves s ready
  obtain ⟨answers, due⟩ := model s'
  exact ⟨answers _ answer, state, log.trans due.symm⟩

end Leaves
end Act

namespace Backend

/-- A back end on which no call fails, for registrations that are good and from states that are fit,
and each leaves what is due for it. -/
structure Compliant (b : Backend σ η ε) (fit : σ → Prop) (good : Registration → Prop)
    (J : DeviceId → η → Prop) (f : ε → List δ) (due : Call → List δ) : Prop where
  create {r : Registration} (id : DeviceId) (ready : good r) :
    (b.create id r).Leaves f fit (fun a => ∃ h, a = .ok h ∧ J id h) (due (.create id r))
  inject {id : DeviceId} {h : η} (own : J id h) (events : List RawEvent) :
    (b.inject h events).Leaves f fit (· = .ok ()) (due (.inject id events))
  delay {id : DeviceId} {h : η} (own : J id h) (millis : UInt64) :
    (b.delay h millis).Leaves f fit (· = .ok ()) (due (.delay id millis))
  idle {id : DeviceId} {h : η} (own : J id h) :
    (b.idle h).Leaves f fit (· = .ok ()) (due (.idle id))
  sync {id : DeviceId} {h : η} (own : J id h) (token : String) :
    (b.sync h token).Leaves f fit (· = .ok ()) (due (.sync id token))
  close {id : DeviceId} {h : η} (own : J id h) :
    (b.close h).Leaves f fit (fun a => a.1 = .ok ()) (due (.close id))

namespace Compliant
open Recorder
variable {b : Backend σ η ε} {fit : σ → Prop} {good : Registration → Prop}
  {J : DeviceId → η → Prop} {f : ε → List δ} {due : Call → List δ}

private theorem noted (h : Handle) (call : Call) {x : Act σ ε (Except BackendError Unit)}
    (leaves : x.Leaves f fit (· = .ok ()) (due call)) :
    Act.Alike f (fun c : Recorder.Record => due c.call) (fun s _ => fit s) Eq x
      (note neverFails h call) :=
  leaves.alike fun _ => ⟨fun _ answer => answer, List.flatMap_singleton ..⟩

def simulation (comply : b.Compliant fit good J f due) :
    Simulation b (recorder neverFails) f (fun c => due c.call) where
  states s _ := fit s
  handles h h' := J h'.id h
  fit := good
  create {r} id ready := (comply.create id ready).alike fun s => by
    have given : ((recorder neverFails).create id r).run s = _ := run_create_accepted rfl id r
    rw [given]
    refine ⟨?_, List.flatMap_singleton ..⟩
    rintro _ ⟨h, rfl, own⟩
    exact .ok own
  inject own events := noted _ _ (comply.inject own events)
  delay own millis := noted _ _ (comply.delay own millis)
  idle own := noted _ _ (comply.idle own)
  sync own token := noted _ _ (comply.sync own token)
  close own := (comply.close own).alike fun _ => ⟨fun _ answer => answer, List.flatMap_singleton ..⟩

/-- What runs alike on a compliant back end and on the recording one leaves what is due for the calls
that are recorded. -/
theorem leaves_due (comply : b.Compliant fit good J f due) {A : α → β → Prop}
    {x : Act (Session σ η) (Entry ε) α}
    {y : Act (Session Recorder.State Handle) (Entry Recorder.Record) β}
    (runs : comply.simulation.Sessions A x y) {s : σ} (ready : fit s) :
    A (x.run { backend := s }).answer (y.run { backend := {} }).answer ∧
      (effects (x.run { backend := s }).log).flatMap f =
        (calls (y.run { backend := {} }).log).flatMap due := by
  obtain ⟨answer, -, log⟩ := runs { backend := s } { backend := {} } ⟨.nil, ready⟩
  have told := congrArg effects log
  rw [effects_flatMap_tells, effects_flatMap_tells] at told
  refine ⟨answer, told.trans ?_⟩
  rw [calls, List.flatMap_map]

/-- A run on a compliant back end ends as the calls that are asked for would end if none failed, and
leaves what is due for them. -/
theorem runFeed (comply : b.Compliant fit good J f due) {feed : Feed} (fits : feed.Fits good) {s : σ}
    (ready : fit s) :
    let done := (Session.runFeed b feed).run { backend := s }
    let asked := (Session.runFeed (recorder neverFails) feed).run { backend := {} }
    done.answer = asked.answer ∧ (effects done.log).flatMap f = (calls asked.log).flatMap due :=
  comply.leaves_due (comply.simulation.runFeed feed fits) ready

end Compliant
end Backend
end ScriptedInput

import ScriptedInput.Proofs.Session.Routing

/-! Events that are left out. Which events of a script have an effect can be told from the script alone,
and a run that is given only those does the same, without a word about the others. -/
namespace ScriptedInput
variable {σ η ε : Type}

def Entry.warning? : Entry ε → Option Warning
  | .warning w => some w
  | .effect _ | .closeFailed _ _ | .slept _ => none

def warnings (log : List (Entry ε)) : List Warning := log.filterMap Entry.warning?

def unwarned (log : List (Entry ε)) : List (Entry ε) := log.filter (·.warning?.isNone)

@[simp] theorem warnings_append (xs ys : List (Entry ε)) :
    warnings (xs ++ ys) = warnings xs ++ warnings ys := List.filterMap_append

@[simp] theorem unwarned_append (xs ys : List (Entry ε)) :
    unwarned (xs ++ ys) = unwarned xs ++ unwarned ys := List.filter_append xs ys

@[simp] theorem warnings_map_warning (ws : List Warning) :
    warnings (ws.map .warning : List (Entry ε)) = ws := by
  rw [warnings, List.filterMap_map]
  exact List.filterMap_some

@[simp] theorem unwarned_map_warning (ws : List Warning) :
    unwarned (ws.map .warning : List (Entry ε)) = [] := by
  simp [unwarned, Entry.warning?]

@[simp] theorem warnings_map_effect (es : List ε) : warnings (es.map .effect) = [] := by
  simp [warnings, Entry.warning?]

@[simp] theorem warnings_cons_warning (w : Warning) (log : List (Entry ε)) :
    warnings (.warning w :: log) = w :: warnings log := rfl

@[simp] theorem unwarned_cons_warning (w : Warning) (log : List (Entry ε)) :
    unwarned (.warning w :: log) = unwarned log := rfl

def registers (events : List Event) (id : DeviceId) : Bool :=
  events.any (fun e => e.id = id ∧ e.command = .register)

private theorem registers_concat (events : List Event) (e : Event) (id : DeviceId) :
    registers (events ++ [e]) id =
      (registers events id || decide (e.id = id ∧ e.command = .register)) := by
  simp [registers]

namespace Event

/-- Whether an event counts after these: a registration does if it is the first one under its number,
and a command does if there was one. -/
def counts (before : List Event) (e : Event) : Bool :=
  if e.command = .register then !registers before e.id else registers before e.id

def discarded (e : Event) : Warning :=
  if e.command = .register then .alreadyRegistered e.id else .unknownDevice e.id e.command

end Event

def marked (before : List Event) : List Delivery → List (Delivery × Bool)
  | [] => []
  | d :: ds => (d, d.event.counts before) :: marked (before ++ [d.event]) ds

def counting (before : List Event) (ds : List Delivery) : List Delivery :=
  ((marked before ds).filter (·.2)).map (·.1)

/-- A script without the events that do not count. -/
def Feed.normalForm (f : Feed) : Feed := { f with deliveries := counting [] f.deliveries }

private theorem counting_cons (before : List Event) (d : Delivery) (ds : List Delivery) :
    counting before (d :: ds) =
      if d.event.counts before then d :: counting (before ++ [d.event]) ds
      else counting (before ++ [d.event]) ds := by
  cases h : d.event.counts before <;> simp [counting, marked, h]

namespace Session
variable (b : Backend σ η ε)

/-- The events that a run comes to, the last one being the first that fails. -/
def reached : List Delivery → Session σ η → List Delivery
  | [], _ => []
  | d :: ds, s => d :: match ((process b d.event).run s).answer with
    | .ok () => reached ds ((process b d.event).run s).state
    | .error _ => []

structure Mirrors (before : List Event) (s : Session σ η) : Prop where
  distinct : s.registry.Distinct
  registered : ∀ id, (s.registry.get? id).isSome = registers before id

private theorem quiet_call {α : Type} (x : Act σ ε α) :
    (x.within Entry.effect).Keeps (fun past _ => warnings past = []) := by
  intro past s h
  simpa using h

private theorem quiet_perform (d : Device η) {action : Action} {task : Device.Task}
    (ht : action.task? = some task) (s : σ) : warnings ((d.perform b task).run s).log = [] := by
  have kept : (d.perform b task).Keeps (fun past _ => warnings past = []) := by
    refine Device.perform_keeps ?_ (fun _ => quiet_call _) (fun _ => quiet_call _) (quiet_call _)
      (fun _ => quiet_call _) ht
    intro past _ n h
    rw [warnings_append, h]
    rfl
  simpa using kept [] s rfl

private theorem quiet_closeEach (ds : List (Device η)) (s : σ) :
    warnings ((Registry.closeEach b ds).run s).log = [] := by
  induction ds generalizing s with
  | nil => rfl
  | cons d ds ih =>
    rw [Registry.run_closeEach_cons, warnings_append, ih, List.append_nil]
    cases h : d.state with
    | closed => rw [Device.run_close_closed b h]; rfl
    | opened =>
      rw [Device.run_close_opened b h, warnings_append, warnings_map_effect]
      cases ((b.close d.handle).run s).answer.1 <;> rfl

variable {b} {before : List Event} {e : Event} {s : Session σ η}

/-- An event that does not count leaves a warning, and everything else as it is. -/
private theorem process_discarded (h : Mirrors before s) (hc : e.counts before = false) :
    (process b e).run s = ⟨.ok (), s, [.warning e.discarded]⟩ ∧ Mirrors (before ++ [e]) s := by
  have mirrored := h.registered e.id
  by_cases hr : e.command = .register
  · simp only [Event.counts, hr, if_true, Bool.not_eq_false'] at hc
    rw [hc, Option.isSome_iff_exists] at mirrored
    obtain ⟨d, hg⟩ := mirrored
    refine ⟨by simp [run_process_again b hg hr, Event.discarded, hr], h.distinct, fun id => ?_⟩
    rw [h.registered, registers_concat]
    by_cases hid : e.id = id
    · subst hid
      simp [hc]
    · simp [hid]
  · simp only [Event.counts, hr, if_false] at hc
    rw [hc, Option.isSome_eq_false_iff, Option.isNone_iff_eq_none] at mirrored
    refine ⟨by simp [run_process_unknown b mirrored hr, Event.discarded, hr], h.distinct,
      fun id => ?_⟩
    rw [h.registered, registers_concat]
    simp [hr]

/-- An event that counts leaves no warning. -/
private theorem process_counted (h : Mirrors before s) (hc : e.counts before = true) :
    warnings ((process b e).run s).log = [] ∧
      (((process b e).run s).answer = .ok () →
        Mirrors (before ++ [e]) ((process b e).run s).state) := by
  have mirrored := h.registered e.id
  refine process_cases b e h.distinct (motive := fun done => warnings done.log = [] ∧
    (done.answer = .ok () → Mirrors (before ++ [e]) done.state)) ?_ ?_ ?_ ?_
  · intro r hg ha
    have hr : e.command = .register := by rw [Event.command, ha]; rfl
    refine create_cases b e.id r s (motive := fun done => warnings done.log = [] ∧
      (done.answer = .ok () → Mirrors (before ++ [e]) done.state)) ?_ ?_ ?_
    · exact fun _ _ _ _ => ⟨warnings_map_effect _, fun ha => by cases ha⟩
    · refine fun k t log _ _ => ⟨warnings_map_effect _, fun _ => ⟨h.distinct.insert hg, fun id => ?_⟩⟩
      rw [Registry.get?_append, Option.isSome_or, h.registered, registers_concat]
      by_cases hid : e.id = id <;> simp [hid, hr]
    · exact fun _ _ _ _ _ hd => by rw [hg] at hd; cases hd
  · intro hg hr
    simp [Event.counts, hr, ← mirrored, hg] at hc
  · intro d hg hr
    simp [Event.counts, hr, ← mirrored, hg] at hc
  · intro d task hg ht
    refine ⟨quiet_perform b d ht _, fun _ => ⟨h.distinct.update _, fun id => ?_⟩⟩
    have hr : e.command ≠ .register := by
      rw [Event.command, ne_eq, ← Action.task?_eq_none_iff, ht]
      simp
    rw [Registry.get?_update, Option.isSome_map, h.registered, registers_concat]
    simp [hr]

private theorem run_processAll_ok {d : Delivery} {s' : Session σ η} {log : List (Entry ε)}
    (h : (process b d.event).run s = ⟨.ok (), s', log⟩) (failure : Option ParseError)
    (ds : List Delivery) :
    (processAll b failure (d :: ds)).run s =
      ⟨((processAll b failure ds).run s').answer, ((processAll b failure ds).run s').state,
        d.warnings.map .warning ++ (log ++ ((processAll b failure ds).run s').log)⟩ := by
  simp [processAll, h]

private theorem run_processAll_error {d : Delivery} {error : ReplayError} {s' : Session σ η}
    {log : List (Entry ε)} (h : (process b d.event).run s = ⟨.error error, s', log⟩)
    (failure : Option ParseError) (ds : List Delivery) :
    (processAll b failure (d :: ds)).run s = ⟨.error error, s', d.warnings.map .warning ++ log⟩ := by
  simp [processAll, h]

/-- Two runs that came to these events, one with and one without those that do not count, differ in
nothing but their warnings. -/
structure Agree {α : Type} (marks : List (Delivery × Bool))
    (whole normal : Done (Session σ η) (Entry ε) α) : Prop where
  answer : normal.answer = whole.answer
  state : normal.state = whole.state
  unwarned : unwarned normal.log = unwarned whole.log
  warned : warnings whole.log =
    marks.flatMap fun m => m.1.warnings ++ if m.2 then [] else [m.1.event.discarded]
  silent : warnings normal.log = marks.flatMap fun m => if m.2 then m.1.warnings else []

private theorem processAll_agree (failure : Option ParseError) (ds : List Delivery)
    (h : Mirrors before s) :
    Agree (marked before (reached b ds s)) ((processAll b failure ds).run s)
      ((processAll b failure (counting before ds)).run s) := by
  induction ds generalizing before s with
  | nil => exact ⟨rfl, rfl, rfl, by cases failure <;> rfl, by cases failure <;> rfl⟩
  | cons d ds ih =>
    cases hc : d.event.counts before with
    | false =>
      obtain ⟨step, mirrored⟩ := process_discarded (b := b) h hc
      have rest := ih mirrored
      rw [counting_cons, hc, run_processAll_ok step]
      refine ⟨rest.answer, rest.state, ?_, ?_, ?_⟩
      · simp [rest.unwarned]
      · simp [reached, step, marked, hc, rest.warned]
      · simp [reached, step, marked, hc, rest.silent]
    | true =>
      obtain ⟨quiet, mirrored⟩ := process_counted (b := b) h hc
      rcases step : (process b d.event).run s with ⟨error | _, s', log⟩
      · rw [step] at quiet
        rw [counting_cons, hc, if_pos rfl, run_processAll_error step, run_processAll_error step]
        refine ⟨rfl, rfl, rfl, ?_, ?_⟩
        · simp [reached, step, marked, hc, quiet]
        · simp [reached, step, marked, hc, quiet]
      · rw [step] at quiet mirrored
        have rest := ih (mirrored rfl)
        rw [counting_cons, hc, if_pos rfl, run_processAll_ok step, run_processAll_ok step]
        refine ⟨rest.answer, rest.state, ?_, ?_, ?_⟩
        · simp [rest.unwarned]
        · simp [reached, step, marked, hc, quiet, rest.warned]
        · simp [reached, step, marked, hc, quiet, rest.silent]

end Session

/-- Discarded events are invisible. On every back end, however its calls turn out, a run gives the same
answer, leaves the same devices and the same back end, and logs the same calls and sleeps as the run
that is given only the events that count. The one warns about each event it comes to that does not
count, the other about none. -/
theorem discarded_events_invisible (b : Backend σ η ε) (t : σ) (f : Feed) :
    let whole := (Session.runFeed b f).run { backend := t }
    let normal := (Session.runFeed b f.normalForm).run { backend := t }
    let marks := marked [] (Session.reached b f.deliveries { backend := t })
    normal.answer = whole.answer ∧ normal.state = whole.state ∧
      unwarned normal.log = unwarned whole.log ∧
      warnings whole.log =
        (marks.flatMap fun m => m.1.warnings ++ if m.2 then [] else [m.1.event.discarded]) ∧
      warnings normal.log = marks.flatMap fun m => if m.2 then m.1.warnings else [] := by
  intro whole normal marks
  have mirrored : Session.Mirrors [] ({ backend := t } : Session σ η) :=
    ⟨Session.distinct_new t, fun _ => rfl⟩
  have agree := Session.processAll_agree (b := b) f.failure f.deliveries mirrored
  simp only [whole, normal, Session.runFeed, Feed.normalForm, Act.run_bind, Act.run_pure,
    Session.run_shutdown, List.append_nil, agree.state]
  refine ⟨agree.answer, trivial, ?_, ?_, ?_⟩
  · rw [unwarned_append, unwarned_append, agree.unwarned]
  · rw [warnings_append, Session.quiet_closeEach, List.append_nil, agree.warned]
  · rw [warnings_append, Session.quiet_closeEach, List.append_nil, agree.silent]

end ScriptedInput

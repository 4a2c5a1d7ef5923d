import ScriptedInput.Proofs.Backend.CutShort

/-! Runs that fail. A failure cuts a run short and changes nothing else: what was done before it is what
is done without failures, and the devices created so far are closed in order all the same. -/
namespace ScriptedInput
namespace Recorder

def Record.handedOut? : Record → Option Handle
  | ⟨some n, .create id _, none⟩ => some ⟨n, id⟩
  | _ => none

def handedOut (records : List Record) : List Handle := records.filterMap Record.handedOut?

private theorem handedOut_append (xs ys : List Record) :
    handedOut (xs ++ ys) = handedOut xs ++ handedOut ys := List.filterMap_append

private theorem handedOut_singleton (c : Record) : handedOut [c] = c.handedOut?.toList := by
  cases h : c.handedOut? <;> simp [handedOut, h]

def isClosing : Entry Record → Bool
  | .effect c => c.call.kind = .close
  | .closeFailed _ _ => true
  | .warning _ | .slept _ => false

/-- What a command of a device leaves: sleeps, and calls on its handle that create and close nothing. -/
def IsUse (h : Handle) : Entry Record → Prop
  | .slept _ => True
  | .effect c => c.handle = some h.serial ∧ c.call.id = h.id ∧ c.call.kind ≠ .create ∧
      c.call.kind ≠ .close
  | .warning _ | .closeFailed _ _ => False

private theorem note_isUse (plan : FailurePlan) (h : Handle) {call : Call} (hid : call.id = h.id)
    (hk : call.kind ≠ .create ∧ call.kind ≠ .close) :
    ((note plan h call).within Entry.effect).Keeps (fun past _ => ∀ entry ∈ past, IsUse h entry) := by
  intro past s hp
  rw [Act.run_within, run_note]
  exact List.forall_mem_append.mpr ⟨hp, List.forall_mem_singleton.mpr ⟨rfl, hid, hk⟩⟩

theorem isUse_of_perform (plan : FailurePlan) (d : Device Handle) {action : Action}
    {task : Device.Task} (ht : action.task? = some task) (s : State) :
    ∀ entry ∈ ((d.perform (recorder plan) task).run s).log, IsUse d.handle entry := by
  have kept : (d.perform (recorder plan) task).Keeps
      (fun past _ => ∀ entry ∈ past, IsUse d.handle entry) := by
    refine Device.perform_keeps ?_ (fun _ => ?_) (fun _ => ?_) ?_ (fun _ => ?_) ht
    · exact fun past _ n hp => List.forall_mem_append.mpr ⟨hp, List.forall_mem_singleton.mpr trivial⟩
    all_goals exact note_isUse plan d.handle rfl (by simp [Call.kind])
  simpa using kept [] s (by simp)

/-- A run on the recorder that has not come to its end: all devices are open, their handles are those
given out so far, and nothing was closed. -/
structure Underway (past : List (Entry Record)) (s : Session State Handle) : Prop where
  distinct : s.registry.Distinct
  opened : ∀ d ∈ s.registry.devices, d.state = .opened
  handle : ∀ d ∈ s.registry.devices, d.handle.id = d.id
  created : s.registry.devices.map (·.handle) = handedOut (effects past)
  notClosed : ∀ entry ∈ past, isClosing entry = false

private theorem handedOut_uses {h : Handle} {log : List (Entry Record)}
    (hl : ∀ entry ∈ log, IsUse h entry) : handedOut (effects log) = [] := by
  induction log with
  | nil => rfl
  | cons entry log ih =>
    have rest := ih (fun e he => hl e (List.mem_cons_of_mem _ he))
    have first := hl entry List.mem_cons_self
    cases entry with
    | effect c =>
      obtain ⟨n, call, failure⟩ := c
      cases call <;> simp_all [handedOut, Record.handedOut?, IsUse, Call.kind]
    | slept n => simpa using rest
    | warning w => exact first.elim
    | closeFailed id e => exact first.elim

theorem Underway.warned {past : List (Entry Record)} {s : Session State Handle}
    (h : Underway past s) (w : Warning) : Underway (past ++ [.warning w]) s where
  distinct := h.distinct
  opened := h.opened
  handle := h.handle
  created := by simpa using h.created
  notClosed := List.forall_mem_append.mpr ⟨h.notClosed, by simp [isClosing]⟩

theorem process_underway (plan : FailurePlan) (e : Event) :
    (Session.process (recorder plan) e).Keeps Underway := by
  intro past s h
  refine Session.process_cases (recorder plan) e h.distinct
    (motive := fun done => Underway (past ++ done.log) done.state) ?_ ?_ ?_ ?_
  · intro r hg _
    cases hp : plan .create (s.backend.counts .create) with
    | some error =>
      rw [Session.run_create_refused _ (run_create_refused hp e.id r)]
      refine ⟨h.distinct, h.opened, h.handle, ?_,
        List.forall_mem_append.mpr ⟨h.notClosed, by simp [isClosing, Call.kind]⟩⟩
      simpa [handedOut_append, handedOut_singleton, Record.handedOut?] using h.created
    | none =>
      rw [Session.run_create_new _ (run_create_accepted hp e.id r) hg]
      refine ⟨h.distinct.insert hg, List.forall_mem_append.mpr ⟨h.opened, by simp⟩,
        List.forall_mem_append.mpr ⟨h.handle, by simp⟩, ?_,
        List.forall_mem_append.mpr ⟨h.notClosed, by simp [isClosing, Call.kind]⟩⟩
      simp [handedOut_append, handedOut_singleton, Record.handedOut?, h.created]
  · exact fun _ _ => h.warned _
  · exact fun _ _ _ => h.warned _
  · intro d task hg ht
    have uses := isUse_of_perform plan d ht s.backend
    obtain ⟨clock, hclock⟩ := Device.perform_device (recorder plan) d ht s.backend
    have hd := (Registry.mem_of_get? hg).1
    rw [hclock]
    refine ⟨h.distinct.update _, ?_, ?_, ?_, List.forall_mem_append.mpr ⟨h.notClosed, ?_⟩⟩
    · exact Registry.forall_mem_update (h.opened d hd) h.opened
    · exact Registry.forall_mem_update (h.handle d hd) h.handle
    · rw [effects_append, handedOut_append, handedOut_uses uses, List.append_nil, ← h.created]
      rw [← (Registry.mem_of_get? hg).2] at hg
      exact Registry.map_update h.distinct (e := { d with clockOffset := clock }) hg rfl _ rfl
    · intro entry he
      have := uses entry he
      cases entry <;> simp_all [IsUse, isClosing]

/-- An event is processed alike on both recorders, or the run is cut short in it. -/
private theorem process_cutShort (plan : FailurePlan) (e : Event) :
    CutShort Underway (Session.process (recorder plan) e) (Session.process (recorder neverFails) e)
      (fun a _ _ => a = .ok ()) Reported := by
  intro past s h
  cases hg : s.registry.get? e.id with
  | none =>
    by_cases hc : e.command = .register
    · obtain ⟨r, ha⟩ : ∃ r, e.action = .register r := by
        obtain ⟨id, action⟩ := e
        cases action <;> simp_all [Event.command, Action.command]
      have succeeds : neverFails .create (s.backend.counts .create) = none := rfl
      have accepted := Session.run_create_new (recorder neverFails)
        (run_create_accepted succeeds e.id r) hg
      rw [Session.run_process_new _ hg ha, Session.run_process_new _ hg ha, accepted]
      cases hp : plan .create (s.backend.counts .create) with
      | none =>
        rw [Session.run_create_new _ (run_create_accepted hp e.id r) hg]
        exact .inl ⟨rfl, by simp [Flawless], rfl⟩
      | some error =>
        rw [Session.run_create_refused _ (run_create_refused hp e.id r)]
        exact .inr ⟨[], .create e.id r, error, _, _, [], rfl, rfl, flawless_nil, _, rfl, rfl⟩
    · rw [Session.run_process_unknown _ hg hc, Session.run_process_unknown _ hg hc]
      exact .inl ⟨rfl, by simp [Flawless], rfl⟩
  | some d =>
    obtain ⟨hd, hid⟩ := Registry.mem_of_get? hg
    cases ht : e.action.task? with
    | none =>
      have hc : e.command = .register := (Action.task?_eq_none_iff e.action).mp ht
      rw [Session.run_process_again _ hg hc, Session.run_process_again _ hg hc]
      exact .inl ⟨rfl, by simp [Flawless], rfl⟩
    | some task =>
      rw [Session.run_process_task _ h.distinct hg ht, Session.run_process_task _ h.distinct hg ht]
      rcases perform_cutShort plan (h.opened d hd) (h.handle d hd) ht past s.backend trivial with
        ⟨he, hclean, hok⟩ | hcut
      · rw [← he]
        exact .inl ⟨rfl, hclean, hok⟩
      · exact .inr hcut

theorem process_never (e : Event) {past : List (Entry Record)} {s : Session State Handle}
    (hu : Underway past s) : ((Session.process (recorder neverFails) e).run s).answer = .ok () := by
  rcases process_cutShort neverFails e past s hu with ⟨-, -, hok⟩ | hcut
  · exact hok
  · exact absurd hcut not_cutAt_self

/-- What a run comes to when no call fails: the failure of its script, if that has one. -/
def ended : Option ParseError → Except ReplayError Unit
  | none => .ok ()
  | some e => .error (.parse e)

private theorem processAll_cutShort (plan : FailurePlan) (failure : Option ParseError)
    (ds : List Delivery) :
    CutShort Underway (Session.processAll (recorder plan) failure ds)
      (Session.processAll (recorder neverFails) failure ds) (fun a _ _ => a = ended failure)
      Reported := by
  induction ds with
  | nil => exact .pure fun _ _ _ => by cases failure <;> rfl
  | cons d ds ih =>
    refine .bind (R := fun _ => Underway) (F := fun _ _ _ => False) ?_ (fun _ => ?_)
      (fun _ _ _ hF => hF.elim)
    · intro past s h
      refine .inl ⟨rfl, ?_, ?_⟩
      · simp [Flawless, effects, Entry.effect?]
      · exact Session.Keeps.warnAll (fun _ _ w h => h.warned w) d.warnings past s h
    · refine .bind ((process_cutShort plan d.event).keeping (process_underway plan d.event)) ?_ ?_
      · rintro (e | _)
        · exact fun _ _ h => by cases h.1
        · exact fun past s h => ih past s h.2
      · rintro _ call e ⟨error, hb, rfl⟩ s
        exact ⟨rfl, error, hb, rfl⟩

private theorem processAll_underway (plan : FailurePlan) (failure : Option ParseError)
    (ds : List Delivery) : (Session.processAll (recorder plan) failure ds).Keeps Underway :=
  Session.Keeps.processAll (fun _ _ w h => h.warned w) (process_underway plan) failure ds

theorem processAll_never (failure : Option ParseError) (ds : List Delivery)
    {past : List (Entry Record)} {s : Session State Handle} (hu : Underway past s) :
    ((Session.processAll (recorder neverFails) failure ds).run s).answer = ended failure := by
  rcases processAll_cutShort neverFails failure ds past s hu with ⟨-, -, hend⟩ | hcut
  · exact hend
  · exact absurd hcut not_cutAt_self

/-- Closing open devices makes one call on the handle of each, in order, and does nothing else. -/
theorem closeEach_sweep (plan : FailurePlan) (ds : List (Device Handle))
    (ho : ∀ d ∈ ds, d.state = .opened) (s : State) :
    (effects ((Registry.closeEach (recorder plan) ds).run s).log).map (fun c => (c.handle, c.call)) =
        ds.map (fun d => (some d.handle.serial, .close d.handle.id)) ∧
      ∀ entry ∈ ((Registry.closeEach (recorder plan) ds).run s).log, isClosing entry = true := by
  induction ds generalizing s with
  | nil => exact ⟨rfl, by simp [Registry.closeEach]⟩
  | cons d ds ih =>
    rw [Registry.run_closeEach_cons, Device.run_close_opened _ (ho d List.mem_cons_self)]
    obtain ⟨calls, closing⟩ := ih (fun e he => ho e (List.mem_cons_of_mem _ he))
      (((recorder plan).close d.handle).run s).state
    refine ⟨?_, List.forall_mem_append.mpr ⟨?_, closing⟩⟩
    · rw [effects_append, List.map_append, calls, run_close]
      cases ((note plan d.handle (.close d.handle.id)).run s).answer <;>
        simp [Device.closeReport]
    · rw [run_close]
      cases ((note plan d.handle (.close d.handle.id)).run s).answer <;>
        simp [Device.closeReport, isClosing, Call.kind]

inductive Move where
  | call (c : Call)
  | sleep (millis : Nat)
  deriving DecidableEq, Repr

def move? : Entry Record → Option Move
  | .effect c => if c.call.kind = .close then none else some (.call c.call)
  | .slept n => some (.sleep n)
  | .warning _ | .closeFailed _ _ => none

def moves (log : List (Entry Record)) : List Move := log.filterMap move?

private theorem moves_append (xs ys : List (Entry Record)) : moves (xs ++ ys) = moves xs ++ moves ys :=
  List.filterMap_append

private theorem moves_closing {log : List (Entry Record)} (h : ∀ entry ∈ log, isClosing entry = true) :
    moves log = [] := by
  refine List.filterMap_eq_nil_iff.mpr fun entry he => ?_
  have := h entry he
  cases entry <;> simp_all [isClosing, move?]

/-- The result of a run: the error of the first call that ends a run by failing, or else what the run
comes to without failures. -/
def verdict (records : List Record) (failure : Option ParseError) : Except ReplayError Unit :=
  match records.findSome? (fun c => c.failure.bind c.call.replayError?) with
  | some error => .error error
  | none => ended failure

private theorem replayError?_eq_none_iff (c : Record) :
    c.failure.bind c.call.replayError? = none ↔ (c.failure ≠ none → c.call.kind = .close) := by
  obtain ⟨h, call, failure⟩ := c
  cases failure <;> cases call <;> simp [Call.replayError?, Call.kind]

private theorem verdict_eq_ok_iff (records : List Record) (failure : Option ParseError) :
    verdict records failure = .ok () ↔
      failure = none ∧ ∀ c ∈ records, c.failure ≠ none → c.call.kind = .close := by
  simp only [← replayError?_eq_none_iff, ← List.findSome?_eq_none_iff, verdict]
  cases records.findSome? (fun c => c.failure.bind c.call.replayError?) <;> cases failure <;>
    simp [ended]

/-- No run ends because a device is closed or an event is no registration. -/
private theorem verdict_ne (records : List Record) (failure : Option ParseError) (id : DeviceId)
    (command : Command) : verdict records failure ≠ .error (.closed id command) ∧
      verdict records failure ≠ .error (.notRegistration id command) := by
  unfold verdict
  cases hf : records.findSome? (fun c => c.failure.bind c.call.replayError?) with
  | none => cases failure <;> simp [ended]
  | some error =>
    obtain ⟨c, -, hc⟩ := List.exists_of_findSome?_eq_some hf
    obtain ⟨e, -, he⟩ := Option.bind_eq_some_iff.mp hc
    cases hcall : c.call <;> simp [hcall, Call.replayError?] at he <;> simp [← he]

private theorem verdict_sweep {work sweep : List (Entry Record)}
    (h : ∀ entry ∈ sweep, isClosing entry = true) (failure : Option ParseError) :
    verdict (effects (work ++ sweep)) failure = verdict (effects work) failure := by
  have none : (effects sweep).findSome? (fun c => c.failure.bind c.call.replayError?) = none := by
    refine List.findSome?_eq_none_iff.mpr fun c hc => (replayError?_eq_none_iff c).mpr fun _ => ?_
    obtain ⟨entry, he, hce⟩ := List.mem_filterMap.mp hc
    have := h entry he
    cases entry <;> simp_all [isClosing, Entry.effect?]
  simp [verdict, List.findSome?_append, none]

private theorem verdict_flawless {work : List (Entry Record)} (h : Flawless work)
    (failure : Option ParseError) : verdict (effects work) failure = ended failure := by
  have none : (effects work).findSome? (fun c => c.failure.bind c.call.replayError?) = none :=
    List.findSome?_eq_none_iff.mpr fun c hc => by simp [h c hc]
  simp [verdict, none]

private theorem verdict_cut {before : List (Entry Record)} (h : Flawless before) {c : Record}
    {error : ReplayError} (hc : c.failure.bind c.call.replayError? = some error)
    (failure : Option ParseError) :
    verdict (effects (before ++ [.effect c])) failure = .error error := by
  have none : (effects before).findSome? (fun c => c.failure.bind c.call.replayError?) = none :=
    List.findSome?_eq_none_iff.mpr fun c hc => by simp [h c hc]
  simp [verdict, List.findSome?_append, none, hc]

theorem underway_new : Underway [] ({ backend := {} } : Session State Handle) where
  distinct := Session.distinct_new _
  opened := by simp
  handle := by simp
  created := rfl
  notClosed := by simp

/-- A run works, and then it sweeps. -/
theorem runFeed_parts (plan : FailurePlan) (f : Feed) :
    let work := (Session.processAll (recorder plan) f.failure f.deliveries).run { backend := {} }
    let done := (Session.runFeed (recorder plan) f).run { backend := {} }
    ∃ sweep, done.log = work.log ++ sweep ∧ done.answer = work.answer ∧
      (∀ entry ∈ work.log, isClosing entry = false) ∧ (∀ entry ∈ sweep, isClosing entry = true) ∧
      (effects sweep).map (fun c => (c.handle, c.call)) =
        (handedOut (effects work.log)).map (fun h => (some h.serial, .close h.id)) := by
  intro work done
  have under : Underway work.log work.state := by
    simpa using processAll_underway plan f.failure f.deliveries [] _ underway_new
  obtain ⟨calls, closing⟩ := closeEach_sweep plan work.state.registry.devices under.opened
    work.state.backend
  refine ⟨_, ?_, ?_, under.notClosed, closing, ?_⟩
  · simp [done, work, Session.runFeed, Session.run_shutdown]
  · simp [done, work, Session.runFeed]
  · rw [calls, ← under.created, List.map_map]
    rfl

end Recorder

open Recorder in
/-- Under every plan of failures a run does what it does without failures, up to the first call that
fails and no further; after that it only closes the devices created so far, each once and in order.
The result is that of the first failure, and a close that fails has no say in it. -/
theorem failure_only_cuts_short (plan : FailurePlan) (f : Feed) :
    let cut := (Session.runFeed (recorder plan) f).run { backend := {} }
    let whole := (Session.runFeed (recorder neverFails) f).run { backend := {} }
    ∃ work sweep, cut.log = work ++ sweep ∧
      moves cut.log <+: moves whole.log ∧
      (Flawless work ∧ moves cut.log = moves whole.log ∨
        ∃ before c, work = before ++ [.effect c] ∧ Flawless before ∧ c.failure ≠ none) ∧
      (∀ entry ∈ work, isClosing entry = false) ∧ (∀ entry ∈ sweep, isClosing entry = true) ∧
      (effects sweep).map (fun c => (c.handle, c.call)) =
        (handedOut (effects work)).map (fun h => (some h.serial, .close h.id)) ∧
      cut.answer = verdict (effects cut.log) f.failure ∧
      (cut.answer = .ok () ↔ f.failure = none ∧
        ∀ c ∈ effects cut.log, c.failure ≠ none → c.call.kind = .close) ∧
      ∀ id command, cut.answer ≠ .error (.closed id command) ∧
        cut.answer ≠ .error (.notRegistration id command) := by
  intro cut whole
  have hcut := processAll_cutShort plan f.failure f.deliveries [] { backend := {} } underway_new
  obtain ⟨sweep, hlog, hanswer, hwork, hsweep, hcalls⟩ := runFeed_parts plan f
  obtain ⟨sweep', hlog', -, -, hsweep', -⟩ := runFeed_parts neverFails f
  generalize (Session.processAll (recorder plan) f.failure f.deliveries).run { backend := {} } =
    work at hcut hlog hanswer hwork hcalls
  generalize (Session.processAll (recorder neverFails) f.failure f.deliveries).run
    { backend := {} } = work' at hcut hlog'
  have hmoves : moves cut.log = moves work.log := by
    rw [hlog, moves_append, moves_closing hsweep, List.append_nil]
  have hmoves' : moves whole.log = moves work'.log := by
    rw [hlog', moves_append, moves_closing hsweep', List.append_nil]
  have hverdict : cut.answer = verdict (effects cut.log) f.failure := by
    rw [hanswer, hlog, verdict_sweep hsweep]
    rcases hcut with ⟨-, hclean, hend⟩ | ⟨before, call, e, h, h', rest, hw, -, hclean, error, hr, ha⟩
    · rw [hend, verdict_flawless hclean]
    · rw [ha, hw, verdict_cut hclean (by simpa using hr)]
  refine ⟨work.log, sweep, hlog, ?_, ?_, hwork, hsweep, hcalls, hverdict, ?_, ?_⟩
  · rw [hmoves, hmoves']
    rcases hcut with ⟨rfl, -, -⟩ | ⟨before, call, e, h, h', rest, hw, hw', -, -⟩
    · exact List.prefix_refl _
    · have same : moves [.effect ⟨h, call, some e⟩] = moves [.effect ⟨h', call, none⟩] := rfl
      rw [hw, hw', List.append_cons before _ rest, moves_append _ rest, moves_append before, same,
        ← moves_append]
      exact List.prefix_append _ _
  · rw [hmoves, hmoves']
    rcases hcut with ⟨he, hclean, -⟩ | ⟨before, call, e, h, h', rest, hw, hw', hclean, -⟩
    · exact .inl ⟨hclean, by rw [he]⟩
    · exact .inr ⟨before, _, hw, hclean, by simp⟩
  · rw [hverdict]
    exact verdict_eq_ok_iff _ _
  · rw [hverdict]
    exact verdict_ne _ _

end ScriptedInput

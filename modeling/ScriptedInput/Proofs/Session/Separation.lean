import ScriptedInput.Proofs.Session.Failure

/-! Devices side by side. As long as no call fails, what is done for one device follows from the events
addressed to it alone, wherever events for other devices stand between them. -/
namespace ScriptedInput
namespace Recorder

def calls (log : List (Entry Record)) : List Call := (effects log).map (·.call)

theorem calls_append (xs ys : List (Entry Record)) : calls (xs ++ ys) = calls xs ++ calls ys := by
  simp [calls]

theorem kind_of_mem_calls {log : List (Entry Record)} {closing : Bool}
    (h : ∀ entry ∈ log, isClosing entry = closing) {c : Call} (hc : c ∈ calls log) :
    decide (c.kind = .close) = closing := by
  obtain ⟨r, hr, rfl⟩ := List.mem_map.mp hc
  obtain ⟨entry, he, same⟩ := List.mem_filterMap.mp hr
  have := h entry he
  cases entry <;> cases same
  exact this

def callsFor (id : DeviceId) (log : List (Entry Record)) : List Call :=
  (calls log).filter (·.id = id)

private theorem callsFor_append (id : DeviceId) (xs ys : List (Entry Record)) :
    callsFor id (xs ++ ys) = callsFor id xs ++ callsFor id ys := by
  rw [callsFor, calls_append, List.filter_append]
  rfl

def taskCalls (id : DeviceId) : Device.Task → List Call
  | .inject events => [.inject id events]
  | .delay millis =>
    List.replicate (Device.fullSlices millis.toNat) (.idle id) ++ [.delay id millis]
  | .sync token => [.sync id token]
  | .close => [.close id]

def taskClock (clock : UInt64) : Device.Task → UInt64
  | .delay millis => Device.addClock clock millis
  | .inject _ | .sync _ | .close => clock

private theorem forall_mem_taskCalls (id : DeviceId) (task : Device.Task) :
    ∀ c ∈ taskCalls id task, c.id = id := by
  cases task <;> simp [taskCalls, Call.id, or_imp, forall_and]

private theorem waitSlices_never (h : Handle) (n : Nat) (s : State) :
    (∃ last, ((Device.waitSlices (recorder neverFails) h n).run s).answer = .ok last) ∧
      calls ((Device.waitSlices (recorder neverFails) h n).run s).log =
        List.replicate (Device.fullSlices n) (.idle h.id) := by
  induction n using Device.waitSlices_induction generalizing s with
  | short n hn =>
    rw [Device.waitSlices_of_le hn, Device.fullSlices_of_le hn]
    exact ⟨⟨n, rfl⟩, rfl⟩
  | long n hn ih =>
    obtain ⟨answer, made⟩ := ih (s.counted .idle)
    rw [Device.waitSlices_of_lt hn, Device.fullSlices_of_lt hn]
    refine ⟨answer, ?_⟩
    rw [List.replicate_succ, ← made]
    rfl

/-- What an open device does when no call fails. -/
private theorem perform_never {d : Device Handle} (ho : d.state = .opened) {action : Action}
    {task : Device.Task} (ht : action.task? = some task) (s : State) :
    ((d.perform (recorder neverFails) task).run s).answer =
        (.ok (), { d with clockOffset := taskClock d.clockOffset task }) ∧
      calls ((d.perform (recorder neverFails) task).run s).log = taskCalls d.handle.id task := by
  obtain ⟨id, registration, handle, state, clock⟩ := d
  cases ho
  cases action with
  | register r => cases ht
  | inject events => cases ht; exact ⟨rfl, rfl⟩
  | sync token => cases ht; exact ⟨rfl, rfl⟩
  | delay millis =>
    cases ht
    obtain ⟨⟨last, answer⟩, made⟩ := waitSlices_never handle millis.toNat s
    simp only [Device.perform, Device.delay, Act.run_bind, answer]
    refine ⟨rfl, ?_⟩
    rw [calls_append, made]
    rfl

/-- What one device has come to in a run: the calls made for it, and its registration and its clock if
it is registered. -/
structure Thread where
  calls : List Call := []
  device : Option (Registration × UInt64) := none

def Thread.next (id : DeviceId) (t : Thread) (action : Action) : Thread :=
  match t.device, action with
  | none, .register r => ⟨t.calls ++ [.create id r], some (r, 0)⟩
  | none, _ => t
  | some (r, clock), action =>
    match action.task? with
    | none => t
    | some task => ⟨t.calls ++ taskCalls id task, some (r, taskClock clock task)⟩

/-- A thread after more events, of which those for other devices are nothing to it. -/
def Thread.follow (id : DeviceId) (t : Thread) (ds : List Delivery) : Thread :=
  ds.foldl (fun t d => if d.event.id = id then t.next id d.event.action else t) t

structure Follows (id : DeviceId) (t : Thread) (past : List (Entry Record))
    (s : Session State Handle) : Prop where
  calls : callsFor id past = t.calls
  device : (s.registry.get? id).map (fun d => (d.registration, d.clockOffset)) = t.device

private theorem Follows.warned {id : DeviceId} {t : Thread} {past : List (Entry Record)}
    {s : Session State Handle} (h : Follows id t past s) (w : Warning) :
    Follows id t (past ++ [.warning w]) s where
  calls := by
    rw [callsFor_append, h.calls]
    exact List.append_nil _
  device := h.device

/-- An event for a device is the next step of its thread. -/
private theorem process_own (e : Event) (t : Thread) {past : List (Entry Record)}
    {s : Session State Handle} (hu : Underway past s) (h : Follows e.id t past s) :
    Follows e.id (t.next e.id e.action) (past ++ ((Session.process (recorder neverFails) e).run s).log)
      ((Session.process (recorder neverFails) e).run s).state := by
  obtain ⟨made, device⟩ := t
  obtain ⟨hmade, hdevice⟩ := h
  dsimp only at hmade hdevice
  refine Session.process_cases (recorder neverFails) e hu.distinct
    (motive := fun done => Follows e.id (Thread.next e.id ⟨made, device⟩ e.action)
      (past ++ done.log) done.state) ?_ ?_ ?_ ?_
  · intro r hg ha
    rw [hg] at hdevice
    subst hdevice
    rw [Session.run_create_new _ (run_create_accepted rfl e.id r) hg, ha]
    refine ⟨?_, ?_⟩
    · rw [callsFor_append, hmade]
      simp [callsFor, calls, Thread.next, Call.id]
    · simp [Registry.get?_append, hg, Thread.next]
  · intro hg hc
    rw [hg] at hdevice
    subst hdevice
    have : Thread.next e.id ⟨made, none⟩ e.action = ⟨made, none⟩ := by
      cases ha : e.action <;> simp_all [Thread.next, Event.command, Action.command]
    rw [Option.map_none, this]
    exact Follows.warned ⟨hmade, by rw [hg]; rfl⟩ _
  · intro d hg hc
    rw [hg] at hdevice
    subst hdevice
    have ht : e.action.task? = none := (Action.task?_eq_none_iff _).mpr hc
    simp only [Thread.next, Option.map_some, ht]
    exact Follows.warned ⟨hmade, by rw [hg]; rfl⟩ _
  · intro d task hg ht
    obtain ⟨hd, hid⟩ := Registry.mem_of_get? hg
    rw [hg] at hdevice
    subst hdevice
    obtain ⟨answer, done⟩ := perform_never (hu.opened d hd) ht s.backend
    rw [hu.handle d hd, hid] at done
    simp only [Thread.next, Option.map_some, ht, answer]
    refine ⟨?_, ?_⟩
    · rw [callsFor_append, hmade, callsFor, done,
        List.filter_eq_self.mpr (by simpa using forall_mem_taskCalls e.id task)]
    · simp [Registry.get?_update, hg]

/-- An event for another device is nothing to a thread. -/
private theorem process_other (e : Event) {id : DeviceId} (hne : e.id ≠ id) (t : Thread)
    {past : List (Entry Record)} {s : Session State Handle} (hu : Underway past s)
    (h : Follows id t past s) :
    Follows id t (past ++ ((Session.process (recorder neverFails) e).run s).log)
      ((Session.process (recorder neverFails) e).run s).state := by
  refine Session.process_cases (recorder neverFails) e hu.distinct
    (motive := fun done => Follows id t (past ++ done.log) done.state) ?_ ?_ ?_ ?_
  · intro r hg ha
    rw [Session.run_create_new _ (run_create_accepted rfl e.id r) hg]
    refine ⟨?_, ?_⟩
    · rw [callsFor_append, h.calls]
      simp [callsFor, calls, Call.id, hne]
    · rw [← h.device, Registry.get?_append]
      simp [hne]
  · exact fun _ _ => h.warned _
  · exact fun _ _ _ => h.warned _
  · intro d task hg ht
    obtain ⟨hd, hid⟩ := Registry.mem_of_get? hg
    obtain ⟨answer, done⟩ := perform_never (hu.opened d hd) ht s.backend
    rw [hu.handle d hd, hid] at done
    rw [answer]
    refine ⟨?_, ?_⟩
    · have none : callsFor id ((d.perform (recorder neverFails) task).run s.backend).log = [] := by
        rw [callsFor, done]
        refine List.filter_eq_nil_iff.mpr fun c hc => ?_
        simpa [forall_mem_taskCalls e.id task c hc] using hne
      rw [callsFor_append, none, List.append_nil, h.calls]
    · rw [← h.device, Registry.get?_update, Option.map_map]
      cases hi : s.registry.get? id with
      | none => rfl
      | some d' =>
        have hne' : d'.id ≠ d.id := by rw [(Registry.mem_of_get? hi).2, hid]; exact hne.symm
        simp [hne']

private theorem processAll_follows (failure : Option ParseError) (id : DeviceId) (ds : List Delivery)
    (t : Thread) :
    (Session.processAll (recorder neverFails) failure ds).Ensures
      (fun past s => Underway past s ∧ Follows id t past s)
      (fun _ past s => Underway past s ∧ Follows id (t.follow id ds) past s) := by
  induction ds generalizing t with
  | nil => exact .pure fun _ _ h => h
  | cons d ds ih =>
    refine Act.Ensures.bind (R := fun _ past s => Underway past s ∧ Follows id t past s) ?_
      (fun _ => ?_)
    · exact Session.Keeps.warnAll (fun _ _ w h => ⟨h.1.warned w, h.2.warned w⟩) d.warnings
    · refine Act.Ensures.bind (R := fun a past s => a = .ok () ∧ Underway past s ∧
        Follows id (t.follow id [d]) past s) ?_ ?_
      · rintro past s ⟨hu, h⟩
        refine ⟨process_never d.event hu, process_underway neverFails d.event past s hu, ?_⟩
        by_cases hid : d.event.id = id
        · subst hid
          simpa [Thread.follow] using process_own d.event t hu h
        · simpa [Thread.follow, hid] using process_other d.event hid t hu h
      · rintro (e | _)
        · exact fun _ _ h => by cases h.1
        · exact fun past s h => ih _ past s h.2

private theorem calls_sweep {past : List (Entry Record)} {s : Session State Handle}
    (hu : Underway past s) :
    calls ((Registry.closeEach (recorder neverFails) s.registry.devices).run s.backend).log =
      s.registry.ids.map .close := by
  have swept := (closeEach_sweep neverFails s.registry.devices hu.opened s.backend).1
  calc _ = ((effects ((Registry.closeEach (recorder neverFails) s.registry.devices).run
        s.backend).log).map (fun c => (c.handle, c.call))).map Prod.snd := by
        rw [List.map_map]
        rfl
    _ = s.registry.devices.map (fun d => .close d.handle.id) := by
        rw [swept, List.map_map]
        rfl
    _ = s.registry.ids.map .close := by
        rw [Registry.ids, List.map_map]
        exact List.map_congr_left fun d hd => congrArg Call.close (hu.handle d hd)

/-- Of the calls that close all devices, one is for a registered device and none for any other. -/
private theorem filter_close {r : Registry Handle} (hr : r.Distinct) (id : DeviceId) :
    (r.ids.map Call.close).filter (·.id = id) =
      if (r.get? id).isSome then [.close id] else [] := by
  have own : (fun c : Call => decide (c.id = id)) ∘ Call.close = (fun i => decide (i = id)) := rfl
  rw [List.filter_map, own, List.filter_eq]
  cases hg : r.get? id with
  | none => simp [List.count_eq_zero.mpr (Registry.get?_eq_none_iff.mp hg)]
  | some d =>
    obtain ⟨hd, rfl⟩ := Registry.mem_of_get? hg
    have once : r.ids.count d.id = 1 := List.count_eq_one_of_mem hr (List.mem_map_of_mem hd)
    simp [once]

private theorem closed_look {ds ds' : List (Device Handle)}
    (h : List.Forall₂ Device.ClosedFrom ds ds') (id : DeviceId) :
    ((⟨ds'⟩ : Registry Handle).get? id).map (fun d => (d.registration, d.clockOffset, d.state)) =
      ((⟨ds⟩ : Registry Handle).get? id).map
        (fun d => (d.registration, d.clockOffset, .closed)) := by
  cases hg : (⟨ds⟩ : Registry Handle).get? id with
  | none =>
    rw [Registry.get?_eq_none_iff, ← Registry.ids_of_closedFrom h] at hg
    rw [Registry.get?_eq_none_iff.mpr hg]
    rfl
  | some d =>
    obtain ⟨d', hd', hclosed⟩ := Registry.get?_of_closedFrom h hg
    simp [hd', hclosed.registration, hclosed.clockOffset, hclosed.state]

/-- What a run comes to for one device when no call fails. -/
private theorem runFeed_thread (f : Feed) (id : DeviceId) :
    let done := (Session.runFeed (recorder neverFails) f).run { backend := {} }
    let t := Thread.follow id {} f.deliveries
    callsFor id done.log = t.calls ++ (if t.device.isSome then [.close id] else []) ∧
      (done.state.registry.get? id).map (fun d => (d.registration, d.clockOffset, d.state)) =
        t.device.map (fun (r, clock) => (r, clock, .closed)) := by
  intro done t
  obtain ⟨hu, hcalls, hdevice⟩ := processAll_follows f.failure id f.deliveries {} [] { backend := {} }
    ⟨underway_new, rfl, rfl⟩
  generalize hw : (Session.processAll (recorder neverFails) f.failure f.deliveries).run
    { backend := {} } = work at hu hcalls hdevice
  have sweep : callsFor id ((Registry.closeEach (recorder neverFails) work.state.registry.devices).run
      work.state.backend).log = if (work.state.registry.get? id).isSome then [.close id] else [] := by
    rw [callsFor, calls_sweep hu, filter_close hu.distinct]
  have closed := Registry.forall₂_closeEach (recorder neverFails) work.state.registry.devices
    work.state.backend
  simp only [done, t, Session.runFeed, Act.run_bind, Act.run_pure, hw, Session.run_shutdown,
    List.append_nil]
  refine ⟨?_, ?_⟩
  · rw [callsFor_append, sweep, ← hdevice, ← hcalls, Option.isSome_map]
    rfl
  · rw [closed_look closed, ← hdevice, Option.map_map]
    rfl

private theorem follow_filter (id : DeviceId) (t : Thread) (ds : List Delivery) :
    t.follow id (ds.filter (·.event.id = id)) = t.follow id ds := by
  rw [Thread.follow, List.foldl_filter]
  congr 1
  funext t d
  by_cases h : d.event.id = id <;> simp [h]

end Recorder

def Feed.only (f : Feed) (id : DeviceId) : Feed :=
  { f with deliveries := f.deliveries.filter (·.event.id = id) }

open Recorder in
/-- Devices do not interfere. As long as no call fails, a run makes the same calls for a device, with
the same arguments, and leaves it the same registration, clock and state, as the run that is given
only the events for that device. -/
theorem devices_do_not_interfere (f : Feed) (id : DeviceId) :
    let all := (Session.runFeed (recorder neverFails) f).run { backend := {} }
    let own := (Session.runFeed (recorder neverFails) (f.only id)).run { backend := {} }
    callsFor id all.log = callsFor id own.log ∧
      (all.state.registry.get? id).map (fun d => (d.registration, d.clockOffset, d.state)) =
        (own.state.registry.get? id).map (fun d => (d.registration, d.clockOffset, d.state)) := by
  intro all own
  obtain ⟨hcalls, hdevice⟩ := runFeed_thread f id
  obtain ⟨hcalls', hdevice'⟩ := runFeed_thread (f.only id) id
  have same : Thread.follow id {} (f.only id).deliveries = Thread.follow id {} f.deliveries :=
    follow_filter id {} f.deliveries
  rw [same] at hcalls' hdevice'
  exact ⟨hcalls.trans hcalls'.symm, hdevice.trans hdevice'.symm⟩

end ScriptedInput

import ScriptedInput.Proofs.Device.Clock
import ScriptedInput.Proofs.Session.Failure
import ScriptedInput.Proofs.Session.Lifecycle

/-! The clocks of a session. Each device shows what its own handle was told, whatever is asked of the
session and whatever fails. -/
namespace ScriptedInput
namespace Recorder

/-- A task of an event makes calls on the device's handle only, and creates nothing. -/
private theorem perform_settled (plan : FailurePlan) (d : Device Handle) (s : State) {action : Action}
    {task : Device.Task} (ht : action.task? = some task) :
    let done := (d.perform (recorder plan) task).run s
    done.answer.2.handle = d.handle ∧ done.state.created = s.created ∧
      ∀ c ∈ effects done.log, c.handle = some d.handle.serial := by
  intro done
  obtain ⟨clock, same⟩ := Device.perform_device (recorder plan) d ht s
  have none : (d.perform (recorder plan) task).Keeps (fun _ t => t.created = s.created) :=
    Device.perform_keeps (fun _ _ _ h => h) (fun _ _ _ h => h) (fun _ _ _ h => h)
      (fun _ _ h => h) (fun _ _ _ h => h) ht
  refine ⟨congrArg (·.handle) same, none [] s rfl, fun c hc => ?_⟩
  obtain ⟨entry, he, effect⟩ := List.mem_filterMap.mp hc
  have use := isUse_of_perform plan d ht s entry he
  cases entry <;> cases effect
  exact use.1

/-- What the calls on the handle with a number tell was waited for, all together. -/
def waitedOn (n : Nat) (log : List (Entry Record)) : Nat := waited (callsOn n (effects log))

private theorem waitedOn_append (n : Nat) (xs ys : List (Entry Record)) :
    waitedOn n (xs ++ ys) = waitedOn n xs + waitedOn n ys := by
  simp [waitedOn, callsOn]

private theorem waitedOn_of_handle {n : Nat} {log : List (Entry Record)}
    (h : ∀ c ∈ effects log, c.handle = some n) (m : Nat) :
    waitedOn m log = if m = n then waited (effects log) else 0 := by
  split
  · next same =>
    have all : callsOn m (effects log) = effects log :=
      List.filter_eq_self.mpr fun c hc => by simp [h c hc, same]
    rw [waitedOn, all]
  · next other =>
    have none : callsOn m (effects log) = [] :=
      List.filter_eq_nil_iff.mpr fun c hc => by simp [h c hc, Ne.symm other]
    rw [waitedOn, none]
    rfl

private theorem waitedOn_eq_zero {log : List (Entry Record)} (h : ∀ c ∈ effects log, c.call.kind ≠ .delay)
    (n : Nat) : waitedOn n log = 0 :=
  waited_eq_zero fun c hc => h c (List.mem_filter.mp hc).1

/-- The devices of a session have handles of their own, which show what they were told. -/
structure Clocked (past : List (Entry Record)) (s : Session State Handle) : Prop where
  distinct : s.registry.Distinct
  serials : (s.registry.devices.map (·.handle.serial)).Nodup
  given : ∀ d ∈ s.registry.devices, d.handle.serial < s.backend.created
  unused : ∀ n, s.backend.created ≤ n → waitedOn n past = 0
  shows : ∀ d ∈ s.registry.devices, Shows d.clockOffset (waitedOn d.handle.serial past)

/-- Entries that tell of no wait leave the clocks right. -/
private theorem Clocked.silent {past log : List (Entry Record)} {s : Session State Handle}
    (h : Clocked past s) (silent : ∀ c ∈ effects log, c.call.kind ≠ .delay) {t : State}
    (more : s.backend.created ≤ t.created) :
    Clocked (past ++ log) { s with backend := t } where
  distinct := h.distinct
  serials := h.serials
  given d hd := Nat.lt_of_lt_of_le (h.given d hd) more
  unused n hn := by
    rw [waitedOn_append, h.unused n (Nat.le_trans more hn), waitedOn_eq_zero silent]
  shows d hd := by
    rw [waitedOn_append, waitedOn_eq_zero silent]
    exact h.shows d hd

private theorem create_clocked (plan : FailurePlan) (id : DeviceId) (r : Registration) :
    (Session.create (recorder plan) id r).Keeps Clocked := by
  intro past s h
  cases hp : plan .create (s.backend.counts .create) with
  | some e =>
    rw [Session.run_create_refused _ (run_create_refused hp id r)]
    exact h.silent (by simp [Call.kind]) le_rfl
  | none =>
    have made := run_create_accepted hp id r
    cases hg : s.registry.get? id with
    | some d =>
      rw [Session.run_create_duplicate _ made hg]
      obtain ⟨-, more, closing⟩ := close_settled plan ⟨id, r, ⟨s.backend.created, id⟩, .opened, 0⟩
        { s.backend.counted .create with created := s.backend.created + 1 }
      refine h.silent ?_ (more ▸ Nat.le_succ _)
      rw [effects_append]
      refine List.forall_mem_append.mpr ⟨by simp [Call.kind], fun c hc => ?_⟩
      simp [closing c hc]
    | none =>
      rw [Session.run_create_new _ made hg]
      obtain ⟨-, -, given, unused, shows⟩ : Clocked
          (past ++ [.effect ⟨some s.backend.created, .create id r, none⟩])
          { s with backend := s.backend.counted .create } :=
        h.silent (by simp [Call.kind]) le_rfl
      refine ⟨h.distinct.insert hg, ?_, ?_, ?_, ?_⟩
      · rw [List.map_append, List.map_singleton]
        refine h.serials.append (List.nodup_singleton _) (List.disjoint_singleton.mpr ?_)
        intro taken
        obtain ⟨d, hd, same⟩ := List.mem_map.mp taken
        exact (h.given d hd).ne same
      · refine List.forall_mem_append.mpr ⟨fun d hd => ?_, by simp⟩
        exact Nat.lt_succ_of_lt (h.given d hd)
      · exact fun n hn => unused n (Nat.le_of_succ_le hn)
      · refine List.forall_mem_append.mpr ⟨shows, List.forall_mem_singleton.mpr ?_⟩
        exact (congrArg (Shows 0) (unused s.backend.created le_rfl)).mpr rfl

private theorem process_clocked (plan : FailurePlan) (e : Event) :
    (Session.process (recorder plan) e).Keeps Clocked := by
  intro past s h
  refine Session.process_cases (recorder plan) e h.distinct
    (motive := fun done => Clocked (past ++ done.log) done.state) ?_ ?_ ?_ ?_
  · exact fun r _ _ => create_clocked plan e.id r past s h
  · exact fun _ _ => h.silent (by simp) le_rfl
  · exact fun _ _ _ => h.silent (by simp) le_rfl
  · intro d task hg ht
    obtain ⟨hd, hid⟩ := Registry.mem_of_get? hg
    obtain ⟨handle, created, own⟩ := perform_settled plan d s.backend ht
    obtain ⟨clock, same⟩ := Device.perform_device (recorder plan) d ht s.backend
    have shown := shows_perform plan (h.shows d hd) task s.backend
    have told := waitedOn_of_handle own
    generalize (d.perform (recorder plan) task).run s.backend = done at *
    obtain ⟨⟨answer, d'⟩, t, log⟩ := done
    cases same
    dsimp only at created told shown ⊢
    refine ⟨h.distinct.update _, ?_, ?_, ?_, ?_⟩
    · have found : s.registry.get? d.id = some d := by rwa [hid]
      rw [Registry.map_update h.distinct (e := { d with clockOffset := clock }) found rfl _ rfl]
      exact h.serials
    · rw [created]
      exact Registry.forall_mem_update (h.given d hd) h.given
    · intro n hn
      have other : n ≠ d.handle.serial := ((h.given d hd).trans_le (created ▸ hn)).ne'
      rw [waitedOn_append, told, if_neg other, h.unused n (created ▸ hn)]
    · intro d' hd'
      obtain ⟨old, hold, rfl⟩ := List.mem_map.mp hd'
      dsimp only
      split
      · rw [waitedOn_append, told, if_pos rfl]
        exact shown
      · next other =>
        -- Handles tell devices apart, so the calls were on another one's.
        have apart : old.handle.serial ≠ d.handle.serial := fun same =>
          other (congrArg (·.id) (List.inj_on_of_nodup_map h.serials hold hd same))
        rw [waitedOn_append, told, if_neg apart]
        exact h.shows old hold

private theorem closeEach_settled (plan : FailurePlan) (ds : List (Device Handle)) (s : State) :
    let done := (Registry.closeEach (recorder plan) ds).run s
    done.answer.map (fun d => (d.handle, d.clockOffset)) =
        ds.map (fun d => (d.handle, d.clockOffset)) ∧
      done.state.created = s.created ∧ ∀ c ∈ effects done.log, c.call.kind = .close := by
  induction ds generalizing s with
  | nil => exact ⟨rfl, rfl, by simp [Registry.closeEach]⟩
  | cons d ds ih =>
    intro done
    obtain ⟨handle, created, closing⟩ := close_settled plan d s
    obtain ⟨handles, created', closing'⟩ := ih ((d.close (recorder plan)).run s).state
    have clock := (Device.closedFrom_close (recorder plan) d s).clockOffset
    have each : done = _ := Registry.run_closeEach_cons (recorder plan) d ds s
    rw [each]
    refine ⟨?_, created'.trans created, ?_⟩
    · simp only [List.map_cons, handles, handle, clock]
    · rw [effects_append]
      exact List.forall_mem_append.mpr ⟨closing, closing'⟩

private theorem shutdown_clocked (plan : FailurePlan) :
    (Session.shutdown (recorder plan)).Keeps Clocked := by
  intro past s h
  rw [Session.run_shutdown]
  have closed := Registry.forall₂_closeEach (recorder plan) s.registry.devices s.backend
  obtain ⟨same, created, closing⟩ := closeEach_settled plan s.registry.devices s.backend
  generalize (Registry.closeEach (recorder plan) s.registry.devices).run s.backend = done at *
  have silent : Clocked (past ++ done.log) s :=
    h.silent (fun c hc => by simp [closing c hc]) le_rfl
  -- Each device is as one before, but for being closed.
  have kept (d' : Device Handle) (hd' : d' ∈ done.answer) :
      ∃ d ∈ s.registry.devices, d'.handle = d.handle ∧ d'.clockOffset = d.clockOffset := by
    have look := List.mem_map_of_mem (f := fun d : Device Handle => (d.handle, d.clockOffset)) hd'
    rw [same] at look
    obtain ⟨d, hd, alike⟩ := List.mem_map.mp look
    obtain ⟨handle, clock⟩ := Prod.mk.inj alike
    exact ⟨d, hd, handle.symm, clock.symm⟩
  refine ⟨?_, ?_, fun d' hd' => ?_, fun n hn => ?_, fun d' hd' => ?_⟩
  · rw [Registry.Distinct, Registry.ids_of_closedFrom closed]
    exact h.distinct
  · have serials := congrArg (List.map fun look : Handle × UInt64 => look.1.serial) same
    rw [List.map_map, List.map_map] at serials
    exact (congrArg List.Nodup serials).mpr h.serials
  · obtain ⟨d, hd, handle, -⟩ := kept d' hd'
    rw [handle, created]
    exact h.given d hd
  · exact silent.unused n (created ▸ hn)
  · obtain ⟨d, hd, handle, clock⟩ := kept d' hd'
    rw [handle, clock]
    exact silent.shows d hd

private theorem clocked_new : Clocked [] { backend := {} } where
  distinct := Session.distinct_new _
  serials := List.nodup_nil
  given := by simp
  unused _ _ := rfl
  shows := by simp

private theorem performAll_clocked (plan : FailurePlan) (requests : List Session.Request) :
    (Session.performAll (recorder plan) requests).Keeps Clocked :=
  Session.Keeps.performAll (fun _ _ _ h => h.silent (by simp) le_rfl) (process_clocked plan)
    (create_clocked plan) (shutdown_clocked plan) requests

end Recorder

open Recorder in
/-- Delays are slept for in slices, and counted. If no call of the wait fails, an open device sleeps
for full slices, each with a call after it, then for what is left, and tells its handle; the sleeps
come to the whole time. If a call of the wait fails, nothing comes after it. A clock shows what the
handle was told, as far as it can, whatever was done with the device before, alone or in a session. -/
theorem delay_slept_in_slices (plan : FailurePlan) :
    (∀ (d : Device Handle) (millis : UInt64) (s : State), d.state = .opened →
      let k := if millis = 0 then 0 else (millis.toNat - 1) / 200
      let last := millis.toNat - 200 * k
      let idle := fun i => plan .idle (s.counts .idle + i)
      let refused := plan .delay (s.counts .delay)
      let done := (d.delay (recorder plan) millis).run s
      ((∀ i < k, idle i = none) →
        done.log = serviced d.handle k ++ [.slept last,
          .effect ⟨some d.handle.serial, .delay d.handle.id millis, refused⟩] ∧
        done.answer = ((match refused with
          | none => .ok ()
          | some e => .error (.injection d.id .delay e)),
          { d with clockOffset := Device.addClock d.clockOffset millis }) ∧
        (if millis = 0 then last = 0 else 1 ≤ last ∧ last ≤ 200) ∧
        (sleeps done.log).sum = millis.toNat ∧ (∀ n ∈ sleeps done.log, n ≤ 200) ∧
        done.log.dropLast = ((sleeps done.log).map .slept).intersperse (idled d.handle none)) ∧
      (∀ j < k, (∀ i < j, idle i = none) → ∀ e, idle j = some e →
        done.log = serviced d.handle j ++ [.slept 200, idled d.handle (some e)] ∧
        done.answer = (.error (.injection d.id .delay e), d))) ∧
    (∀ d records, History plan d records →
      d.clockOffset.toNat = min (2 ^ 64 - 1) (waited records)) ∧
    (∀ requests, let reached := (Session.performAll (recorder plan) requests).run { backend := {} }
      ∀ d ∈ reached.state.registry.devices, d.clockOffset.toNat =
        min (2 ^ 64 - 1) (waited (callsOn d.handle.serial (effects reached.log)))) := by
  refine ⟨fun d millis s opened => ?_, fun d records history => history.shows, fun requests => ?_⟩
  · intro k last idle refused done
    have slices : k = Device.fullSlices millis.toNat := by
      simp only [k]
      split
      · next none => rw [none]; rfl
      · rfl
    obtain ⟨fits, short, positive⟩ := fullSlices_spec millis.toNat
    rw [← slices] at fits short positive
    refine ⟨fun served => ?_, fun j hj served e failed => ?_⟩
    · obtain ⟨log, answer⟩ := run_delay_served opened (slices ▸ served)
      rw [← slices] at log
      have slept : sleeps done.log = List.replicate k 200 ++ [last] := by
        rw [show done.log = _ from log, sleeps_append, sleeps_serviced]
        rfl
      refine ⟨log, answer, ?_, ?_, ?_, ?_⟩
      · split
        · next none => simp [last, none]
        · next some =>
          have : 0 < millis.toNat := Nat.pos_of_ne_zero fun zero =>
            some (UInt64.toNat_inj.mp zero)
          have := positive this
          omega
      · rw [slept, List.sum_append, List.sum_replicate_nat, List.sum_singleton]
        omega
      · rw [slept]
        exact List.forall_mem_append.mpr
          ⟨fun n hn => (List.eq_of_mem_replicate hn).le, List.forall_mem_singleton.mpr short⟩
      · rw [slept, intersperse_sleeps, show done.log = _ from log]
        simp [last]
    · have cut := run_delay_failed opened (slices ▸ hj) served failed
      exact ⟨congrArg (·.log) cut, congrArg (·.answer) cut⟩
  · exact (performAll_clocked plan requests [] _ clocked_new).shows

def unserved : FailurePlan
  | .idle, 3 => some (.rejected .noHandle)
  | .delay, 0 => some (.rejected .noHandle)
  | _, _ => none

open Recorder in
theorem unserved_delays :
    let r : Registration := { name := "pad", vendor := 1, product := 2 }
    let d : Device Handle := ⟨4, r, ⟨0, 4⟩, .opened, 0⟩
    let made := (Device.create (recorder unserved) 4 r).run {}
    let refused := (d.perform (recorder unserved) (.delay 450)).run made.state
    let records := effects made.log ++ effects refused.log
    ((d.delay (recorder unserved) 450).run {}).log = serviced ⟨0, 4⟩ 2 ++ [.slept 50,
        .effect ⟨some 0, .delay 4 450, some (.rejected .noHandle)⟩] ∧
      ((d.delay (recorder unserved) 600).run (({} : State).idled 2)).answer =
        (.error (.injection 4 .delay (.rejected .noHandle)), d) ∧
      History unserved refused.answer.2 records ∧
      refused.answer.2.clockOffset.toNat = min (2 ^ 64 - 1) (waited records) := by
  intro r d made refused records
  obtain ⟨slices, shows, -⟩ := delay_slept_in_slices unserved
  have served : ∀ i < 2, unserved .idle (({} : State).counts .idle + i) = none := by decide
  have later : ∀ i < 1, unserved .idle ((({} : State).idled 2).counts .idle + i) = none := by decide
  have history : History unserved refused.answer.2 records := .performed (.created rfl) _ _
  refine ⟨((slices d 450 {} rfl).1 served).1, ?_, history, shows _ _ history⟩
  exact ((slices d 600 _ rfl).2 1 (by decide) later _ rfl).2

end ScriptedInput

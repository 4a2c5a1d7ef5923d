import ScriptedInput.Proofs.Device.Insertion

/-! What users of a registry can rely on. Over every run of a bench its registry is a map from numbers to
devices in the order in which they were registered, and every handle is closed in the end. -/
namespace ScriptedInput
namespace Bench
variable {σ η ε : Type}

structure All (P : Device η → Prop) (bench : Bench σ η) : Prop where
  loose : ∀ d, some d ∈ bench.slots → P d
  registered : ∀ d ∈ bench.arena.devices, P d

section All
variable {P : Device η → Prop} {bench : Bench σ η}

private theorem All.of_find? (h : bench.All P) {place : Place} {d : Device η}
    (found : bench.find? place = some d) : P d := by
  cases place with
  | slot n => exact h.loose d (List.mem_of_getElem? (Option.join_eq_some_iff.mp found))
  | registered id =>
    obtain ⟨n, -, stands⟩ := Arena.exists_of_get? found
    exact h.registered d (List.mem_of_getElem? stands)

private theorem All.clear (h : bench.All P) (n : Nat) : (bench.clear n).All P where
  loose d hd := by
    rcases List.mem_or_eq_of_mem_set hd with hd | hd
    · exact h.loose d hd
    · cases hd
  registered := h.registered

private theorem All.replace (h : bench.All P) {d : Device η} (hd : P d) (place : Place) :
    (bench.replace d place).All P := by
  cases place with
  | slot n =>
    refine ⟨fun e he => ?_, h.registered⟩
    rcases List.mem_or_eq_of_mem_set he with he | he
    · exact h.loose e he
    · cases he
      exact hd
  | registered id =>
    refine ⟨h.loose, fun e he => ?_⟩
    simp only [Bench.replace, Arena.put] at he
    split at he
    · exact h.registered e he
    · rcases List.mem_or_eq_of_mem_set he with he | rfl
      · exact h.registered e he
      · exact hd

end All

section Kept
variable {b : Backend σ η ε} (kept : ∀ h s, ((b.close h).run s).answer.2 = h)
  {P : Device η → Prop}
  (fresh : ∀ id r s d, ((Device.create b id r).run s).answer = .ok d → P d)
  (same : ∀ d d', d.Same d' → P d → P d')
include kept fresh same

/-- What holds of new devices, and of a device whenever it holds of the same one, holds of all. -/
private theorem all_perform {bench : Bench σ η} (h : bench.All P) (r : Request) :
    ((perform b r).run bench).state.All P := by
  have performs := performs b bench r
  generalize (perform b r).run bench = done at performs ⊢
  cases performs with
  | uninserted | returned | undropped | unworked => exact h
  | notCreated => exact ⟨h.loose, h.registered⟩
  | created made =>
    refine ⟨fun d hd => ?_, h.registered⟩
    rcases List.mem_append.mp hd with hd | hd
    · exact h.loose d hd
    · rw [List.mem_singleton, Option.some.injEq] at hd
      exact fresh _ _ _ _ (hd ▸ congrArg Done.answer made)
  | inserted found new =>
    obtain ⟨-, rfl⟩ := Arena.insert?_eq_some_iff.mp new
    refine ⟨(h.clear _).loose, List.forall_mem_append.mpr ⟨h.registered, ?_⟩⟩
    exact List.forall_mem_singleton.mpr (h.of_find? found)
  | dropped => exact ⟨(h.clear _).loose, h.registered⟩
  | swept closed =>
    refine ⟨h.loose, fun d hd => ?_⟩
    have alike := closed ▸ Device.same_closeEach kept bench.arena.devices bench.backend
    obtain ⟨n, inside, rfl⟩ := List.mem_iff_getElem.mp hd
    have inside' := alike.length_eq ▸ inside
    exact same _ _ (alike.get inside' inside) (h.registered _ (List.getElem_mem inside'))
  | @worked place task d done found carried =>
    have after := carried ▸ Device.same_perform kept d task bench.backend
    have here : ({ bench with backend := done.state } : Bench σ η).All P :=
      ⟨h.loose, h.registered⟩
    exact here.replace (same _ _ after (h.of_find? found)) place

private theorem all_performAll {bench : Bench σ η} (h : bench.All P) (rs : List Request) :
    ((performAll b rs).run bench).state.All P := by
  induction rs generalizing bench with
  | nil => exact h
  | cons r rs ih => exact ih (all_perform kept fresh same h r)

end Kept
end Bench

namespace Recorder

private theorem close_keeps_handle (plan : FailurePlan) (h : Handle) (s : State) :
    (((recorder plan).close h).run s).answer.2 = h := congrArg (·.answer.2) (run_close plan h s)

def Owned (d : Device Handle) : Prop := d.handle.id = d.id

private theorem owned_of_create {plan : FailurePlan} {id : DeviceId} {r : Registration} {s : State}
    {d : Device Handle} (made : ((Device.create (recorder plan) id r).run s).answer = .ok d) :
    Owned d := by
  have call : (recorder plan).create id r = create plan id r := rfl
  rw [Device.create, call, Act.run_bind, Act.run_within] at made
  cases failure : plan .create (s.counts .create) with
  | some e =>
    rw [run_create_refused failure] at made
    cases made
  | none =>
    rw [run_create_accepted failure] at made
    cases made
    rfl

private theorem Owned.of_same {d d' : Device Handle} (same : d.Same d') (h : Owned d) : Owned d' := by
  rw [Owned, same.handle, same.id]
  exact h

def Record.made (c : Record) : Option Nat × Call := (c.handle, c.call)

/-- A sweep closes the open devices, in order, and does nothing else. -/
private theorem made_closeEach (plan : FailurePlan) {ds : List (Device Handle)}
    (owned : ∀ d ∈ ds, Owned d) (s : State) :
    (effects ((Registry.closeEach (recorder plan) ds).run s).log).map Record.made =
      (ds.filter (·.state = .opened)).map (fun d => (some d.handle.serial, .close d.id)) := by
  induction ds generalizing s with
  | nil => rfl
  | cons d ds ih =>
    obtain ⟨own, owned⟩ := List.forall_mem_cons.mp owned
    rw [Registry.run_closeEach_cons, effects_append, List.map_append, ih owned]
    cases hd : d.state with
    | closed =>
      rw [Device.run_close_closed _ hd, List.filter_cons_of_neg (by simp [hd])]
      rfl
    | opened =>
      have report (answer : Except BackendError Unit) :
          effects (Device.closeReport (ε := Record) d.id answer) = [] := by
        cases answer <;> rfl
      rw [Device.run_close_opened _ hd, effects_append, effects_map_effect, report, run_close,
        List.filter_cons_of_pos (by simp [hd])]
      simp [Record.made, show d.handle.id = d.id from own]

end Recorder

/-- A registry that has had these offers is a map from numbers to devices, in the order of insertion. -/
structure Bench.Ordered (plan : FailurePlan) (offers : List (Offer Recorder.Handle))
    (bench : Bench Recorder.State Recorder.Handle) : Prop where
  distinct : bench.arena.ids.Nodup
  ids : bench.arena.ids = (offers.filter (·.taken)).map (·.device.id)
  size : bench.arena.size = bench.arena.ids.length
  contains : ∀ id, bench.arena.contains id ↔ id ∈ bench.arena.ids
  absent : ∀ id, bench.arena.get? id = none ↔ ¬ bench.arena.contains id
  found : ∀ id, Option.Rel Device.Same (firstOffered? offers id) (bench.arena.get? id)
  /-- Work on a registered device reaches that device and leaves the others as they are. -/
  work : ∀ id task d, bench.arena.get? id = some d →
    let done := (d.perform (recorder plan) task).run bench.backend
    let after := bench.arena.put id done.answer.2
    (Bench.perform (recorder plan) (.work (.registered id) task)).run bench =
      ⟨.worked done.answer.1 done.answer.2, { bench with arena := after, backend := done.state },
        done.log⟩ ∧
    after.ids = bench.arena.ids ∧
    ∀ other, after.get? other = if other = id then some done.answer.2 else bench.arena.get? other
  unregistered : ∀ id task, bench.arena.get? id = none →
    (Bench.perform (recorder plan) (.work (.registered id) task)).run bench = ⟨.noDevice, bench, []⟩
  rejected : ∀ n d, bench.find? (.slot n) = some d → bench.arena.contains d.id →
    (Bench.perform (recorder plan) (.insert n)).run bench = ⟨.returned d, bench, []⟩
  accepted : ∀ n d, bench.find? (.slot n) = some d → ¬ bench.arena.contains d.id →
    ∃ arena, (Bench.perform (recorder plan) (.insert n)).run bench =
        ⟨.inserted, { bench.clear n with arena }, []⟩ ∧
      arena.ids = bench.arena.ids ++ [d.id] ∧
      ∀ id, arena.get? id = if id = d.id then some d else bench.arena.get? id
  sweep :
    let swept := (Bench.perform (recorder plan) .closeAll).run bench
    (effects swept.log).map Recorder.Record.made =
      (bench.arena.devices.filter (·.state = .opened)).map
        (fun d => (some d.handle.serial, .close d.id)) ∧
    swept.state.arena.ids = bench.arena.ids ∧
    (∀ id, swept.state.arena.contains id = bench.arena.contains id) ∧
    ∀ d ∈ swept.state.arena.devices, d.state = .closed

private theorem Bench.ordered_of_holds {offers : List (Offer Recorder.Handle)}
    {bench : Bench Recorder.State Recorder.Handle} (plan : FailurePlan) (h : bench.arena.Holds offers)
    (owned : bench.All Recorder.Owned) : bench.Ordered plan offers where
  distinct := h.sound.distinct
  ids := by
    have same := Registry.ids_of_forall₂ (fun _ _ hd => hd.id) h.taken
    exact same.trans List.map_map
  size := (List.length_map _).symm
  contains _ := h.sound.contains_iff
  absent id := by rw [h.sound.get?_eq_none_iff, h.sound.contains_iff]
  found id := by
    rw [h.sound.get?_eq]
    exact h.first id
  work id task d found := by
    have own : ((d.perform (recorder plan) task).run bench.backend).answer.2.id = id :=
      (Device.same_perform (Recorder.close_keeps_handle plan) d task bench.backend).id.trans
        (h.sound.id_of_get? found)
    generalize made : (d.perform (recorder plan) task).run bench.backend = done at own
    subst own
    refine ⟨?_, h.sound.ids_put _, h.sound.get?_put found⟩
    simp [Bench.perform, Bench.work, Bench.find?, Bench.onBackend, Bench.replace, found, made]
  unregistered id task absent := by
    simp [Bench.perform, Bench.work, Bench.find?, absent]
  rejected n d found taken := by
    have kept := Arena.insert?_eq_none_iff.mpr taken
    simp [Bench.perform, Bench.insert, found, kept]
  accepted n d found new := by
    have added := Arena.insert?_eq_some_iff.mpr ⟨new, rfl⟩
    exact ⟨_, Bench.run_insert found added, Arena.ids_insert? added, h.sound.get?_insert? added⟩
  sweep := by
    have closed := Registry.forall₂_closeEach (recorder plan) bench.arena.devices bench.backend
    have ids := Registry.ids_of_closedFrom closed
    have run : (Bench.perform (recorder plan) .closeAll).run bench = _ :=
      Bench.run_closeAll (recorder plan) bench
    rw [run]
    exact ⟨Recorder.made_closeEach plan owned.registered _, ids, fun _ => rfl,
      Registry.allClosed_of_closedFrom closed⟩

open Recorder in
/-- Over every run of a bench and under every plan of failures, its registry is a map from numbers to
devices in the order of insertion, in which each number belongs to the first device that was offered for
it. When the devices in slots and the registry are given up, every handle that was given out has been
closed exactly once and last of all. -/
theorem registry_ordered_by_insertion (plan : FailurePlan) (requests : List Bench.Request) :
    let fresh : Bench State Handle := { backend := {} }
    let calls := effects ((Bench.lifetime (recorder plan) requests).run fresh).log
    ((Bench.performAll (recorder plan) requests).run fresh).state.Ordered plan
      (Bench.offers (recorder plan) requests fresh) ∧
    (∀ n, callsOn n calls = [] ∨ Ended n (callsOn n calls)) ∧
    (∀ c ∈ calls, c.handle = none ↔ c.call.kind = .create ∧ c.failure ≠ none) := by
  intro fresh calls
  have none_yet : fresh.All Owned := ⟨by simp [fresh], by simp [fresh]⟩
  have owned := Bench.all_performAll (close_keeps_handle plan)
    (fun _ _ _ _ made => owned_of_create made) (fun _ _ same h => h.of_same same) none_yet requests
  have nothing : fresh.arena.Holds [] := Arena.holds_empty
  have holds := Bench.holds_performAll (close_keeps_handle plan) nothing requests
  have tracked : Tracked 0 calls _ :=
    (recorderCustody plan).bench_lifetime_releases requests [] fresh tracked_empty
  refine ⟨Bench.ordered_of_holds plan holds owned, fun n => ?_, tracked.refused⟩
  rcases Nat.lt_or_ge n _ with given | unused
  · exact .inr (tracked.ended n given (by simp))
  · exact .inl (tracked.unused n unused)

end ScriptedInput

import Mathlib.Data.Multiset.AddSub
import ScriptedInput.Proofs.Session.Routing

/-! Custody of handles: at every moment of a session the open handles of its back end are those of its
open devices, whatever fails. -/
namespace ScriptedInput
variable {σ η ε : Type}

def withCreated (hs : Multiset η) : Except BackendError η → Multiset η
  | .ok h => h ::ₘ hs
  | .error _ => hs

/-- An account of the handles that are open on a back end after a past of effects. Creating puts a
handle on it, closing takes one off, and all other calls leave it as it is. -/
structure Custody (b : Backend σ η ε) where
  holds : Multiset η → List ε → σ → Prop
  create (hs : Multiset η) (id : DeviceId) (r : Registration) :
    (b.create id r).Ensures (holds hs) (fun answer => holds (withCreated hs answer))
  inject {hs : Multiset η} {h : η} (hm : h ∈ hs) (events : List RawEvent) :
    (b.inject h events).Keeps (holds hs)
  delay {hs : Multiset η} {h : η} (hm : h ∈ hs) (millis : UInt64) :
    (b.delay h millis).Keeps (holds hs)
  idle {hs : Multiset η} {h : η} (hm : h ∈ hs) : (b.idle h).Keeps (holds hs)
  sync {hs : Multiset η} {h : η} (hm : h ∈ hs) (token : String) : (b.sync h token).Keeps (holds hs)
  close (hs : Multiset η) (h : η) : (b.close h).Ensures (holds (h ::ₘ hs)) (fun _ => holds hs)

def Device.openHandle? (d : Device η) : Option η :=
  match d.state with
  | .opened => some d.handle
  | .closed => none

def openHandles (ds : List (Device η)) : Multiset η := ds.filterMap Device.openHandle?

theorem openHandles_cons_opened {d : Device η} (hd : d.state = .opened) (ds : List (Device η)) :
    openHandles (d :: ds) = d.handle ::ₘ openHandles ds := by
  simp [openHandles, Device.openHandle?, hd]

theorem openHandles_cons_closed {d : Device η} (hd : d.state = .closed) (ds : List (Device η)) :
    openHandles (d :: ds) = openHandles ds := by
  simp [openHandles, Device.openHandle?, hd]

private theorem openHandles_concat_opened {d : Device η} (hd : d.state = .opened) (ds : List (Device η)) :
    openHandles (ds ++ [d]) = d.handle ::ₘ openHandles ds := by
  simp only [openHandles, List.filterMap_append]
  rw [show [d].filterMap Device.openHandle? = [d.handle] by simp [Device.openHandle?, hd]]
  exact Multiset.coe_eq_coe.mpr (List.perm_append_singleton _ _)

private theorem openHandles_update {r : Registry η} (hr : r.Distinct) {d : Device η}
    (hd : r.get? d.id = some d) (clock : UInt64) :
    openHandles (r.update { d with clockOffset := clock }).devices = openHandles r.devices :=
  congrArg Multiset.ofList
    (Registry.filterMap_update hr (e := { d with clockOffset := clock }) hd rfl _ rfl)

theorem openHandles_eq_zero {ds : List (Device η)} (h : ∀ d ∈ ds, d.state = .closed) :
    openHandles ds = 0 := by
  induction ds with
  | nil => rfl
  | cons d ds ih =>
    rw [openHandles_cons_closed (h d List.mem_cons_self)]
    exact ih (fun e he => h e (List.mem_cons_of_mem _ he))

private theorem handle_mem_openHandles {ds : List (Device η)} {d : Device η} (hd : d ∈ ds)
    (ho : d.state = .opened) : d.handle ∈ openHandles ds := by
  simp only [openHandles, Multiset.mem_coe, List.mem_filterMap]
  exact ⟨d, hd, by simp [Device.openHandle?, ho]⟩

namespace Custody
variable {b : Backend σ η ε} (c : Custody b)

def At (hs : Multiset η) (past : List (Entry ε)) (s : σ) : Prop := c.holds hs (effects past) s

theorem perform {hs : Multiset η} {d : Device η} (hm : d.handle ∈ hs) {action : Action}
    {task : Device.Task} (ht : action.task? = some task) : (d.perform b task).Keeps (c.At hs) :=
  Device.perform_keeps (fun _ _ _ h => by simpa [At] using h) (fun _ => (c.inject hm _).within)
    (fun _ => (c.delay hm _).within) (c.idle hm).within (fun _ => (c.sync hm _).within) ht

private theorem closeDevice {hs : Multiset η} {d : Device η} (ho : d.state = .opened) :
    (d.close b).Ensures (c.At (d.handle ::ₘ hs)) (fun _ => c.At hs) := by
  intro past s h
  rw [Device.run_close_opened b ho]
  have hc := c.close hs d.handle (effects past) s h
  cases ha : ((b.close d.handle).run s).answer.1 <;> simpa [At, Device.closeReport] using hc

theorem closeEach (hs : Multiset η) (ds : List (Device η)) :
    (Registry.closeEach b ds).Ensures (c.At (openHandles ds + hs)) (fun _ => c.At hs) := by
  induction ds with
  | nil => exact .pure fun past s h => by simpa [openHandles] using h
  | cons d ds ih =>
    intro past s h
    rw [Registry.run_closeEach_cons]
    cases hd : d.state with
    | closed =>
      rw [openHandles_cons_closed hd] at h
      rw [Device.run_close_closed b hd]
      exact ih past s h
    | opened =>
      rw [openHandles_cons_opened hd, Multiset.cons_add] at h
      have first := c.closeDevice hd past s h
      simpa only [List.append_assoc] using ih _ _ first

def Sound (past : List (Entry ε)) (s : Session σ η) : Prop :=
  s.registry.Distinct ∧ c.At (openHandles s.registry.devices) past s.backend

private theorem create_sound (id : DeviceId) (r : Registration) :
    (Session.create b id r).Keeps c.Sound := by
  rintro past s ⟨hs, hc⟩
  have made := c.create _ id r (effects past) s.backend hc
  refine Session.create_cases b id r s (motive := fun done => c.Sound (past ++ done.log) done.state)
    ?_ ?_ ?_
  · intro e t log hr
    rw [hr] at made
    exact ⟨hs, by simpa [At, withCreated] using made⟩
  · intro h t log hr hg
    rw [hr] at made
    refine ⟨hs.insert hg, ?_⟩
    simpa [At, withCreated, openHandles_concat_opened] using made
  · intro h t log d hr _
    rw [hr] at made
    refine ⟨hs, ?_⟩
    have closed := c.closeDevice (b := b) (d := ⟨id, r, h, .opened, 0⟩) rfl
      (past ++ log.map .effect ++ [.warning (.alreadyRegistered id)]) t
      (by simpa [At, withCreated] using made)
    simpa only [List.append_assoc, List.singleton_append] using closed

theorem process_sound (e : Event) : (Session.process b e).Keeps c.Sound := by
  rintro past s ⟨hs, hc⟩
  refine Session.process_cases b e hs (motive := fun done => c.Sound (past ++ done.log) done.state)
    ?_ ?_ ?_ ?_
  · intro r _ _
    exact c.create_sound e.id r past s ⟨hs, hc⟩
  · exact fun _ _ => ⟨hs, by simpa [At] using hc⟩
  · exact fun _ _ _ => ⟨hs, by simpa [At] using hc⟩
  · intro d task hg ht
    obtain ⟨hmem, hid⟩ := Registry.mem_of_get? hg
    rw [← hid] at hg
    cases hd : d.state with
    | closed =>
      rw [Device.run_perform_closed b hd ht, Registry.update_self hs hg]
      exact ⟨hs, by simpa using hc⟩
    | opened =>
      have done := c.perform (handle_mem_openHandles hmem hd) ht past s.backend hc
      obtain ⟨clock, hclock⟩ := Device.perform_device b d ht s.backend
      rw [hclock]
      refine ⟨hs.update _, ?_⟩
      simpa only [openHandles_update hs hg] using done

/-- A shutdown takes everything off the account. -/
private theorem shutdown_releases :
    (Session.shutdown b).Ensures c.Sound (fun _ past s => c.Sound past s ∧ c.At 0 past s.backend) := by
  rintro past s ⟨hs, hc⟩
  rw [Session.run_shutdown]
  have closed := Registry.forall₂_closeEach b s.registry.devices s.backend
  have done := c.closeEach 0 s.registry.devices past s.backend (by simpa using hc)
  refine ⟨⟨?_, ?_⟩, done⟩
  · unfold Registry.Distinct
    rwa [Registry.ids_of_closedFrom closed]
  · rwa [openHandles_eq_zero (Registry.allClosed_of_closedFrom closed)]

private theorem shutdown_sound : (Session.shutdown b).Keeps c.Sound :=
  c.shutdown_releases.mono (fun _ _ h => h) (fun _ _ _ h => h.1)

/-- Whatever is asked of a session, and whatever fails, the account stays at the handles of its open
devices. -/
theorem performAll_sound (requests : List Session.Request) :
    (Session.performAll b requests).Keeps c.Sound :=
  Session.Keeps.performAll (fun past s w h => ⟨h.1, by simpa [At] using h.2⟩) c.process_sound
    c.create_sound c.shutdown_sound requests

/-- When a session is given up, no handle is left open. -/
theorem lifetime_releases (requests : List Session.Request) :
    (Session.lifetime b requests).Ensures c.Sound (fun _ past s => c.At 0 past s.backend) :=
  .bind (c.performAll_sound requests) fun _ =>
    .bind c.shutdown_releases fun _ => .pure fun _ _ h => h.2

end Custody
end ScriptedInput

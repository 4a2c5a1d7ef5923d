import Mathlib.Data.Multiset.MapFold
import Mathlib.Data.Multiset.UnionInter
import ScriptedInput.Backend.Recorder
import ScriptedInput.Proofs.Session.Custody

/-! What the recording back end writes down. Its account of open handles follows from the records
alone: an open handle was created and used, and any other was closed after that or never given out. -/
namespace ScriptedInput
namespace Recorder

def State.counted (s : State) (k : CallKind) : State :=
  { s with counts := fun j => if j = k then s.counts k + 1 else s.counts j }

theorem run_note (plan : FailurePlan) (h : Handle) (call : Call) (s : State) :
    (note plan h call).run s =
      ⟨match plan call.kind (s.counts call.kind) with
        | none => .ok ()
        | some e => .error e,
        s.counted call.kind, [⟨some h.serial, call, plan call.kind (s.counts call.kind)⟩]⟩ := rfl

theorem run_close (plan : FailurePlan) (h : Handle) (s : State) :
    ((recorder plan).close h).run s =
      ⟨(((note plan h (.close h.id)).run s).answer, h), s.counted .close,
        [⟨some h.serial, .close h.id, plan .close (s.counts .close)⟩]⟩ := rfl

theorem run_create_refused {plan : FailurePlan} {s : State} {e : BackendError}
    (h : plan .create (s.counts .create) = some e) (id : DeviceId) (r : Registration) :
    (create plan id r).run s = ⟨.error e, s.counted .create, [⟨none, .create id r, some e⟩]⟩ := by
  simp [create, consult, h, State.counted]

theorem run_create_accepted {plan : FailurePlan} {s : State}
    (h : plan .create (s.counts .create) = none) (id : DeviceId) (r : Registration) :
    (create plan id r).run s = ⟨.ok ⟨s.created, id⟩,
      { s.counted .create with created := s.created + 1 },
      [⟨some s.created, .create id r, none⟩]⟩ := by
  simp [create, consult, h, State.counted]

def callsOn (n : Nat) (records : List Record) : List Record := records.filter (·.handle = some n)

private theorem callsOn_concat_same {n : Nat} {c : Record} (h : c.handle = some n)
    (records : List Record) : callsOn n (records ++ [c]) = callsOn n records ++ [c] := by
  simp [callsOn, h]

private theorem callsOn_concat_other {n : Nat} {c : Record} (h : c.handle ≠ some n)
    (records : List Record) : callsOn n (records ++ [c]) = callsOn n records := by
  simp [callsOn, h]

/-- A handle was created for a device, and since then only used for it. -/
def InUse (n : Nat) (id : DeviceId) (calls : List Record) : Prop :=
  ∃ r uses, calls = ⟨some n, .create id r, none⟩ :: uses ∧
    ∀ c ∈ uses, c.call.id = id ∧ c.call.kind ≠ .create ∧ c.call.kind ≠ .close

/-- A handle was created for a device, used for it, and closed last of all. -/
def Ended (n : Nat) (calls : List Record) : Prop :=
  ∃ id before failure, InUse n id before ∧ calls = before ++ [⟨some n, .close id, failure⟩]

/-- What the records say when exactly these handles are open. -/
structure Tracked (hs : Multiset Handle) (records : List Record) (s : State) : Prop where
  distinct : (hs.map (·.serial)).Nodup
  inUse : ∀ h ∈ hs, h.serial < s.created ∧ InUse h.serial h.id (callsOn h.serial records)
  ended : ∀ n < s.created, n ∉ hs.map (·.serial) → Ended n (callsOn n records)
  unused : ∀ n, s.created ≤ n → callsOn n records = []
  refused : ∀ c ∈ records, c.handle = none ↔ c.call.kind = .create ∧ c.failure ≠ none

private theorem InUse.use {n : Nat} {id : DeviceId} {calls : List Record} (h : InUse n id calls)
    {c : Record} (hid : c.call.id = id) (hk : c.call.kind ≠ .create ∧ c.call.kind ≠ .close) :
    InUse n id (calls ++ [c]) := by
  obtain ⟨r, uses, rfl, hu⟩ := h
  refine ⟨r, uses ++ [c], by simp, ?_⟩
  exact List.forall_mem_append.mpr ⟨hu, List.forall_mem_singleton.mpr ⟨hid, hk⟩⟩

section Tracked
variable {hs : Multiset Handle} {records : List Record} {s t : State}

/-- A creation that fails gives out nothing. -/
theorem Tracked.refuse (h : Tracked hs records s) (same : t.created = s.created) (id : DeviceId)
    (r : Registration) (e : BackendError) :
    Tracked hs (records ++ [⟨none, .create id r, some e⟩]) t := by
  have kept (n : Nat) : callsOn n (records ++ [⟨none, .create id r, some e⟩]) = callsOn n records :=
    callsOn_concat_other (by simp) records
  refine ⟨h.distinct, ?_, ?_, ?_, List.forall_mem_append.mpr ⟨h.refused, by simp [Call.kind]⟩⟩
  · intro k hk
    rw [kept, same]
    exact h.inUse k hk
  · intro n hn hk
    rw [kept]
    exact h.ended n (same ▸ hn) hk
  · intro n hn
    rw [kept]
    exact h.unused n (same ▸ hn)

/-- A creation that succeeds gives out the next handle. -/
theorem Tracked.give (h : Tracked hs records s) (more : t.created = s.created + 1) (id : DeviceId)
    (r : Registration) :
    Tracked (⟨s.created, id⟩ ::ₘ hs) (records ++ [⟨some s.created, .create id r, none⟩]) t := by
  have fresh : ∀ k ∈ hs, k.serial ≠ s.created := fun k hk => (h.inUse k hk).1.ne
  have same {n : Nat} (hn : n ≠ s.created) :
      callsOn n (records ++ [⟨some s.created, .create id r, none⟩]) = callsOn n records :=
    callsOn_concat_other (by simpa using hn.symm) records
  refine ⟨?_, ?_, ?_, ?_, List.forall_mem_append.mpr ⟨h.refused, by simp⟩⟩
  · rw [Multiset.map_cons, Multiset.nodup_cons]
    refine ⟨?_, h.distinct⟩
    rw [Multiset.mem_map]
    rintro ⟨k, hk, he⟩
    exact fresh k hk he
  · rw [more]
    intro k hk
    rcases Multiset.mem_cons.mp hk with rfl | hk
    · refine ⟨Nat.lt_succ_self _, r, [], ?_, by simp⟩
      rw [callsOn_concat_same rfl, h.unused _ le_rfl, List.nil_append]
    · rw [same (fresh k hk)]
      exact ⟨(h.inUse k hk).1.trans (Nat.lt_succ_self _), (h.inUse k hk).2⟩
  · rw [more]
    intro n hn hk
    rw [Multiset.map_cons, Multiset.mem_cons, not_or] at hk
    rw [same hk.1]
    exact h.ended n (lt_of_le_of_ne (Nat.lt_succ_iff.mp hn) hk.1) hk.2
  · rw [more]
    intro n hn
    rw [same (Nat.succ_le_iff.mp hn).ne']
    exact h.unused n (Nat.le_of_succ_le hn)

/-- A call on an open handle leaves it open. -/
theorem Tracked.use (ht : Tracked hs records s) (same : t.created = s.created) {h : Handle}
    (hm : h ∈ hs) {call : Call} (hid : call.id = h.id)
    (hk : call.kind ≠ .create ∧ call.kind ≠ .close) (failure : Option BackendError) :
    Tracked hs (records ++ [⟨some h.serial, call, failure⟩]) t := by
  have other {n : Nat} (hn : n ≠ h.serial) :
      callsOn n (records ++ [⟨some h.serial, call, failure⟩]) = callsOn n records :=
    callsOn_concat_other (by simpa using hn.symm) records
  refine ⟨ht.distinct, ?_, ?_, ?_, List.forall_mem_append.mpr ⟨ht.refused, by simp [hk.1]⟩⟩
  · intro k hk'
    refine ⟨same ▸ (ht.inUse k hk').1, ?_⟩
    by_cases he : k.serial = h.serial
    · have : k = h := Multiset.inj_on_of_nodup_map ht.distinct k hk' h hm he
      rw [this, callsOn_concat_same rfl]
      exact (ht.inUse h hm).2.use hid hk
    · rw [other he]
      exact (ht.inUse k hk').2
  · intro n hn hn'
    have he : n ≠ h.serial := by
      rintro rfl
      exact hn' (Multiset.mem_map_of_mem _ hm)
    rw [other he]
    exact ht.ended n (same ▸ hn) hn'
  · intro n hn
    rw [same] at hn
    rw [other ((ht.inUse h hm).1.trans_le hn).ne']
    exact ht.unused n hn

/-- A handle that is closed, even if that fails, is at its end. -/
theorem Tracked.close {h : Handle} (ht : Tracked (h ::ₘ hs) records s)
    (same : t.created = s.created) (failure : Option BackendError) :
    Tracked hs (records ++ [⟨some h.serial, .close h.id, failure⟩]) t := by
  obtain ⟨hnew, hdistinct⟩ : h.serial ∉ hs.map (·.serial) ∧ (hs.map (·.serial)).Nodup := by
    simpa only [Multiset.map_cons, Multiset.nodup_cons] using ht.distinct
  obtain ⟨hlt, huse⟩ := ht.inUse h (Multiset.mem_cons_self h hs)
  have other {n : Nat} (hn : n ≠ h.serial) :
      callsOn n (records ++ [⟨some h.serial, .close h.id, failure⟩]) = callsOn n records :=
    callsOn_concat_other (by simpa using hn.symm) records
  refine ⟨hdistinct, ?_, ?_, ?_, List.forall_mem_append.mpr ⟨ht.refused, by simp [Call.kind]⟩⟩
  · intro k hk
    rw [other (fun he => hnew (he ▸ Multiset.mem_map_of_mem _ hk)), same]
    exact ht.inUse k (Multiset.mem_cons_of_mem hk)
  · intro n hn hn'
    rw [same] at hn
    by_cases he : n = h.serial
    · rw [he, callsOn_concat_same rfl]
      exact ⟨h.id, _, _, huse, rfl⟩
    · rw [other he]
      exact ht.ended n hn (by simp [he, hn'])
  · intro n hn
    rw [same] at hn
    rw [other (hlt.trans_le hn).ne']
    exact ht.unused n hn

end Tracked

private theorem tracked_create (plan : FailurePlan) (hs : Multiset Handle) (id : DeviceId)
    (r : Registration) :
    (create plan id r).Ensures (Tracked hs) (fun answer => Tracked (withCreated hs answer)) := by
  intro past s h
  cases hp : plan .create (s.counts .create) with
  | some e =>
    rw [run_create_refused hp]
    exact h.refuse (t := s.counted .create) rfl id r e
  | none =>
    rw [run_create_accepted hp]
    exact h.give rfl id r

private theorem tracked_use (plan : FailurePlan) {hs : Multiset Handle} {h : Handle} (hm : h ∈ hs)
    {call : Call} (hid : call.id = h.id) (hk : call.kind ≠ .create ∧ call.kind ≠ .close) :
    (note plan h call).Keeps (Tracked hs) := by
  intro past s ht
  rw [run_note]
  exact ht.use (t := s.counted call.kind) rfl hm hid hk _

private theorem tracked_close (plan : FailurePlan) (hs : Multiset Handle) (h : Handle) :
    (note plan h (.close h.id)).Ensures (Tracked (h ::ₘ hs)) (fun _ => Tracked hs) := by
  intro past s ht
  rw [run_note]
  exact ht.close (t := s.counted .close) rfl _

theorem tracked_empty : Tracked 0 [] {} where
  distinct := by simp
  inUse := by simp
  ended := by simp
  unused := by simp [callsOn]
  refused := by simp

end Recorder

open Recorder in
def recorderCustody (plan : FailurePlan) : Custody (recorder plan) where
  holds := Tracked
  create := tracked_create plan
  inject hm _ := tracked_use plan hm rfl (by simp [Call.kind])
  delay hm _ := tracked_use plan hm rfl (by simp [Call.kind])
  idle hm := tracked_use plan hm rfl (by simp [Call.kind])
  sync hm _ := tracked_use plan hm rfl (by simp [Call.kind])
  close hs h := .bind (tracked_close plan hs h) fun _ => .pure fun _ _ hp => hp

end ScriptedInput

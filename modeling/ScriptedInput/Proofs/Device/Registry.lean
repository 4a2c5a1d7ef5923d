import Mathlib.Data.List.Nodup
import ScriptedInput.Device.Registry

/-! Lookups in a registry. A registry in which no number is taken twice stays one, and closing all
devices changes nothing about them but that they are closed. -/
namespace ScriptedInput
namespace Registry
variable {σ η ε : Type}

def Distinct (r : Registry η) : Prop := r.ids.Nodup

theorem mem_of_get? {r : Registry η} {id : DeviceId} {d : Device η} (h : r.get? id = some d) :
    d ∈ r.devices ∧ d.id = id :=
  ⟨List.mem_of_find?_eq_some h, by simpa using List.find?_some h⟩

theorem get?_eq_none_iff {r : Registry η} {id : DeviceId} : r.get? id = none ↔ id ∉ r.ids := by
  simp [get?, ids]

theorem get?_of_mem {r : Registry η} (hr : r.Distinct) {d : Device η} (hd : d ∈ r.devices) :
    r.get? d.id = some d := by
  have hs : r.get? d.id ≠ none := fun hn =>
    get?_eq_none_iff.mp hn (List.mem_map_of_mem hd)
  obtain ⟨e, he⟩ := Option.ne_none_iff_exists'.mp hs
  obtain ⟨hm, hid⟩ := mem_of_get? he
  have : e = d := List.inj_on_of_nodup_map hr hm hd hid
  rw [he, this]

theorem contains_eq (r : Registry η) (id : DeviceId) : r.contains id = (r.get? id).isSome := by
  rw [contains, get?, List.isSome_find?]

theorem insert?_eq_some_iff {r r' : Registry η} {d : Device η} :
    r.insert? d = some r' ↔ r.get? d.id = none ∧ r' = ⟨r.devices ++ [d]⟩ := by
  unfold insert?
  rw [contains_eq]
  cases r.get? d.id <;> simp [eq_comm]

theorem get?_append (ds : List (Device η)) (d : Device η) (id : DeviceId) :
    (⟨ds ++ [d]⟩ : Registry η).get? id = ((⟨ds⟩ : Registry η).get? id).or
      (if d.id = id then some d else none) := by
  simp [get?, List.find?_append, List.find?_singleton]

theorem Distinct.insert {r : Registry η} (hr : r.Distinct) {d : Device η}
    (hd : r.get? d.id = none) : Distinct ⟨r.devices ++ [d]⟩ := by
  have hn := get?_eq_none_iff.mp hd
  unfold Distinct ids at *
  simp only [List.map_append, List.map_cons, List.map_nil]
  exact List.nodup_append.mpr ⟨hr, by simp, fun a ha b hb => by
    rw [List.mem_singleton.mp hb]; exact fun he => hn (he ▸ ha)⟩

@[simp] theorem ids_update (r : Registry η) (d : Device η) : (r.update d).ids = r.ids := by
  simp only [ids, update, List.map_map]
  apply List.map_congr_left
  intro e _
  by_cases h : e.id = d.id <;> simp [h]

theorem Distinct.update {r : Registry η} (hr : r.Distinct) (d : Device η) :
    (r.update d).Distinct := by
  unfold Distinct
  rwa [ids_update]

theorem get?_update (r : Registry η) (d : Device η) (id : DeviceId) :
    (r.update d).get? id = (r.get? id).map (fun e => if e.id = d.id then d else e) := by
  simp only [get?, update, List.find?_map]
  congr 2
  funext e
  by_cases h : e.id = d.id <;> simp [h]

private theorem eq_of_get? {r : Registry η} (hr : r.Distinct) {d e : Device η}
    (hd : r.get? d.id = some d) (he : e ∈ r.devices) (hid : e.id = d.id) : e = d := by
  have := get?_of_mem hr he
  rw [hid, hd] at this
  exact (Option.some.inj this).symm

/-- Replacing a device by one that looks the same leaves the look of all devices as it was. -/
theorem filterMap_update {β : Type} {r : Registry η} (hr : r.Distinct) {d e : Device η}
    (hd : r.get? d.id = some d) (hid : e.id = d.id) (f : Device η → Option β) (hf : f e = f d) :
    (r.update e).devices.filterMap f = r.devices.filterMap f := by
  simp only [update, List.filterMap_map]
  apply List.filterMap_congr
  intro old hold
  by_cases h : old.id = e.id
  · have := eq_of_get? hr hd hold (h.trans hid)
    subst this
    simp [h, hf]
  · simp [h]

theorem map_update {β : Type} {r : Registry η} (hr : r.Distinct) {d e : Device η}
    (hd : r.get? d.id = some d) (hid : e.id = d.id) (f : Device η → β) (hf : f e = f d) :
    (r.update e).devices.map f = r.devices.map f := by
  simpa only [List.filterMap_eq_map'] using
    filterMap_update hr hd hid (fun x => some (f x)) (congrArg some hf)

theorem forall_mem_update {r : Registry η} {e : Device η} {p : Device η → Prop} (he : p e)
    (h : ∀ d ∈ r.devices, p d) : ∀ d ∈ (r.update e).devices, p d := by
  intro d hd
  obtain ⟨old, hold, rfl⟩ := List.mem_map.mp hd
  split
  · exact he
  · exact h old hold

section Alike
variable {R : Device η → Device η → Prop} (own : ∀ d d', R d d' → d'.id = d.id)
  {ds ds' : List (Device η)}
include own

/-- Devices that are alike one by one, numbers included, are registered alike. -/
theorem ids_of_forall₂ (h : List.Forall₂ R ds ds') :
    (⟨ds'⟩ : Registry η).ids = (⟨ds⟩ : Registry η).ids := by
  induction h with
  | nil => rfl
  | cons hd _ ih => simpa [ids, own _ _ hd] using ih

theorem rel_get? (h : List.Forall₂ R ds ds') (id : DeviceId) :
    Option.Rel R ((⟨ds⟩ : Registry η).get? id) ((⟨ds'⟩ : Registry η).get? id) := by
  induction h with
  | nil => exact .none
  | cons hd _ ih =>
    simp only [get?, List.find?_cons, own _ _ hd] at ih ⊢
    split
    · exact .some hd
    · exact ih

end Alike

theorem update_self {r : Registry η} (hr : r.Distinct) {d : Device η}
    (hd : r.get? d.id = some d) : r.update d = r := by
  have : (r.update d).devices = r.devices := by
    simpa using filterMap_update hr hd rfl some rfl
  cases r
  simpa [update] using this

end Registry
end ScriptedInput

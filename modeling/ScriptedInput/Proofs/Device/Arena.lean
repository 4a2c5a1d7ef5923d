import ScriptedInput.Device.Arena
import ScriptedInput.Proofs.CodeMap
import ScriptedInput.Proofs.Device.Registry

/-! Arenas whose index is right. Such an arena is a registry in which lookups go by the index, and each
operation leaves the index right. -/
namespace ScriptedInput
namespace Arena
variable {η : Type}

/-- No number is taken twice, and the index tells for each where it stands, and nothing else. -/
structure Sound (a : Arena η) : Prop where
  distinct : a.registry.Distinct
  indexed : ∀ id n, a.place? id = some n ↔ a.ids[n]? = some id

theorem sound_empty : Sound ({} : Arena η) where
  distinct := List.nodup_nil
  indexed id n := by simp [place?, ids]

theorem exists_of_get? {a : Arena η} {id : DeviceId} {d : Device η} (h : a.get? id = some d) :
    ∃ n, a.place? id = some n ∧ a.devices[n]? = some d := Option.bind_eq_some_iff.mp h

theorem insert?_eq_none_iff {a : Arena η} {d : Device η} : a.insert? d = none ↔ a.contains d.id := by
  rw [insert?]
  cases a.contains d.id <;> simp

theorem insert?_eq_some_iff {a a' : Arena η} {d : Device η} : a.insert? d = some a' ↔
    ¬ a.contains d.id ∧ a' = ⟨a.devices ++ [d], (d.id, a.devices.length) :: a.index⟩ := by
  rw [insert?]
  cases a.contains d.id <;> simp [eq_comm]

theorem ids_insert? {a a' : Arena η} {d : Device η} (new : a.insert? d = some a') :
    a'.ids = a.ids ++ [d.id] := by
  obtain ⟨-, rfl⟩ := insert?_eq_some_iff.mp new
  exact List.map_append

section Sound
variable {a : Arena η} (h : a.Sound)
include h

private theorem Sound.place?_eq_none_iff {id : DeviceId} : a.place? id = none ↔ id ∉ a.ids := by
  rw [List.mem_iff_getElem?, not_exists, Option.eq_none_iff_forall_ne_some]
  exact forall_congr' fun n => not_congr (h.indexed id n)

theorem Sound.contains_iff {id : DeviceId} : a.contains id ↔ id ∈ a.ids := by
  rw [contains, Option.isSome_iff_ne_none, ne_eq, h.place?_eq_none_iff, not_not]

private theorem Sound.device_of_place {id : DeviceId} {n : Nat} (hp : a.place? id = some n) :
    ∃ d, a.devices[n]? = some d ∧ d.id = id := by
  have stands := (h.indexed id n).mp hp
  rwa [ids, List.getElem?_map, Option.map_eq_some_iff] at stands

/-- Looking up by the index and looking through the list come to the same. -/
theorem Sound.get?_eq (id : DeviceId) : a.get? id = a.registry.get? id := by
  cases hp : a.place? id with
  | none =>
    have absent : a.registry.get? id = none :=
      Registry.get?_eq_none_iff.mpr (h.place?_eq_none_iff.mp hp)
    rw [absent, get?, hp]
    rfl
  | some n =>
    obtain ⟨d, stands, rfl⟩ := h.device_of_place hp
    have found : a.registry.get? d.id = some d :=
      Registry.get?_of_mem h.distinct (List.mem_of_getElem? stands)
    rw [found, get?, hp]
    exact stands

theorem Sound.get?_eq_none_iff {id : DeviceId} : a.get? id = none ↔ id ∉ a.ids := by
  rw [h.get?_eq, Registry.get?_eq_none_iff]
  rfl

theorem Sound.id_of_get? {id : DeviceId} {d : Device η} (hd : a.get? id = some d) : d.id = id := by
  rw [h.get?_eq] at hd
  exact (Registry.mem_of_get? hd).2

/-- A device with a new number goes to the end, where the index finds it. -/
theorem Sound.insert {d : Device η} (new : d.id ∉ a.ids) :
    Sound ⟨a.devices ++ [d], (d.id, a.devices.length) :: a.index⟩ where
  distinct := by
    have absent : a.registry.get? d.id = none := Registry.get?_eq_none_iff.mpr new
    exact h.distinct.insert absent
  indexed id n := by
    have length : a.ids.length = a.devices.length := List.length_map _
    have before := h.indexed id n
    have all : ids ⟨a.devices ++ [d], (d.id, a.devices.length) :: a.index⟩ = a.ids ++ [d.id] :=
      List.map_append
    have found : place? ⟨a.devices ++ [d], (d.id, a.devices.length) :: a.index⟩ id =
        if id = d.id then some a.devices.length else a.place? id := lookup_cons_eq_ite _ _ _
    rw [all, found]
    by_cases own : id = d.id
    · subst own
      rw [if_pos rfl, List.getElem?_append]
      split
      · next within =>
        refine iff_of_false (by simp only [Option.some.injEq]; omega) fun stands => ?_
        exact new (List.mem_of_getElem? stands)
      · next beyond =>
        rw [List.getElem?_singleton]
        split <;> simp only [Option.some.injEq, reduceCtorEq, iff_true, iff_false] <;> omega
    · rw [if_neg own, before, List.getElem?_append]
      split
      · rfl
      · next beyond =>
        rw [List.getElem?_eq_none (by omega), List.getElem?_singleton]
        split <;> simp [Ne.symm own]

theorem Sound.get?_insert? {d : Device η} {a' : Arena η} (new : a.insert? d = some a')
    (id : DeviceId) : a'.get? id = if id = d.id then some d else a.get? id := by
  obtain ⟨absent, rfl⟩ := insert?_eq_some_iff.mp new
  rw [h.contains_iff] at absent
  have found : (Registry.mk (a.devices ++ [d])).get? id =
      (a.registry.get? id).or (if d.id = id then some d else none) :=
    Registry.get?_append a.devices d id
  rw [(h.insert absent).get?_eq, h.get?_eq, registry, found]
  by_cases own : id = d.id
  · subst own
    rw [Registry.get?_eq_none_iff.mpr absent, if_pos rfl, Option.none_or]
  · rw [if_neg own, if_neg (Ne.symm own), Option.or_none]

/-- Devices may change in their places, as long as they keep their numbers. -/
theorem Sound.change {ds : List (Device η)} (same : ds.map (·.id) = a.ids) :
    Sound { a with devices := ds } where
  distinct := (congrArg List.Nodup same).mpr h.distinct
  indexed id n := by
    rw [ids, same]
    exact h.indexed id n

/-- Putting a device in the place of the one with its number is an update of the registry. -/
private theorem Sound.registry_put (d : Device η) : (a.put d.id d).registry = a.registry.update d := by
  have same : (a.put d.id d).devices =
      a.devices.map (fun old => if old.id = d.id then d else old) := by
    rw [put]
    cases hp : a.place? d.id with
    | none =>
      have absent : ∀ old ∈ a.devices, old.id ≠ d.id := fun old hold own =>
        h.place?_eq_none_iff.mp hp (List.mem_map.mpr ⟨old, hold, own⟩)
      exact (List.map_id'' (fun old => rfl) _).symm.trans
        (List.map_congr_left fun old hold => by simp [absent old hold])
    | some n =>
      refine List.ext_getElem? fun k => ?_
      rw [List.getElem?_map]
      cases stands : a.devices[k]? with
      | none =>
        have beyond : (a.devices.set n d)[k]? = none := by
          rw [List.getElem?_eq_none_iff, List.length_set]
          exact List.getElem?_eq_none_iff.mp stands
        rw [beyond, Option.map_none]
      | some old =>
        have there : a.ids[k]? = some old.id := by rw [ids, List.getElem?_map, stands]; rfl
        have inside := (List.getElem?_eq_some_iff.mp stands).1
        have own : old.id = d.id ↔ n = k := by
          have found := h.indexed d.id k
          rw [there, hp, Option.some.injEq, Option.some.injEq] at found
          exact found.symm
        by_cases here : n = k
        · subst here
          simp [own.mpr rfl, List.getElem?_set_self inside]
        · rw [List.getElem?_set_ne here, stands, Option.map_some, if_neg (mt own.mp here)]
  exact congrArg Registry.mk same

theorem Sound.ids_put (d : Device η) : (a.put d.id d).ids = a.ids :=
  (congrArg Registry.ids (h.registry_put d)).trans (Registry.ids_update a.registry d)

private theorem Sound.put (d : Device η) : (a.put d.id d).Sound := by
  have same := h.ids_put d
  have index : (a.put d.id d).index = a.index := by
    rw [Arena.put]
    split <;> rfl
  have changed := h.change same
  rwa [← index] at changed

/-- The device that is put back is found again, and all others are found as before. -/
theorem Sound.get?_put {d e : Device η} (found : a.get? d.id = some e) (id : DeviceId) :
    (a.put d.id d).get? id = if id = d.id then some d else a.get? id := by
  rw [(h.put d).get?_eq, h.registry_put, Registry.get?_update, ← h.get?_eq]
  split
  · next own =>
    subst own
    rw [found, Option.map_some, if_pos (h.id_of_get? found)]
  · next other =>
    cases there : a.get? id with
    | none => rfl
    | some old => rw [Option.map_some, if_neg fun own => other ((h.id_of_get? there).symm.trans own)]

end Sound
end Arena
end ScriptedInput

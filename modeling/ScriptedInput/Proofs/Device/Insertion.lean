import ScriptedInput.Proofs.Backend.Recorder
import ScriptedInput.Proofs.Device.Bench

/-! The registry of a bench as a map in the order of insertion. Of the devices that are offered to it the
first for each number is taken in, at the end, and stays where it is; all others are handed back. -/
namespace ScriptedInput
variable {σ η ε : Type}

namespace Device

/-- The same device at another time. Its clock may have moved on, and it may have been closed. -/
structure Same (d d' : Device η) : Prop where
  id : d'.id = d.id
  registration : d'.registration = d.registration
  handle : d'.handle = d.handle

private theorem Same.refl (d : Device η) : d.Same d := ⟨rfl, rfl, rfl⟩

private theorem Same.trans {d d' d'' : Device η} (h : d.Same d') (h' : d'.Same d'') : d.Same d'' :=
  ⟨h'.id.trans h.id, h'.registration.trans h.registration, h'.handle.trans h.handle⟩

section Kept
variable {b : Backend σ η ε} (kept : ∀ h s, ((b.close h).run s).answer.2 = h)
include kept

private theorem same_close (d : Device η) (s : σ) : d.Same ((d.close b).run s).answer := by
  obtain ⟨-, id, registration, -, -⟩ := closedFrom_close b d s
  refine ⟨id, registration, ?_⟩
  cases hd : d.state with
  | closed => rw [run_close_closed b hd]
  | opened => rw [run_close_opened b hd, kept]

/-- No task makes another device of a device. -/
theorem same_perform (d : Device η) (task : Device.Task) (s : σ) :
    d.Same ((d.perform b task).run s).answer.2 := by
  have carried (action : Action) {task : Device.Task} (ht : action.task? = some task) :
      d.Same ((d.perform b task).run s).answer.2 := by
    obtain ⟨clock, same⟩ := perform_device b d ht s
    rw [same]
    exact ⟨rfl, rfl, rfl⟩
  cases task with
  | inject events => exact carried (.inject events) rfl
  | delay millis => exact carried (.delay millis) rfl
  | sync token => exact carried (.sync token) rfl
  | close => exact same_close kept d s

theorem same_closeEach (ds : List (Device η)) (s : σ) :
    List.Forall₂ Same ds ((Registry.closeEach b ds).run s).answer := by
  induction ds generalizing s with
  | nil => exact .nil
  | cons d ds ih =>
    rw [Registry.run_closeEach_cons]
    exact .cons (same_close kept d s) (ih _)

end Kept

private theorem same_set {ds : List (Device η)} {n : Nat} {d d' : Device η} (stands : ds[n]? = some d)
    (same : d.Same d') : List.Forall₂ Same ds (ds.set n d') := by
  induction ds generalizing n with
  | nil => exact .nil
  | cons e ds ih =>
    cases n with
    | zero =>
      cases stands
      exact .cons same (List.forall₂_same.mpr fun d _ => .refl d)
    | succ n => exact .cons (.refl e) (ih stands)

private theorem same_lists_trans {ds ds' ds'' : List (Device η)} (h : List.Forall₂ Same ds ds')
    (h' : List.Forall₂ Same ds' ds'') : List.Forall₂ Same ds ds'' := by
  induction h generalizing ds'' with
  | nil => exact h'
  | cons hd _ ih =>
    cases h' with
    | cons hd' h' => exact .cons (hd.trans hd') (ih h')

end Device

structure Offer (η : Type) where
  device : Device η
  taken : Bool

def firstOffered? (offers : List (Offer η)) (id : DeviceId) : Option (Device η) :=
  (offers.map (·.device)).find? (·.id = id)

private theorem firstOffered?_append (offers : List (Offer η)) (o : Offer η) (id : DeviceId) :
    firstOffered? (offers ++ [o]) id =
      (firstOffered? offers id).or (if o.device.id = id then some o.device else none) := by
  rw [firstOffered?, List.map_append]
  exact Registry.get?_append _ _ id

namespace Bench

def Answer.isInserted : Answer η → Bool
  | .inserted => true
  | .done | .created _ | .notCreated _ | .returned _ | .noDevice | .worked _ _ => false

def offer? (bench : Bench σ η) : Request → Answer η → Option (Offer η)
  | .insert n, answer => (bench.find? (.slot n)).map fun d => ⟨d, answer.isInserted⟩
  | .create _ _, _ | .drop _, _ | .closeAll, _ | .work _ _, _ => none

def offers (b : Backend σ η ε) : List Request → Bench σ η → List (Offer η)
  | [], _ => []
  | r :: rest, bench =>
    let done := (perform b r).run bench
    (bench.offer? r done.answer).toList ++ offers b rest done.state

end Bench

namespace Arena
variable {offers : List (Offer η)} {a : Arena η}

/-- What an arena holds after offers: those that were taken, in order, and for each number the first that
was offered. -/
structure Holds (offers : List (Offer η)) (a : Arena η) : Prop where
  sound : a.Sound
  taken : List.Forall₂ Device.Same ((offers.filter (·.taken)).map (·.device)) a.devices
  first : ∀ id, Option.Rel Device.Same (firstOffered? offers id) (a.registry.get? id)

theorem holds_empty : Holds [] ({} : Arena η) := ⟨sound_empty, .nil, fun _ => .none⟩

/-- Devices change, but stay the same devices. -/
private theorem Holds.change (h : a.Holds offers) {ds : List (Device η)}
    (same : List.Forall₂ Device.Same a.devices ds) : Holds offers { a with devices := ds } where
  sound := h.sound.change (Registry.ids_of_forall₂ (fun _ _ hd => hd.id) same)
  taken := Device.same_lists_trans h.taken same
  first id := by
    have before := h.first id
    have after : Option.Rel _ (a.registry.get? id) ((⟨ds⟩ : Registry η).get? id) :=
      Registry.rel_get? (fun _ _ hd => hd.id) same id
    change Option.Rel _ _ ((⟨ds⟩ : Registry η).get? id)
    generalize firstOffered? offers id = offered, a.registry.get? id = found,
      (⟨ds⟩ : Registry η).get? id = now at before after ⊢
    cases before with
    | none =>
      cases after
      exact .none
    | some hd =>
      obtain ⟨hd'⟩ := after
      exact .some (hd.trans hd')

private theorem Holds.put (h : a.Holds offers) {id : DeviceId} {d d' : Device η}
    (found : a.get? id = some d) (same : d.Same d') : (a.put id d').Holds offers := by
  obtain ⟨n, place, stands⟩ := exists_of_get? found
  rw [Arena.put, place]
  exact h.change (Device.same_set stands same)

/-- A device whose number is taken is handed back. -/
private theorem Holds.returned (h : a.Holds offers) {d : Device η} (taken : a.contains d.id) :
    a.Holds (offers ++ [⟨d, false⟩]) where
  sound := h.sound
  taken := by simpa using h.taken
  first id := by
    have before := h.first id
    rw [firstOffered?_append]
    cases found : a.registry.get? id with
    | none =>
      have other : d.id ≠ id := fun own =>
        Registry.get?_eq_none_iff.mp found (own ▸ h.sound.contains_iff.mp taken)
      rw [found] at before
      rwa [if_neg other, Option.or_none]
    | some e =>
      rw [found] at before
      generalize firstOffered? offers id = offered at before ⊢
      obtain ⟨hd⟩ := before
      exact .some hd

/-- A device with a new number goes to the end. -/
private theorem Holds.inserted (h : a.Holds offers) {d : Device η} {a' : Arena η}
    (new : a.insert? d = some a') : a'.Holds (offers ++ [⟨d, true⟩]) := by
  obtain ⟨absent, rfl⟩ := insert?_eq_some_iff.mp new
  refine ⟨h.sound.insert (mt h.sound.contains_iff.mpr absent), ?_, fun id => ?_⟩
  · simpa using List.rel_append h.taken (.cons (.refl d) .nil)
  · have before := h.first id
    have now : (Registry.mk (a.devices ++ [d])).get? id =
        (a.registry.get? id).or (if d.id = id then some d else none) :=
      Registry.get?_append a.devices d id
    change Option.Rel _ _ ((Registry.mk (a.devices ++ [d])).get? id)
    rw [firstOffered?_append, now]
    generalize firstOffered? offers id = offered, a.registry.get? id = found at before ⊢
    cases before with
    | some hd => exact .some hd
    | none =>
      dsimp only [Option.none_or]
      split
      · exact .some (.refl d)
      · exact .none

end Arena

namespace Bench
variable {b : Backend σ η ε} (kept : ∀ h s, ((b.close h).run s).answer.2 = h)
include kept

/-- What a request does to the registry is what it offers. -/
private theorem holds_perform {past : List (Offer η)} {bench : Bench σ η} (h : bench.arena.Holds past)
    (r : Request) :
    let done := (perform b r).run bench
    done.state.arena.Holds (past ++ (bench.offer? r done.answer).toList) := by
  have performs := performs b bench r
  generalize (perform b r).run bench = done at performs ⊢
  cases performs with
  | notCreated | created | undropped | dropped | unworked => simpa [offer?, clear] using h
  | uninserted empty => simpa [offer?, empty] using h
  | returned found taken =>
    simp only [offer?, found, Option.map_some, Option.toList_some]
    exact h.returned (Arena.insert?_eq_none_iff.mp taken)
  | inserted found new =>
    simp only [offer?, found, Option.map_some, Option.toList_some]
    exact h.inserted new
  | swept closed =>
    simp only [offer?, Option.toList_none, List.append_nil, ← closed]
    exact h.change (Device.same_closeEach kept _ _)
  | @worked place task d done found carried =>
    simp only [offer?, Option.toList_none, List.append_nil]
    cases place with
    | slot n => exact h
    | registered id =>
      have same := Device.same_perform kept d task bench.backend
      rw [carried] at same
      exact h.put found same

/-- However long a bench is worked at, its registry holds what it was offered. -/
theorem holds_performAll {past : List (Offer η)} {bench : Bench σ η} (h : bench.arena.Holds past)
    (rs : List Request) :
    ((performAll b rs).run bench).state.arena.Holds (past ++ offers b rs bench) := by
  induction rs generalizing past bench with
  | nil => simpa [offers, performAll] using h
  | cons r rs ih =>
    have later := ih (holds_perform kept h r)
    rw [List.append_assoc] at later
    simpa [offers, performAll] using later

end Bench
end ScriptedInput

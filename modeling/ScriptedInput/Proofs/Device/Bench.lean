import Mathlib.Algebra.Order.Group.Multiset
import ScriptedInput.Proofs.Device.Arena
import ScriptedInput.Proofs.Session.Custody

/-! What a bench does with one request, and custody of the handles that its devices hold: whatever is
asked and whatever fails, the open handles of the back end are those of the open devices in the slots and
in the registry. -/
namespace ScriptedInput
namespace Bench
variable {σ η ε : Type}

def loose (bench : Bench σ η) : List (Device η) := bench.slots.filterMap id

inductive Performs (b : Backend σ η ε) (bench : Bench σ η) :
    Request → Done (Bench σ η) (Entry ε) (Answer η) → Prop where
  | notCreated {id : DeviceId} {r : Registration} {e : ReplayError} {t : σ} {log : List (Entry ε)}
    (made : (Device.create b id r).run bench.backend = ⟨.error e, t, log⟩) :
    Performs b bench (.create id r) ⟨.notCreated e, { bench with backend := t }, log⟩
  | created {id : DeviceId} {r : Registration} {d : Device η} {t : σ} {log : List (Entry ε)}
    (made : (Device.create b id r).run bench.backend = ⟨.ok d, t, log⟩) :
    Performs b bench (.create id r) ⟨.created bench.slots.length,
      { bench with slots := bench.slots ++ [some d], backend := t }, log⟩
  | uninserted {n : Nat} (empty : bench.find? (.slot n) = none) :
    Performs b bench (.insert n) ⟨.noDevice, bench, []⟩
  | returned {n : Nat} {d : Device η} (found : bench.find? (.slot n) = some d)
    (taken : bench.arena.insert? d = none) :
    Performs b bench (.insert n) ⟨.returned d, bench, []⟩
  | inserted {n : Nat} {d : Device η} {arena : Arena η} (found : bench.find? (.slot n) = some d)
    (new : bench.arena.insert? d = some arena) :
    Performs b bench (.insert n) ⟨.inserted, { bench.clear n with arena }, []⟩
  | undropped {n : Nat} (empty : bench.find? (.slot n) = none) :
    Performs b bench (.drop n) ⟨.done, bench, []⟩
  | dropped {n : Nat} {d : Device η} (found : bench.find? (.slot n) = some d) :
    Performs b bench (.drop n) ⟨.done,
      { bench.clear n with backend := ((d.close b).run bench.backend).state },
      ((d.close b).run bench.backend).log⟩
  | swept {done : Done σ (Entry ε) (List (Device η))}
    (closed : (Registry.closeEach b bench.arena.devices).run bench.backend = done) :
    Performs b bench .closeAll ⟨.done, { bench with
      arena := { bench.arena with devices := done.answer }, backend := done.state }, done.log⟩
  | unworked {place : Place} {task : Device.Task} (empty : bench.find? place = none) :
    Performs b bench (.work place task) ⟨.noDevice, bench, []⟩
  | worked {place : Place} {task : Device.Task} {d : Device η}
    {done : Done σ (Entry ε) (Except ReplayError Unit × Device η)}
    (found : bench.find? place = some d) (carried : (d.perform b task).run bench.backend = done) :
    Performs b bench (.work place task) ⟨.worked done.answer.1 done.answer.2,
      ({ bench with backend := done.state } : Bench σ η).replace done.answer.2 place, done.log⟩

theorem performs (b : Backend σ η ε) (bench : Bench σ η) (r : Request) :
    Performs b bench r ((perform b r).run bench) := by
  cases r with
  | create id r =>
    rcases made : (Device.create b id r).run bench.backend with ⟨e | d, t, log⟩
    · simpa [perform, create, onBackend, made] using .notCreated made
    · simpa [perform, create, onBackend, made] using .created made
  | insert n =>
    cases found : bench.find? (.slot n) with
    | none => simpa [perform, insert, found] using .uninserted found
    | some d =>
      cases added : bench.arena.insert? d with
      | none => simpa [perform, insert, found, added] using .returned found added
      | some arena => simpa [perform, insert, found, added] using .inserted found added
  | drop n =>
    cases found : bench.find? (.slot n) with
    | none => simpa [perform, drop, found] using .undropped found
    | some d => simpa [perform, drop, onBackend, found] using .dropped found
  | closeAll =>
    simpa [perform, closeAll, Arena.closeAll, onBackend] using .swept rfl
  | work place task =>
    cases found : bench.find? place with
    | none => simpa [perform, work, found] using .unworked found
    | some d => simpa [perform, work, onBackend, found] using .worked found rfl

theorem run_closeAll (b : Backend σ η ε) (bench : Bench σ η) :
    let closed := (Registry.closeEach b bench.arena.devices).run bench.backend
    (perform b .closeAll).run bench = ⟨.done, { bench with
      arena := { bench.arena with devices := closed.answer }, backend := closed.state },
      closed.log⟩ := by
  simp [perform, closeAll, onBackend, Arena.closeAll]

theorem run_insert {b : Backend σ η ε} {bench : Bench σ η} {n : Nat} {d : Device η} {arena : Arena η}
    (found : bench.find? (.slot n) = some d) (added : bench.arena.insert? d = some arena) :
    (perform b (.insert n)).run bench = ⟨.inserted, { bench.clear n with arena }, []⟩ := by
  simp [perform, insert, found, added]

def openHandles (bench : Bench σ η) : Multiset η :=
  ScriptedInput.openHandles bench.loose + ScriptedInput.openHandles bench.arena.devices

end Bench

section Handles
variable {σ η ε α : Type}

private theorem openHandles_append (ds ds' : List (Device η)) :
    openHandles (ds ++ ds') = openHandles ds + openHandles ds' := by
  simp [openHandles]

/-- One of the devices in a list is changed, added or taken out. -/
private theorem openHandles_set (f : α → Option (Device η)) {l : List α} {n : Nat} (inside : n < l.length)
    (a : α) : openHandles ((l.set n a).filterMap f) =
      openHandles (f a).toList + openHandles ((l.eraseIdx n).filterMap f) := by
  have moved := ((List.set_perm_cons_eraseIdx inside a).filterMap f).filterMap Device.openHandle?
  rw [openHandles, Multiset.coe_eq_coe.mpr moved, ← openHandles_append, openHandles]
  cases ha : f a <;> simp [ha]

namespace Bench
variable {bench : Bench σ η} {d : Device η}

/-- A device in a slot is one of those on the bench, besides those that are left without it. -/
private theorem openHandles_of_slot {n : Nat} (found : bench.find? (.slot n) = some d) :
    bench.openHandles = ScriptedInput.openHandles [d] + (bench.clear n).openHandles := by
  obtain ⟨inside, own⟩ := List.getElem?_eq_some_iff.mp (Option.join_eq_some_iff.mp found)
  have all := openHandles_set id inside (some d)
  have left : ScriptedInput.openHandles (bench.clear n).loose =
      ScriptedInput.openHandles ((bench.slots.eraseIdx n).filterMap id) :=
    (openHandles_set id inside none).trans (zero_add _)
  rw [← own, List.set_getElem_self, own] at all
  rw [openHandles, openHandles, left, ← add_assoc]
  exact congrArg (· + ScriptedInput.openHandles bench.arena.devices) all

/-- Changing a device where it is changes nothing about the others. -/
private theorem openHandles_replace {place : Place} (found : bench.find? place = some d) :
    ∃ rest, bench.openHandles = ScriptedInput.openHandles [d] + rest ∧
      ∀ d', (bench.replace d' place).openHandles = ScriptedInput.openHandles [d'] + rest := by
  cases place with
  | slot n =>
    refine ⟨(bench.clear n).openHandles, openHandles_of_slot found, fun d' => ?_⟩
    obtain ⟨inside, -⟩ := List.getElem?_eq_some_iff.mp (Option.join_eq_some_iff.mp found)
    have put : (bench.replace d' (.slot n)).find? (.slot n) = some d' := by
      simp [find?, replace, inside]
    rw [openHandles_of_slot put]
    simp [clear, replace]
  | registered id =>
    obtain ⟨n, place, stands⟩ := Arena.exists_of_get? found
    obtain ⟨inside, own⟩ := List.getElem?_eq_some_iff.mp stands
    have put (d' : Device η) := openHandles_set some inside d'
    simp only [List.filterMap_some] at put
    refine ⟨ScriptedInput.openHandles bench.loose +
      ScriptedInput.openHandles (bench.arena.devices.eraseIdx n), ?_, fun d' => ?_⟩
    · have all := put d
      rw [← own, List.set_getElem_self, own] at all
      rw [openHandles, all, add_left_comm]
      rfl
    · rw [openHandles, replace, Arena.put, place, put, add_left_comm]
      rfl

end Bench
end Handles

namespace Custody
variable {σ η ε : Type} {b : Backend σ η ε} (c : Custody b)

private theorem createDevice (hs : Multiset η) (id : DeviceId) (r : Registration) :
    (Device.create b id r).Ensures (c.At hs) (fun
      | .ok d => c.At (openHandles [d] + hs)
      | .error _ => c.At hs) := by
  refine .bind (c.create hs id r).within ?_
  rintro (e | h)
  · exact .pure fun _ _ held => held
  · exact .pure fun _ _ held => held

/-- Closing a device, open or not, takes it off the account. -/
private theorem giveUp (hs : Multiset η) (d : Device η) :
    (d.close b).Ensures (c.At (openHandles [d] + hs)) (fun _ => c.At hs) := by
  intro past s held
  have released := c.closeEach hs [d] past s held
  rw [Registry.run_closeEach_cons] at released
  simpa [Registry.closeEach] using released

/-- A task, closing included, leaves the account at the handle of the device if that is still open. -/
private theorem task (hs : Multiset η) (d : Device η) (t : Device.Task) :
    (d.perform b t).Ensures (c.At (openHandles [d] + hs))
      (fun done => c.At (openHandles [done.2] + hs)) := by
  have carried (action : Action) {t : Device.Task} (ht : action.task? = some t) :
      (d.perform b t).Ensures (c.At (openHandles [d] + hs))
        (fun done => c.At (openHandles [done.2] + hs)) := by
    intro past s held
    cases hd : d.state with
    | closed =>
      rw [Device.run_perform_closed b hd ht]
      simpa using held
    | opened =>
      have own : d.handle ∈ openHandles [d] + hs := by
        simp [openHandles_cons_opened hd]
      obtain ⟨clock, same⟩ := Device.perform_device b d ht s
      rw [same]
      exact c.perform own ht past s held
  cases t with
  | inject events => exact carried (.inject events) rfl
  | delay millis => exact carried (.delay millis) rfl
  | sync token => exact carried (.sync token) rfl
  | close =>
    intro past s held
    have closed := (Device.closedFrom_close b d s).state
    simp only [Device.perform, Act.run_bind, Act.run_pure, List.append_nil]
    rw [openHandles_cons_closed closed, openHandles_eq_zero (by simp), zero_add]
    exact c.giveUp hs d past s held

def OnBench (past : List (Entry ε)) (bench : Bench σ η) : Prop :=
  c.At bench.openHandles past bench.backend

private theorem perform_onBench (r : Bench.Request) : (Bench.perform b r).Keeps c.OnBench := by
  intro past bench held
  have performs := Bench.performs b bench r
  generalize (Bench.perform b r).run bench = done at performs ⊢
  unfold OnBench at held ⊢
  cases performs with
  | uninserted | undropped | unworked | returned => simpa using held
  | @notCreated id r e t log made =>
    have refused := c.createDevice bench.openHandles id r past bench.backend held
    rwa [made] at refused
  | @created id r d t log made =>
    have given := c.createDevice bench.openHandles id r past bench.backend held
    rw [made] at given
    have all : Bench.openHandles { bench with slots := bench.slots ++ [some d], backend := t } =
        openHandles [d] + bench.openHandles := by
      simp only [Bench.openHandles, Bench.loose, List.filterMap_append, openHandles_append]
      rw [add_right_comm, add_comm]
      rfl
    rwa [all]
  | @inserted n d arena found new =>
    obtain ⟨-, rfl⟩ := Arena.insert?_eq_some_iff.mp new
    rw [Bench.openHandles_of_slot found, add_comm, Bench.openHandles, add_assoc,
      ← openHandles_append] at held
    rw [List.append_nil]
    exact held
  | @dropped n d found =>
    rw [Bench.openHandles_of_slot found] at held
    exact c.giveUp _ d past bench.backend held
  | @swept done closed =>
    have all : Bench.openHandles { bench with
        arena := { bench.arena with devices := done.answer }, backend := done.state } =
        openHandles bench.loose := by
      have shut : Registry.AllClosed ⟨done.answer⟩ := closed ▸
        Registry.allClosed_of_closedFrom (Registry.forall₂_closeEach b bench.arena.devices bench.backend)
      exact (congrArg _ (openHandles_eq_zero shut)).trans (add_zero _)
    rw [Bench.openHandles, add_comm] at held
    rw [all, ← closed]
    exact c.closeEach _ bench.arena.devices past bench.backend held
  | @worked place task d done found carried =>
    have known : Bench.find? { bench with backend := done.state } place = some d := by
      cases place <;> exact found
    obtain ⟨rest, before, after⟩ := Bench.openHandles_replace known
    rw [show bench.openHandles = _ from before] at held
    rw [after done.answer.2, ← carried]
    have kept := c.task rest d task past bench.backend held
    cases place <;> exact kept

/-- Whatever is asked of a bench, and whatever fails, the account stays at the handles of its open
devices. -/
private theorem performAll_onBench (rs : List Bench.Request) :
    (Bench.performAll b rs).Keeps c.OnBench := by
  induction rs with
  | nil => exact .pure _
  | cons r rs ih => exact .bind (c.perform_onBench r) fun _ => .bind ih fun _ => .pure _

/-- When all devices of a bench are given up, no handle is left open. -/
theorem bench_lifetime_releases (rs : List Bench.Request) :
    (Bench.lifetime b rs).Ensures c.OnBench (fun _ past bench => c.At 0 past bench.backend) := by
  refine .bind (c.performAll_onBench rs) fun _ => ?_
  have slots : (Bench.dropSlots b).Ensures c.OnBench (fun _ past bench =>
      c.At (openHandles bench.arena.devices) past bench.backend) := by
    intro past bench held
    have released := c.closeEach (openHandles bench.arena.devices) bench.loose past bench.backend held
    simpa [Bench.dropSlots, Bench.onBackend, Bench.loose] using released
  have registry : (Bench.dropRegistry b).Ensures (fun past bench =>
      c.At (openHandles bench.arena.devices) past bench.backend)
      (fun _ past bench => c.At 0 past bench.backend) := by
    intro past bench held
    simpa [Bench.dropRegistry, Bench.closeAll, Bench.onBackend, Arena.closeAll] using
      c.closeEach 0 bench.arena.devices past bench.backend (by rwa [add_zero])
  exact .bind slots fun _ => .bind registry fun _ => .pure fun _ _ h => h

end Custody
end ScriptedInput

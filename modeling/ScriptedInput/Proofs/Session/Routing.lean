import ScriptedInput.Proofs.Device.Closing
import ScriptedInput.Proofs.Device.Commands
import ScriptedInput.Session

/-! What a session can do with one event, and how a condition that holds across single events comes
to hold across whole sessions. -/
namespace ScriptedInput
variable {σ η ε : Type}

namespace Session

theorem distinct_new (backend : σ) :
    ({ backend := backend } : Session σ η).registry.Distinct := List.nodup_nil

section Create
variable (b : Backend σ η ε) {id : DeviceId} {r : Registration} {s : Session σ η} {t : σ}
  {log : List ε}

theorem run_create_refused {e : BackendError}
    (hc : (b.create id r).run s.backend = ⟨.error e, t, log⟩) :
    (create b id r).run s = ⟨.error (.creation id e), { s with backend := t }, log.map .effect⟩ := by
  simp [create, onBackend, Device.create, hc]

theorem run_create_new {h : η} (hc : (b.create id r).run s.backend = ⟨.ok h, t, log⟩)
    (hg : s.registry.get? id = none) :
    (create b id r).run s = ⟨.ok (), ⟨⟨s.registry.devices ++ [⟨id, r, h, .opened, 0⟩]⟩, t⟩,
      log.map .effect⟩ := by
  have hi : s.registry.insert? ⟨id, r, h, .opened, 0⟩ =
      some ⟨s.registry.devices ++ [⟨id, r, h, .opened, 0⟩]⟩ :=
    Registry.insert?_eq_some_iff.mpr ⟨hg, rfl⟩
  simp [create, onBackend, modifyRegistry, Device.create, hc, hi]

theorem run_create_duplicate {h : η} {d : Device η}
    (hc : (b.create id r).run s.backend = ⟨.ok h, t, log⟩) (hg : s.registry.get? id = some d) :
    (create b id r).run s = ⟨.ok (), { s with
        backend := ((Device.close b ⟨id, r, h, .opened, 0⟩).run t).state },
      log.map .effect ++ .warning (.alreadyRegistered id) ::
        ((Device.close b ⟨id, r, h, .opened, 0⟩).run t).log⟩ := by
  have hi : s.registry.insert? ⟨id, r, h, .opened, 0⟩ = none := by
    simp [Registry.insert?, Registry.contains_eq, hg]
  simp [create, onBackend, modifyRegistry, Device.create, hc, hi]

end Create

/-- A new device is registered, refused by the back end, or closed again as a duplicate. -/
theorem create_cases (b : Backend σ η ε) (id : DeviceId) (r : Registration) (s : Session σ η)
    {motive : Done (Session σ η) (Entry ε) (Except ReplayError Unit) → Prop}
    (refused : ∀ e t log, (b.create id r).run s.backend = ⟨.error e, t, log⟩ →
      motive ⟨.error (.creation id e), { s with backend := t }, log.map .effect⟩)
    (registered : ∀ h t log, (b.create id r).run s.backend = ⟨.ok h, t, log⟩ →
      s.registry.get? id = none →
      motive ⟨.ok (), ⟨⟨s.registry.devices ++ [⟨id, r, h, .opened, 0⟩]⟩, t⟩, log.map .effect⟩)
    (duplicate : ∀ h t log d, (b.create id r).run s.backend = ⟨.ok h, t, log⟩ →
      s.registry.get? id = some d →
      motive ⟨.ok (), { s with
          backend := ((Device.close b ⟨id, r, h, .opened, 0⟩).run t).state },
        log.map .effect ++ .warning (.alreadyRegistered id) ::
          ((Device.close b ⟨id, r, h, .opened, 0⟩).run t).log⟩) :
    motive ((create b id r).run s) := by
  rcases hc : (b.create id r).run s.backend with ⟨e | h, t, log⟩
  · rw [run_create_refused b hc]
    exact refused e t log hc
  · cases hg : s.registry.get? id with
    | none => rw [run_create_new b hc hg]; exact registered h t log hc hg
    | some d => rw [run_create_duplicate b hc hg]; exact duplicate h t log d hc hg

section Process
variable (b : Backend σ η ε) {e : Event} {s : Session σ η}

theorem run_process_new {r : Registration} (hg : s.registry.get? e.id = none)
    (ha : e.action = .register r) : (process b e).run s = (create b e.id r).run s := by
  simp [process, hg, ha]

theorem run_process_unknown (hg : s.registry.get? e.id = none) (hc : e.command ≠ .register) :
    (process b e).run s = ⟨.ok (), s, [.warning (.unknownDevice e.id e.command)]⟩ := by
  obtain ⟨id, action⟩ := e
  simp only [Event.command] at hc ⊢
  simp only [process, Act.run_bind, Act.run_get, hg]
  cases action with
  | register r => exact absurd rfl hc
  | _ => rfl

theorem run_process_again {d : Device η} (hg : s.registry.get? e.id = some d)
    (hc : e.command = .register) :
    (process b e).run s = ⟨.ok (), s, [.warning (.alreadyRegistered e.id)]⟩ := by
  obtain ⟨id, action⟩ := e
  simp only [Event.command] at hc
  simp only [process, Act.run_bind, Act.run_get, hg]
  cases action with
  | register r => rfl
  | _ => cases hc

theorem run_process_task (hs : s.registry.Distinct) {d : Device η} {task : Device.Task}
    (hg : s.registry.get? e.id = some d) (ht : e.action.task? = some task) :
    (process b e).run s = ⟨((d.perform b task).run s.backend).answer.1,
      ⟨s.registry.update ((d.perform b task).run s.backend).answer.2,
        ((d.perform b task).run s.backend).state⟩,
      ((d.perform b task).run s.backend).log⟩ := by
  have hu : s.registry.update d = s.registry :=
    Registry.update_self hs (by rw [(Registry.mem_of_get? hg).2]; exact hg)
  obtain ⟨id, action⟩ := e
  cases action <;> cases ht <;>
    simp_all [process, onBackend, modifyRegistry, Device.perform]

/-- A session's answer to an event: the device is created, the event is left out with a warning, or
the device it is addressed to carries out its task. -/
theorem process_cases (e : Event) (hs : s.registry.Distinct)
    {motive : Done (Session σ η) (Entry ε) (Except ReplayError Unit) → Prop}
    (new : ∀ r, s.registry.get? e.id = none → e.action = .register r →
      motive ((create b e.id r).run s))
    (unknown : s.registry.get? e.id = none → e.command ≠ .register →
      motive ⟨.ok (), s, [.warning (.unknownDevice e.id e.command)]⟩)
    (again : ∀ d, s.registry.get? e.id = some d → e.command = .register →
      motive ⟨.ok (), s, [.warning (.alreadyRegistered e.id)]⟩)
    (task : ∀ d task, s.registry.get? e.id = some d → e.action.task? = some task →
      motive ⟨((d.perform b task).run s.backend).answer.1,
        ⟨s.registry.update ((d.perform b task).run s.backend).answer.2,
          ((d.perform b task).run s.backend).state⟩,
        ((d.perform b task).run s.backend).log⟩) :
    motive ((process b e).run s) := by
  cases hg : s.registry.get? e.id with
  | none =>
    cases ha : e.action with
    | register r => rw [run_process_new b hg ha]; exact new r hg ha
    | _ =>
      have hc : e.command ≠ .register := by simp [Event.command, ha, Action.command]
      rw [run_process_unknown b hg hc]
      exact unknown hg hc
  | some d =>
    cases ht : e.action.task? with
    | none =>
      have hc : e.command = .register := (Action.task?_eq_none_iff e.action).mp ht
      rw [run_process_again b hg hc]
      exact again d hg hc
    | some t => rw [run_process_task b hs hg ht]; exact task d t hg ht

end Process

theorem run_shutdown (b : Backend σ η ε) (s : Session σ η) :
    (shutdown b).run s = ⟨(), ⟨⟨((Registry.closeEach b s.registry.devices).run s.backend).answer⟩,
      ((Registry.closeEach b s.registry.devices).run s.backend).state⟩,
      ((Registry.closeEach b s.registry.devices).run s.backend).log⟩ := by
  simp [shutdown, onBackend, modifyRegistry, Registry.run_closeAll]

section Invariants
variable {I : List (Entry ε) → Session σ η → Prop} {b : Backend σ η ε}

theorem Keeps.warnAll (hw : ∀ past s w, I past s → I (past ++ [.warning w]) s)
    (ws : List Warning) :
    (Act.logAll (ws.map .warning) : Act (Session σ η) (Entry ε) Unit).Keeps I := by
  refine Act.Keeps.logAll fun past s entry he hi => ?_
  obtain ⟨w, -, rfl⟩ := List.mem_map.mp he
  exact hw past s w hi

theorem Keeps.processAll (hw : ∀ past s w, I past s → I (past ++ [.warning w]) s)
    (hp : ∀ e, (process b e).Keeps I) (failure : Option ParseError) (ds : List Delivery) :
    (processAll b failure ds).Keeps I := by
  induction ds with
  | nil => exact .pure _
  | cons d ds ih =>
    apply Act.Keeps.bind (warnAll hw d.warnings)
    intro _
    apply Act.Keeps.bind (hp d.event)
    rintro (e | _)
    · exact .pure _
    · exact ih

/-- What single events, creations and shutdowns keep, whole sessions keep. -/
theorem Keeps.performAll (hw : ∀ past s w, I past s → I (past ++ [.warning w]) s)
    (hp : ∀ e, (process b e).Keeps I) (hc : ∀ id r, (create b id r).Keeps I)
    (hs : (shutdown b).Keeps I) (requests : List Request) : (performAll b requests).Keeps I := by
  induction requests with
  | nil => exact .pure _
  | cons request requests ih =>
    apply Act.Keeps.bind
    · cases request with
      | run f => exact .bind (Keeps.processAll hw hp _ _) (fun _ => .bind hs (fun _ => .pure _))
      | process e => exact hp e
      | register e =>
        obtain ⟨id, action⟩ := e
        cases action with
        | register r => exact hc id r
        | inject events => exact .pure _
        | delay millis => exact .pure _
        | sync token => exact .pure _
      | shutdown => exact .bind hs (fun _ => .pure _)
    · exact fun _ => .bind ih (fun _ => .pure _)

end Invariants

end Session
end ScriptedInput

import ScriptedInput.Proofs.Device.Registry

/-! Closing devices. A closed device stays exactly as it is; an open one keeps its number, its
registration and its clock. -/
namespace ScriptedInput
variable {σ η ε : Type}

namespace Device

structure ClosedFrom (d d' : Device η) : Prop where
  state : d'.state = .closed
  id : d'.id = d.id
  registration : d'.registration = d.registration
  clockOffset : d'.clockOffset = d.clockOffset
  same : d.state = .closed → d' = d

def closeReport (id : DeviceId) : Except BackendError Unit → List (Entry ε)
  | .ok () => []
  | .error e => [.closeFailed id e]

theorem run_close_closed (b : Backend σ η ε) {d : Device η} (h : d.state = .closed) (s : σ) :
    (d.close b).run s = ⟨d, s, []⟩ := by
  unfold close
  rw [h]
  rfl

theorem run_close_opened (b : Backend σ η ε) {d : Device η} (h : d.state = .opened) (s : σ) :
    (d.close b).run s =
      ⟨{ d with handle := ((b.close d.handle).run s).answer.2, state := .closed },
        ((b.close d.handle).run s).state,
        ((b.close d.handle).run s).log.map .effect ++
          closeReport d.id ((b.close d.handle).run s).answer.1⟩ := by
  unfold close
  rw [h]
  simp only [Act.run_bind, Act.run_within]
  rcases ((b.close d.handle).run s).answer with ⟨answer | answer, handle⟩ <;>
    simp [closeReport]

theorem closedFrom_close (b : Backend σ η ε) (d : Device η) (s : σ) :
    d.ClosedFrom ((d.close b).run s).answer := by
  cases h : d.state with
  | closed => exact ⟨by rw [run_close_closed b h, h], by rw [run_close_closed b h],
      by rw [run_close_closed b h], by rw [run_close_closed b h],
      fun _ => by rw [run_close_closed b h]⟩
  | opened =>
    rw [run_close_opened b h]
    exact ⟨rfl, rfl, rfl, rfl, fun hc => by rw [h] at hc; cases hc⟩

end Device

namespace Registry

theorem run_closeEach_cons (b : Backend σ η ε) (d : Device η) (ds : List (Device η)) (s : σ) :
    (closeEach b (d :: ds)).run s =
      ⟨((d.close b).run s).answer :: ((closeEach b ds).run ((d.close b).run s).state).answer,
        ((closeEach b ds).run ((d.close b).run s).state).state,
        ((d.close b).run s).log ++ ((closeEach b ds).run ((d.close b).run s).state).log⟩ := by
  simp only [closeEach, Act.run_bind, Act.run_pure, List.append_nil]

theorem forall₂_closeEach (b : Backend σ η ε) (ds : List (Device η)) (s : σ) :
    List.Forall₂ Device.ClosedFrom ds ((closeEach b ds).run s).answer := by
  induction ds generalizing s with
  | nil => exact .nil
  | cons d ds ih =>
    rw [run_closeEach_cons]
    exact .cons (Device.closedFrom_close b d s) (ih _)

theorem run_closeAll (b : Backend σ η ε) (r : Registry η) (s : σ) :
    (r.closeAll b).run s = ⟨⟨((closeEach b r.devices).run s).answer⟩,
      ((closeEach b r.devices).run s).state, ((closeEach b r.devices).run s).log⟩ := by
  simp only [closeAll, Act.run_bind, Act.run_pure, List.append_nil]

def AllClosed (r : Registry η) : Prop := ∀ d ∈ r.devices, d.state = .closed

theorem ids_of_closedFrom {ds ds' : List (Device η)} (h : List.Forall₂ Device.ClosedFrom ds ds') :
    (⟨ds'⟩ : Registry η).ids = (⟨ds⟩ : Registry η).ids := ids_of_forall₂ (fun _ _ hd => hd.id) h

theorem allClosed_of_closedFrom {ds ds' : List (Device η)}
    (h : List.Forall₂ Device.ClosedFrom ds ds') : AllClosed ⟨ds'⟩ := by
  induction h with
  | nil => simp [AllClosed]
  | cons hd _ ih =>
    intro e he
    rcases List.mem_cons.mp he with rfl | he
    · exact hd.state
    · exact ih e he

theorem get?_of_closedFrom {ds ds' : List (Device η)}
    (h : List.Forall₂ Device.ClosedFrom ds ds') {id : DeviceId} {d : Device η}
    (hd : (⟨ds⟩ : Registry η).get? id = some d) :
    ∃ d', (⟨ds'⟩ : Registry η).get? id = some d' ∧ d.ClosedFrom d' := by
  have alike := rel_get? (fun _ _ hd => hd.id) h id
  rw [hd] at alike
  generalize (⟨ds'⟩ : Registry η).get? id = found at alike
  obtain ⟨closed⟩ := alike
  exact ⟨_, rfl, closed⟩

end Registry
end ScriptedInput

import ScriptedInput.Proofs.Backend.Uinput.Creation
import ScriptedInput.Proofs.Device.HandleTable

/-! Destroyed devices. Closing a handle the first time makes it refuse batches for good, whatever is
asked of it before and after. The other calls ask whether the device is gone only where they would
attend to it, so a device without effect slots answers them as if it were still there. -/
namespace ScriptedInput.Uinput
open Act HandleTable

/-- The device is gone after closing, even if the system refuses to destroy it. -/
private theorem gone_of_close (h : Handle) (n : Node) :
    ((close h).run n).answer.2 = { h with live := false } := by
  obtain ⟨id, slots, live⟩ := h
  cases live with
  | false => rfl
  | true =>
    simp only [close, not_true_eq_false, if_false, Act.run_bind, Node.run_request]
    cases n.faults .devDestroy (n.used .devDestroy) <;> rfl

/-- After a handle was closed once, it is the same but for being gone, whatever else was asked for. -/
private theorem handle_after_close {table : HandleTable Node Handle} {n : Nat} {h : Handle}
    (found : table.handles[n]? = some h) (before between : List HandleTable.Request) :
    ((performAll uinput (before ++ .close n :: between)).run table).state.handles[n]? =
      some { h with live := false } := by
  have own : table.Holds n fun k => ∃ live, k = { h with live } := ⟨h, found, h.live, rfl⟩
  have closes (k : Handle) (s : Node) : (∃ live, k = { h with live }) →
      ((uinput.close k).run s).answer.2 = { h with live := false } := by
    rintro ⟨live, rfl⟩
    exact gone_of_close _ s
  have waited := holds_performAll (fun k s own => ⟨false, closes k s own⟩) before own
  have closed := holds_close (b := uinput) (Q := (· = { h with live := false })) closes waited
  obtain ⟨k, found, rfl⟩ :=
    holds_performAll (fun k s own => closes k s ⟨false, own⟩) between closed
  rw [state_performAll_append]
  exact found

section Gone
variable {table : HandleTable Node Handle} {n : Nat} {h : Handle}

/-- A call that leaves the node as it is leaves the table as it is. -/
private theorem run_call_quiet {f : Handle → Act Node Effect (Except BackendError Unit)}
    {answer : Except BackendError Unit} {log : List Effect} (found : table.handles[n]? = some h)
    (run : ∀ s, (f h).run s = ⟨answer, s, log⟩) : (call n f).run table = ⟨answer, table, log⟩ := by
  rw [run_call_some f found, run]

private theorem run_close_gone (found : table.handles[n]? = some h) (gone : h.live = false) :
    (perform uinput (.close n)).run table = ⟨.ok (), table, []⟩ := by
  have quiet : (close h).run table.backend = ⟨(.ok (), h), table.backend, []⟩ := by
    simp [close, gone]
  change (change n close).run table = _
  rw [run_change_some _ found, quiet]
  simp only [set_found found]

end Gone

/-- A destroyed device takes no batch, and is not destroyed again. With effect slots, it refuses all
calls but closing. Without them, it is never asked whether it is gone when it is attended to: waits go
on as before, and barriers are reported for it. -/
theorem destroyed_refuses {id : DeviceId} {r : Registration} {node : Node} {h : Handle}
    (made : ((create id r).run node).answer = .ok h) {table : HandleTable Node Handle} {n : Nat}
    (found : table.handles[n]? = some h) (before between : List HandleTable.Request) :
    let gone := ((performAll uinput (before ++ .close n :: between)).run table).state
    let refusal : BackendError := .rejected (.destroyed id)
    refusal.message = s!"device {id} is destroyed" ∧
    (∀ events, (perform uinput (.inject n events)).run gone = ⟨.error refusal, gone, []⟩) ∧
    (perform uinput (.close n)).run gone = ⟨.ok (), gone, []⟩ ∧
    (0 < r.ffEffectsMax → ∀ millis token, ∀ call ∈ [.delay n millis, .idle n, .sync n token],
      (perform uinput call).run gone = ⟨.error refusal, gone, []⟩) ∧
    (r.ffEffectsMax = 0 → ∀ millis token,
      (∀ call ∈ [.delay n millis, .idle n], (perform uinput call).run gone = ⟨.ok (), gone, []⟩) ∧
      (perform uinput (.sync n token)).run gone =
        ⟨.ok (), gone, [.report (.sync id token)]⟩) := by
  intro gone refusal
  obtain rfl := handle_of_create made
  have closed : gone.handles[n]? = some { id, forceFeedback := 0 < r.ffEffectsMax, live := false } :=
    handle_after_close found before between
  refine ⟨rfl, fun events => run_call_quiet closed fun _ => rfl, run_close_gone closed rfl, ?_, ?_⟩
  · intro slots millis token
    rw [decide_eq_true slots] at closed
    simp only [List.forall_mem_cons, List.not_mem_nil, false_imp_iff, forall_true_iff, and_true]
    exact ⟨run_call_quiet closed fun _ => rfl, run_call_quiet closed fun _ => rfl,
      run_call_quiet closed fun _ => rfl⟩
  · intro none millis token
    rw [decide_eq_false (by simp [none])] at closed
    simp only [List.forall_mem_cons, List.not_mem_nil, false_imp_iff, forall_true_iff, and_true]
    exact ⟨⟨run_call_quiet closed fun _ => rfl, run_call_quiet closed fun _ => rfl⟩,
      run_call_quiet closed fun _ => rfl⟩

def clinging : Node where
  faults r _ := if r = .devDestroy then some 19 else none

theorem clinging_refuses :
    let held : Handle := { id := 1, forceFeedback := true }
    let table : HandleTable Node Handle := { handles := [held], backend := clinging }
    let gone := ((performAll uinput [.idle 0, .close 0, .delay 0 5]).run table).state
    ((create 1 { stick with ffEffectsMax := 16 }).run {}).answer = .ok held ∧
      table.handles[0]? = some held ∧
      ((perform uinput (.close 0)).run table).answer = .error (.os "UI_DEV_DESTROY" (.os 19)) ∧
      (perform uinput (.sync 0 "late")).run gone = ⟨.error (.rejected (.destroyed 1)), gone, []⟩ := by
  intro held table gone
  have made : ((create 1 { stick with ffEffectsMax := 16 }).run {}).answer = .ok held := by decide
  have found : table.handles[0]? = some held := rfl
  obtain ⟨-, -, -, refused, -⟩ := destroyed_refuses made found [.idle 0] [.delay 0 5]
  exact ⟨made, found, by decide, refused (by decide) 0 "late" _ (by simp)⟩

/-- Not all calls on destroyed devices are refused: the barrier of a stick without effect slots is
reported. -/
theorem destroyed_not_silent :
    ¬ ∀ (id : DeviceId) (r : Registration) (node : Node) (h : Handle),
      ((create id r).run node).answer = .ok h → ∀ token,
        let gone := ((perform uinput (.close 0)).run { handles := [h], backend := node }).state
        (perform uinput (.sync 0 token)).run gone =
          ⟨.error (.rejected (.destroyed id)), gone, []⟩ := by
  intro silent
  have refused := silent 1 stick {} { id := 1, forceFeedback := false } (by decide) "late"
  have nothing : [Effect.report (.sync 1 "late")] = [] := congrArg Done.log refused
  cases nothing

end ScriptedInput.Uinput

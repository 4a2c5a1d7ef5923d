import ScriptedInput.Proofs.Backend.Recorder

/-! The life of devices and handles over whole sessions: a handle is closed once and last of all, and
a device that was closed stays as it was. -/
namespace ScriptedInput
variable {σ η ε : Type}

def Registry.KeepsClosed (r r' : Registry η) : Prop :=
  ∀ id d, r.get? id = some d → d.state = .closed → r'.get? id = some d

namespace Session

def after (b : Backend σ η ε) (requests : List Request) (s : Session σ η) : Session σ η :=
  ((performAll b requests).run s).state

private theorem after_append (b : Backend σ η ε) (before later : List Request) (s : Session σ η) :
    after b (before ++ later) s = after b later (after b before s) := by
  induction before generalizing s with
  | nil => rfl
  | cons request before ih =>
    simp only [after, List.cons_append, performAll, Act.run_bind, Act.run_pure] at ih ⊢
    rw [ih]

private theorem allClosed_shutdown (b : Backend σ η ε) (s : Session σ η) :
    ((shutdown b).run s).state.registry.AllClosed := by
  rw [run_shutdown]
  exact Registry.allClosed_of_closedFrom (Registry.forall₂_closeEach b _ _)

/-- Numbers are distinct, and the closed devices of an earlier registry are still there. -/
private def Aged (r : Registry η) (_past : List (Entry ε)) (s : Session σ η) : Prop :=
  s.registry.Distinct ∧ r.KeepsClosed s.registry

private theorem create_aged (b : Backend σ η ε) (r : Registry η) (id : DeviceId)
    (registration : Registration) : (create b id registration).Keeps (Aged r) := by
  rintro past s ⟨hs, hr⟩
  refine create_cases b id registration s
    (motive := fun done => Aged r (past ++ done.log) done.state) ?_ ?_ ?_
  · exact fun _ _ _ _ => ⟨hs, hr⟩
  · intro h t log _ hg
    refine ⟨hs.insert hg, fun i d hi hc => ?_⟩
    have := hr i d hi hc
    rw [Registry.get?_append, this]
    rfl
  · exact fun _ _ _ _ _ _ => ⟨hs, hr⟩

private theorem process_aged (b : Backend σ η ε) (r : Registry η) (e : Event) :
    (process b e).Keeps (Aged r) := by
  rintro past s ⟨hs, hr⟩
  refine process_cases b e hs (motive := fun done => Aged r (past ++ done.log) done.state)
    ?_ ?_ ?_ ?_
  · intro registration _ _
    exact create_aged b r e.id registration past s ⟨hs, hr⟩
  · exact fun _ _ => ⟨hs, hr⟩
  · exact fun _ _ _ => ⟨hs, hr⟩
  · intro d task hg ht
    obtain ⟨clock, hclock⟩ := Device.perform_device b d ht s.backend
    refine ⟨hs.update _, fun i d' hi hc => ?_⟩
    have found := hr i d' hi hc
    have hid := (Registry.mem_of_get? hg).2
    have hid' := (Registry.mem_of_get? found).2
    by_cases he : i = e.id
    · subst he
      rw [hg] at found
      cases found
      rw [Device.run_perform_closed b hc ht, Registry.update_self hs (by rwa [hid])]
      exact hg
    · have hne : d'.id ≠ d.id := by rwa [hid, hid']
      rw [hclock, Registry.get?_update, found]
      simp [hne]

private theorem shutdown_aged (b : Backend σ η ε) (r : Registry η) :
    (shutdown b).Keeps (Aged r) := by
  rintro past s ⟨hs, hr⟩
  rw [run_shutdown]
  have closed := Registry.forall₂_closeEach b s.registry.devices s.backend
  refine ⟨?_, fun i d hi hc => ?_⟩
  · unfold Registry.Distinct
    rwa [Registry.ids_of_closedFrom closed]
  · obtain ⟨d', hd', hfrom⟩ := Registry.get?_of_closedFrom closed (hr i d hi hc)
    rw [hd', hfrom.same hc]

private theorem keepsClosed_after (b : Backend σ η ε) {s : Session σ η} (hs : s.registry.Distinct)
    (requests : List Request) : s.registry.KeepsClosed (after b requests s).registry :=
  (Keeps.performAll (fun _ _ _ h => h) (process_aged b s.registry) (create_aged b s.registry)
    (shutdown_aged b s.registry) requests [] s ⟨hs, fun _ _ h _ => h⟩).2

theorem distinct_after (b : Backend σ η ε) {s : Session σ η} (hs : s.registry.Distinct)
    (requests : List Request) : (after b requests s).registry.Distinct :=
  (Keeps.performAll (fun _ _ _ h => h) (process_aged b s.registry) (create_aged b s.registry)
    (shutdown_aged b s.registry) requests [] s ⟨hs, fun _ _ h _ => h⟩).1

end Session

open Recorder in
/-- Over every session and under every plan of failures: each handle that was given out is created
first, used for its own device only, and closed exactly once and last of all; a creation that fails
gives out none; a closed device is never changed again, and after each run and shutdown all devices
are closed. -/
theorem handle_closed_once (plan : FailurePlan) (requests : List Session.Request) :
    let calls := effects ((Session.lifetime (recorder plan) requests).run { backend := {} }).log
    let reached := fun requests => (Session.after (recorder plan) requests { backend := {} }).registry
    (∀ n, callsOn n calls = [] ∨ Ended n (callsOn n calls)) ∧
    (∀ c ∈ calls, c.handle = none ↔ c.call.kind = .create ∧ c.failure ≠ none) ∧
    (∀ later, (reached requests).KeepsClosed (reached (requests ++ later))) ∧
    (∀ f, (reached (requests ++ [.run f])).AllClosed) ∧
    (reached (requests ++ [.shutdown])).AllClosed ∧
    ((Session.lifetime (recorder plan) requests).run { backend := {} }).state.registry.AllClosed := by
  intro calls reached
  have closing (before : List Session.Request) (request : Session.Request) :
      reached (before ++ [request]) =
        ((Session.perform (recorder plan) request).run
          (Session.after (recorder plan) before { backend := {} })).state.registry := by
    simp only [reached, Session.after_append]
    rfl
  have tracked : Tracked 0 calls _ :=
    (recorderCustody plan).lifetime_releases requests [] { backend := {} }
      ⟨Session.distinct_new _, tracked_empty⟩
  refine ⟨fun n => ?_, tracked.refused, fun later => ?_, fun f => ?_, ?_, ?_⟩
  · rcases Nat.lt_or_ge n _ with hn | hn
    · exact .inr (tracked.ended n hn (by simp))
    · exact .inl (tracked.unused n hn)
  · simp only [reached, Session.after_append]
    exact Session.keepsClosed_after _
      (Session.distinct_after _ (Session.distinct_new _) requests) later
  · rw [closing]
    exact Session.allClosed_shutdown _ _
  · rw [closing]
    exact Session.allClosed_shutdown _ _
  · exact Session.allClosed_shutdown _ _

end ScriptedInput

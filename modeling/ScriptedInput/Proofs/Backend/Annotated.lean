import ScriptedInput.Proofs.Backend.Recorder
import ScriptedInput.Proofs.Session.Simulation

/-! Any back end with its calls written down beside their effects. Writing them down changes nothing
in what a session does, and the records tell which effects belong to which handle. -/
namespace ScriptedInput
variable {σ η ε δ α : Type}

structure Noted (ε : Type) where
  record : Recorder.Record
  effects : List ε

def failureOf : Except BackendError α → Option BackendError
  | .ok _ => none
  | .error e => some e

namespace Backend

abbrev Counted (σ : Type) : Type := σ × Nat

abbrev Numbered (η : Type) : Type := Recorder.Handle × η

def noteOn (h : Recorder.Handle) (call : Call) (failure : α → Option BackendError) (x : Act σ ε α) :
    Act (Counted σ) (Noted ε) α := fun s =>
  let done := x.run s.1
  ⟨done.answer, (done.state, s.2), [⟨⟨some h.serial, call, failure done.answer⟩, done.log⟩]⟩

def noteCreation (id : DeviceId) (r : Registration) (x : Act σ ε (Except BackendError η)) :
    Act (Counted σ) (Noted ε) (Except BackendError (Numbered η)) := fun s =>
  let done := x.run s.1
  match done.answer with
  | .ok h =>
    ⟨.ok (⟨s.2, id⟩, h), (done.state, s.2 + 1), [⟨⟨some s.2, .create id r, none⟩, done.log⟩]⟩
  | .error e => ⟨.error e, (done.state, s.2), [⟨⟨none, .create id r, some e⟩, done.log⟩]⟩

def annotated (b : Backend σ η ε) : Backend (Counted σ) (Numbered η) (Noted ε) where
  create id r := noteCreation id r (b.create id r)
  inject h events := noteOn h.1 (.inject h.1.id events) failureOf (b.inject h.2 events)
  delay h millis := noteOn h.1 (.delay h.1.id millis) failureOf (b.delay h.2 millis)
  idle h := noteOn h.1 (.idle h.1.id) failureOf (b.idle h.2)
  sync h token := noteOn h.1 (.sync h.1.id token) failureOf (b.sync h.2 token)
  close h := do
    let a ← noteOn h.1 (.close h.1.id) (failureOf ·.1) (b.close h.2)
    return (a.1, h.1, a.2)

def Underneath (s : Counted σ) (s' : σ) : Prop := s.1 = s'

private theorem noteOn_alike (h : Recorder.Handle) (call : Call) (failure : α → Option BackendError)
    (x : Act σ ε α) : Act.Alike Noted.effects (fun e => [e]) Underneath Eq
      (noteOn h call failure x) x := by
  rintro s _ rfl
  exact ⟨rfl, rfl, by simp [noteOn, Act.run]⟩

private theorem noteCreation_alike (id : DeviceId) (r : Registration)
    (x : Act σ ε (Except BackendError η)) :
    Act.Alike Noted.effects (fun e => [e]) Underneath (AnswerAlike fun h h' => h.2 = h')
      (noteCreation id r x) x := by
  rintro s _ rfl
  rw [Act.run, noteCreation]
  cases (x.run s.1).answer with
  | ok h => exact ⟨.ok rfl, rfl, by simp⟩
  | error e => exact ⟨.error e, rfl, by simp⟩

def unannotated (b : Backend σ η ε) :
    Simulation b.annotated b Noted.effects (fun e => [e]) where
  states := Underneath
  handles h h' := h.2 = h'
  fit _ := True
  create id _ := noteCreation_alike id _ _
  inject := by
    rintro h _ rfl events
    exact noteOn_alike _ _ _ _
  delay := by
    rintro h _ rfl millis
    exact noteOn_alike _ _ _ _
  idle := by
    rintro h _ rfl
    exact noteOn_alike _ _ _ _
  sync := by
    rintro h _ rfl token
    exact noteOn_alike _ _ _ _
  close := by
    rintro h _ rfl s s' same
    obtain ⟨answer, state, log⟩ :=
      noteOn_alike h.1 (.close h.1.id) (failureOf ·.1) (b.close h.2) s s' same
    refine ⟨congrArg Prod.fst answer, state, ?_⟩
    simpa [annotated] using log

/-- What the calls on a back end tell, by which calls they are and whether they fail. A condition on
handles holds of those that are given out, and may be relied on until they are closed. -/
structure Tells (b : Backend σ η ε) (J : η → Prop) (f : ε → List δ)
    (due : Call → Option BackendError → List δ) : Prop where
  create (id : DeviceId) (r : Registration) (s : σ) :
    (∀ h, ((b.create id r).run s).answer = .ok h → J h) ∧
      ((b.create id r).run s).log.flatMap f =
        due (.create id r) (failureOf ((b.create id r).run s).answer)
  inject {h : η} (fit : J h) (id : DeviceId) (events : List RawEvent) (s : σ) :
    ((b.inject h events).run s).log.flatMap f =
      due (.inject id events) (failureOf ((b.inject h events).run s).answer)
  delay {h : η} (fit : J h) (id : DeviceId) (millis : UInt64) (s : σ) :
    ((b.delay h millis).run s).log.flatMap f =
      due (.delay id millis) (failureOf ((b.delay h millis).run s).answer)
  idle {h : η} (fit : J h) (id : DeviceId) (s : σ) :
    ((b.idle h).run s).log.flatMap f = due (.idle id) (failureOf ((b.idle h).run s).answer)
  sync {h : η} (fit : J h) (id : DeviceId) (token : String) (s : σ) :
    ((b.sync h token).run s).log.flatMap f =
      due (.sync id token) (failureOf ((b.sync h token).run s).answer)
  close {h : η} (fit : J h) (id : DeviceId) (s : σ) :
    ((b.close h).run s).log.flatMap f =
      due (.close id) (failureOf ((b.close h).run s).answer.1)

/-- The account that is kept of a back end whose calls are written down: each handle is created,
used and closed, and all calls so far tell what is due. -/
structure Accounted (J : η → Prop) (f : ε → List δ) (due : Call → Option BackendError → List δ)
    (hs : Multiset (Numbered η)) (past : List (Noted ε)) (s : Counted σ) : Prop where
  tracked : Recorder.Tracked (hs.map Prod.fst) (past.map (·.record)) { created := s.2 }
  told : ∀ c ∈ past, c.effects.flatMap f = due c.record.call c.record.failure
  handles : ∀ h ∈ hs, J h.2

namespace Accounted
variable {J : η → Prop} {f : ε → List δ} {due : Call → Option BackendError → List δ}
  {hs : Multiset (Numbered η)} {past : List (Noted ε)} {s : Counted σ}

private theorem empty (s : σ) : Accounted (ε := ε) J f due 0 [] (s, 0) :=
  ⟨Recorder.tracked_empty, by simp, by simp⟩

private theorem create (h : Accounted J f due hs past s) (id : DeviceId) (r : Registration)
    {x : Act σ ε (Except BackendError η)} (given : ∀ k, (x.run s.1).answer = .ok k → J k)
    (told : (x.run s.1).log.flatMap f = due (.create id r) (failureOf (x.run s.1).answer)) :
    Accounted J f due (withCreated hs ((noteCreation id r x).run s).answer)
      (past ++ ((noteCreation id r x).run s).log) ((noteCreation id r x).run s).state := by
  obtain ⟨tracked, before, handles⟩ := h
  rcases hx : x.run s.1 with ⟨e | k, t, log⟩
  · rw [hx] at told
    have noted : (noteCreation id r x).run s =
        ⟨.error e, (t, s.2), [⟨⟨none, .create id r, some e⟩, log⟩]⟩ := by
      rw [Act.run, noteCreation, hx]
    rw [noted]
    refine ⟨?_, List.forall_mem_append.mpr ⟨before, List.forall_mem_singleton.mpr told⟩, handles⟩
    simpa [withCreated] using tracked.refuse rfl id r e
  · rw [hx] at told given
    have noted : (noteCreation id r x).run s =
        ⟨.ok (⟨s.2, id⟩, k), (t, s.2 + 1), [⟨⟨some s.2, .create id r, none⟩, log⟩]⟩ := by
      rw [Act.run, noteCreation, hx]
    rw [noted]
    refine ⟨?_, List.forall_mem_append.mpr ⟨before, List.forall_mem_singleton.mpr told⟩,
      Multiset.forall_mem_cons.mpr ⟨given k rfl, handles⟩⟩
    simpa [withCreated] using tracked.give rfl id r

private theorem use (h : Accounted J f due hs past s) {k : Numbered η} (hm : k ∈ hs) {call : Call}
    (own : call.id = k.1.id) (kind : call.kind ≠ .create ∧ call.kind ≠ .close)
    {x : Act σ ε (Except BackendError Unit)}
    (told : (x.run s.1).log.flatMap f = due call (failureOf (x.run s.1).answer)) :
    Accounted J f due hs (past ++ ((noteOn k.1 call failureOf x).run s).log)
      ((noteOn k.1 call failureOf x).run s).state := by
  obtain ⟨tracked, before, handles⟩ := h
  refine ⟨?_, List.forall_mem_append.mpr ⟨before, List.forall_mem_singleton.mpr told⟩, handles⟩
  rw [List.map_append]
  exact tracked.use rfl (Multiset.mem_map_of_mem _ hm) own kind _

private theorem close {k : Numbered η} (h : Accounted J f due (k ::ₘ hs) past s)
    {x : Act σ ε (Except BackendError Unit × η)}
    (told : (x.run s.1).log.flatMap f =
      due (.close k.1.id) (failureOf (x.run s.1).answer.1)) :
    Accounted J f due hs
      (past ++ ((noteOn k.1 (.close k.1.id) (failureOf ·.1) x).run s).log)
      ((noteOn k.1 (.close k.1.id) (failureOf ·.1) x).run s).state := by
  obtain ⟨tracked, before, handles⟩ := h
  refine ⟨?_, List.forall_mem_append.mpr ⟨before, List.forall_mem_singleton.mpr told⟩,
    fun h hm => handles h (Multiset.mem_cons_of_mem hm)⟩
  rw [Multiset.map_cons] at tracked
  rw [List.map_append]
  exact tracked.close rfl _

end Accounted

def custody {b : Backend σ η ε} {J : η → Prop} {f : ε → List δ}
    {due : Call → Option BackendError → List δ} (tells : b.Tells J f due) :
    Custody b.annotated where
  holds := Accounted J f due
  create _ id r _ s h := h.create id r (tells.create id r s.1).1 (tells.create id r s.1).2
  inject hm events _ s h :=
    h.use hm rfl (by simp [Call.kind]) (tells.inject (h.handles _ hm) _ events s.1)
  delay hm millis _ s h :=
    h.use hm rfl (by simp [Call.kind]) (tells.delay (h.handles _ hm) _ millis s.1)
  idle hm _ s h := h.use hm rfl (by simp [Call.kind]) (tells.idle (h.handles _ hm) _ s.1)
  sync hm token _ s h :=
    h.use hm rfl (by simp [Call.kind]) (tells.sync (h.handles _ hm) _ token s.1)
  close hs k := .bind (R := fun _ => Accounted J f due hs)
    (fun _ s h => h.close (tells.close (h.handles k (Multiset.mem_cons_self k hs)) _ s.1))
    fun _ => .pure fun _ _ h => h

/-- A whole session with its calls written down: the effects are those of the session, and the
account at its end has no open handle. -/
theorem lifetime_accounted {b : Backend σ η ε} {J : η → Prop} {f : ε → List δ}
    {due : Call → Option BackendError → List δ} (tells : b.Tells J f due) (s : σ)
    (requests : List Session.Request) :
    let calls := effects ((Session.lifetime b.annotated requests).run { backend := (s, 0) }).log
    effects ((Session.lifetime b requests).run { backend := s }).log = calls.flatMap (·.effects) ∧
      ∃ t : Counted σ, Accounted J f due 0 calls t := by
  intro calls
  refine ⟨?_, _, (custody tells).lifetime_releases requests [] { backend := (s, 0) }
    ⟨Session.distinct_new _, .empty s⟩⟩
  have fits : ∀ request ∈ requests, request.Fits b.unannotated.fit := by
    intro request _
    cases request with
    | run f => exact fun _ _ _ _ => trivial
    | process e => exact fun _ _ => trivial
    | register e => exact fun _ _ => trivial
    | shutdown => trivial
  obtain ⟨-, -, log⟩ := b.unannotated.lifetime fits { backend := (s, 0) } { backend := s }
    ⟨.nil, rfl⟩
  have same := congrArg effects log
  rw [effects_flatMap_tells, effects_flatMap_tells] at same
  rw [same]
  simp

namespace Accounted
variable {J : η → Prop} {f : ε → List δ} {due : Call → Option BackendError → List δ}
  {calls : List (Noted ε)} {s : Counted σ}

def on (n : Nat) (calls : List (Noted ε)) : List (Noted ε) :=
  calls.filter (·.record.handle = some n)

/-- What the calls on a handle tell that was closed, or never given out. -/
theorem told_on (h : Accounted J f due 0 calls s) (n : Nat) :
    on n calls = [] ∨ ∃ id r, ∃ uses : List Recorder.Record, ∃ failure,
      (∀ c ∈ uses, c.call.id = id ∧ c.call.kind ≠ .create ∧ c.call.kind ≠ .close) ∧
      (on n calls).flatMap (·.effects.flatMap f) =
        due (.create id r) none ++ uses.flatMap (fun c => due c.call c.failure) ++
          due (.close id) failure := by
  have records : (on n calls).map (·.record) = Recorder.callsOn n (calls.map (·.record)) := by
    rw [on, Recorder.callsOn, List.filter_map]
    rfl
  rcases Nat.lt_or_ge n s.2 with given | never
  · obtain ⟨id, _, failure, ⟨r, uses, rfl, used⟩, ended⟩ := h.tracked.ended n given (by simp)
    refine .inr ⟨id, r, uses, failure, used, ?_⟩
    calc (on n calls).flatMap (·.effects.flatMap f)
        = (on n calls).flatMap (fun c => due c.record.call c.record.failure) :=
          List.flatMap_congr fun c hc => h.told c (List.mem_of_mem_filter hc)
      _ = ((on n calls).map (·.record)).flatMap (fun c => due c.call c.failure) := by
          rw [List.flatMap_map]
      _ = _ := by
          rw [records, ended]
          simp
  · left
    rw [← List.map_eq_nil_iff, records]
    exact h.tracked.unused n never

end Accounted
end Backend
end ScriptedInput

import ScriptedInput.Proofs.Recording.Feed

/-! Conservation of a recording's events. What is injected is what the event lines tell, in their order
and cut only after synchronisation reports, with at most one delay between two injections. -/
namespace ScriptedInput

def Event.batch? (e : Event) : Option (List RawEvent) :=
  match e.action with
  | .inject events => some events
  | .register _ | .delay _ | .sync _ => none

def batches (events : List Event) : List (List RawEvent) := events.filterMap Event.batch?

/-- What follows the registration of a recording that tells of these events. -/
structure Conserves (es : List TimedEvent) (rest : List Event) : Prop where
  addressed : ∀ e ∈ rest, e.id = 1 ∧ (e.command = .inject ∨ e.command = .delay)
  injected : (batches rest).flatten = es.map (·.event)
  whole : ∀ b ∈ batches rest, b ≠ [] ∧ ∀ e ∈ b.dropLast, ¬ e.isSyncReport
  ended : ∀ b ∈ (batches rest).dropLast, ∃ e ∈ b.getLast?, e.isSyncReport
  delayed : ∀ before millis after, rest = before ++ ⟨1, .delay millis⟩ :: after →
    1 ≤ millis ∧ (∃ e ∈ before, e.command = .inject) ∧ ∃ b, after.head? = some ⟨1, .inject b⟩

/-- The times of frames are times of events. -/
private theorem frames_time {es : List TimedEvent} : ∀ f ∈ frames es, ∃ e ∈ es, f.1 = e.timestamp := by
  induction es with
  | nil => simp [frames]
  | cons e es ih =>
    intro f hf
    have later (h : f ∈ frames es) : ∃ e' ∈ e :: es, f.1 = e'.timestamp := by
      obtain ⟨e', he, ht⟩ := ih f h
      exact ⟨e', List.mem_cons_of_mem _ he, ht⟩
    by_cases hs : e.event.isSyncReport
    · rw [frames, if_pos hs, List.mem_cons] at hf
      rcases hf with rfl | hf
      · exact ⟨e, List.mem_cons_self, rfl⟩
      · exact later hf
    · rw [frames, if_neg hs] at hf
      cases hr : frames es with
      | nil =>
        rw [hr, beginWith, List.mem_singleton] at hf
        exact ⟨e, List.mem_cons_self, by rw [hf]⟩
      | cons g rest =>
        rw [hr, beginWith, List.mem_cons] at hf
        rcases hf with rfl | hf
        · exact ⟨e, List.mem_cons_self, rfl⟩
        · exact later (by simp [hr, hf])

def Timely (fs : List TimedFrame) : Prop := ∀ f ∈ fs, f.1 < UInt64.size

private theorem TellOf.fits {lines : List Line} {es : List TimedEvent} (h : TellOf lines es) :
    ∀ e ∈ es, e.timestamp < UInt64.size := by
  induction h with
  | nil => simp
  | cons told _ ih => exact List.forall_mem_cons.mpr ⟨told.lt, ih⟩

theorem TellOf.timely {lines : List Line} {es : List TimedEvent} (h : TellOf lines es) :
    Timely (frames es) := by
  intro f hf
  obtain ⟨e, he, ht⟩ := frames_time f hf
  exact ht ▸ h.fits e he

namespace Recording

private theorem replay_addressed (clock : Option Nat) (fs : List TimedFrame) :
    ∀ e ∈ replay clock fs, e.id = 1 ∧ (e.command = .inject ∨ e.command = .delay) := by
  induction fs generalizing clock with
  | nil => simp [replay]
  | cons f fs ih =>
    intro e he
    simp only [replay, List.mem_append, List.mem_map, List.mem_cons] at he
    rcases he with ⟨m, -, rfl⟩ | rfl | he
    · exact ⟨rfl, .inr rfl⟩
    · exact ⟨rfl, .inl rfl⟩
    · exact ih _ e he

theorem batches_replay (clock : Option Nat) (fs : List TimedFrame) :
    batches (replay clock fs) = fs.map (·.2) := by
  induction fs generalizing clock with
  | nil => rfl
  | cons f fs ih =>
    have silent (ms : List Nat) : (ms.map delayEvent).filterMap Event.batch? = [] := by
      simp [Event.batch?, delayEvent]
    have one : Event.batch? (injectEvent f.2) = some f.2 := rfl
    simp only [batches] at ih
    simp only [replay, batches, List.filterMap_append, silent, List.nil_append]
    rw [List.filterMap_cons_some one, ih, List.map_cons]

/-- There is at most one delay before a frame, of at least a millisecond, and none before the first. -/
theorem pauseBefore_cases (clock : Option Nat) (time : Nat) :
    pauseBefore clock time = [] ∨
      clock.isSome ∧ ∃ m, 1 ≤ m ∧ m ≤ time ∧ pauseBefore clock time = [m] := by
  cases clock with
  | none => exact .inl rfl
  | some c =>
    by_cases hm : 1 ≤ (time - c) / 1000
    · exact .inr ⟨rfl, _, hm, by omega, by simp [pauseBefore, hm]⟩
    · exact .inl (by simpa [pauseBefore] using hm)

/-- The next frame follows a delay. -/
private theorem replay_delayed {fs : List TimedFrame} (ht : Timely fs) {clock : Option Nat}
    {before after : List Event} {millis : UInt64}
    (h : replay clock fs = before ++ ⟨1, .delay millis⟩ :: after) :
    1 ≤ millis ∧ ∃ b, after.head? = some ⟨1, .inject b⟩ := by
  induction fs generalizing clock before with
  | nil => simp [replay] at h
  | cons f fs ih =>
    obtain ⟨hf, hfs⟩ := List.forall_mem_cons.mp ht
    -- Past the injection of the first frame, the delay is one of the later frames.
    have later {before : List Event} (h : injectEvent f.2 :: replay (some (clockAfter clock f.1)) fs =
        before ++ ⟨1, .delay millis⟩ :: after) :
        1 ≤ millis ∧ ∃ b, after.head? = some ⟨1, .inject b⟩ := by
      cases before with
      | nil => simp [injectEvent] at h
      | cons e before => exact ih hfs (List.cons.inj h).2
    rw [replay] at h
    rcases pauseBefore_cases clock f.1 with hp | ⟨-, m, hm, hmt, hp⟩
    · rw [hp] at h
      exact later h
    · rw [hp] at h
      cases before with
      | nil =>
        obtain ⟨hd, rfl⟩ := List.cons.inj h
        obtain ⟨-, rfl⟩ : deviceId = 1 ∧ UInt64.ofNat m = millis := by simpa [delayEvent] using hd
        refine ⟨?_, f.2, rfl⟩
        rw [UInt64.le_iff_toNat_le, UInt64.toNat_ofNat_of_lt' (by omega)]
        exact hm
      | cons e before => exact later (List.cons.inj h).2

/-- The first frame is not delayed. -/
private theorem replay_none_delayed {fs : List TimedFrame} {before after : List Event} {millis : UInt64}
    (h : replay none fs = before ++ ⟨1, .delay millis⟩ :: after) :
    ∃ e ∈ before, e.command = .inject := by
  cases fs with
  | nil => simp [replay] at h
  | cons f fs =>
    cases before with
    | nil => simp [replay, pauseBefore, injectEvent] at h
    | cons e before =>
      obtain ⟨rfl, -⟩ := List.cons.inj h
      exact ⟨injectEvent f.2, List.mem_cons_self, rfl⟩

theorem conserves_replay {lines : List Line} {es : List TimedEvent} (h : TellOf lines es) :
    Conserves es (replay none (frames es)) where
  addressed := replay_addressed none _
  injected := by rw [batches_replay, ← List.flatMap_def, flatMap_frames]
  whole := by
    rw [batches_replay]
    exact List.forall_mem_map.mpr (frames_whole es)
  ended := by
    rw [batches_replay, ← List.map_dropLast]
    exact List.forall_mem_map.mpr (frames_ended es)
  delayed before millis after hr :=
    have next := replay_delayed h.timely hr
    ⟨next.1, replay_none_delayed hr, next.2⟩

end Recording

/-- Events are neither lost, duplicated, reordered nor cut differently. A recording that can be read to
the end gives one registration and then exactly what its event lines tell, frame by frame. -/
theorem recording_conserves_events {s : Source} {events : List Event}
    (h : (Script.ofSource .evemu s).events = .ok events) :
    ∃ registration es rest, events = ⟨1, .register registration⟩ :: rest ∧
      TellOf s.eventLines es ∧ Conserves es rest := by
  obtain ⟨registration, es, told, rfl⟩ := Recording.events_of_eventLines h
  exact ⟨registration, es, _, rfl, told, Recording.conserves_replay told⟩

def interrupted : Source :=
  ⟨[Text.encode ("N: k
I: 0003 1234 5678 0111
E: 0.000000 0001 001e 1
# pause

" ++
    "E: 0.000000 0000 0000 0
E: 0.002500 0001 001e -1")], none⟩

theorem interrupted_conserved : ∃ events, (Script.ofSource .evemu interrupted).events = .ok events ∧
    ∃ registration es rest, events = ⟨1, .register registration⟩ :: rest ∧
      TellOf interrupted.eventLines es ∧ Conserves es rest := by
  have read : (Script.ofSource .evemu interrupted).events =
      .ok [⟨1, .register { name := "k", vendor := 0x1234, product := 0x5678, version := 0x111 }⟩,
        ⟨1, .inject [⟨1, 30, 1⟩, ⟨0, 0, 0⟩]⟩, ⟨1, .delay 2⟩, ⟨1, .inject [⟨1, 30, -1⟩]⟩] := by
    exact Script.events_of_feedWithin? (n := 5) (by decide +kernel)
  exact ⟨_, read, recording_conserves_events read⟩

end ScriptedInput

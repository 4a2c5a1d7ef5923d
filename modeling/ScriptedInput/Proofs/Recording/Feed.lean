import ScriptedInput.Proofs.Recording.Frames
import ScriptedInput.Proofs.Script.Feed

/-! The whole of what a recording gives: one registration for the header, then the frames of its event
lines on the replay clock. -/
namespace ScriptedInput

namespace Recording

abbrev feed (r : Recording) : Feed := (Script.recording r).feed

theorem feed_event {r t : Recording} {d : Delivery} (h : r.next = (.event d, t)) :
    r.feed.events = d.event :: t.feed.events ∧ r.feed.failure = t.feed.failure := by
  have step : (Script.recording r).next = (.event d, .recording t) := by simp [Script.next, h]
  simp [feed, Script.feed_event step, Feed.events]

private theorem feed_ended {r t : Recording} (h : r.next = (.ended, t)) : r.feed = ⟨[], none⟩ :=
  Script.feed_ended (t := .recording t) (by simp [Script.next, h])

theorem feed_failed {r t : Recording} {e : ParseError} (h : r.next = (.failed e, t)) :
    r.feed = ⟨[], some e⟩ :=
  Script.feed_failed (t := .recording t) (by simp [Script.next, h])

/-- A recording after its header, with these lines left and nothing that waits. -/
def underway (lines : Lines) (clock : Option Nat) : Recording := { lines, stage := .events, clock }

theorem next_headless {lines : Lines} {e : ParseError}
    (h : readHeader lines.failure {} lines.lines = .error e) :
    ({ lines } : Recording).next = (.failed e, finished { lines }) := by
  simp only [next, h]

theorem next_registered {lines : Lines} {registration : Registration} {rest : List Line}
    (h : readHeader lines.failure {} lines.lines = .ok (registration, rest)) :
    ({ lines } : Recording).next =
      (.event { event := ⟨deviceId, .register registration⟩ },
        underway { lines with lines := rest } none) := by
  simp only [next, h, underway]

/-- Events that wait are given first. -/
private theorem feed_pending (lines : Lines) (clock : Option Nat) (events : List Event) :
    ({ underway lines clock with pending := events } : Recording).feed.events =
        events ++ (underway lines clock).feed.events ∧
      ({ underway lines clock with pending := events } : Recording).feed.failure =
        (underway lines clock).feed.failure := by
  induction events with
  | nil => exact ⟨rfl, rfl⟩
  | cons e events ih =>
    have step : ({ underway lines clock with pending := e :: events } : Recording).next =
        (.event { event := e }, { underway lines clock with pending := events }) := by
      simp [next, give]
    obtain ⟨he, hf⟩ := feed_event step
    rw [he, hf, ih.1, ih.2]
    exact ⟨rfl, rfl⟩

/-- A recording that goes on to give what it has just read gives all of that. -/
private theorem feed_give {r t : Recording} {warnings : List Warning} (h : r.next = t.give warnings)
    (hp : t.pending ≠ []) :
    r.feed.events = t.feed.events ∧ r.feed.failure = t.feed.failure := by
  obtain ⟨e, rest, hr⟩ := List.exists_cons_of_ne_nil hp
  have given : r.next = (.event ⟨warnings, e⟩, { t with pending := rest }) := by
    simp [h, give, hr]
  have again : t.next = (.event { event := e }, { t with pending := rest }) := by
    simp [next, give, hr]
  rw [(feed_event given).1, (feed_event given).2, (feed_event again).1, (feed_event again).2]
  exact ⟨rfl, rfl⟩

/-- After the header come the frames, each put on the replay clock. -/
theorem feed_frames (lines : Lines) (clock : Option Nat) :
    let read := readFrames lines.count lines.failure none lines.lines
    (underway lines clock).feed.events = replay clock (read.1.map (·.timed)) ∧
      (underway lines clock).feed.failure = read.2 := by
  -- Each frame takes a line, so the lines that are left become fewer.
  induction hn : lines.lines.length using Nat.strongRecOn generalizing lines clock with
  | _ n ih =>
    rw [readFrames_step]
    rcases hr : readFrame lines.count lines.failure none lines.lines with e | ⟨_ | f, rest⟩
    · have step : (underway lines clock).next = (.failed e, (underway lines clock).finished) := by
        simp [next, underway, hr]
      rw [feed_failed step]
      exact ⟨rfl, rfl⟩
    · have step : (underway lines clock).next = (.ended, (underway lines clock).finished) := by
        simp [next, underway, hr]
      rw [feed_ended step]
      exact ⟨rfl, rfl⟩
    · let left : Lines := { lines with lines := rest }
      let s := schedule clock f
      have step : (underway lines clock).next =
          give { underway left (some s.clock) with pending := s.events } s.warnings := by
        simp [next, underway, hr, left, s]
      obtain ⟨he, hf⟩ := feed_give step (by simp [s, schedule_events])
      have fewer : rest.length < n := by
        rcases length_lt_of_readFrame hr with h | h
        · omega
        · simp at h
      obtain ⟨hle, hlf⟩ := ih rest.length fewer left (some s.clock) rfl
      rw [he, hf, (feed_pending ..).1, (feed_pending ..).2, hle, hlf]
      simp [s, left, schedule_events, schedule_clock, replay, EventFrame.timed]

/-- The header gives the registration, which comes first. -/
theorem feed_ofSource {s : Source} {registration : Registration} {rest : List Line}
    (h : readHeader (Lines.ofSource s).failure {} (Lines.ofSource s).lines =
      .ok (registration, rest)) :
    let read := readFrames (Lines.ofSource s).count (Lines.ofSource s).failure none rest
    (ofSource s).feed.events =
        ⟨deviceId, .register registration⟩ :: replay none (read.1.map (·.timed)) ∧
      (ofSource s).feed.failure = read.2 := by
  obtain ⟨he, hf⟩ := feed_event (r := ofSource s) (next_registered h)
  obtain ⟨hr, hrf⟩ := feed_frames { Lines.ofSource s with lines := rest } none
  rw [he, hf, hr, hrf]
  exact ⟨rfl, rfl⟩

/-- A recording that can be read to the end has a header and event lines after it. -/
theorem readHeader_of_events {s : Source} {events : List Event}
    (h : (Script.ofSource .evemu s).events = .ok events) :
    (Lines.ofSource s).failure = none ∧ ∃ registration rest es, TellOf rest es ∧
      readHeader none {} (Lines.ofSource s).lines = .ok (registration, rest) := by
  obtain ⟨hf, -⟩ := Script.events_eq_ok_iff.mp h
  change (ofSource s).feed.failure = none at hf
  cases hr : readHeader (Lines.ofSource s).failure {} (Lines.ofSource s).lines with
  | error e =>
    simp [feed_failed (r := ofSource s) (next_headless hr)] at hf
  | ok read =>
    rw [(feed_ofSource hr).2] at hf
    obtain ⟨hnone, es, hes⟩ := tellOf_of_readFrames hf
    exact ⟨hnone, read.1, read.2, es, hes, hnone ▸ hr⟩

/-- A recording with a header and event lines after it gives the registration of the one and the
frames of the others. -/
theorem events_of_readHeader {s : Source} {registration : Registration} {rest : List Line}
    {es : List TimedEvent} (hs : (Lines.ofSource s).failure = none) (hes : TellOf rest es)
    (hr : readHeader none {} (Lines.ofSource s).lines = .ok (registration, rest)) :
    (Script.ofSource .evemu s).events =
      .ok (⟨deviceId, .register registration⟩ :: replay none (frames es)) := by
  rw [← hs] at hr
  obtain ⟨he, hf⟩ := feed_ofSource hr
  obtain ⟨fs, hfs, hm⟩ := readFrames_of_tellOf hes (Lines.ofSource s).count none
  rw [hs, hfs] at he hf
  rw [hm] at he
  exact Script.events_eq_ok_iff.mpr ⟨hf, he⟩

end Recording

private theorem Line.isEvent_iff (l : Line) : l.isEvent ↔ ∃ body, l.text = 'E' :: ':' :: body := by
  rw [Line.isEvent, List.isPrefixOf_iff_prefix]
  constructor
  · rintro ⟨body, h⟩
    exact ⟨body, h.symm⟩
  · rintro ⟨body, h⟩
    exact ⟨body, h.symm⟩

private theorem Line.Tells.isEvent {l : Line} {e : TimedEvent} (h : l.Tells e) : l.isEvent := by
  obtain ⟨body, _, _, _, _, ht, -⟩ := h
  exact l.isEvent_iff.mpr ⟨body, ht⟩

theorem Line.Tells.lt {l : Line} {e : TimedEvent} (h : l.Tells e) : e.timestamp < UInt64.size := by
  obtain ⟨_, _, _, _, _, -, -, written⟩ := h
  exact LineField.lt_of_timestamp? written.time

private theorem TellOf.filter {lines : List Line} {es : List TimedEvent} (h : TellOf lines es) :
    lines.filter (·.isEvent) = lines := by
  induction h with
  | nil => rfl
  | cons he _ ih => rw [List.filter_cons_of_pos he.isEvent, ih]

/-- Event lines are neither blank nor comments. -/
private theorem Lines.counts_of_isEvent {l : Line} (h : l.isEvent) : Lines.counts l.text := by
  obtain ⟨body, ht⟩ := l.isEvent_iff.mp h
  rw [ht]
  simp [Lines.counts, Text.isBlank]

/-- All event lines of a text are among the lines that count. -/
private theorem Lines.filter_number {failure : Option IoError} {n : Nat} {raws : List (List UInt8)}
    (h : (Lines.number failure n raws).failure = none) :
    (Lines.number failure n raws).lines.filter (·.isEvent) = eventLinesFrom (n + 1) raws := by
  induction raws generalizing n with
  | nil => rfl
  | cons raw raws ih =>
    cases hd : Text.decode? raw with
    | none => simp [Lines.number, hd] at h
    | some s =>
      let l : Line := ⟨n + 1, Lines.withoutReturns s.toList⟩
      have later : (Lines.number failure n (raw :: raws)).failure =
          (Lines.number failure (n + 1) raws).failure := by
        simp only [Lines.number, hd]
        split <;> rfl
      have kept : (Lines.number failure n (raw :: raws)).lines =
          (if Lines.counts l.text then [l] else []) ++
            (Lines.number failure (n + 1) raws).lines := by
        simp only [Lines.number, hd, l]
        split <;> rfl
      have told : eventLinesFrom (n + 1) (raw :: raws) =
          (if l.isEvent then [l] else []) ++ eventLinesFrom (n + 1 + 1) raws := by
        simp only [eventLinesFrom, hd, l]
        split <;> rfl
      rw [kept, told, List.filter_append, ih (later ▸ h)]
      cases he : l.isEvent with
      | true => simp [Lines.counts_of_isEvent he, he]
      | false => by_cases hc : Lines.counts l.text <;> simp [hc, he]

namespace Recording

theorem not_isEvent_of_step {h h' : Header} {l : Line} (hs : h.step l = .ok (.more h')) :
    l.isEvent = false := by
  by_contra he
  obtain ⟨body, ht⟩ := l.isEvent_iff.mp (by simpa using he)
  rw [Header.step, ht] at hs
  obtain ⟨e, -, hf⟩ := map_eq_ok_iff.mp (by simpa using hs)
  cases hf

/-- The header has no event lines. -/
private theorem filter_readHeader {failure : Option IoError} {h : Header} {lines rest : List Line}
    {registration : Registration} (hr : readHeader failure h lines = .ok (registration, rest)) :
    lines.filter (·.isEvent) = rest.filter (·.isEvent) := by
  induction lines generalizing h with
  | nil =>
    unfold readHeader at hr
    split at hr
    · simp at hr
    · split at hr <;> simp at hr
      simp [← hr.2]
  | cons line lines ih =>
    unfold readHeader at hr
    split at hr
    · simp at hr
    · next hs => rw [List.filter_cons_of_neg (by simp [not_isEvent_of_step hs]), ih hr]
    · split at hr <;> simp at hr
      simp [← hr.2]

/-- A recording that can be read to the end gives a registration, and then the frames of what its
event lines tell. -/
theorem events_of_eventLines {s : Source} {events : List Event}
    (h : (Script.ofSource .evemu s).events = .ok events) :
    ∃ registration es, TellOf s.eventLines es ∧
      events = ⟨deviceId, .register registration⟩ :: replay none (frames es) := by
  obtain ⟨hs, registration, rest, es, hes, hr⟩ := readHeader_of_events h
  refine ⟨registration, es, ?_, ?_⟩
  · have lines : (Lines.ofSource s).lines.filter (·.isEvent) = s.eventLines :=
      Lines.filter_number hs
    rwa [← lines, filter_readHeader hr, hes.filter]
  · have read := events_of_readHeader hs hes hr
    rw [h] at read
    exact Except.ok.inj read

end Recording
end ScriptedInput

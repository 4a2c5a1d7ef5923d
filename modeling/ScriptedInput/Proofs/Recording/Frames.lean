import ScriptedInput.Proofs.Recording.EventLine
import ScriptedInput.Script.Reading

/-! Event lines in frames, and the frames on the replay clock: what a recording gives after its
registration, told from its event lines alone. -/
namespace ScriptedInput

/-- A time in microseconds, and the input events from then on up to a synchronisation report. -/
abbrev TimedFrame := Nat × List RawEvent

def beginWith (f : TimedFrame) : List TimedFrame → List TimedFrame
  | [] => [f]
  | g :: fs => (f.1, f.2 ++ g.2) :: fs

/-- Timed events in frames. A frame ends with its first synchronisation report, the last one perhaps
without any, and has the time of its first event. -/
def frames : List TimedEvent → List TimedFrame
  | [] => []
  | e :: es =>
    let first : TimedFrame := (e.timestamp, [e.event])
    if e.event.isSyncReport then first :: frames es else beginWith first (frames es)

private theorem beginWith_beginWith (f g : TimedFrame) (fs : List TimedFrame) :
    beginWith f (beginWith g fs) = beginWith (f.1, f.2 ++ g.2) fs := by
  cases fs <;> simp [beginWith]

/-- Frames take nothing away and add nothing. -/
theorem flatMap_frames (es : List TimedEvent) : (frames es).flatMap (·.2) = es.map (·.event) := by
  induction es with
  | nil => rfl
  | cons e es ih =>
    by_cases hs : e.event.isSyncReport
    · simp [frames, hs, ih]
    · cases hf : frames es <;> simp [frames, beginWith, hs, hf, ← ih]

/-- A frame is never empty, and only its last event may be a synchronisation report. -/
theorem frames_whole (es : List TimedEvent) :
    ∀ f ∈ frames es, f.2 ≠ [] ∧ ∀ e ∈ f.2.dropLast, ¬ e.isSyncReport := by
  induction es with
  | nil => simp [frames]
  | cons e es ih =>
    by_cases hs : e.event.isSyncReport
    · simpa [frames, hs] using ih
    · cases hr : frames es with
      | nil => simp [frames, beginWith, hs, hr]
      | cons g rest =>
        rw [hr, List.forall_mem_cons] at ih
        obtain ⟨⟨hne, hg⟩, hrest⟩ := ih
        simpa [frames, beginWith, hs, hr, List.dropLast_cons_of_ne_nil hne, hne] using
          ⟨by simpa using hg, by simpa using hrest⟩

/-- All frames but the last end with a synchronisation report. -/
theorem frames_ended (es : List TimedEvent) :
    ∀ f ∈ (frames es).dropLast, ∃ e ∈ f.2.getLast?, e.isSyncReport := by
  induction es with
  | nil => simp [frames]
  | cons e es ih =>
    cases hr : frames es with
    | nil => by_cases hs : e.event.isSyncReport <;> simp [frames, beginWith, hs, hr]
    | cons g rest =>
      by_cases hs : e.event.isSyncReport
      · rw [hr] at ih
        simpa [frames, hs, hr] using ih
      · have hne := (frames_whole es g (by simp [hr])).1
        cases rest with
        | nil => simp [frames, beginWith, hs, hr]
        | cons g' rest =>
          rw [hr, List.dropLast_cons_cons, List.forall_mem_cons] at ih
          have last : (e.event :: g.2).getLast? = g.2.getLast? := by
            rw [List.getLast?_cons, List.getLast?_eq_some_getLast hne]
            rfl
          simp only [frames, hs, hr, Bool.false_eq_true, if_false, beginWith, List.singleton_append,
            List.dropLast_cons_cons, List.forall_mem_cons, last]
          exact ih

def Line.isEvent (l : Line) : Bool := ['E', ':'].isPrefixOf l.text

/-- The event lines among raw lines, which are numbered from `n` on. Bytes that are no text make no
line. -/
def eventLinesFrom (n : Nat) : List (List UInt8) → List Line
  | [] => []
  | raw :: rest =>
    match Text.decode? raw with
    | none => eventLinesFrom (n + 1) rest
    | some s =>
      let line : Line := ⟨n, Lines.withoutReturns s.toList⟩
      if line.isEvent then line :: eventLinesFrom (n + 1) rest else eventLinesFrom (n + 1) rest

def Source.eventLines (s : Source) : List Line := eventLinesFrom 1 s.rawLines

abbrev TellOf : List Line → List TimedEvent → Prop := List.Forall₂ Line.Tells

def EventFrame.timed (f : EventFrame) : TimedFrame := (f.timestamp, f.events)

namespace Recording

/-- The delay before a frame of this time, if there is one: whole milliseconds of the time that has
passed since the clock. -/
def pauseBefore (clock : Option Nat) (time : Nat) : List Nat :=
  match clock with
  | none => []
  | some clock => [(time - clock) / 1000].filter (1 ≤ ·)

/-- The clock after a frame of this time. What is less than a millisecond is left for later, and a
frame before the clock starts it anew. -/
def clockAfter (clock : Option Nat) (time : Nat) : Nat :=
  match clock with
  | none => time
  | some clock => if time < clock then time else clock + (time - clock) / 1000 * 1000

def delayEvent (millis : Nat) : Event := ⟨deviceId, .delay (UInt64.ofNat millis)⟩

def injectEvent (events : List RawEvent) : Event := ⟨deviceId, .inject events⟩

def replay : Option Nat → List TimedFrame → List Event
  | _, [] => []
  | clock, (time, events) :: fs =>
    (pauseBefore clock time).map delayEvent ++
      injectEvent events :: replay (some (clockAfter clock time)) fs

theorem schedule_events (clock : Option Nat) (f : EventFrame) :
    (schedule clock f).events =
      (pauseBefore clock f.timestamp).map delayEvent ++ [injectEvent f.events] := by
  cases clock with
  | none => rfl
  | some c =>
    by_cases hb : f.timestamp < c
    · have hz : f.timestamp - c = 0 := by omega
      simp [schedule, pauseBefore, injectEvent, hb, hz]
    · by_cases hd : 1 ≤ (f.timestamp - c) / 1000 <;>
        simp [schedule, delayThreshold, pauseBefore, injectEvent, delayEvent, hb, hd]

theorem schedule_clock (clock : Option Nat) (f : EventFrame) :
    (schedule clock f).clock = clockAfter clock f.timestamp := by
  cases clock with
  | none => rfl
  | some c =>
    by_cases hb : f.timestamp < c
    · simp [schedule, clockAfter, hb]
    · by_cases hd : 1 ≤ (f.timestamp - c) / 1000
      · simp [schedule, delayThreshold, clockAfter, hb, hd]
      · have hz : (f.timestamp - c) / 1000 = 0 := by omega
        simp [schedule, delayThreshold, clockAfter, hb, hz]

def readFrames (count : Nat) (failure : Option IoError) (begun : Option EventFrame) :
    List Line → List EventFrame × Option ParseError
  | [] => match failure with
    | some e => ([], some (.io e))
    | none => ((begun.map fun f => { f with line := count }).toList, none)
  | line :: rest => match eventOfLine line with
    | .error f => ([], some (fault line f))
    | .ok e =>
      let frame := addEvent begun line e
      if e.event.isSyncReport then
        let (fs, failure) := readFrames count failure none rest
        (frame :: fs, failure)
      else readFrames count failure (some frame) rest

/-- One frame after the other is read, until none is left or reading fails. -/
theorem readFrames_step (count : Nat) (failure : Option IoError) (begun : Option EventFrame)
    (lines : List Line) :
    readFrames count failure begun lines =
      match readFrame count failure begun lines with
      | .error e => ([], some e)
      | .ok (none, _) => ([], none)
      | .ok (some f, rest) =>
        (f :: (readFrames count failure none rest).1, (readFrames count failure none rest).2) := by
  induction lines generalizing begun with
  | nil => cases failure <;> cases begun <;> rfl
  | cons line lines ih =>
    simp only [readFrames, readFrame]
    cases eventOfLine line with
    | error f => rfl
    | ok e =>
      by_cases hs : e.event.isSyncReport
      · simp only [hs, if_true]
      · simp only [hs, Bool.false_eq_true, if_false]
        exact ih _

def framesFrom (begun : Option EventFrame) (es : List TimedEvent) : List TimedFrame :=
  match begun with
  | none => frames es
  | some f => beginWith f.timed (frames es)

private theorem framesFrom_cons (begun : Option EventFrame) (line : Line) (e : TimedEvent)
    (es : List TimedEvent) :
    framesFrom begun (e :: es) =
      if e.event.isSyncReport then (addEvent begun line e).timed :: frames es
      else framesFrom (some (addEvent begun line e)) es := by
  cases begun with
  | none => rfl
  | some f =>
    by_cases hs : e.event.isSyncReport
    · simp [framesFrom, frames, hs, beginWith, addEvent, EventFrame.timed]
    · simp [framesFrom, frames, hs, beginWith_beginWith, addEvent, EventFrame.timed]

/-- Event lines can be read to the end, and the frames are theirs. -/
theorem readFrames_of_tellOf {lines : List Line} {es : List TimedEvent} (h : TellOf lines es)
    (count : Nat) (begun : Option EventFrame) :
    ∃ fs, readFrames count none begun lines = (fs, none) ∧
      fs.map (·.timed) = framesFrom begun es := by
  induction h generalizing begun with
  | nil =>
    refine ⟨_, rfl, ?_⟩
    cases begun <;> rfl
  | @cons line e lines es he _ ih =>
    simp only [readFrames, eventOfLine_eq_ok_iff.mpr he, framesFrom_cons begun line]
    by_cases hs : e.event.isSyncReport
    · obtain ⟨fs, hf, hm⟩ := ih none
      exact ⟨addEvent begun line e :: fs, by simp [hs, hf], by simp [hs, hm, framesFrom]⟩
    · obtain ⟨fs, hf, hm⟩ := ih (some (addEvent begun line e))
      exact ⟨fs, by simp [hs, hf], by simp [hs, hm]⟩

/-- Lines that can be read to the end are event lines. -/
theorem tellOf_of_readFrames {count : Nat} {failure : Option IoError} {begun : Option EventFrame}
    {lines : List Line} (h : (readFrames count failure begun lines).2 = none) :
    failure = none ∧ ∃ es, TellOf lines es := by
  induction lines generalizing begun with
  | nil =>
    cases failure with
    | some e => simp [readFrames] at h
    | none => exact ⟨rfl, [], .nil⟩
  | cons line lines ih =>
    simp only [readFrames] at h
    cases he : eventOfLine line with
    | error f => simp [he] at h
    | ok e =>
      simp only [he] at h
      have rest : failure = none ∧ ∃ es, TellOf lines es := by
        by_cases hs : e.event.isSyncReport
        · simp only [hs, if_true] at h
          exact ih h
        · simp only [hs, Bool.false_eq_true, if_false] at h
          exact ih h
      obtain ⟨hf, es, hr⟩ := rest
      exact ⟨hf, e :: es, .cons (eventOfLine_eq_ok_iff.mp he) hr⟩

end Recording
end ScriptedInput

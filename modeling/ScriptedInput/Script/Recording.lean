import ScriptedInput.Script.Header
import ScriptedInput.Script.Outcome

/-! Replaying a recording: its header is one registration, each frame of its events is one
injection, and the time between two frames is a delay before the second. -/
namespace ScriptedInput

/-- Input events up to and including a synchronisation report, the time of the first, and the number
of the last line read for them. -/
structure EventFrame where
  timestamp : Nat
  events : List RawEvent
  line : Nat
  deriving DecidableEq, Repr

inductive Stage where
  | header | events | done
  deriving DecidableEq, Repr

structure Recording where
  lines : Lines
  stage : Stage := .header
  /-- Events that have been read and not yet given. -/
  pending : List Event := []
  /-- The time, in microseconds, up to which the replay has been scheduled. -/
  clock : Option Nat := none
  deriving DecidableEq, Repr

namespace Recording

/-- A recording is of one device, which gets this number. -/
def deviceId : DeviceId := 1

/-- The shortest delay that is replayed, in milliseconds. -/
def delayThreshold : Nat := 1

def ofSource (s : Source) : Recording := { lines := .ofSource s }

def fault (line : Line) (f : LineFault) : ParseError :=
  .malformed (.line line.number f.column) (.recording f.fault)

abbrev HeaderRead := Except ParseError (Registration × List Line)

def readHeader (failure : Option IoError) (h : Header) : List Line → HeaderRead
  | [] =>
    match failure with
    | some e => .error (.io e)
    | none => match h.registration with
      | .ok r => .ok (r, [])
      | .error f => .error (.malformed .endOfInput (.recording f))
  | line :: rest =>
    match h.step line with
    | .error f => .error (fault line f)
    | .ok (.more h) => readHeader failure h rest
    | .ok (.event _) => match h.registration with
      | .ok r => .ok (r, line :: rest)
      | .error f => .error (fault line ⟨1, f⟩)

def eventOfLine (line : Line) : Except LineFault TimedEvent :=
  match line.text with
  | 'E' :: ':' :: body => TimedEvent.ofLine line body
  | _ => .error ⟨1, .notEvent line.string⟩

/-- A frame with one more event. The frame keeps the time of its first. -/
def addEvent (begun : Option EventFrame) (line : Line) (e : TimedEvent) : EventFrame :=
  match begun with
  | none => ⟨e.timestamp, [e.event], line.number⟩
  | some f => ⟨f.timestamp, f.events ++ [e.event], line.number⟩

/-- Reads the rest of a frame. The end of the recording ends a frame that has begun. -/
def readFrame (count : Nat) (failure : Option IoError) (begun : Option EventFrame) :
    List Line → Except ParseError (Option EventFrame × List Line)
  | [] =>
    match failure with
    | some e => .error (.io e)
    | none => .ok (begun.map (fun f => { f with line := count }), [])
  | line :: rest =>
    match eventOfLine line with
    | .error f => .error (fault line f)
    | .ok e =>
      let frame := addEvent begun line e
      if e.event.isSyncReport then .ok (some frame, rest)
      else readFrame count failure (some frame) rest

structure Scheduled where
  warnings : List Warning
  events : List Event
  clock : Nat
  deriving DecidableEq, Repr

/-- Puts a frame on the replay clock. The clock counts whole milliseconds from the first frame on,
so that what a delay leaves out is made up by a later one. A frame before the clock starts it anew.
-/
def schedule (clock : Option Nat) (f : EventFrame) : Scheduled :=
  let inject : Event := ⟨deviceId, .inject f.events⟩
  match clock with
  | none => ⟨[], [inject], f.timestamp⟩
  | some clock =>
    if f.timestamp < clock then
      ⟨[.clockRestart f.line f.timestamp clock], [inject], f.timestamp⟩
    else
      let millis := (f.timestamp - clock) / 1000
      if delayThreshold ≤ millis then
        ⟨[], [⟨deviceId, .delay (UInt64.ofNat millis)⟩, inject], clock + millis * 1000⟩
      else ⟨[], [inject], clock⟩

def finished (r : Recording) : Recording := { r with stage := .done, pending := [] }

def give (r : Recording) (warnings : List Warning) : Outcome × Recording :=
  match r.pending with
  | [] => (.ended, r.finished)
  | e :: rest => (.event ⟨warnings, e⟩, { r with pending := rest })

def next (r : Recording) : Outcome × Recording :=
  match r.pending, r.stage with
  | _ :: _, _ => r.give []
  | [], .done => (.ended, r)
  | [], .header =>
    match readHeader r.lines.failure {} r.lines.lines with
    | .error e => (.failed e, r.finished)
    | .ok (registration, rest) =>
      (.event { event := ⟨deviceId, .register registration⟩ },
        { r with lines := { r.lines with lines := rest }, stage := .events })
  | [], .events =>
    match readFrame r.lines.count r.lines.failure none r.lines.lines with
    | .error e => (.failed e, r.finished)
    | .ok (none, _) => (.ended, r.finished)
    | .ok (some frame, rest) =>
      let s := schedule r.clock frame
      let r := { r with
        lines := { r.lines with lines := rest }, pending := s.events, clock := some s.clock }
      r.give s.warnings

/-- A header that was read leaves no more lines than there were. -/
theorem length_le_of_readHeader {failure : Option IoError} {h : Header} {lines rest : List Line}
    {r : Registration} (hr : readHeader failure h lines = .ok (r, rest)) :
    rest.length ≤ lines.length := by
  induction lines generalizing h with
  | nil =>
    unfold readHeader at hr
    split at hr
    · simp at hr
    · split at hr <;> simp at hr
      simp [← hr.2]
  | cons line lines ih =>
    unfold readHeader at hr
    split at hr
    · simp at hr
    · exact Nat.le_succ_of_le (ih hr)
    · split at hr <;> simp at hr
      simp [← hr.2]

/-- A frame takes at least one line, unless it had begun. -/
theorem length_lt_of_readFrame {count : Nat} {failure : Option IoError}
    {begun : Option EventFrame} {lines rest : List Line} {f : EventFrame}
    (hf : readFrame count failure begun lines = .ok (some f, rest)) :
    rest.length < lines.length ∨ begun.isSome ∧ rest.length ≤ lines.length := by
  induction lines generalizing begun with
  | nil =>
    unfold readFrame at hf
    split at hf
    · simp at hf
    · cases begun <;> simp_all
  | cons line lines ih =>
    unfold readFrame at hf
    split at hf
    · simp at hf
    · dsimp only at hf
      split at hf
      · simp at hf
        simp [← hf.2]
      · have := ih hf
        simp only [List.length_cons]
        omega

def size (r : Recording) : Nat × Nat :=
  (r.lines.lines.length + if r.stage = .header then 1 else 0, r.pending.length)

theorem give_event {r t : Recording} {warnings : List Warning} {d : Delivery}
    (h : r.give warnings = (.event d, t)) :
    t.lines = r.lines ∧ t.stage = r.stage ∧ t.pending.length < r.pending.length := by
  unfold give at h
  split at h
  · simp at h
  · next hp =>
    obtain ⟨-, rfl⟩ := Prod.mk.inj h
    simp [hp]

theorem size_lt_of_next {r t : Recording} {d : Delivery} (h : r.next = (.event d, t)) :
    Prod.Lex (· < ·) (· < ·) t.size r.size := by
  unfold next at h
  split at h
  · obtain ⟨hl, hs, hp⟩ := give_event h
    simp [Prod.lex_def, size, hl, hs, hp]
  · simp at h
  · next hs =>
    split at h
    · simp at h
    · next hr =>
      obtain ⟨-, rfl⟩ := Prod.mk.inj h
      have := length_le_of_readHeader hr
      simp [Prod.lex_def, size, hs]
      omega
  · next hs =>
    split at h
    · simp at h
    · simp at h
    · next hf =>
      have := length_lt_of_readFrame hf
      obtain ⟨hl, ht, -⟩ := give_event h
      simp_all [Prod.lex_def, size]

end Recording
end ScriptedInput

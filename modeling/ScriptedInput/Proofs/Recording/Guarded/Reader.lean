import ScriptedInput.Proofs.Recording.Guarded.LineReading
import ScriptedInput.Proofs.Recording.HeaderLines
import ScriptedInput.Proofs.Recording.TextLines
import ScriptedInput.Proofs.Script.Discipline

/-! Reading a recording line by line, with all that could stop a program in the midst of it, and why
nothing does. The lines still to be read are those of the recording, so that each call answers what the
recording answers. -/
namespace ScriptedInput

open Recording (fault deviceId schedule64?)

/-- A text without line feeds and carriage returns at its end. -/
def Lines.withoutBreaks (cs : List Char) : List Char :=
  (cs.reverse.dropWhile fun c => c = '\n' || c = '\r').reverse

/-- How the lines of a recording end: in a failure behind bytes that are no whole line, or with the last
line. -/
structure Ending where
  torn : List UInt8
  failure : Option IoError

structure Ahead where
  /-- The lines, each with the line feed that ends it. -/
  unread : List (List UInt8)
  /-- The number of the last line that was read. -/
  count : Nat := 0
  /-- The event of the line that ended the header, as long as it is in no frame. -/
  lookahead : Option TimedEvent := none

structure Reader where
  ending : Ending
  ahead : Ahead
  stage : Stage := .header
  pending : List Event := []
  clock : Option Nat := none

inductive LineRead where
  | undecodable
  /-- A line that does not count, with its number. -/
  | skipped (count : Nat)
  | line (line : Line)

def Ending.meet (ending : Ending) : Except Trap (Option IoError) :=
  if longestText < ending.torn.length then .error .memory else .ok ending.failure

namespace Reader

def ofSource (s : Source) : Reader :=
  let (lines, left) := splitLines s.bytes
  let last := if left.isEmpty || s.failure.isSome then [] else [left]
  { ending := ⟨if s.failure.isSome then left else [], s.failure⟩
    ahead := { unread := lines.map (· ++ [10]) ++ last } }

def lineNumber (count : Nat) : Except Trap Nat :=
  if count + 1 < UInt64.size then .ok (count + 1) else .error .lineCount

def readLine (count : Nat) (bytes : List UInt8) : Except Trap LineRead :=
  if longestText < bytes.length then .error .memory
  else match Text.decode? bytes with
    | none => .ok .undecodable
    | some s => do
      let number ← lineNumber count
      let text ← Text.sliceTo s.toList (Text.width (Lines.withoutBreaks s.toList))
      return if Lines.counts text then .line ⟨number, text⟩ else .skipped number

def readHeader (ending : Ending) (count : Nat) (h : Header) :
    List (List UInt8) → Except Trap (Except ParseError (Registration × Ahead))
  | [] => do
    match ← ending.meet with
    | some e => return .error (.io e)
    | none => match h.registration with
      | .ok r => return .ok (r, { unread := [], count })
      | .error f => return .error (.malformed .endOfInput (.recording f))
  | bytes :: unread => do
    match ← readLine count bytes with
    | .undecodable => return .error (.io .notUtf8)
    | .skipped count => readHeader ending count h unread
    | .line line =>
      match ← (guardedStep h line.text).run with
      | .error f => return .error (fault line f)
      | .ok (.more h) => readHeader ending line.number h unread
      | .ok (.event e) => match h.registration with
        | .ok r => return .ok (r, { unread, count := line.number, lookahead := some e })
        | .error f => return .error (fault line ⟨1, f⟩)

def addTimed (begun : Option (Nat × List RawEvent)) (e : TimedEvent) : Nat × List RawEvent :=
  match begun with
  | none => (e.timestamp, [e.event])
  | some (time, events) => (time, events ++ [e.event])

def frameAt (line : Nat) (frame : Nat × List RawEvent) : EventFrame := ⟨frame.1, frame.2, line⟩

def readFrame (ending : Ending) (count : Nat) (begun : Option (Nat × List RawEvent)) :
    List (List UInt8) → Except Trap (Except ParseError (Option EventFrame × Ahead))
  | [] => do
    match ← ending.meet with
    | some e => return .error (.io e)
    | none => return .ok (begun.map (frameAt count), { unread := [], count })
  | bytes :: unread => do
    match ← readLine count bytes with
    | .undecodable => return .error (.io .notUtf8)
    | .skipped count => readFrame ending count begun unread
    | .line line =>
      match ← (guardedLater line.text).run with
      | .error f => return .error (fault line f)
      | .ok e =>
        let frame := addTimed begun e
        if e.event.isSyncReport then
          return .ok (some (frameAt line.number frame), { unread, count := line.number })
        else readFrame ending line.number (some frame) unread

/-- Reads a frame, which begins with the event that ended the header if that is in no other. -/
def nextFrame (ending : Ending) (ahead : Ahead) :
    Except Trap (Except ParseError (Option EventFrame × Ahead)) :=
  match ahead.lookahead with
  | none => readFrame ending ahead.count none ahead.unread
  | some e =>
    let frame := addTimed none e
    if e.event.isSyncReport then
      .ok (.ok (some (frameAt ahead.count frame), { ahead with lookahead := none }))
    else readFrame ending ahead.count (some frame) ahead.unread

def finished (r : Reader) : Reader := { r with stage := .done, pending := [] }

def give (r : Reader) (warnings : List Warning) : Outcome × Reader :=
  match r.pending with
  | [] => (.ended, r.finished)
  | e :: rest => (.event ⟨warnings, e⟩, { r with pending := rest })

def next (r : Reader) : Except Trap (Outcome × Reader) :=
  match r.pending, r.stage with
  | _ :: _, _ => .ok (r.give [])
  | [], .done => .ok (.ended, r)
  | [], .header => do
    match ← readHeader r.ending r.ahead.count { masks := default, axes := default } r.ahead.unread with
    | .error e => return (.failed e, r.finished)
    | .ok (registration, ahead) =>
      return (.event { event := ⟨deviceId, .register registration⟩ }, { r with ahead, stage := .events })
  | [], .events => do
    match ← nextFrame r.ending r.ahead with
    | .error e => return (.failed e, r.finished)
    | .ok (none, _) => return (.ended, r.finished)
    | .ok (some frame, ahead) =>
      let s ← orTrap .overflow (schedule64? r.clock frame)
      return { r with ahead, pending := s.events, clock := some s.clock }.give s.warnings

def answers : Nat → Reader → Except Trap (List Outcome)
  | 0, _ => .ok []
  | calls + 1, r => do
    let (o, r) ← r.next
    return o :: (← answers calls r)

end Reader

/-- The work comes to what is said of it, or it is stopped for want of room: by an input that is longer than
any text can be. -/
def Comes {α : Type} (total : Nat) (x : Except Trap α) (P : α → Prop) : Prop :=
  match x with
  | .ok a => P a
  | .error trap => longestText < total ∧ (trap = .memory ∨ trap = .lineCount)

namespace Comes
variable {α β : Type} {total : Nat} {P : α → Prop} {Q : β → Prop}

private theorem bind {x : Except Trap α} {f : α → Except Trap β} (hx : Comes total x P)
    (hf : ∀ a, P a → Comes total (f a) Q) : Comes total (x >>= f) Q := by
  cases x with
  | error trap => exact hx
  | ok a => exact hf a hx

private theorem bind_ok {x : Except Trap α} {f : α → Except Trap β} {a : α} (hx : x = .ok a)
    (hf : Comes total (f a) Q) : Comes total (x >>= f) Q := by
  subst hx
  exact hf

end Comes

def FedLine (bytes raw : List UInt8) : Prop := 10 ∉ raw ∧ (bytes = raw ++ [10] ∨ bytes = raw ∧ raw ≠ [])

private theorem FedLine.length_pos {bytes raw : List UInt8} (h : FedLine bytes raw) :
    0 < bytes.length := by
  rcases h.2 with rfl | ⟨rfl, some⟩
  · simp
  · exact List.length_pos_iff.mpr some

inductive LineRead.Tells (count : Nat) (raw : List UInt8) : LineRead → Prop where
  | undecodable (none : Text.decode? raw = none) : Tells count raw .undecodable
  | skipped {s : String} (text : Text.decode? raw = some s)
    (blank : Lines.counts (Lines.withoutReturns s.toList) = false) : Tells count raw (.skipped (count + 1))
  | line {s : String} (text : Text.decode? raw = some s)
    (counts : Lines.counts (Lines.withoutReturns s.toList))
    (fits : Text.width (Lines.withoutReturns s.toList) ≤ longestText) :
    Tells count raw (.line ⟨count + 1, Lines.withoutReturns s.toList⟩)

namespace Lines

private theorem withoutBreaks_append_feed (cs : List Char) :
    withoutBreaks (cs ++ ['\n']) = withoutBreaks cs := by
  rw [withoutBreaks, List.reverse_append, List.reverse_singleton, List.singleton_append,
    List.dropWhile_cons_of_pos (by simp), withoutBreaks]

private theorem withoutBreaks_eq {cs : List Char} (whole : '\n' ∉ cs) :
    withoutBreaks cs = withoutReturns cs := by
  have same {ds : List Char} (whole : '\n' ∉ ds) :
      ds.dropWhile (fun c => c = '\n' || c = '\r') = ds.dropWhile (· = '\r') := by
    induction ds with
    | nil => rfl
    | cons d ds ih =>
      have first : d ≠ '\n' := fun h => whole (h ▸ List.mem_cons_self)
      simp only [List.dropWhile_cons, first, decide_false, Bool.false_or,
        ih fun h => whole (List.mem_cons_of_mem d h)]
  rw [withoutBreaks, withoutReturns, same (by simpa using whole)]

/-- What is cut off is the end. -/
private theorem exists_withoutBreaks (cs : List Char) : ∃ back, cs = withoutBreaks cs ++ back := by
  refine ⟨(cs.reverse.takeWhile fun c => c = '\n' || c = '\r').reverse, ?_⟩
  rw [withoutBreaks, ← List.reverse_append, List.takeWhile_append_dropWhile, List.reverse_reverse]

/-- A text is cut between its characters where its line ends. -/
private theorem sliceTo_withoutBreaks (cs : List Char) :
    Text.sliceTo cs (Text.width (withoutBreaks cs)) = .ok (withoutBreaks cs) := by
  obtain ⟨back, parts⟩ := exists_withoutBreaks cs
  have cut := Text.sliceTo_append (withoutBreaks cs) back
  rwa [← parts] at cut

private theorem width_withoutBreaks_le (cs : List Char) :
    Text.width (withoutBreaks cs) ≤ Text.width cs := by
  obtain ⟨back, parts⟩ := exists_withoutBreaks cs
  have sum := congrArg Text.width parts
  rw [Text.width_append] at sum
  omega

end Lines

namespace Reader
variable {total count : Nat}

private theorem comes_lineNumber (room : count + 1 ≤ total) :
    Comes total (lineNumber count) (· = count + 1) := by
  unfold lineNumber
  split_ifs with fits
  · exact rfl
  · have longest : longestText < UInt64.size := by decide
    exact ⟨by omega, .inr rfl⟩

/-- A line is read without a trap, if it has the room that a text can have. -/
private theorem comes_readLine {bytes raw : List UInt8} (fed : FedLine bytes raw)
    (room : count + bytes.length ≤ total) :
    Comes total (readLine count bytes) (LineRead.Tells count raw) := by
  have some_byte := fed.length_pos
  obtain ⟨whole, ended⟩ := fed
  have size : raw.length ≤ bytes.length := by
    rcases ended with rfl | ⟨rfl, -⟩ <;> simp
  obtain ⟨back, feed, decoded⟩ : ∃ back, (back = [] ∨ back = ['\n']) ∧
      Text.decode? bytes = (Text.decode? raw).map fun s => String.ofList (s.toList ++ back) := by
    rcases ended with rfl | ⟨rfl, -⟩
    · exact ⟨_, .inr rfl, Text.decode?_append_feed raw⟩
    · exact ⟨[], .inl rfl, by simp⟩
  unfold readLine
  split_ifs with long
  · exact ⟨by omega, .inl rfl⟩
  cases text : Text.decode? raw with
  | none =>
    rw [decoded, text]
    exact .undecodable text
  | some s =>
    rw [decoded, text]
    refine (comes_lineNumber (by omega)).bind fun number numbered => ?_
    subst numbered
    have encoded := Text.bytesOf_of_decode? text
    have same := Lines.withoutBreaks_eq (notMem_of_bytesOf (encoded ▸ whole))
    have kept : Lines.withoutBreaks (s.toList ++ back) = Lines.withoutReturns s.toList := by
      rcases feed with rfl | rfl
      · rw [List.append_nil, same]
      · rw [Lines.withoutBreaks_append_feed, same]
    rw [String.toList_ofList]
    refine .bind_ok (Lines.sliceTo_withoutBreaks _) ?_
    rw [kept]
    split_ifs with counts
    · refine .line text counts ?_
      have size' : Text.width s.toList = raw.length := congrArg List.length encoded
      have shorter := Lines.width_withoutBreaks_le s.toList
      rw [same] at shorter
      omega
    · exact .skipped text (by simpa using counts)

private theorem comes_meet {ending : Ending} (room : ending.torn.length ≤ total) :
    Comes total ending.meet (· = ending.failure) := by
  unfold Ending.meet
  split_ifs with long
  · exact ⟨by omega, .inl rfl⟩
  · exact rfl

def Shows (lookahead : Option TimedEvent) (count : Nat) (later lines : Lines) : Prop :=
  match lookahead with
  | none => lines = later
  | some e => ∃ line, line.number = count ∧ Recording.eventOfLine line = .ok e ∧
      lines = { later with lines := line :: later.lines }

/-- The lines of a recording are those ahead of a reader, and there is no more to read than in all. -/
structure Stands (total : Nat) (ending : Ending) (ahead : Ahead) (lines : Lines) : Prop where
  room : ahead.count + ahead.unread.flatten.length + ending.torn.length ≤ total
  shows : ∃ raws, List.Forall₂ FedLine ahead.unread raws ∧
    Shows ahead.lookahead ahead.count (.number ending.failure ahead.count raws) lines

/-- What is read is what is read of the lines, and the rest of these is ahead. -/
def ReadsAs {α : Type} (total : Nat) (ending : Ending) (lines : Lines)
    (expected : Except ParseError (α × List Line)) : Except ParseError (α × Ahead) → Prop
  | .error e => expected = .error e
  | .ok (a, ahead) => ∃ rest, expected = .ok (a, rest) ∧
      Stands total ending ahead { lines with lines := rest }

/-- A header is read without a trap. -/
private theorem comes_readHeader {ending : Ending} {unread raws : List (List UInt8)}
    (fed : List.Forall₂ FedLine unread raws) (count : Nat) (h : Header)
    (room : count + unread.flatten.length + ending.torn.length ≤ total) :
    Comes total (readHeader ending count h unread)
      (ReadsAs total ending (.number ending.failure count raws)
        (Recording.readHeader (Lines.number ending.failure count raws).failure h
          (Lines.number ending.failure count raws).lines)) := by
  induction fed generalizing count h with
  | nil =>
    refine (comes_meet (by omega)).bind fun failure met => ?_
    subst met
    unfold Lines.number Recording.readHeader
    dsimp only
    cases failed : ending.failure with
    | some e => exact rfl
    | none =>
      dsimp only
      cases h.registration with
      | error f => exact rfl
      | ok r =>
        refine ⟨[], rfl, room, [], .nil, ?_⟩
        rw [failed]
        rfl
  | @cons bytes raw unread raws first later ih =>
    have some_byte := first.length_pos
    rw [List.flatten_cons, List.length_append] at room
    refine (comes_readLine first (by omega)).bind fun read tells => ?_
    cases tells with
    | undecodable none =>
      simp only [Lines.number, none]
      exact rfl
    | skipped text blank =>
      simp only [Lines.number, text, blank]
      exact ih _ h (by omega)
    | @line s text counts fits =>
      simp only [Lines.number, text, counts, if_true]
      have given := gives_guardedStep ⟨count + 1, Lines.withoutReturns s.toList⟩ fits h
      refine .bind_ok given ?_
      unfold Recording.readHeader
      cases brought : h.step ⟨count + 1, Lines.withoutReturns s.toList⟩ with
      | error f => exact rfl
      | ok step =>
        cases step with
        | more h => exact ih _ h (by omega)
        | event e =>
          dsimp only
          cases h.registration with
          | error f => exact rfl
          | ok r =>
            refine ⟨_, rfl, by dsimp only; omega, raws, later, ?_⟩
            have told := Recording.eventOfLine_eq_ok_iff.mpr (Header.step_eq_event_iff.mp brought)
            exact ⟨_, rfl, told, rfl⟩

/-- The frame that an event goes on with is the same. -/
private theorem addTimed_eq {begun : Option EventFrame} (line : Line) (e : TimedEvent) :
    addTimed (begun.map fun f => (f.timestamp, f.events)) e =
      ((Recording.addEvent begun line e).timestamp, (Recording.addEvent begun line e).events) := by
  cases begun <;> rfl

private theorem frameAt_addEvent (begun : Option EventFrame) (line : Line) (e : TimedEvent) :
    frameAt line.number (addTimed (begun.map fun f => (f.timestamp, f.events)) e) =
      Recording.addEvent begun line e := by
  cases begun <;> rfl

/-- A frame is read without a trap. -/
private theorem comes_readFrame {ending : Ending} {unread raws : List (List UInt8)}
    (fed : List.Forall₂ FedLine unread raws) (count : Nat) (begun : Option EventFrame)
    (room : count + unread.flatten.length + ending.torn.length ≤ total) :
    Comes total (readFrame ending count (begun.map fun f => (f.timestamp, f.events)) unread)
      (ReadsAs total ending (.number ending.failure count raws)
        (Recording.readFrame (Lines.number ending.failure count raws).count
          (Lines.number ending.failure count raws).failure begun
          (Lines.number ending.failure count raws).lines)) := by
  induction fed generalizing count begun with
  | nil =>
    refine (comes_meet (by omega)).bind fun failure met => ?_
    subst met
    unfold Lines.number Recording.readFrame
    dsimp only
    cases failed : ending.failure with
    | some e => exact rfl
    | none =>
      refine ⟨[], ?_, room, [], .nil, ?_⟩
      · cases begun <;> rfl
      · rw [failed]
        rfl
  | @cons bytes raw unread raws first later ih =>
    have some_byte := first.length_pos
    rw [List.flatten_cons, List.length_append] at room
    refine (comes_readLine first (by omega)).bind fun read tells => ?_
    cases tells with
    | undecodable none =>
      simp only [Lines.number, none]
      exact rfl
    | skipped text blank =>
      simp only [Lines.number, text, blank]
      exact ih _ begun (by omega)
    | @line s text counts fits =>
      simp only [Lines.number, text, counts, if_true]
      have given := gives_guardedLater ⟨count + 1, Lines.withoutReturns s.toList⟩ fits
      refine .bind_ok given ?_
      unfold Recording.readFrame
      cases told : Recording.eventOfLine ⟨count + 1, Lines.withoutReturns s.toList⟩ with
      | error f => exact rfl
      | ok e =>
        dsimp only
        split_ifs with last
        · refine ⟨_, ?_, by dsimp only; omega, raws, later, rfl⟩
          rw [← frameAt_addEvent]
        · have frame := ih (count + 1)
            (some (Recording.addEvent begun ⟨count + 1, Lines.withoutReturns s.toList⟩ e)) (by omega)
          rw [Option.map_some, ← addTimed_eq] at frame
          exact frame

/-- The next frame is read without a trap. -/
private theorem comes_nextFrame {ending : Ending} {ahead : Ahead} {lines : Lines}
    (stands : Stands total ending ahead lines) :
    Comes total (nextFrame ending ahead)
      (ReadsAs total ending lines (Recording.readFrame lines.count lines.failure none lines.lines)) := by
  obtain ⟨room, raws, fed, shows⟩ := stands
  unfold nextFrame
  cases looked : ahead.lookahead with
  | none =>
    rw [looked] at shows
    obtain rfl : lines = _ := shows
    exact comes_readFrame fed ahead.count none room
  | some e =>
    rw [looked] at shows
    obtain ⟨line, number, told, rfl⟩ := shows
    dsimp only
    rw [Recording.readFrame, told]
    dsimp only
    split_ifs with last
    · refine ⟨_, ?_, room, raws, fed, rfl⟩
      rw [← number]
      exact congrArg (fun f => Except.ok (some f, _)) (frameAt_addEvent none line e).symm
    · have frame := comes_readFrame fed ahead.count (some (Recording.addEvent none line e)) room
      rw [Option.map_some, ← addTimed_eq] at frame
      exact frame

structure Follows (total : Nat) (r : Reader) (m : Recording) : Prop where
  stage : r.stage = m.stage
  pending : r.pending = m.pending
  clock : r.clock = m.clock
  stands : m.stage ≠ .done → Stands total r.ending r.ahead m.lines
  unbegun : m.stage = .header → r.ahead.lookahead = none

private theorem Follows.finished {r : Reader} {m : Recording} (h : Follows total r m) :
    Follows total r.finished m.finished :=
  ⟨rfl, rfl, h.clock, fun going => absurd rfl going, nofun⟩

/-- Both give the same event that waits. -/
private theorem Follows.give {r : Reader} {m : Recording} (h : Follows total r m)
    (warnings : List Warning) :
    (r.give warnings).1 = (m.give warnings).1 ∧ Follows total (r.give warnings).2 (m.give warnings).2 := by
  unfold Reader.give Recording.give
  rw [h.pending]
  cases m.pending with
  | nil => exact ⟨rfl, h.finished⟩
  | cons e rest => exact ⟨rfl, h.stage, rfl, h.clock, h.stands, h.unbegun⟩

/-- The next answer comes without a trap, and it is that of the recording. -/
private theorem Follows.next {r : Reader} {m : Recording} (h : Follows total r m) :
    Comes total r.next fun out => out.1 = m.next.1 ∧ Follows total out.2 m.next.2 := by
  unfold Reader.next Recording.next
  rw [h.pending, h.stage]
  cases waiting : m.pending with
  | cons e rest =>
    dsimp only
    exact h.give []
  | nil =>
    cases stage : m.stage with
    | done => exact ⟨rfl, h⟩
    | header =>
      dsimp only
      have stands := h.stands (by rw [stage]; nofun)
      obtain ⟨room, raws, fed, shows⟩ := stands
      rw [h.unbegun stage] at shows
      have all : m.lines = .number r.ending.failure r.ahead.count raws := shows
      refine (comes_readHeader fed r.ahead.count {} room).bind fun out reads => ?_
      rw [← all] at reads
      cases out with
      | error e =>
        rw [(reads : _ = _)]
        exact ⟨rfl, h.finished⟩
      | ok begun =>
        obtain ⟨rest, same, stands⟩ := reads
        rw [same]
        exact ⟨rfl, rfl, rfl, h.clock, fun _ => stands, nofun⟩
    | events =>
      refine (comes_nextFrame (h.stands (by rw [stage]; nofun))).bind fun out reads => ?_
      cases out with
      | error e =>
        rw [(reads : _ = _)]
        exact ⟨rfl, h.finished⟩
      | ok read =>
        obtain ⟨frame?, ahead⟩ := read
        obtain ⟨rest, same, stands⟩ := reads
        rw [same]
        cases frame? with
        | none => exact ⟨rfl, h.finished⟩
        | some frame =>
          have timely := Recording.timestamp_lt_of_readFrame (by simp) same
          dsimp only
          rw [h.clock, Recording.schedule64?_eq timely]
          refine Follows.give ?_ _
          exact ⟨rfl, rfl, rfl, fun _ => stands, nofun⟩

/-- The answers come without a trap, and they are those of the recording. -/
private theorem Follows.answers {r : Reader} {m : Recording} (h : Follows total r m) (calls : Nat) :
    Comes total (answers calls r) (· = (List.range calls).map (Script.recording m).answer) := by
  induction calls generalizing r m with
  | zero => exact rfl
  | succ calls ih =>
    refine h.next.bind fun out same => ?_
    obtain ⟨answer, after⟩ := same
    refine (ih after).bind fun rest later => ?_
    have step : (Script.recording m).next = (m.next.1, .recording m.next.2) := rfl
    show _ = _
    rw [List.range_succ_eq_map, List.map_cons, List.map_map, later, answer]
    refine congrArg _ (List.map_congr_left fun k _ => ?_)
    exact (Script.answer_succ step k).symm

private theorem length_flatten_feeds (lines : List (List UInt8)) :
    (lines.map (· ++ [10])).flatten.length = lines.flatten.length + lines.length := by
  induction lines with
  | nil => rfl
  | cons line lines ih =>
    simp only [List.map_cons, List.flatten_cons, List.length_append, List.length_cons, List.length_nil, ih]
    omega

private theorem follows_ofSource (s : Source) : Follows s.bytes.length (ofSource s) (.ofSource s) := by
  have sizes := length_splitLines s.bytes
  obtain ⟨whole, whole'⟩ := notMem_splitLines s.bytes
  have fed : List.Forall₂ FedLine (ofSource s).ahead.unread s.rawLines := by
    have ended : List.Forall₂ FedLine ((splitLines s.bytes).1.map (· ++ [10])) (splitLines s.bytes).1 :=
      List.forall₂_map_left_iff.mpr (List.forall₂_same.mpr fun line hl => ⟨whole line hl, .inl rfl⟩)
    simp only [ofSource, Source.rawLines]
    split_ifs with none
    · rwa [List.append_nil]
    · have some : (splitLines s.bytes).2 ≠ [] := by
        intro empty
        simp [empty] at none
      exact List.rel_append ended (.cons ⟨whole', .inr ⟨rfl, some⟩⟩ .nil)
  have room : 0 + (ofSource s).ahead.unread.flatten.length + (ofSource s).ending.torn.length ≤
      s.bytes.length := by
    simp only [ofSource]
    rw [List.flatten_append, List.length_append, length_flatten_feeds, ← sizes]
    split_ifs <;> simp_all
  exact ⟨rfl, rfl, rfl, fun _ => ⟨room, _, fed, rfl⟩, fun _ => rfl⟩

end Reader

/-- Whatever is read as a recording, and however often it is asked for its next event: no slice of a text is
out of range or cuts a character, no index is out of range, and no sum, difference or product of columns,
times and the clock overflows; what is answered is what the recording answers. Only for an input that is
longer than any text can be there may be no room, for a line or for its number. -/
theorem recording_never_traps (s : Source) (calls : Nat) :
    (Reader.ofSource s).answers calls = .ok ((List.range calls).map (Script.ofSource .evemu s).answer) ∨
      longestText < s.bytes.length ∧ ((Reader.ofSource s).answers calls = .error .memory ∨
        (Reader.ofSource s).answers calls = .error .lineCount) := by
  have comes := (Reader.follows_ofSource s).answers calls
  cases answers : (Reader.ofSource s).answers calls with
  | ok answered =>
    rw [answers] at comes
    exact .inl (congrArg Except.ok comes)
  | error trap =>
    rw [answers] at comes
    obtain ⟨long, rfl | rfl⟩ := comes
    · exact .inr ⟨long, .inl rfl⟩
    · exact .inr ⟨long, .inr rfl⟩

end ScriptedInput

import ScriptedInput.Proofs.Recording.CutLines
import ScriptedInput.Proofs.Recording.Feed
import ScriptedInput.Proofs.Script.Pieces

/-! A recording piece by piece, first its registration and then each of its frames, and what is left of
it where reading fails. -/
namespace ScriptedInput

/-- Whether a frame ends with a synchronisation report, and not only with the recording. -/
def EventFrame.ended (f : EventFrame) : Bool := f.events.getLast?.any (·.isSyncReport)

namespace Recording

/-- Frames on the replay clock, each with the delay before it. One ends with the line of its report. -/
def framePieces (bytes : List UInt8) : Option Nat → List EventFrame → List Piece
  | _, [] => []
  | clock, f :: fs =>
    ⟨(schedule clock f).events, if f.ended then afterFeeds f.line bytes else none⟩ ::
      framePieces bytes (some (schedule clock f).clock) fs

def pieces (s : Source) : List Piece :=
  match (ofSource s).next with
  | (.event registered, r) =>
    ⟨[registered.event], r.lines.lines.head?.bind (afterFeeds ·.number s.bytes)⟩ ::
      framePieces s.bytes none (readFrames r.lines.count r.lines.failure none r.lines.lines).1
  | (.ended, _) | (.failed _, _) => []

section FramePieces
variable {bytes : List UInt8} {n : Nat} {clock : Option Nat} {fs : List EventFrame}

private theorem flatMap_framePieces (bytes : List UInt8) (clock : Option Nat) (fs : List EventFrame) :
    (framePieces bytes clock fs).flatMap (·.events) = replay clock (fs.map (·.timed)) := by
  induction fs generalizing clock with
  | nil => rfl
  | cons f fs ih =>
    rw [framePieces, List.flatMap_cons, ih, schedule_events, schedule_clock, List.map_cons, replay]
    simp [EventFrame.timed]

/-- A piece that stops with a line is complete if that line is. -/
private theorem endsBy_iff_of_stop {p : Piece} {k : Nat} (stop : p.stop = afterFeeds k bytes) :
    p.endsBy n ↔ k ≤ (bytes.take n).count 10 := by
  rw [Piece.endsBy_iff, stop]
  exact afterFeeds_le_iff k n bytes

private theorem framePieces_append (bytes : List UInt8) (clock : Option Nat) (fs gs : List EventFrame) :
    ∃ clock', framePieces bytes clock (fs ++ gs) =
      framePieces bytes clock fs ++ framePieces bytes clock' gs := by
  induction fs generalizing clock with
  | nil => exact ⟨clock, rfl⟩
  | cons f fs ih =>
    obtain ⟨clock', same⟩ := ih (some (schedule clock f).clock)
    exact ⟨clock', congrArg (_ :: ·) same⟩

private theorem exists_of_mem_framePieces {p : Piece} (h : p ∈ framePieces bytes clock fs) :
    ∃ f ∈ fs, p.stop = if f.ended then afterFeeds f.line bytes else none := by
  induction fs generalizing clock with
  | nil => cases h
  | cons f fs ih =>
    rcases List.mem_cons.mp h with rfl | h
    · exact ⟨f, List.mem_cons_self, rfl⟩
    · obtain ⟨g, hg, stop⟩ := ih h
      exact ⟨g, List.mem_cons_of_mem _ hg, stop⟩

/-- Frames that end within so many lines are complete within the bytes of these. -/
private theorem endsBy_framePieces (within : ∀ f ∈ fs, f.ended ∧ f.line ≤ (bytes.take n).count 10) :
    ∀ p ∈ framePieces bytes clock fs, p.endsBy n := by
  intro p hp
  obtain ⟨f, hf, stop⟩ := exists_of_mem_framePieces hp
  obtain ⟨ended, line⟩ := within f hf
  rw [if_pos ended] at stop
  exact (endsBy_iff_of_stop stop).mpr line

private theorem not_endsBy_framePieces (behind : ∀ f ∈ fs, f.ended → (bytes.take n).count 10 < f.line) :
    ∀ p ∈ framePieces bytes clock fs, ¬ p.endsBy n := by
  intro p hp ends
  obtain ⟨f, hf, stop⟩ := exists_of_mem_framePieces hp
  by_cases ended : f.ended
  · rw [if_pos ended] at stop
    have line := (endsBy_iff_of_stop stop).mp ends
    have late := behind f hf ended
    omega
  · simp [Piece.endsBy_iff, stop, ended] at ends

end FramePieces

/-- A frame that has begun, if there is one, still lacks its report. -/
def Unfinished (begun : Option EventFrame) : Prop := ∀ f ∈ begun, f.ended = false

private theorem unfinished_none : Unfinished none := by simp [Unfinished]

private theorem ended_addEvent (begun : Option EventFrame) (line : Line) (e : TimedEvent) :
    (addEvent begun line e).ended = e.event.isSyncReport := by
  cases begun <;> simp [addEvent, EventFrame.ended]

private theorem line_addEvent (begun : Option EventFrame) (line : Line) (e : TimedEvent) :
    (addEvent begun line e).line = line.number := by
  cases begun <;> rfl

private theorem unfinished_addEvent {begun : Option EventFrame} {line : Line} {e : TimedEvent}
    (h : ¬ e.event.isSyncReport) : Unfinished (some (addEvent begun line e)) := by
  intro f hf
  obtain rfl := Option.some.inj hf
  simpa [ended_addEvent] using h

section Frames
variable {count k : Nat} {begun : Option EventFrame} {lines : List Line}

/-- Where reading fails, only frames with a report have been given, from lines that could be read. -/
private theorem readFrames_within {x : IoError} (before : ∀ l ∈ lines, l.number ≤ k) :
    ∀ f ∈ (readFrames count (some x) begun lines).1, f.ended ∧ f.line ≤ k := by
  induction lines generalizing begun with
  | nil => simp [readFrames]
  | cons line lines ih =>
    obtain ⟨first, later⟩ := List.forall_mem_cons.mp before
    rw [readFrames]
    cases eventOfLine line with
    | error f => simp
    | ok e =>
      dsimp only
      split
      · next report =>
        refine List.forall_mem_cons.mpr ⟨⟨?_, ?_⟩, ih later⟩
        · rw [ended_addEvent, report]
        · rwa [line_addEvent]
      · exact ih later

/-- Frames that have a report have it on one of the lines. -/
private theorem readFrames_behind {failure : Option IoError} (unfinished : Unfinished begun)
    (behind : ∀ l ∈ lines, k < l.number) :
    ∀ f ∈ (readFrames count failure begun lines).1, f.ended → k < f.line := by
  induction lines generalizing begun with
  | nil =>
    intro f hf ended
    cases failure with
    | some e => simp [readFrames] at hf
    | none =>
      cases begun with
      | none => simp [readFrames] at hf
      | some g =>
        obtain rfl : f = { g with line := count } := by simpa [readFrames] using hf
        have same : g.ended := ended
        simp [unfinished g rfl] at same
  | cons line lines ih =>
    obtain ⟨first, later⟩ := List.forall_mem_cons.mp behind
    rw [readFrames]
    cases eventOfLine line with
    | error f => simp
    | ok e =>
      dsimp only
      split
      · refine List.forall_mem_cons.mpr ⟨fun _ => ?_, ih unfinished_none later⟩
        rwa [line_addEvent]
      · next silent => exact ih (unfinished_addEvent silent) later

/-- Frames of lines that are cut off. Either they end at a fault before the cut, or reading fails there,
perhaps within a frame that has begun. -/
private theorem readFrames_cut (x : IoError) (failure : Option IoError) (count count' : Nat)
    (unfinished : Unfinished begun) (front later : List Line) :
    (readFrames count failure begun (front ++ later) = readFrames count' (some x) begun front ∧
        (readFrames count' (some x) begun front).2.isSome) ∨
      (readFrames count' (some x) begun front).2 = some (.io x) ∧ ∃ begun', Unfinished begun' ∧
        (readFrames count failure begun (front ++ later)).1 =
          (readFrames count' (some x) begun front).1 ++ (readFrames count failure begun' later).1 := by
  induction front generalizing begun with
  | nil => exact .inr ⟨rfl, begun, unfinished, rfl⟩
  | cons line front ih =>
    rw [List.cons_append, readFrames, readFrames]
    cases eventOfLine line with
    | error f => exact .inl ⟨rfl, rfl⟩
    | ok e =>
      dsimp only
      split
      · rcases ih unfinished_none with ⟨same, failing⟩ | ⟨failed, begun', lacks, split⟩
        · exact .inl ⟨by rw [same], failing⟩
        · exact .inr ⟨failed, begun', lacks, congrArg (_ :: ·) split⟩
      · next silent => exact ih (unfinished_addEvent silent)

end Frames

/-- The lines that a header leaves are the last ones. -/
private theorem suffix_of_readHeader {failure : Option IoError} {h : Header} {lines rest : List Line}
    {r : Registration} (hr : readHeader failure h lines = .ok (r, rest)) : rest <:+ lines := by
  induction lines generalizing h with
  | nil =>
    unfold readHeader at hr
    split at hr
    · simp at hr
    · split at hr <;> simp at hr
      simp [← hr.2]
  | cons line lines ih =>
    unfold readHeader at hr
    split at hr
    · simp at hr
    · exact (ih hr).trans (List.suffix_cons line lines)
    · split at hr <;> simp at hr
      simp [← hr.2]

/-- The header of lines that are cut off. Either it is at fault before the cut, or reading fails before
an event line, or it is complete. -/
private theorem readHeader_cut (x : IoError) (failure : Option IoError) (h : Header)
    (front later : List Line) :
    (∃ e, readHeader (some x) h front = .error e ∧ readHeader failure h (front ++ later) = .error e) ∨
      (readHeader (some x) h front = .error (.io x) ∧
        ∃ h', readHeader failure h (front ++ later) = readHeader failure h' later) ∨
      ∃ r line rest, readHeader (some x) h front = .ok (r, line :: rest) ∧
        readHeader failure h (front ++ later) = .ok (r, line :: rest ++ later) := by
  induction front generalizing h with
  | nil => exact .inr (.inl ⟨rfl, h, rfl⟩)
  | cons line front ih =>
    rw [List.cons_append, readHeader, readHeader]
    cases h.step line with
    | error f => exact .inl ⟨_, rfl, rfl⟩
    | ok step =>
      cases step with
      | more h' => exact ih h'
      | event e =>
        dsimp only
        cases h.registration with
        | error f => exact .inl ⟨_, rfl, rfl⟩
        | ok r => exact .inr (.inr ⟨r, line, front, rfl, rfl⟩)

variable {s whole cut : Source}

private theorem feed_headless {e : ParseError}
    (h : readHeader (Lines.ofSource s).failure {} (Lines.ofSource s).lines = .error e) :
    (ofSource s).feed = ⟨[], some e⟩ := feed_failed (next_headless h)

private theorem pieces_headless {e : ParseError}
    (h : readHeader (Lines.ofSource s).failure {} (Lines.ofSource s).lines = .error e) :
    pieces s = [] := by
  rw [pieces, ofSource, next_headless h]

private theorem pieces_read {registration : Registration} {rest : List Line}
    (h : readHeader (Lines.ofSource s).failure {} (Lines.ofSource s).lines = .ok (registration, rest)) :
    pieces s =
      ⟨[⟨deviceId, .register registration⟩], rest.head?.bind (afterFeeds ·.number s.bytes)⟩ ::
        framePieces s.bytes none
          (readFrames (Lines.ofSource s).count (Lines.ofSource s).failure none rest).1 := by
  rw [pieces, ofSource, next_registered h]
  rfl

/-- The events of a recording are those of its pieces. -/
private theorem feed_pieces (s : Source) : (ofSource s).feed.events = (pieces s).flatMap (·.events) := by
  cases hr : readHeader (Lines.ofSource s).failure {} (Lines.ofSource s).lines with
  | error e =>
    rw [feed_headless hr, pieces_headless hr]
    rfl
  | ok read =>
    rw [(feed_ofSource hr).1, pieces_read hr, List.flatMap_cons, flatMap_framePieces]
    rfl

/-- A recording whose lines end with a failure fails. -/
private theorem failing_feed (h : (Lines.ofSource s).failure.isSome) :
    (ofSource s).feed.failure.isSome := by
  cases hr : readHeader (Lines.ofSource s).failure {} (Lines.ofSource s).lines with
  | error e => rw [feed_headless hr]; rfl
  | ok read =>
    rw [(feed_ofSource hr).2, Option.isSome_iff_ne_none]
    intro none
    obtain ⟨reads, -⟩ := tellOf_of_readFrames none
    simp [reads] at h

/-- Where lines end with a failure, no event line and no frame is left without its end. -/
private theorem endsBy_pieces {n : Nat} {x : IoError} (failing : (Lines.ofSource s).failure = some x)
    (within : ∀ l ∈ (Lines.ofSource s).lines, l.number ≤ (s.bytes.take n).count 10) :
    ∀ p ∈ pieces s, p.endsBy n := by
  have header := readHeader_cut x (some x) {} (Lines.ofSource s).lines []
  rw [← failing] at header
  rcases header with ⟨e, hr, -⟩ | ⟨hr, -⟩ | ⟨r, line, rest, hr, -⟩
  · simp [pieces_headless hr]
  · simp [pieces_headless hr]
  · have left := fun l hl => within l ((suffix_of_readHeader hr).subset hl)
    obtain ⟨first, later⟩ := List.forall_mem_cons.mp left
    rw [pieces_read hr, failing]
    exact List.forall_mem_cons.mpr
      ⟨(endsBy_iff_of_stop rfl).mpr first, endsBy_framePieces (readFrames_within left)⟩

/-- Where the header goes on behind the cut, nothing is complete before it. -/
private theorem not_endsBy_pieces {n : Nat} {h : Header} {later : List Line}
    (header : readHeader (Lines.ofSource s).failure {} (Lines.ofSource s).lines =
      readHeader (Lines.ofSource s).failure h later)
    (behind : ∀ l ∈ later, (s.bytes.take n).count 10 < l.number) :
    ∀ p ∈ pieces s, ¬ p.endsBy n := by
  cases hr : readHeader (Lines.ofSource s).failure {} (Lines.ofSource s).lines with
  | error e => simp [pieces_headless hr]
  | ok read =>
    obtain ⟨r, rest⟩ := read
    have left : ∀ l ∈ rest, (s.bytes.take n).count 10 < l.number := fun l hl =>
      behind l ((suffix_of_readHeader (header ▸ hr)).subset hl)
    rw [pieces_read hr]
    refine List.forall_mem_cons.mpr
      ⟨?_, not_endsBy_framePieces (readFrames_behind unfinished_none left)⟩
    cases rest with
    | nil => simp [Piece.endsBy_iff]
    | cons line rest =>
      have first := left line List.mem_cons_self
      intro ends
      have line := (endsBy_iff_of_stop rfl).mp ends
      omega

/-- A recording that is cut off after its header goes on with the frames that are complete. -/
private theorem cutOff_frames {n : Nat} {e : IoError} {r : Registration} {line : Line}
    {rest later : List Line} (failure : (Lines.ofSource cut).failure = some e)
    (hc : readHeader (Lines.ofSource cut).failure {} (Lines.ofSource cut).lines =
      .ok (r, line :: rest))
    (hw : readHeader (Lines.ofSource whole).failure {} (Lines.ofSource whole).lines =
      .ok (r, line :: rest ++ later))
    (before : ∀ l ∈ line :: rest, l.number ≤ (whole.bytes.take n).count 10)
    (behind : ∀ l ∈ later, (whole.bytes.take n).count 10 < l.number) :
    CutOff n e (pieces whole) (ofSource whole).feed (ofSource cut).feed := by
  obtain ⟨given, ending⟩ := feed_ofSource hc
  obtain ⟨given', ending'⟩ := feed_ofSource hw
  have all := feed_pieces whole
  have frames := readFrames_cut e (Lines.ofSource whole).failure (Lines.ofSource whole).count
    (Lines.ofSource cut).count unfinished_none (line :: rest) later
  have within : ∀ f ∈ (readFrames (Lines.ofSource cut).count (some e) none (line :: rest)).1,
      f.ended ∧ f.line ≤ (whole.bytes.take n).count 10 := readFrames_within before
  rw [pieces_read hw] at all ⊢
  rw [failure] at given ending
  generalize readFrames (Lines.ofSource cut).count (some e) none (line :: rest) = read
    at frames within given ending
  obtain ⟨fs, failed⟩ := read
  have complete (clock : Option Nat) :
      ∀ p ∈ ⟨[⟨deviceId, .register r⟩], afterFeeds line.number whole.bytes⟩ ::
        framePieces whole.bytes clock fs, p.endsBy n :=
    List.forall_mem_cons.mpr
      ⟨(endsBy_iff_of_stop rfl).mpr (before line List.mem_cons_self), endsBy_framePieces within⟩
  rcases frames with ⟨same, failing⟩ | ⟨stopped, begun, lacks, more⟩
  · rw [same] at given' ending' all ⊢
    apply CutOff.unharmed all (complete none)
    · rw [ending']
      exact failing
    · rw [given, given']
    · rw [ending, ending']
  · obtain ⟨clock, split⟩ := framePieces_append whole.bytes none fs
      (readFrames (Lines.ofSource whole).count (Lines.ofSource whole).failure begun later).1
    rw [more, split, ← List.cons_append] at all ⊢
    apply CutOff.of_split all _ (complete none)
    · intro p hp ends
      exact absurd ends (not_endsBy_framePieces (readFrames_behind lacks behind) p hp)
    · exact .inl (ending.trans stopped)
    · rw [given, List.flatMap_cons, flatMap_framePieces]
      rfl

/-- Cutting a recording off takes away what its end has told, and nothing else. -/
theorem cutOff_ofSource {n : Nat} {e : IoError} (reads : whole.failure = none)
    (fails : cut.failure = some e) (bytes : cut.bytes = whole.bytes.take n) :
    CutOff n e (pieces whole) (ofSource whole).feed (ofSource cut).feed := by
  have cutAt := Lines.cutAt_ofSource reads fails bytes
  generalize hs : Lines.ofSource cut = short at cutAt
  cases cutAt with
  | ended failing within =>
    obtain ⟨x, hx⟩ := Option.isSome_iff_exists.mp failing
    have same : ofSource cut = ofSource whole := by rw [ofSource, ofSource, hs]
    rw [same]
    exact .unharmed (feed_pieces whole) (endsBy_pieces hx within) (failing_feed failing) rfl rfl
  | within later failure lines before behind =>
    subst hs
    have header := readHeader_cut e (Lines.ofSource whole).failure {} (Lines.ofSource cut).lines later
    rw [← failure, ← lines] at header
    rcases header with ⟨f, hc, hw⟩ | ⟨hc, h, hw⟩ | ⟨r, line, rest, hc, hw⟩
    · rw [feed_headless hc, feed_headless hw, pieces_headless hw]
      exact .unharmed rfl (by simp) rfl rfl rfl
    · rw [feed_headless hc]
      refine .nothing (feed_pieces whole) rfl (fun p hp ends => ?_) rfl
      exact absurd ends (not_endsBy_pieces hw behind p hp)
    · have left := fun l hl => before l ((suffix_of_readHeader hc).subset hl)
      exact cutOff_frames failure hc hw left behind

end Recording
end ScriptedInput

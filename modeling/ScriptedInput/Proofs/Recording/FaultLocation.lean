import ScriptedInput.Proofs.Recording.Columns
import ScriptedInput.Proofs.Recording.Feed
import ScriptedInput.Proofs.Recording.HeaderLines

/-! Where a recording is at fault: on the last line that is read of it, and at the leftmost bad field
there. -/
namespace ScriptedInput

namespace Source

def line? (s : Source) : (row : Nat) → Option (List Char)
  | 0 => none
  | n + 1 => (s.rawLines[n]?.bind Text.decode?).map (Lines.withoutReturns ·.toList)

abbrev recorded (s : Source) : Feed := (Script.ofSource .evemu s).feed

/-- The line is the last one that is read. What comes behind it is not looked at, and where there are only
the lines before it reading asks for more. -/
structure LastRead (s : Source) (row : Nat) : Prop where
  decides : ∀ t : Source, t.rawLines.take row = s.rawLines.take row →
    t.recorded.events = s.recorded.events ∧ t.recorded.failure = s.recorded.failure
  awaits : ∀ (t : Source) (e : IoError), t.failure = some e →
    t.rawLines = s.rawLines.take (row - 1) →
    t.recorded.events = s.recorded.events ∧ t.recorded.failure = some (.io e)

end Source

/-- A recording without a name or ids has no number at fault. -/
private theorem Header.quoted_of_registration {h : Header} {f : RecordingFault}
    (error : h.registration = .error f) : f.quoted? = none := by
  unfold registration at error
  split at error <;> cases error <;> rfl

namespace Recording

/-- Reading gives up at a line with a fault, whatever comes behind it. When it has read those before it,
it asks for the line. -/
structure GivesUp {ρ : Type} (read : Lines → ρ) (fails : ParseError → ρ) (front : List Line)
    (line : Line) (f : LineFault) : Prop where
  decides : ∀ l : Lines, front ++ [line] <+: l.lines → read l = fails (fault line f)
  awaits : ∀ n e, read ⟨front, n, some e⟩ = fails (.io e)
  points : f.PointsInto line.text

def AtFault {ρ : Type} (read : Lines → ρ) (fails : ParseError → ρ) (lines : List Line)
    (report : ParseError) : Prop :=
  ∃ front line f, front ++ [line] <+: lines ∧ report = fault line f ∧ GivesUp read fails front line f

namespace AtFault
variable {ρ σ : Type} {read : Lines → ρ} {fails : ParseError → ρ} {outer : Lines → σ}
  {fails' : ParseError → σ} {lines : List Line} {report : ParseError} {line : Line}
  {f : LineFault}

private theorem first (decides : ∀ more n failure, read ⟨line :: more, n, failure⟩ = fails (fault line f))
    (awaits : ∀ n e, read ⟨[], n, some e⟩ = fails (.io e)) (points : f.PointsInto line.text)
    (more : List Line) : AtFault read fails (line :: more) (fault line f) := by
  refine ⟨[], line, f, ⟨more, rfl⟩, rfl, ?_, awaits, points⟩
  rintro ⟨_, n, failure⟩ ⟨more, rfl⟩
  exact decides more n failure

/-- A reader that has passed some lines fails as another one does on those behind them. -/
private theorem behind (passed : List Line) (h : AtFault read fails lines report)
    (goes : ∀ more n failure e, read ⟨more, n, failure⟩ = fails e →
      outer ⟨passed ++ more, n, failure⟩ = fails' e) :
    AtFault outer fails' (passed ++ lines) report := by
  obtain ⟨front, line, f, ⟨more, rfl⟩, rfl, gives⟩ := h
  refine ⟨passed ++ front, line, f, ⟨more, by simp⟩, rfl, ?_, ?_, gives.points⟩
  · rintro ⟨_, n, failure⟩ ⟨more, rfl⟩
    rw [List.append_assoc, List.append_assoc, ← List.append_assoc front]
    exact goes _ n failure _ (gives.decides _ ⟨more, rfl⟩)
  · exact fun n e => goes front n (some e) _ (gives.awaits n e)

end AtFault

variable {failure : Option IoError} {lines : List Line} {row column : Nat} {why : ScriptFault}

private theorem atFault_readHeader {h : Header}
    (error : readHeader failure h lines = .error (.malformed (.line row column) why)) :
    AtFault (fun l => readHeader l.failure h l.lines) .error lines
      (.malformed (.line row column) why) := by
  induction lines generalizing h with
  | nil =>
    unfold readHeader at error
    split at error
    · cases error
    · split at error <;> cases error
  | cons line lines ih =>
    rw [readHeader] at error
    split at error
    · next f refused =>
      cases error
      refine .first (fun more n failure => ?_) (fun _ _ => rfl) (pointsInto_step refused) lines
      rw [readHeader, refused]
    · next more =>
      refine .behind [line] (ih error) fun rest n failure e failed => ?_
      rw [List.singleton_append, readHeader, more]
      exact failed
    · next event =>
      split at error
      · cases error
      · next f unregistered =>
        cases error
        refine .first (fun more n failure => ?_) (fun _ _ => rfl) ?_ lines
        · rw [readHeader, event]
          dsimp only
          rw [unregistered]
        · exact LineFault.AtStart.pointsInto ⟨rfl, Header.quoted_of_registration unregistered⟩ _

/-- An event line may end a frame. The lines behind it are read in the same way, whatever they are. -/
private theorem readFrames_event {line : Line} {e : TimedEvent} (told : eventOfLine line = .ok e)
    (begun : Option EventFrame) :
    ∃ closed begun', ∀ count failure rest, readFrames count failure begun (line :: rest) =
      (closed ++ (readFrames count failure begun' rest).1, (readFrames count failure begun' rest).2) := by
  by_cases report : e.event.isSyncReport
  · refine ⟨[addEvent begun line e], none, fun count failure rest => ?_⟩
    simp only [readFrames, told, report, if_true, List.singleton_append]
  · refine ⟨[], some (addEvent begun line e), fun count failure rest => ?_⟩
    simp only [readFrames, told, report, Bool.false_eq_true, if_false, List.nil_append]

private theorem atFault_readFrames {count : Nat} {begun : Option EventFrame}
    (error : (readFrames count failure begun lines).2 = some (.malformed (.line row column) why)) :
    ∃ fs, AtFault (fun l => readFrames l.count l.failure begun l.lines) (fun e => (fs, some e)) lines
      (.malformed (.line row column) why) := by
  induction lines generalizing begun with
  | nil => cases failure <;> cases error
  | cons line lines ih =>
    cases told : eventOfLine line with
    | error f =>
      rw [readFrames, told] at error
      cases error
      refine ⟨[], .first (fun more n failure => ?_) (fun _ _ => rfl) (pointsInto_eventOfLine told) lines⟩
      rw [readFrames, told]
    | ok e =>
      obtain ⟨closed, begun', goes⟩ := readFrames_event told begun
      rw [goes] at error
      obtain ⟨fs, at_fault⟩ := ih error
      refine ⟨closed ++ fs, .behind [line] at_fault fun more n failure x failed => ?_⟩
      rw [List.singleton_append, goes, failed]

def fed (l : Lines) : List Event × Option ParseError :=
  (({ lines := l } : Recording).feed.events, ({ lines := l } : Recording).feed.failure)

private theorem fed_headless {l : Lines} {e : ParseError}
    (error : readHeader l.failure {} l.lines = .error e) : fed l = ([], some e) := by
  rw [fed, feed_failed (next_headless error)]
  rfl

private theorem fed_registered {l : Lines} {r : Registration} {rest : List Line}
    (read : readHeader l.failure {} l.lines = .ok (r, rest)) :
    fed l = (⟨deviceId, .register r⟩ ::
        replay none ((readFrames l.count l.failure none rest).1.map (·.timed)),
      (readFrames l.count l.failure none rest).2) := by
  obtain ⟨events, ends⟩ := feed_event (next_registered read)
  obtain ⟨events', ends'⟩ := feed_frames { l with lines := rest } none
  rw [fed, events, ends, events', ends']

/-- Where a recording is malformed, one of its lines is at fault. -/
private theorem atFault_fed {l : Lines} (error : (fed l).2 = some (.malformed (.line row column) why)) :
    ∃ events, AtFault fed (fun e => (events, some e)) l.lines (.malformed (.line row column) why) := by
  cases read : readHeader l.failure {} l.lines with
  | error e =>
    rw [fed_headless read, Option.some.injEq] at error
    subst error
    refine ⟨[], .behind [] (atFault_readHeader read) ?_⟩
    exact fun more n failure e failed => fed_headless failed
  | ok found =>
    obtain ⟨r, rest⟩ := found
    rw [fed_registered read] at error
    obtain ⟨front, after, parts, reads, registered, -, first⟩ := Header.exists_reads read
    cases rest with
    | nil => cases hf : l.failure <;> rw [hf] at error <;> cases error
    | cons event rest =>
      -- The event line that ends the header is good, so that the fault lies behind it.
      obtain ⟨e, tells⟩ := first event rfl
      have header (more : List Line) (failure : Option IoError) :
          readHeader failure {} (front ++ event :: more) = .ok (r, event :: more) := by
        rw [reads.readHeader failure rfl, Header.readHeader_event tells registered]
      obtain ⟨closed, begun, goes⟩ := readFrames_event (eventOfLine_eq_ok_iff.mpr tells) none
      dsimp only at error
      rw [goes] at error
      obtain ⟨fs, at_fault⟩ := atFault_readFrames error
      have split : l.lines = (front ++ [event]) ++ rest := by rw [parts, List.append_assoc]; rfl
      rw [split]
      let given : List Event := ⟨deviceId, .register r⟩ :: replay none ((closed ++ fs).map (·.timed))
      refine ⟨given, at_fault.behind (front ++ [event]) fun more n failure x failed => ?_⟩
      rw [List.append_assoc, List.singleton_append, fed_registered (header more failure)]
      dsimp only
      rw [goes, failed]

end Recording

namespace Lines

/-- A line that counts is a line of the text. It and those that count before it are told by the lines up
to it, and all but the last of them by the lines before. -/
private theorem exists_of_number {failure : Option IoError} {n : Nat} {raws : List (List UInt8)}
    {front : List Line} {line : Line} (h : front ++ [line] <+: (number failure n raws).lines) :
    ∃ i, line.number = n + i + 1 ∧
      (raws[i]?.bind Text.decode?).map (withoutReturns ·.toList) = some line.text ∧
      counts line.text ∧
      (∀ failure' raws', raws'.take (i + 1) = raws.take (i + 1) →
        front ++ [line] <+: (number failure' n raws').lines) ∧
      ∀ e, ∃ m, number (some e) n (raws.take i) = ⟨front, m, some e⟩ := by
  induction raws generalizing n front with
  | nil => simp [number] at h
  | cons raw raws ih =>
    cases decoded : Text.decode? raw with
    | none => simp [number, decoded] at h
    | some s =>
      have cons_take {i : Nat} {raws' : List (List UInt8)}
          (same : raws'.take (i + 1) = (raw :: raws).take (i + 1)) :
          ∃ later, raws' = raw :: later ∧ later.take i = raws.take i := by
        cases raws' with
        | nil => cases same
        | cons raw' later =>
          obtain ⟨rfl, behind⟩ := List.cons.inj same
          exact ⟨later, rfl, behind⟩
      by_cases shown : counts (withoutReturns s.toList)
      · simp only [number, decoded, shown, if_true] at h
        cases front with
        | nil =>
          obtain ⟨rfl, -⟩ := List.cons_prefix_cons.mp h
          refine ⟨0, rfl, by simp [decoded], shown, ?_, fun e => ⟨n, rfl⟩⟩
          intro failure' raws' same
          obtain ⟨later, rfl, -⟩ := cons_take same
          simp only [number, decoded, shown, if_true]
          exact List.cons_prefix_cons.mpr ⟨rfl, List.nil_prefix⟩
        | cons first front =>
          obtain ⟨rfl, later⟩ := List.cons_prefix_cons.mp h
          obtain ⟨i, place, text, counted, decides, awaits⟩ := ih later
          refine ⟨i + 1, by omega, text, counted, ?_, ?_⟩
          · intro failure' raws' same
            obtain ⟨later, rfl, behind⟩ := cons_take same
            simp only [number, decoded, shown, if_true]
            exact List.cons_prefix_cons.mpr ⟨rfl, decides failure' later behind⟩
          · intro e
            obtain ⟨m, read⟩ := awaits e
            refine ⟨m, ?_⟩
            simp only [List.take_succ_cons, number, decoded, shown, if_true, read]
      · simp only [number, decoded, shown, Bool.false_eq_true, if_false] at h
        obtain ⟨i, place, text, counted, decides, awaits⟩ := ih h
        refine ⟨i + 1, by omega, text, counted, ?_, ?_⟩
        · intro failure' raws' same
          obtain ⟨later, rfl, behind⟩ := cons_take same
          simp only [number, decoded, shown, Bool.false_eq_true, if_false]
          exact decides failure' later behind
        · intro e
          obtain ⟨m, read⟩ := awaits e
          refine ⟨m, ?_⟩
          simp only [List.take_succ_cons, number, decoded, shown, Bool.false_eq_true, if_false, read]

end Lines

/-- A fault in a recording is located. It lies on the last line that was read, which is not blank, and at
a column of that line. Where a number or a time is reported, it is the leftmost field of the line that is
not what its place calls for, and the column is that of its first byte. -/
theorem fault_located {s : Source} {row column : Nat} {why : ScriptFault}
    (h : s.recorded.failure = some (.malformed (.line row column) why)) :
    ∃ text f, s.line? row = some text ∧ why = .recording f ∧ s.LastRead row ∧
      (∃ c ∈ text, Text.isBlank c = false) ∧ LineFault.PointsInto ⟨column, f⟩ text := by
  obtain ⟨events, front, line, ⟨c, f⟩, parts, report, gives⟩ :=
    Recording.atFault_fed (l := .ofSource s) h
  obtain ⟨i, place, text, counted, decides, awaits⟩ := Lines.exists_of_number parts
  obtain ⟨⟨rfl, rfl⟩, rfl⟩ : (row = i + 1 ∧ column = c) ∧ why = .recording f := by
    simpa [Recording.fault, place] using report
  have here := gives.decides _ parts
  have given : s.recorded.events = events := congrArg Prod.fst here
  refine ⟨line.text, f, text, rfl, ⟨?_, ?_⟩, ?_, gives.points⟩
  · intro t same
    have there := gives.decides (.ofSource t) (decides t.failure t.rawLines same)
    exact Prod.mk.inj (there.trans here.symm)
  · intro t e failing same
    obtain ⟨m, read⟩ := awaits e
    rw [Nat.add_sub_cancel] at same
    have there := gives.awaits m e
    rw [← read, ← same] at there
    have lines : Lines.ofSource t = Lines.number (some e) 0 t.rawLines := by rw [Lines.ofSource, failing]
    rw [← lines] at there
    obtain ⟨events', failure⟩ := Prod.mk.inj there
    exact ⟨events'.trans given.symm, failure⟩
  · simp only [Lines.counts, Bool.and_eq_true, Bool.not_eq_true', List.all_eq_false] at counted
    simpa using counted.1

def badByte : Source :=
  ⟨[Text.encode "# k\r\n\nN: k\nI: 3 1 2 0\nP: 00\u00a0éz 1 # x\r\nE: 0.0 0 0 0\n"], none⟩

theorem badByte_located :
    badByte.recorded.failure =
        some (.malformed (.line 5 8) (.recording (.notHex .propertyByte "éz"))) ∧
      ∃ text f, badByte.line? 5 = some text ∧
        ScriptFault.recording (.notHex .propertyByte "éz") = .recording f ∧ badByte.LastRead 5 ∧
        (∃ c ∈ text, Text.isBlank c = false) ∧ LineFault.PointsInto ⟨8, f⟩ text := by
  have header : Recording.readHeader (Lines.ofSource badByte).failure {} (Lines.ofSource badByte).lines =
      .error (.malformed (.line 5 8) (.recording (.notHex .propertyByte "éz"))) := by decide +kernel
  have failed : badByte.recorded.failure =
      some (.malformed (.line 5 8) (.recording (.notHex .propertyByte "éz"))) :=
    congrArg Prod.snd (Recording.fed_headless header)
  exact ⟨failed, fault_located failed⟩

end ScriptedInput

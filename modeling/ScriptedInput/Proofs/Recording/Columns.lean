import ScriptedInput.Proofs.Recording.EventLine
import ScriptedInput.Proofs.Text.Utf8

/-! Where the fields of a line stand, and which of them is blamed. Fields are read from the left, so that
a fault is that of the leftmost field which is not what its place calls for. -/
namespace ScriptedInput

/-- A longest run of characters that are no blanks, with what stands before and behind it in a text. -/
structure RunIn (text before run after : List Char) : Prop where
  parts : text = before ++ run ++ after
  nonempty : run ≠ []
  unbroken : ∀ c ∈ run, Text.isBlank c = false
  left : ∀ c ∈ before.getLast?, Text.isBlank c
  right : ∀ c ∈ after.head?, Text.isBlank c

namespace RunIn
variable {text before run after : List Char}

private theorem single {c : Char} (shown : Text.isBlank c = false)
    (right : ∀ d ∈ text.head?, Text.isBlank d) : RunIn (c :: text) [] [c] text :=
  ⟨rfl, by simp, by simpa using shown, by simp, right⟩

private theorem cons_blank (h : RunIn text before run after) {c : Char} (blank : Text.isBlank c) :
    RunIn (c :: text) (c :: before) run after := by
  refine ⟨congrArg (c :: ·) h.parts, h.nonempty, h.unbroken, ?_, h.right⟩
  cases before with
  | nil => simpa using blank
  | cons d before => simpa [List.getLast?_cons_cons] using h.left

private theorem cons_before (h : RunIn text before run after) (some : before ≠ []) (c : Char) :
    RunIn (c :: text) (c :: before) run after := by
  refine ⟨congrArg (c :: ·) h.parts, h.nonempty, h.unbroken, ?_, h.right⟩
  cases before with
  | nil => exact absurd rfl some
  | cons d before => simpa [List.getLast?_cons_cons] using h.left

private theorem cons_run (h : RunIn text [] run after) {c : Char} (shown : Text.isBlank c = false) :
    RunIn (c :: text) [] (c :: run) after :=
  ⟨congrArg (c :: ·) h.parts, by simp, List.forall_mem_cons.mpr ⟨shown, h.unbroken⟩, by simp, h.right⟩

private theorem before_ne_nil {d : Char} (h : RunIn (d :: text) before run after)
    (blank : Text.isBlank d) : before ≠ [] := by
  rintro rfl
  obtain ⟨c, run, rfl⟩ := List.exists_cons_of_ne_nil h.nonempty
  have first : d = c := (List.cons.inj h.parts).1
  have shown := h.unbroken c List.mem_cons_self
  rw [← first, blank] at shown
  cases shown

private theorem head_before {d e : Char} (h : RunIn (d :: text) (e :: before) run after) : d = e :=
  (List.cons.inj h.parts).1

end RunIn

private theorem words_ne_nil {c : Char} (shown : Text.isBlank c = false) (cs : List Char) :
    words (c :: cs) ≠ [] := by
  cases cs with
  | nil => simp [words, List.splitOnP_cons_eq_if_modifyHead, shown]
  | cons d cs =>
    cases blank : Text.isBlank d with
    | true => simp [words_cons_cons_blank shown blank]
    | false =>
      obtain ⟨word, rest, -, more⟩ := words_cons_cons shown blank cs
      simp [more]

theorem lineFields_nil (column : Nat) : lineFields column [] = [] := rfl

theorem lineFields_blank {c : Char} (blank : Text.isBlank c) (column : Nat) (cs : List Char) :
    lineFields column (c :: cs) = lineFields (column + c.utf8Size) cs := by
  rw [lineFields_cons]
  exact if_pos blank

/-- A character before a blank is a field of its own. -/
theorem lineFields_apart {c : Char} (shown : Text.isBlank c = false) {cs : List Char}
    (apart : ∀ d ∈ cs.head?, Text.isBlank d) (column : Nat) :
    lineFields column (c :: cs) = ⟨[c], column⟩ :: lineFields (column + c.utf8Size) cs := by
  rw [lineFields_cons]
  cases cs with
  | nil => simp [shown, lineFields_nil]
  | cons d cs =>
    have blank : Text.isBlank d := apart d rfl
    cases lineFields (column + c.utf8Size) (d :: cs) <;> simp [shown, blank]

/-- A character before a field belongs to it. -/
theorem lineFields_joined {c d : Char} (shown : Text.isBlank c = false)
    (shown' : Text.isBlank d = false) (column : Nat) (cs : List Char) :
    ∃ g rest, lineFields (column + c.utf8Size) (d :: cs) = g :: rest ∧
      lineFields column (c :: d :: cs) = ⟨c :: g.text, column⟩ :: rest := by
  have texts := map_text_lineFields (column + c.utf8Size) (d :: cs)
  obtain ⟨g, rest, fields⟩ : ∃ g rest, lineFields (column + c.utf8Size) (d :: cs) = g :: rest := by
    refine List.exists_cons_of_ne_nil fun none => ?_
    rw [none] at texts
    exact words_ne_nil shown' cs texts.symm
  refine ⟨g, rest, fields, ?_⟩
  rw [lineFields_cons]
  simp [shown, shown', fields]

/-- Each field is a run of the line. Its column is behind what stands before it, and that holds the fields
before it. -/
private theorem run_of_lineFields {column : Nat} {cs : List Char} {front behind : List LineField}
    {f : LineField} (h : lineFields column cs = front ++ f :: behind) :
    ∃ before after, RunIn cs before f.text after ∧ words before = front.map (·.text) ∧
      f.column = column + (Text.bytesOf before).length := by
  induction cs generalizing column front f with
  | nil => simp [lineFields_nil] at h
  | cons c cs ih =>
    have size (before : List Char) : column + (Text.bytesOf (c :: before)).length =
        column + c.utf8Size + (Text.bytesOf before).length := by
      rw [Text.bytesOf_cons, List.length_append, String.length_utf8EncodeChar, Nat.add_assoc]
    by_cases blank : Text.isBlank c
    · rw [lineFields_blank blank] at h
      obtain ⟨before, after, run, left, at_column⟩ := ih h
      exact ⟨c :: before, after, run.cons_blank blank, (words_cons_blank blank before).trans left,
        at_column.trans (size before).symm⟩
    have shown : Text.isBlank c = false := by simpa using blank
    by_cases apart : ∀ d ∈ cs.head?, Text.isBlank d
    · rw [lineFields_apart shown apart] at h
      cases front with
      | nil =>
        obtain ⟨rfl, -⟩ := List.cons.inj h
        exact ⟨[], cs, .single shown apart, rfl, rfl⟩
      | cons g front =>
        obtain ⟨rfl, later⟩ := List.cons.inj h
        obtain ⟨before, after, run, left, at_column⟩ := ih later
        obtain ⟨d, cs, rfl⟩ : ∃ d tail, cs = d :: tail := by
          refine List.exists_cons_of_ne_nil ?_
          rintro rfl
          simp [lineFields_nil] at later
        have some := run.before_ne_nil (apart d rfl)
        obtain ⟨e, before, rfl⟩ := List.exists_cons_of_ne_nil some
        obtain rfl := run.head_before
        refine ⟨c :: d :: before, after, run.cons_before some c, ?_, at_column.trans (size _).symm⟩
        rw [words_cons_cons_blank shown (apart d rfl), left]
        rfl
    · obtain ⟨d, tail, rfl, shown'⟩ : ∃ d tail, cs = d :: tail ∧ Text.isBlank d = false := by
        cases cs with
        | nil => exact absurd (by simp) apart
        | cons d tail => exact ⟨d, tail, rfl, by simpa using apart⟩
      obtain ⟨g, rest, inner, outer⟩ := lineFields_joined shown shown' column tail
      rw [outer] at h
      cases front with
      | nil =>
        obtain ⟨rfl, rfl⟩ := List.cons.inj h
        have alone : _ = [] ++ _ := inner
        obtain ⟨before, after, run, left, -⟩ := ih alone
        obtain rfl : before = [] := by
          cases before with
          | nil => rfl
          | cons e before =>
            obtain rfl := run.head_before
            exact absurd left (words_ne_nil shown' before)
        exact ⟨[], after, run.cons_run shown, rfl, rfl⟩
      | cons x front =>
        obtain ⟨rfl, rfl⟩ := List.cons.inj h
        have behind : _ = (g :: front) ++ _ := inner
        obtain ⟨before, after, run, left, at_column⟩ := ih behind
        cases before with
        | nil => cases left
        | cons e before =>
          obtain rfl := run.head_before
          obtain ⟨word, words, here, more⟩ := words_cons_cons shown shown' before
          rw [here] at left
          obtain ⟨rfl, rfl⟩ := List.cons.inj left
          exact ⟨c :: d :: before, after, run.cons_before (by simp) c, more,
            at_column.trans (size _).symm⟩

inductive FieldRule where
  /-- A hexadecimal number below a bound. -/
  | hex (bound : Nat)
  /-- A signed decimal number of 32 bits. -/
  | decimal
  /-- Seconds and their fraction, in microseconds of 64 bits. -/
  | time
  deriving DecidableEq, Repr

namespace FieldRule

def Accepts : FieldRule → List Char → Prop
  | hex bound, w => ∃ n < bound, Text.Numeral.unsigned? 16 w = some n
  | decimal, w => ∃ v : Int32, Text.Numeral.signed? 10 w = some v.toInt
  | time, w => ∃ t, LineField.timestamp? w = some t

def ofPlace (tag : Char) (place : Nat) : FieldRule :=
  if tag = 'E' then [time, hex UInt16.size, hex UInt16.size].getD place decimal
  else if tag = 'I' then hex UInt16.size
  else if tag = 'P' then hex UInt8.size
  else if tag = 'B' then [hex UInt16.size].getD place (hex UInt8.size)
  else [hex UInt16.size].getD place decimal

end FieldRule

/-- The text that a report quotes as no number of its kind, or as no time. -/
def RecordingFault.quoted? : RecordingFault → Option String
  | notHex _ text | notDecimal _ text | notTimestamp text => some text
  | unrecognized _ | emptyName | idFields | maskFields | axisFields | eventFields _ | unexpectedTag _
  | missingName | missingIds | notEvent _ => none

/-- The first of some fields that is not what its place calls for is at fault. -/
structure LineFault.Blames (fault : LineFault) (rule : Nat → FieldRule) (front : List LineField)
    (f : LineField) : Prop where
  column : fault.column = f.column
  quoted : fault.fault.quoted? = some f.string
  before : ∀ i w, (front.map (·.text))[i]? = some w → (rule i).Accepts w
  refused : ¬ (rule front.length).Accepts f.text

def LineFault.BlamesOneOf (fault : LineFault) (rule : Nat → FieldRule) (fields : List LineField) :
    Prop :=
  ∃ front f behind, fields = front ++ f :: behind ∧ fault.Blames rule front f

/-- A reader of fields that accepts what a place calls for, and blames the field otherwise. -/
structure Follows {α : Type} (read : LineField → Except LineFault α) (rule : FieldRule) : Prop where
  accepts : ∀ {f a}, read f = .ok a → rule.Accepts f.text
  refuses : ∀ {f e}, read f = .error e →
    e.column = f.column ∧ e.fault.quoted? = some f.string ∧ ¬ rule.Accepts f.text

section Reading
variable {α β : Type} {read : LineField → Except LineFault α} {rule : Nat → FieldRule}
  {f : LineField} {fields : List LineField} {e : LineFault}

private theorem Follows.map {r : FieldRule} (h : Follows read r) (g : α → β) :
    Follows (fun f => (read f).map g) r where
  accepts ok := by
    obtain ⟨a, ok, -⟩ := map_eq_ok_iff.mp ok
    exact h.accepts ok
  refuses error := h.refuses (map_eq_error_iff.mp error)

private theorem follows_hex (what : RecordedNumber) (bound : Nat) :
    Follows (·.hex what bound) (.hex bound) where
  accepts ok := by
    obtain ⟨value, small⟩ := LineField.hex_eq_ok_iff.mp ok
    exact ⟨_, small, value⟩
  refuses {f e} error := by
    have refused : ¬ (FieldRule.hex bound).Accepts f.text := by
      rintro ⟨n, small, value⟩
      rw [LineField.hex_eq_ok_iff.mpr ⟨value, small⟩] at error
      cases error
    dsimp only [LineField.hex] at error
    split at error <;> cases error
    exact ⟨rfl, rfl, refused⟩

private theorem follows_int32 (what : RecordedNumber) : Follows (·.int32 what) .decimal where
  accepts ok := ⟨_, LineField.int32_eq_ok_iff.mp ok⟩
  refuses {f e} error := by
    have refused : ¬ FieldRule.decimal.Accepts f.text := by
      rintro ⟨v, value⟩
      rw [LineField.int32_eq_ok_iff.mpr value] at error
      cases error
    dsimp only [LineField.int32] at error
    split at error <;> cases error
    exact ⟨rfl, rfl, refused⟩

private theorem follows_timestamp : Follows (·.timestamp) .time where
  accepts ok := ⟨_, LineField.timestamp_eq_ok_iff.mp ok⟩
  refuses {f e} error := by
    have refused : ¬ FieldRule.time.Accepts f.text := by
      rintro ⟨t, value⟩
      rw [LineField.timestamp_eq_ok_iff.mpr value] at error
      cases error
    dsimp only [LineField.timestamp] at error
    split at error <;> cases error
    exact ⟨rfl, rfl, refused⟩

private theorem follows_hex16 (what : RecordedNumber) : Follows (·.hex16 what) (.hex UInt16.size) :=
  (follows_hex what _).map _

private theorem follows_hex8 (what : RecordedNumber) : Follows (·.hex8 what) (.hex UInt8.size) :=
  (follows_hex what _).map _

namespace LineFault.BlamesOneOf

private theorem head (column : e.column = f.column) (quoted : e.fault.quoted? = some f.string)
    (refused : ¬ (rule 0).Accepts f.text) : e.BlamesOneOf rule (f :: fields) :=
  ⟨[], f, fields, rfl, column, quoted, fun _ _ h => (by cases h), refused⟩

private theorem cons (accepted : (rule 0).Accepts f.text)
    (h : e.BlamesOneOf (fun i => rule (i + 1)) fields) : e.BlamesOneOf rule (f :: fields) := by
  obtain ⟨front, g, behind, rfl, blames⟩ := h
  refine ⟨f :: front, g, behind, rfl, blames.column, blames.quoted, ?_, blames.refused⟩
  intro i w found
  cases i with
  | zero =>
    obtain rfl : f.text = w := Option.some.inj found
    exact accepted
  | succ i => exact blames.before i w found

/-- The field in front is at fault, or else one of those that are read after it. -/
private theorem bind {k : α → Except LineFault β} (error : read f >>= k = .error e)
    (follows : Follows read (rule 0))
    (later : ∀ a, k a = .error e → e.BlamesOneOf (fun i => rule (i + 1)) fields) :
    e.BlamesOneOf rule (f :: fields) := by
  rcases bind_eq_error_iff.mp error with here | ⟨a, ok, error⟩
  · obtain ⟨column, quoted, refused⟩ := follows.refuses here
    exact head column quoted refused
  · exact cons (follows.accepts ok) (later a error)

private theorem mapM {r : FieldRule} (error : fields.mapM read = .error e) (follows : Follows read r) :
    e.BlamesOneOf (fun _ => r) fields := by
  induction fields with
  | nil => cases error
  | cons f fields ih =>
    rw [List.mapM_cons] at error
    refine bind error follows fun a error => ih ?_
    rcases bind_eq_error_iff.mp error with error | ⟨as, -, error⟩
    · exact error
    · cases error

end LineFault.BlamesOneOf

end Reading

def LineFault.AtStart (fault : LineFault) : Prop := fault.column = 1 ∧ fault.fault.quoted? = none

abbrev fieldsOf (body : List Char) : List LineField := lineFields 3 (beforeComment body)

open LineFault (AtStart BlamesOneOf)

/-- Nothing can fail any more. -/
private theorem ne_error_of_pure {α : Type} {a : α} {e : LineFault} {P : Prop}
    (h : (pure a : Except LineFault α) = .error e) : P := nomatch h

private theorem blamed_ofLine {line : Line} {body : List Char} {e : LineFault}
    (h : TimedEvent.ofLine line body = .error e) :
    e.AtStart ∨ e.BlamesOneOf (.ofPlace 'E') (fieldsOf body) := by
  unfold TimedEvent.ofLine at h
  split at h
  · next fields =>
    rw [fieldsOf, fields]
    refine .inr (.bind h follows_timestamp fun _ h => .bind h (follows_hex16 _) fun _ h => ?_)
    exact .bind h (follows_hex16 _) fun _ h => .bind h (follows_int32 _) fun _ h => ne_error_of_pure h
  · cases h
    exact .inl ⟨rfl, rfl⟩

namespace Header
variable {h : Header} {fields : List LineField} {e : LineFault}

private theorem blamed_readIds (error : h.readIds fields = .error e) :
    e.AtStart ∨ e.BlamesOneOf (.ofPlace 'I') fields := by
  unfold readIds at error
  split at error
  · have number := follows_hex16 .id
    refine .inr (.bind error number fun _ error => .bind error number fun _ error => ?_)
    exact .bind error number fun _ error => .bind error number fun _ error => ne_error_of_pure error
  · cases error
    exact .inl ⟨rfl, rfl⟩

private theorem blamed_readProperties (error : h.readProperties fields = .error e) :
    e.BlamesOneOf (.ofPlace 'P') fields := by
  rcases bind_eq_error_iff.mp error with error | ⟨bytes, -, error⟩
  · exact .mapM error (follows_hex8 _)
  · cases error

private theorem blamed_readMask (error : h.readMask fields = .error e) :
    e.AtStart ∨ e.BlamesOneOf (.ofPlace 'B') fields := by
  unfold readMask at error
  split at error
  · cases error
    exact .inl ⟨rfl, rfl⟩
  · refine .inr (.bind error (follows_hex16 _) fun type error => ?_)
    rcases bind_eq_error_iff.mp error with error | ⟨bytes, -, error⟩
    · exact .mapM error (follows_hex8 _)
    · cases error

private theorem blamed_readAxis (error : h.readAxis fields = .error e) :
    e.AtStart ∨ e.BlamesOneOf (.ofPlace 'A') fields := by
  unfold readAxis at error
  split at error
  · split at error
    · cases error
      exact .inl ⟨rfl, rfl⟩
    · have value := follows_int32 .axisValue
      refine .inr (.bind error (follows_hex16 _) fun _ error => .bind error value fun _ error => ?_)
      refine .bind error value fun _ error => .bind error value fun _ error => ?_
      refine .bind error value fun _ error => ?_
      split at error
      · rcases bind_eq_error_iff.mp error with error | ⟨_, -, error⟩ <;> cases error
      · exact .bind error value fun _ error => ne_error_of_pure error
  · cases error
    exact .inl ⟨rfl, rfl⟩

end Header

/-- A field of a line that is not what its place calls for, where all fields to its left are. -/
structure BadField (text : List Char) (column : Nat) (w : List Char) (tag : Char)
    (body before after : List Char) : Prop where
  line : text = tag :: ':' :: body
  run : RunIn (beforeComment body) before w after
  place : column = (Text.bytesOf (tag :: ':' :: before)).length + 1
  shown : Text.bytesOf w <+: (Text.bytesOf text).drop (column - 1)
  valid : ∀ i v, (words before)[i]? = some v → (FieldRule.ofPlace tag i).Accepts v
  refused : ¬ (FieldRule.ofPlace tag (words before).length).Accepts w

/-- The leftmost bad field of a line, which has its first byte in this column. -/
def LeftmostBad (text : List Char) (column : Nat) (w : List Char) : Prop :=
  ∃ tag body before after, BadField text column w tag body before after

/-- A fault points at a place in its line. If it quotes a number or a time, that is the leftmost bad field
of the line and stands there. -/
structure LineFault.PointsInto (fault : LineFault) (text : List Char) : Prop where
  low : 1 ≤ fault.column
  high : fault.column ≤ (Text.bytesOf text).length + 1
  leftmost : ∀ w, fault.fault.quoted? = some w → LeftmostBad text fault.column w.toList

namespace LineFault
variable {fault : LineFault} {text : List Char}

theorem AtStart.pointsInto (h : fault.AtStart) (text : List Char) : fault.PointsInto text := by
  obtain ⟨column, quoted⟩ := h
  refine ⟨by omega, by omega, fun w some => ?_⟩
  rw [quoted] at some
  cases some

private theorem BlamesOneOf.pointsInto {tag : Char} {body : List Char} (one : tag.utf8Size = 1)
    (h : fault.BlamesOneOf (.ofPlace tag) (fieldsOf body)) :
    fault.PointsInto (tag :: ':' :: body) := by
  obtain ⟨front, f, behind, fields, blames⟩ := h
  obtain ⟨before, after, run, left, column⟩ := run_of_lineFields fields
  have place : fault.column = (Text.bytesOf (tag :: ':' :: before)).length + 1 := by
    have marks : (Text.bytesOf (tag :: ':' :: before)).length =
        1 + (1 + (Text.bytesOf before).length) := by
      rw [Text.bytesOf_cons, Text.bytesOf_cons, List.length_append, List.length_append,
        String.length_utf8EncodeChar, one]
      rfl
    rw [blames.column, column, marks]
    omega
  -- The line up to the field, the field, and what comes after it, a comment included.
  have parts : Text.bytesOf (tag :: ':' :: body) = Text.bytesOf (tag :: ':' :: before) ++
      (Text.bytesOf f.text ++ Text.bytesOf (after ++ body.dropWhile (· ≠ '#'))) := by
    have whole : body = before ++ f.text ++ after ++ body.dropWhile (· ≠ '#') := by
      rw [← run.parts, beforeComment, List.takeWhile_append_dropWhile]
    rw [← Text.bytesOf_append, ← Text.bytesOf_append]
    conv_lhs => rw [whole]
    simp only [List.append_assoc, List.cons_append]
  refine ⟨by omega, ?_, fun w quoted => ?_⟩
  · rw [place, parts, List.length_append]
    omega
  · have text : w.toList = f.text := by
      rw [blames.quoted] at quoted
      rw [← Option.some.inj quoted, LineField.string, String.toList_ofList]
    rw [text]
    refine ⟨tag, body, before, after, rfl, run, place, ?_, left ▸ blames.before, ?_⟩
    · rw [place, Nat.add_sub_cancel, parts, List.drop_left]
      exact List.prefix_append _ _
    · rw [left, List.length_map]
      exact blames.refused

end LineFault

theorem pointsInto_step {h : Header} {line : Line} {e : LineFault} (error : h.step line = .error e) :
    e.PointsInto line.text := by
  unfold Header.step at error
  split at error
  · next tag body text =>
    have of_blamed {tag : Char} (one : tag.utf8Size = 1)
        (blamed : e.AtStart ∨ e.BlamesOneOf (.ofPlace tag) (fieldsOf body)) :
        e.PointsInto (tag :: ':' :: body) := by
      rcases blamed with start | blamed
      · exact start.pointsInto _
      · exact blamed.pointsInto one
    rw [text]
    dsimp only at error
    split_ifs at error with event name ids properties mask axis state unrecognized
    · exact event ▸ of_blamed rfl (blamed_ofLine (map_eq_error_iff.mp error))
    · have unnamed := map_eq_error_iff.mp error
      rw [Header.readName] at unnamed
      split at unnamed <;> cases unnamed
      refine ⟨by decide, ?_, fun w quoted => by cases quoted⟩
      rw [name]
      exact Nat.le_add_left _ _
    · exact ids ▸ of_blamed rfl (Header.blamed_readIds (map_eq_error_iff.mp error))
    · exact properties ▸ of_blamed rfl (.inr (Header.blamed_readProperties (map_eq_error_iff.mp error)))
    · exact mask ▸ of_blamed rfl (Header.blamed_readMask (map_eq_error_iff.mp error))
    · exact axis ▸ of_blamed rfl (Header.blamed_readAxis (map_eq_error_iff.mp error))
    · cases error
      exact AtStart.pointsInto ⟨rfl, rfl⟩ _
    · cases error
      exact AtStart.pointsInto ⟨rfl, rfl⟩ _
  · cases error
    exact AtStart.pointsInto ⟨rfl, rfl⟩ _

theorem pointsInto_eventOfLine {line : Line} {e : LineFault}
    (error : Recording.eventOfLine line = .error e) : e.PointsInto line.text := by
  unfold Recording.eventOfLine at error
  split at error
  · next body text =>
    rw [text]
    rcases blamed_ofLine error with start | blamed
    · exact start.pointsInto _
    · exact blamed.pointsInto rfl
  · cases error
    exact AtStart.pointsInto ⟨rfl, rfl⟩ _

end ScriptedInput

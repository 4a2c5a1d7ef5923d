import ScriptedInput.Proofs.Recording.Guarded.Slices
import ScriptedInput.Proofs.Text.Numeral

/-! Reading a line of a recording by slices and indices, with all that could stop a program in the midst
of it. What a line brings is found without any of it, in a line that is no longer than a text can be. -/
namespace ScriptedInput

open Text.Numeral (digit? digits? digitsAfter? unsigned?)

/-- Digits have one byte each. -/
private theorem Text.width_digits {cs : List Char} (h : ∀ c ∈ cs, c.isDigit) : width cs = cs.length := by
  induction cs with
  | nil => rfl
  | cons c cs ih =>
    obtain ⟨digit, later⟩ := List.forall_mem_cons.mp h
    have one : c.utf8Size = 1 := by
      rw [Char.utf8Size_eq_one_iff]
      simp only [Char.isDigit, Bool.and_eq_true, decide_eq_true_eq] at digit
      exact Nat.le_trans digit.2 (by decide)
    rw [width_cons, one, ih later, List.length_cons, Nat.add_comm]

namespace LineField

def micros64? (fraction : List Char) : Option Nat :=
  if fraction.isEmpty || 6 < Text.width fraction || !fraction.all Char.isDigit then none
  else (unsigned? 10 (fraction ++ List.replicate (6 - fraction.length) '0')).filter (· < UInt64.size)

def timestamp64? (cs : List Char) : Option Nat :=
  match cs.dropWhile (· ≠ '.') with
  | [] => none
  | _ :: fraction => do
    let seconds ← (unsigned? 10 (cs.takeWhile (· ≠ '.'))).filter (· < UInt64.size)
    let micros ← micros64? fraction
    let whole ← Recording.mul64? seconds 1000000
    Recording.add64? whole micros

/-- Digits are no sign. -/
private theorem unsigned?_digits {cs zeros : List Char} (some : cs ≠ []) (digits : ∀ c ∈ cs, c.isDigit) :
    unsigned? 10 (cs ++ zeros) = (digitsAfter? 10 0 cs).bind (digitsAfter? 10 · zeros) := by
  obtain ⟨c, cs, rfl⟩ := List.exists_cons_of_ne_nil some
  have first := digits c List.mem_cons_self
  rw [← Text.Numeral.digitsAfter?_append, ← Text.Numeral.digits?_eq (by simp)]
  unfold unsigned?
  split
  · next parts =>
    rw [(List.cons.inj parts).1] at first
    cases first
  · rfl

/-- Six digits write no more than a million millionths. -/
private theorem lt_of_micros {fraction : List Char} {m : Nat}
    (value : digitsAfter? 10 0 fraction = some m)
    (short : fraction.length ≤ 6) : m * Nat.pow 10 (6 - fraction.length) < UInt64.size := by
  have bound : m < Nat.pow 10 fraction.length := by
    simpa using Text.Numeral.lt_of_digitsAfter? value
  calc m * Nat.pow 10 (6 - fraction.length)
      < Nat.pow 10 fraction.length * Nat.pow 10 (6 - fraction.length) :=
        Nat.mul_lt_mul_of_pos_right bound (Nat.pow_pos (by decide))
    _ = Nat.pow 10 (fraction.length + (6 - fraction.length)) := (Nat.pow_add 10 _ _).symm
    _ = Nat.pow 10 6 := by rw [Nat.add_sub_cancel' short]
    _ < UInt64.size := by decide

private theorem micros64?_eq (fraction : List Char) : micros64? fraction = micros? fraction := by
  unfold micros64? micros?
  cases value : digits? 10 fraction with
  | none =>
    rw [Option.map_none, ite_self]
    split_ifs with guard
    · rfl
    · simp only [Bool.or_eq_true, List.isEmpty_iff, Bool.not_eq_true', not_or, Bool.not_eq_false,
        List.all_eq_true] at guard
      obtain ⟨⟨some, -⟩, digits⟩ := guard
      rw [unsigned?_digits some digits, ← Text.Numeral.digits?_eq some, value]
      rfl
  | some m =>
    have some : fraction ≠ [] := by
      rintro rfl
      cases value
    rw [Text.Numeral.digits?_eq some] at value
    have digits : ∀ c ∈ fraction, c.isDigit := by
      intro c hc
      obtain ⟨d, digit⟩ := Text.Numeral.digit?_of_mem value c hc
      exact Text.Numeral.isDigit_of_digit?_ten digit
    have all : fraction.all Char.isDigit := List.all_eq_true.mpr digits
    have empty : fraction.isEmpty = false := by simpa using some
    simp only [empty, all, Text.width_digits digits, Bool.false_or, Bool.not_true, Bool.or_false,
      decide_eq_true_eq]
    by_cases short : fraction.length ≤ 6
    · rw [if_neg (by omega), if_pos short, unsigned?_digits some digits, value]
      simp only [Option.bind_some, Text.Numeral.digitsAfter?_zeros, Option.map_some, Option.filter_some,
        lt_of_micros value short, decide_true, if_true]
    · rw [if_pos (by omega), if_neg short]

/-- A product and a sum do not overflow on the way to a number of 64 bits. -/
private theorem total64?_eq_some_iff {seconds unit micros t : Nat} :
    (∃ whole, Recording.mul64? seconds unit = some whole ∧ Recording.add64? whole micros = some t) ↔
      seconds * unit + micros = t ∧ t < UInt64.size := by
  simp only [Recording.mul64?, Recording.add64?, Option.ite_none_right_eq_some, Option.some.injEq]
  constructor
  · rintro ⟨_, ⟨-, rfl⟩, fits, rfl⟩
    exact ⟨rfl, fits⟩
  · rintro ⟨rfl, fits⟩
    exact ⟨_, ⟨Nat.lt_of_le_of_lt (Nat.le_add_right _ _) fits, rfl⟩, fits, rfl⟩

def timestamp64 (f : LineField) : Except LineFault Nat :=
  match timestamp64? f.text with
  | some t => .ok t
  | none => .error ⟨f.column, .notTimestamp f.string⟩

private theorem timestamp64?_eq (cs : List Char) : timestamp64? cs = timestamp? cs := by
  rw [timestamp64?, timestamp?]
  cases cs.dropWhile (· ≠ '.') with
  | nil => rfl
  | cons point fraction =>
    refine Option.ext fun t => ?_
    simp only [Option.bind_eq_bind, Option.bind_eq_some_iff, Option.filter_eq_some_iff, micros64?_eq,
      total64?_eq_some_iff, Option.some.injEq, decide_eq_true_eq]
    constructor
    · rintro ⟨s, ⟨seconds, -⟩, m, micros, rfl, fits⟩
      exact ⟨m, micros, s, seconds, rfl, fits⟩
    · rintro ⟨m, micros, s, seconds, rfl, fits⟩
      have whole : s ≤ s * 1000000 + m :=
        Nat.le_trans (Nat.le_mul_of_pos_right s (by decide)) (Nat.le_add_right _ _)
      exact ⟨s, ⟨seconds, Nat.lt_of_le_of_lt whole fits⟩, m, micros, rfl, fits⟩

private theorem timestamp64_eq (f : LineField) : f.timestamp64 = f.timestamp := by
  rw [timestamp64, timestamp64?_eq]
  rfl

end LineField

open Guarded

def guardedFields (body : List Char) : Except Trap (List LineField) := fieldsFrom body 2 0 none body

def guardedEvent (text : List Char) : Guarded LineFault TimedEvent := do
  let body ← attempt (Text.sliceFrom text 2)
  let fields ← attempt (guardedFields (beforeComment body))
  if fields.length ≠ 4 then throw ⟨1, .eventFields (String.ofList text)⟩
  else do
    let time ← attempt (itemAt fields 0)
    let timestamp ← check (time.timestamp64)
    let type ← attempt (itemAt fields 1)
    let type ← check (type.hex16 .eventType)
    let code ← attempt (itemAt fields 2)
    let code ← check (code.hex16 .eventCode)
    let value ← attempt (itemAt fields 3)
    let value ← check (value.int32 .eventValue)
    return ⟨timestamp, ⟨type, code, value⟩⟩

def guardedLater (text : List Char) : Guarded LineFault TimedEvent :=
  if ['E', ':'] <+: text then guardedEvent text else throw ⟨1, .notEvent (String.ofList text)⟩

/-- The tag of a line: what stands before its first colon, if that is one byte. -/
def tagOf? (text : List Char) : Option Char :=
  let tag := text.takeWhile (· ≠ ':')
  if ':' ∈ text ∧ Text.width tag = 1 then some (tag.headD '\x00') else none

/-- An axis line. Numbers that it does not have are zero. -/
def guardedAxis (h : Header) (fields : List LineField) : Guarded LineFault Header := do
  if fields.length ≠ 5 ∧ fields.length ≠ 6 then throw ⟨1, .axisFields⟩
  else do
    let code ← attempt (itemAt fields 0)
    let code ← check (code.hex16 .axisCode)
    let behind ← attempt (itemsFrom fields 1)
    let numbers ← check ((behind.take 5).mapM (·.int32 .axisValue))
    let number (i : Nat) : Int32 := numbers.getD i 0
    let info : AbsInfo := { minimum := number 0, maximum := number 1, fuzz := number 2, flat := number 3,
                            resolution := number 4 }
    return { h with axes := h.axes.insert code info }

def guardedStep (h : Header) (text : List Char) : Guarded LineFault Header.Step :=
  match tagOf? text with
  | none => throw ⟨1, .unrecognized (String.ofList text)⟩
  | some tag =>
    if tag = 'E' then .event <$> guardedEvent text
    else do
      let behind ← attempt (Text.sliceFrom text 2)
      let fields ← attempt (guardedFields (if tag = 'N' then behind else beforeComment behind))
      if tag = 'N' then .more <$> check (h.readName behind)
      else if tag = 'I' then .more <$> check (h.readIds fields)
      else if tag = 'P' then .more <$> check (h.readProperties fields)
      else if tag = 'B' then .more <$> check (h.readMask fields)
      else if tag = 'A' then .more <$> guardedAxis h fields
      else if tag = 'L' ∨ tag = 'S' then return .more h
      else throw ⟨1, .unexpectedTag tag⟩

private theorem guardedFields_eq {body : List Char} (fits : Text.width body ≤ longestText) :
    guardedFields body = .ok (lineFields 3 body) := by
  have room : 2 + Text.width body + 1 < UInt64.size := by
    have longest : longestText + 4 < UInt64.size := by decide
    omega
  exact (fieldsFrom_eq room body).1 [] rfl

private theorem Text.width_beforeComment_le (cs : List Char) : width (beforeComment cs) ≤ width cs := by
  have parts := congrArg width (List.takeWhile_append_dropWhile (l := cs) (p := (· ≠ '#')))
  rw [width_append] at parts
  exact Nat.le.intro parts

/-- An event line is read without any trap, and as it should be. -/
private theorem gives_guardedEvent {line : Line} {body : List Char}
    (text : line.text = 'E' :: ':' :: body) (fits : Text.width body ≤ longestText) :
    Gives (guardedEvent line.text) (TimedEvent.ofLine line body) := by
  have behind : Text.sliceFrom line.text 2 = .ok body := text ▸ Text.sliceFrom_append ['E', ':'] body
  have fields := guardedFields_eq (Nat.le_trans (Text.width_beforeComment_le body) fits)
  rw [guardedEvent, attempt_bind behind, attempt_bind fields, TimedEvent.ofLine]
  match lineFields 3 (beforeComment body) with
  | [time, type, code, value] =>
    have clock : Gives (check time.timestamp64) time.timestamp := congrArg Except.ok time.timestamp64_eq
    exact .bind clock fun t => .bind (gives_check _) fun _ => .bind (gives_check _) fun _ =>
      .bind (gives_check _) fun _ => gives_pure _
  | [] | [_] | [_, _] | [_, _, _] => exact gives_throw _
  | _ :: _ :: _ :: _ :: _ :: _ => exact gives_throw _

/-- A line behind the header is read without any trap, and as it should be. -/
theorem gives_guardedLater (line : Line) (fits : Text.width line.text ≤ longestText) :
    Gives (guardedLater line.text) (Recording.eventOfLine line) := by
  unfold Recording.eventOfLine
  split
  · next body text =>
    have tagged : ['E', ':'] <+: line.text := ⟨body, text.symm⟩
    rw [guardedLater, if_pos tagged]
    refine gives_guardedEvent text ?_
    rw [text, Text.width_cons, Text.width_cons] at fits
    omega
  · next other =>
    have untagged : ¬ ['E', ':'] <+: line.text := fun ⟨body, text⟩ => other body text.symm
    rw [guardedLater, if_neg untagged]
    exact gives_throw _

/-- The numbers behind the code of an axis line are read as a list. -/
private theorem readAxis_eq {h : Header} {code : LineField} {behind : List LineField}
    (few : behind.length = 4 ∨ behind.length = 5) : h.readAxis (code :: behind) = do
      let code ← code.hex16 .axisCode
      let numbers ← behind.mapM (·.int32 .axisValue)
      return { h with axes := h.axes.insert code {
        minimum := numbers.getD 0 0, maximum := numbers.getD 1 0, fuzz := numbers.getD 2 0,
        flat := numbers.getD 3 0, resolution := numbers.getD 4 0 } } := by
  match behind with
  | [_, _, _, _] | [_, _, _, _, _] =>
    simp only [Header.readAxis, List.length_nil, List.length_cons, Nat.not_lt_zero, Nat.lt_irrefl, if_false,
      List.mapM_cons, List.mapM_nil, bind_assoc, pure_bind]
    rfl
  | [] | [_] | [_, _] | [_, _, _] => simp at few
  | _ :: _ :: _ :: _ :: _ :: _ :: _ => simp at few

/-- An axis line is read without any trap, and as it should be. -/
private theorem gives_guardedAxis (h : Header) (fields : List LineField) :
    Gives (guardedAxis h fields) (h.readAxis fields) := by
  match fields with
  | [] | [_] | [_, _] | [_, _, _] | [_, _, _, _] => exact gives_throw _
  | [_, _, _, _, _] | [_, _, _, _, _, _] =>
    rw [readAxis_eq (by simp)]
    exact .bind (gives_check _) fun _ => .bind (gives_check _) fun _ => gives_pure _
  | code :: minimum :: maximum :: fuzz :: flat :: first :: second :: more =>
    have many : 1 < (first :: second :: more).length := by simp
    have wrong : (code :: minimum :: maximum :: fuzz :: flat :: first :: second :: more).length ≠ 5 ∧
        (code :: minimum :: maximum :: fuzz :: flat :: first :: second :: more).length ≠ 6 := by simp
    rw [guardedAxis, if_pos wrong, Header.readAxis, if_pos many]
    exact gives_throw _

/-- A tag is one character of one byte with a colon behind it. -/
private theorem tagOf?_eq_some_iff {text : List Char} {tag : Char} :
    tagOf? text = some tag ↔ (∃ body, text = tag :: ':' :: body) ∧ tag ≠ ':' ∧ tag.utf8Size = 1 := by
  constructor
  · intro h
    unfold tagOf? at h
    dsimp only at h
    split_ifs at h with one
    obtain ⟨colon, one⟩ := one
    cases text with
    | nil => simp at colon
    | cons c rest =>
      by_cases first : c = ':'
      · simp [first] at one
      have front : (c :: rest).takeWhile (· ≠ ':') = c :: rest.takeWhile (· ≠ ':') := by simp [first]
      rw [front, List.headD_cons] at h
      rw [front, Text.width_cons] at one
      have size := c.utf8Size_pos
      obtain rfl := Option.some.inj h
      cases rest with
      | nil => simp [Ne.symm first] at colon
      | cons d body =>
        obtain rfl : d = ':' := by
          by_contra second
          have size' := d.utf8Size_pos
          rw [List.takeWhile_cons_of_pos (by simpa using second), Text.width_cons] at one
          omega
        refine ⟨⟨body, rfl⟩, first, ?_⟩
        simpa using one
  · rintro ⟨⟨body, rfl⟩, other, one⟩
    have front : (tag :: ':' :: body).takeWhile (· ≠ ':') = [tag] := by simp [other]
    have both : ':' ∈ tag :: ':' :: body ∧ Text.width [tag] = 1 := by simp [one]
    rw [tagOf?, front]
    exact if_pos both

/-- A line without a tag is not recognised. -/
private theorem step_untagged {line : Line} (untagged : tagOf? line.text = none) (h : Header) :
    h.step line = .error ⟨1, .unrecognized line.string⟩ := by
  unfold Header.step
  split
  · next tag body text =>
    have odd : tag.utf8Size ≠ 1 ∨ tag = ':' := by
      by_contra plain
      rw [not_or, not_not] at plain
      have tagged := tagOf?_eq_some_iff.mpr ⟨⟨body, text⟩, plain.2, plain.1⟩
      rw [untagged] at tagged
      cases tagged
    have other {c : Char} (size : c.utf8Size = 1) (colon : c ≠ ':') : tag ≠ c := by
      rintro rfl
      exact odd.elim (· size) colon
    have e : tag ≠ 'E' := other (by decide) (by decide)
    have n : tag ≠ 'N' := other (by decide) (by decide)
    have i : tag ≠ 'I' := other (by decide) (by decide)
    have p : tag ≠ 'P' := other (by decide) (by decide)
    have b : tag ≠ 'B' := other (by decide) (by decide)
    have a : tag ≠ 'A' := other (by decide) (by decide)
    have l : tag ≠ 'L' := other (by decide) (by decide)
    have s : tag ≠ 'S' := other (by decide) (by decide)
    simp only [e, n, i, p, b, a, l, s, if_false, or_self, if_pos odd]
  · rfl

/-- A line of the header is read without any trap, and as it should be. -/
theorem gives_guardedStep (line : Line) (fits : Text.width line.text ≤ longestText) (h : Header) :
    Gives (guardedStep h line.text) (h.step line) := by
  cases tagged : tagOf? line.text with
  | none =>
    rw [guardedStep, tagged, step_untagged tagged]
    exact gives_throw _
  | some tag =>
    obtain ⟨⟨body, text⟩, other, one⟩ := tagOf?_eq_some_iff.mp tagged
    have two : Text.width [tag, ':'] = 2 := by
      rw [Text.width_cons, one]
      rfl
    have room : Text.width body ≤ longestText := by
      have parts : line.text = [tag, ':'] ++ body := text
      rw [parts, Text.width_append] at fits
      omega
    have behind : Text.sliceFrom line.text 2 = .ok body := by
      rw [text, ← two]
      exact Text.sliceFrom_append [tag, ':'] body
    have fields : guardedFields (if tag = 'N' then body else beforeComment body) =
        .ok (lineFields 3 (if tag = 'N' then body else beforeComment body)) := by
      refine guardedFields_eq ?_
      split_ifs
      · exact room
      · exact Nat.le_trans (Text.width_beforeComment_le body) room
    have plain : ¬ (tag.utf8Size ≠ 1 ∨ tag = ':') := not_or.mpr ⟨not_not.mpr one, other⟩
    unfold Header.step
    split
    · next tag' body' text' =>
      obtain ⟨rfl, rfl⟩ : tag = tag' ∧ body = body' := by simpa using text.symm.trans text'
      rw [guardedStep, tagged]
      dsimp only
      by_cases timed : tag = 'E'
      · subst timed
        exact (gives_guardedEvent text room).map _
      rw [if_neg timed, if_neg timed, attempt_bind behind, attempt_bind fields]
      by_cases name : tag = 'N'
      · rw [if_pos name, if_pos name]
        exact (gives_check _).map _
      rw [if_neg name, if_neg name, if_neg name]
      split_ifs
      · exact (gives_check _).map _
      · exact (gives_check _).map _
      · exact (gives_check _).map _
      · exact (gives_guardedAxis h _).map _
      · exact gives_pure _
      · exact gives_throw _
    · next untagged => exact absurd text (untagged tag body)

end ScriptedInput

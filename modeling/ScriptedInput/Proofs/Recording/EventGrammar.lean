import ScriptedInput.Proofs.Recording.Feed
import ScriptedInput.Proofs.Recording.HeaderLines

/-! The grammar of event lines. A line is read as an event line, before the end of the header and behind
it, if it has the words that the grammar asks for, and as the event that these write. -/
namespace ScriptedInput

open Text.Numeral (Digits Unsigned Signed)

/-- A time in microseconds: whole seconds, a point, and one to six digits, which are the first ones of the
six for millionths. -/
inductive TimeText : Nat → List Char → Prop where
  | mk {whole fraction : List Char} {seconds part : Nat} (before : Unsigned 10 seconds whole)
    (behind : Digits 10 part fraction) (short : fraction.length ≤ 6) :
    TimeText (seconds * 1000000 + part * Nat.pow 10 (6 - fraction.length)) (whole ++ '.' :: fraction)

/-- The text of an event line: behind the tag and before any comment there are four words, for a time of 64
bits, for the type and the code in hexadecimal digits, and for the value in decimal ones. -/
inductive EventText (e : TimedEvent) : List Char → Prop where
  | mk {body time type code value : List Char}
    (fields : words (beforeComment body) = [time, type, code, value])
    (time : TimeText e.timestamp time) (fits : e.timestamp < UInt64.size)
    (type : Unsigned 16 e.event.type.toNat type) (code : Unsigned 16 e.event.code.toNat code)
    (value : Signed 10 e.event.value.toInt value) : EventText e ('E' :: ':' :: body)

private theorem Text.Numeral.Unsigned.ne_point {n : Nat} {cs : List Char} (h : Unsigned 10 n cs) :
    ∀ c ∈ cs, (c ≠ '.' : Bool) := by
  have digits {cs : List Char} (h : Digits 10 n cs) : ∀ c ∈ cs, (c ≠ '.' : Bool) := by
    intro c hc
    refine decide_eq_true ?_
    rintro rfl
    have written := h ▸ List.mem_map_of_mem (f := Char.toLower) hc
    exact notMem_written (by decide) (fun _ => Nat.digitChar_ne '.' (by decide)) _ n written
  cases h with
  | bare h => exact digits h
  | plus h => exact List.forall_mem_cons.mpr ⟨rfl, digits h⟩

namespace LineField

private theorem micros?_eq_some_iff {cs : List Char} {m : Nat} :
    micros? cs = some m ↔
      cs.length ≤ 6 ∧ ∃ part, Digits 10 part cs ∧ part * Nat.pow 10 (6 - cs.length) = m := by
  unfold micros?
  split
  · next short =>
    rw [Option.map_eq_some_iff]
    simp only [Text.Numeral.digits?_eq_some_iff (b := 10) (by decide) (by decide), short, true_and]
  · next long =>
    simp [long]

/-- Times are read by their grammar, those of 64 bits. -/
private theorem timestamp?_eq_some_iff {cs : List Char} {t : Nat} :
    timestamp? cs = some t ↔ TimeText t cs ∧ t < UInt64.size := by
  constructor
  · intro h
    have fits := lt_of_timestamp? h
    refine ⟨?_, fits⟩
    unfold timestamp? at h
    split at h
    · cases h
    · next point fraction parts =>
      obtain ⟨m, micros, h⟩ := Option.bind_eq_some_iff.mp h
      obtain ⟨s, seconds, h⟩ := Option.bind_eq_some_iff.mp h
      obtain ⟨short, part, digits, rfl⟩ := micros?_eq_some_iff.mp micros
      obtain rfl := Option.some.inj (Option.filter_eq_some_iff.mp h).1
      have whole := (Text.Numeral.unsigned?_eq_some_iff (by decide) (by decide)).mp seconds
      obtain rfl : point = '.' := by
        have first := List.head?_dropWhile_not (· ≠ '.') cs
        rw [parts] at first
        simpa using first
      have text : cs = cs.takeWhile (· ≠ '.') ++ '.' :: fraction := by
        rw [← parts, List.takeWhile_append_dropWhile]
      rw [text]
      exact .mk whole digits short
  · rintro ⟨⟨before, behind, short⟩, fits⟩
    refine timestamp?_point before.ne_point ?_ ?_ fits
    · exact (Text.Numeral.unsigned?_eq_some_iff (by decide) (by decide)).mpr before
    · exact micros?_eq_some_iff.mpr ⟨short, _, behind, rfl⟩

end LineField

/-- A line tells of an event in the words of the grammar. -/
private theorem Line.tells_iff {line : Line} {e : TimedEvent} : line.Tells e ↔ EventText e line.text := by
  have hex {n : Nat} {w : List Char} : Text.Numeral.unsigned? 16 w = some n ↔ Unsigned 16 n w :=
    Text.Numeral.unsigned?_eq_some_iff (by decide) (by decide)
  have decimal {v : Int} {w : List Char} : Text.Numeral.signed? 10 w = some v ↔ Signed 10 v w :=
    Text.Numeral.signed?_eq_some_iff (by decide) (by decide)
  constructor
  · rintro ⟨body, time, type, code, value, text, fields, written⟩
    obtain ⟨read, fits⟩ := LineField.timestamp?_eq_some_iff.mp written.time
    rw [text]
    exact .mk fields read fits (hex.mp written.type) (hex.mp written.code) (decimal.mp written.value)
  · intro h
    generalize parts : line.text = text at h
    cases h with
    | mk fields time fits type code value =>
      refine ⟨_, _, _, _, _, parts, fields, ?_, hex.mpr type, hex.mpr code, decimal.mpr value⟩
      exact LineField.timestamp?_eq_some_iff.mpr ⟨time, fits⟩

/-- A line with the tag of event lines is read as one if, and only if, it is in their grammar, and then as
the event that it writes; any other such line is refused. That is so of the first event line, at which the
header ends, and of all those behind it. -/
theorem event_line_by_grammar {line : Line} (tagged : line.isEvent) (h : Header) :
    (∀ e, h.step line = .ok (.event e) ↔ EventText e line.text) ∧
    (∀ e, Recording.eventOfLine line = .ok e ↔ EventText e line.text) ∧
    ((∀ e, ¬ EventText e line.text) →
      (∃ f, h.step line = .error f) ∧ ∃ f, Recording.eventOfLine line = .error f) := by
  have first (e : TimedEvent) : h.step line = .ok (.event e) ↔ EventText e line.text :=
    Header.step_eq_event_iff.trans Line.tells_iff
  have later (e : TimedEvent) : Recording.eventOfLine line = .ok e ↔ EventText e line.text :=
    Recording.eventOfLine_eq_ok_iff.trans Line.tells_iff
  refine ⟨first, later, fun none => ⟨?_, ?_⟩⟩
  · cases step : h.step line with
    | error f => exact ⟨f, rfl⟩
    | ok brought =>
      cases brought with
      | more after =>
        have other := Recording.not_isEvent_of_step step
        rw [tagged] at other
        cases other
      | event e => exact absurd ((first e).mp step) (none e)
  · cases read : Recording.eventOfLine line with
    | error f => exact ⟨f, rfl⟩
    | ok e => exact absurd ((later e).mp read) (none e)

def freeLine : Line := ⟨7, "E:+03.05\u00a0\t0001E +2 -07#8 9".toList⟩

theorem freeLine_by_grammar : freeLine.isEvent ∧
    EventText ⟨3050000, 0x1e, 2, -7⟩ freeLine.text ∧
    ({} : Header).step freeLine = .ok (.event ⟨3050000, 0x1e, 2, -7⟩) ∧
    Recording.eventOfLine freeLine = .ok ⟨3050000, 0x1e, 2, -7⟩ := by
  have tagged : freeLine.isEvent := by decide
  have time : TimeText 3050000 "+03.05".toList :=
    @TimeText.mk ['+', '0', '3'] ['0', '5'] 3 5 (.plus rfl) rfl (by decide)
  have type : Unsigned 16 0x1e "0001E".toList := .bare rfl
  have code : Unsigned 16 2 "+2".toList := .plus rfl
  have value : Signed 10 (-7) "-07".toList := @Signed.minus 10 7 ['0', '7'] rfl
  have grammar : EventText ⟨3050000, 0x1e, 2, -7⟩ freeLine.text :=
    .mk (by decide) time (by decide) type code value
  obtain ⟨first, later, -⟩ := event_line_by_grammar tagged {}
  exact ⟨tagged, grammar, (first _).mpr grammar, (later _).mpr grammar⟩

end ScriptedInput

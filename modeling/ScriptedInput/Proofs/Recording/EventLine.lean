import ScriptedInput.Proofs.Success
import ScriptedInput.Script.Recording

/-! What the lines of a recording hold: words between blanks, and the numbers that they write. -/
namespace ScriptedInput

/-- The words of a text: the longest runs of characters that are no blanks. -/
def words (cs : List Char) : List (List Char) :=
  (cs.splitOnP Text.isBlank).filter (!·.isEmpty)

theorem words_cons_blank {c : Char} (h : Text.isBlank c) (cs : List Char) :
    words (c :: cs) = words cs := by
  simp [words, List.splitOnP_cons_eq_if_modifyHead, h]

/-- A character before a word belongs to it. -/
theorem words_cons_cons {c d : Char} (hc : Text.isBlank c = false) (hd : Text.isBlank d = false)
    (cs : List Char) :
    ∃ word rest, words (d :: cs) = word :: rest ∧ words (c :: d :: cs) = (c :: word) :: rest := by
  obtain ⟨first, rest, hs⟩ := List.exists_cons_of_ne_nil (List.splitOnP_ne_nil Text.isBlank cs)
  refine ⟨d :: first, rest.filter (!·.isEmpty), ?_, ?_⟩ <;>
    simp [words, List.splitOnP_cons_eq_if_modifyHead, hc, hd, hs]

/-- A character before a blank is a word of its own. -/
theorem words_cons_cons_blank {c d : Char} (hc : Text.isBlank c = false) (hd : Text.isBlank d)
    (cs : List Char) : words (c :: d :: cs) = [c] :: words (d :: cs) := by
  simp [words, List.splitOnP_cons_eq_if_modifyHead, hc, hd]

theorem lineFields_cons (column : Nat) (c : Char) (cs : List Char) :
    lineFields column (c :: cs) =
      let after := lineFields (column + c.utf8Size) cs
      if Text.isBlank c then after
      else match cs, after with
        | d :: _, f :: rest =>
          if Text.isBlank d then ⟨[c], column⟩ :: after else ⟨c :: f.text, column⟩ :: rest
        | _, _ => ⟨[c], column⟩ :: after := rfl

/-- The fields of a line are its words. -/
theorem map_text_lineFields (column : Nat) (cs : List Char) :
    (lineFields column cs).map (·.text) = words cs := by
  induction cs generalizing column with
  | nil => rfl
  | cons c cs ih =>
    specialize ih (column + c.utf8Size)
    rw [lineFields_cons]
    cases hc : Text.isBlank c with
    | true => simp only [if_true, ih, words_cons_blank hc]
    | false =>
      cases cs with
      | nil =>
        have single : words [c] = [[c]] := by
          simp [words, List.splitOnP_cons_eq_if_modifyHead, hc]
        rw [single]
        rfl
      | cons d cs =>
        cases hd : Text.isBlank d with
        | true =>
          rw [words_cons_cons_blank hc hd, ← ih]
          cases lineFields (column + c.utf8Size) (d :: cs) <;> simp [hd]
        | false =>
          obtain ⟨word, rest, hw, hcw⟩ := words_cons_cons hc hd cs
          obtain ⟨f, fs, hf, rfl, rfl⟩ := List.map_eq_cons_iff.mp (ih.trans hw)
          simp [hcw, hf, hd]

namespace LineField

theorem hex_eq_ok_iff {f : LineField} {what : RecordedNumber} {bound n : Nat} :
    f.hex what bound = .ok n ↔ Text.Numeral.unsigned? 16 f.text = some n ∧ n < bound := by
  unfold hex
  cases hn : Text.Numeral.unsigned? 16 f.text with
  | none => simp
  | some m =>
    by_cases hm : m < bound
    · simp only [Option.filter_some, hm, decide_true, if_true, Except.ok.injEq, Option.some.injEq]
      exact ⟨fun h => ⟨h, h ▸ hm⟩, And.left⟩
    · simp only [Option.filter_some, hm, decide_false, Bool.false_eq_true, if_false, reduceCtorEq,
        Option.some.injEq, false_iff, not_and]
      rintro rfl
      exact hm

/-- A hexadecimal word is read if it writes a number of the type wanted. -/
private theorem map_hex_eq_ok_iff {α : Type} {ofNat : Nat → α} {toNat : α → Nat} {bound : Nat}
    (toNat_lt : ∀ a, toNat a < bound) (ofNat_toNat : ∀ a, ofNat (toNat a) = a)
    (toNat_ofNat : ∀ n < bound, toNat (ofNat n) = n) {f : LineField} {what : RecordedNumber}
    {a : α} :
    (f.hex what bound).map ofNat = .ok a ↔
      Text.Numeral.unsigned? 16 f.text = some (toNat a) := by
  constructor
  · intro h
    cases hn : f.hex what bound with
    | error e => simp [hn, Except.map] at h
    | ok n =>
      obtain ⟨hu, hb⟩ := hex_eq_ok_iff.mp hn
      simp only [hn, Except.map, Except.ok.injEq] at h
      rw [hu, ← h, toNat_ofNat n hb]
  · intro h
    rw [hex_eq_ok_iff.mpr ⟨h, toNat_lt a⟩]
    simp [Except.map, ofNat_toNat]

theorem hex16_eq_ok_iff {f : LineField} {what : RecordedNumber} {v : UInt16} :
    f.hex16 what = .ok v ↔ Text.Numeral.unsigned? 16 f.text = some v.toNat :=
  map_hex_eq_ok_iff UInt16.toNat_lt_size (fun _ => UInt16.ofNat_toNat)
    (fun _ => UInt16.toNat_ofNat_of_lt')

theorem hex8_eq_ok_iff {f : LineField} {what : RecordedNumber} {v : UInt8} :
    f.hex8 what = .ok v ↔ Text.Numeral.unsigned? 16 f.text = some v.toNat :=
  map_hex_eq_ok_iff UInt8.toNat_lt_size (fun _ => UInt8.ofNat_toNat)
    (fun _ => UInt8.toNat_ofNat_of_lt')

theorem int32_eq_ok_iff {f : LineField} {what : RecordedNumber} {v : Int32} :
    f.int32 what = .ok v ↔ Text.Numeral.signed? 10 f.text = some v.toInt := by
  unfold int32
  have low := v.le_toInt
  have high := v.toInt_lt
  cases hn : Text.Numeral.signed? 10 f.text with
  | none => simp
  | some n =>
    by_cases hb : -0x80000000 ≤ n ∧ n < 0x80000000
    · simp only [Option.filter_some, hb, decide_true, and_self, if_true, Except.ok.injEq,
        Option.some.injEq]
      constructor
      · rintro rfl
        exact (Int32.toInt_ofInt_of_le (by omega) (by omega)).symm
      · rintro rfl
        exact Int32.ofInt_toInt v
    · simp only [Option.filter_some, hb, decide_false, Bool.false_eq_true, if_false, reduceCtorEq,
        Option.some.injEq, false_iff]
      omega

theorem timestamp_eq_ok_iff {f : LineField} {t : Nat} :
    f.timestamp = .ok t ↔ timestamp? f.text = some t := by
  unfold timestamp
  cases timestamp? f.text <;> simp

/-- Timestamps fit 64 bits. -/
theorem lt_of_timestamp? {cs : List Char} {t : Nat} (h : timestamp? cs = some t) :
    t < UInt64.size := by
  unfold timestamp? at h
  split at h
  · simp at h
  · obtain ⟨micros, -, h⟩ := Option.bind_eq_some_iff.mp h
    obtain ⟨seconds, -, h⟩ := Option.bind_eq_some_iff.mp h
    have fits := (Option.filter_eq_some_iff.mp h).2
    exact of_decide_eq_true fits

end LineField

structure TimedEvent.WrittenAs (e : TimedEvent) (time type code value : List Char) : Prop where
  time : LineField.timestamp? time = some e.timestamp
  type : Text.Numeral.unsigned? 16 type = some e.event.type.toNat
  code : Text.Numeral.unsigned? 16 code = some e.event.code.toNat
  value : Text.Numeral.signed? 10 value = some e.event.value.toInt

/-- The line is an event line that tells of this event: after its tag and before any comment stand
the four words for it. -/
def Line.Tells (line : Line) (e : TimedEvent) : Prop :=
  ∃ body time type code value, line.text = 'E' :: ':' :: body ∧
    words (beforeComment body) = [time, type, code, value] ∧ e.WrittenAs time type code value

/-- An event line is read as what it tells. -/
theorem TimedEvent.ofLine_eq_ok_iff {line : Line} {body : List Char} {e : TimedEvent} :
    TimedEvent.ofLine line body = .ok e ↔
      ∃ time type code value, words (beforeComment body) = [time, type, code, value] ∧
        e.WrittenAs time type code value := by
  have split := map_text_lineFields 3 (beforeComment body)
  unfold TimedEvent.ofLine
  match lineFields 3 (beforeComment body), split with
  | [time, type, code, value], split =>
    rw [← split]
    dsimp only
    simp only [bind_eq_ok_iff, LineField.timestamp_eq_ok_iff, LineField.hex16_eq_ok_iff,
      LineField.int32_eq_ok_iff]
    constructor
    · rintro ⟨t, ht, ty, hty, c, hc, v, hv, h⟩
      obtain rfl : (⟨t, ⟨ty, c, v⟩⟩ : TimedEvent) = e := by simpa [pure, Except.pure] using h
      exact ⟨_, _, _, _, rfl, ht, hty, hc, hv⟩
    · rintro ⟨_, _, _, _, hw, written⟩
      simp only [List.map_cons, List.map_nil, List.cons.injEq, and_true] at hw
      obtain ⟨rfl, rfl, rfl, rfl⟩ := hw
      exact ⟨_, written.time, _, written.type, _, written.code, _, written.value, rfl⟩
  | [], split | [_], split | [_, _], split | [_, _, _], split
  | _ :: _ :: _ :: _ :: _ :: _, split =>
    rw [← split]
    simp

/-- A line is read as an event line if it is one, and as the event that it tells of. -/
theorem Recording.eventOfLine_eq_ok_iff {line : Line} {e : TimedEvent} :
    Recording.eventOfLine line = .ok e ↔ line.Tells e := by
  unfold Recording.eventOfLine Line.Tells
  split
  · next body ht =>
    rw [TimedEvent.ofLine_eq_ok_iff]
    constructor
    · rintro ⟨time, type, code, value, hw⟩
      exact ⟨body, time, type, code, value, ht, hw⟩
    · rintro ⟨body', time, type, code, value, ht', hw⟩
      obtain rfl : body = body' := by simpa using ht.symm.trans ht'
      exact ⟨time, type, code, value, hw⟩
  · next hn =>
    simp only [reduceCtorEq, false_iff]
    rintro ⟨body, time, type, code, value, ht, -⟩
    exact hn body ht

end ScriptedInput

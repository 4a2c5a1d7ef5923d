import ScriptedInput.Proofs.Recording.Mask
import ScriptedInput.Proofs.Recording.Words

/-! The lines of a header, one kind after the other: what each line that is written brings when it is
read. -/
namespace ScriptedInput
open Text.Numeral (written decimal)

namespace LineField

private theorem hex16_written {f : LineField} {width : Nat} {v : UInt16}
    (h : f.text = written 16 width v.toNat) (what : RecordedNumber) : f.hex16 what = .ok v :=
  hex16_eq_ok_iff.mpr (by rw [h, Text.Numeral.unsigned?_written (by decide) (by decide)])

private theorem hex8_written {f : LineField} {width : Nat} {v : UInt8}
    (h : f.text = written 16 width v.toNat) (what : RecordedNumber) : f.hex8 what = .ok v :=
  hex8_eq_ok_iff.mpr (by rw [h, Text.Numeral.unsigned?_written (by decide) (by decide)])

private theorem int32_decimal {f : LineField} {v : Int32} (h : f.text = decimal v.toInt)
    (what : RecordedNumber) : f.int32 what = .ok v :=
  int32_eq_ok_iff.mpr (by rw [h, Text.Numeral.signed?_decimal])

/-- The bytes of a line are read one by one. -/
private theorem mapM_hex8 {fields : List LineField} {bytes : List UInt8}
    (h : fields.map (·.text) = maskWords bytes) (what : RecordedNumber) :
    fields.mapM (·.hex8 what) = .ok bytes := by
  have each : List.Forall₂ (fun (f : LineField) (b : UInt8) => f.text = written 16 2 b.toNat)
      fields bytes := by
    rw [maskWords, ← List.forall₂_eq_eq_eq] at h
    rwa [List.forall₂_map_left_iff, List.forall₂_map_right_iff] at h
  exact mapM_eq_ok_iff.mpr (each.imp fun _ _ hb => hex8_written hb what)

end LineField

theorem isWord_hex (width n : Nat) : IsWord (written 16 width n) :=
  isWord_written (by decide) (by decide) width n

theorem isWord_of_mem_maskWords (bytes : List UInt8) : ∀ w ∈ maskWords bytes, IsWord w :=
  List.forall_mem_map.mpr fun b _ => isWord_hex 2 b.toNat

theorem isWord_of_mem_idWords (digits : Nat) (ids : DeviceIds) :
    ∀ w ∈ idWords digits ids, IsWord w :=
  List.forall_mem_map.mpr fun id _ => isWord_hex digits id.toNat

theorem isWord_of_mem_axisWords (digits : Nat) (code : UInt16) (a : AxisRange) :
    ∀ w ∈ axisWords digits code a, IsWord w :=
  List.forall_mem_cons.mpr ⟨isWord_hex digits code.toNat,
    List.forall_mem_map.mpr fun v _ => isWord_decimal v.toInt⟩

theorem isWord_of_mem_eventWords (digits : Nat) (time : UInt64) (e : RawEvent) :
    ∀ w ∈ eventWords digits time e, IsWord w := by
  simp [eventWords, isWord_timeWord, isWord_hex, isWord_decimal]

namespace Header

def Takes (h : Header) (text : List Char) (after : Header) : Prop :=
  ∀ number, h.step ⟨number, text⟩ = .ok (.more after)

inductive Reads : Header → List (List Char) → Header → Prop where
  | nil (h : Header) : Reads h [] h
  | cons {h between after : Header} {text : List Char} {texts : List (List Char)} :
    h.Takes text between → Reads between texts after → Reads h (text :: texts) after

theorem Reads.append {h between after : Header} {texts more : List (List Char)}
    (first : Reads h texts between) (second : Reads between more after) :
    Reads h (texts ++ more) after := by
  induction first with
  | nil => exact second
  | cons takes _ ih => exact .cons takes (ih second)

theorem Reads.split {h after : Header} {texts more : List (List Char)}
    (reads : Reads h (texts ++ more) after) :
    ∃ between, Reads h texts between ∧ Reads between more after := by
  induction texts generalizing h with
  | nil => exact ⟨h, .nil h, reads⟩
  | cons text texts ih =>
    cases reads with
    | cons takes later =>
      obtain ⟨between, first, second⟩ := ih later
      exact ⟨between, .cons takes first, second⟩

/-- Lines are read group by group, each group like the item it was written for. -/
theorem reads_flatMap {α : Type} {lines : α → List (List Char)} {add : Header → α → Header}
    (reads : ∀ h a, Reads h (lines a) (add h a)) (h : Header) (as : List α) :
    Reads h (as.flatMap lines) (as.foldl add h) := by
  induction as generalizing h with
  | nil => exact .nil h
  | cons a as ih => exact (reads h a).append (ih (add h a))

theorem reads_map {α : Type} {line : α → List Char} {add : Header → α → Header}
    (takes : ∀ h a, Takes h (line a) (add h a)) (h : Header) (as : List α) :
    Reads h (as.map line) (as.foldl add h) := by
  rw [List.map_eq_flatMap]
  exact reads_flatMap (fun h a => .cons (takes h a) (.nil _)) h as

/-- The header goes on after lines that it takes. -/
theorem Reads.readHeader {h after : Header} {texts : List (List Char)} (reads : Reads h texts after)
    (failure : Option IoError) {lines : List Line} (hl : lines.map (·.text) = texts)
    (rest : List Line) :
    Recording.readHeader failure h (lines ++ rest) = Recording.readHeader failure after rest := by
  induction reads generalizing lines with
  | nil =>
    rw [List.map_eq_nil_iff.mp hl, List.nil_append]
  | cons takes _ ih =>
    obtain ⟨line, lines, rfl, rfl, ht⟩ := List.map_eq_cons_iff.mp hl
    rw [List.cons_append, Recording.readHeader, takes line.number]
    exact ih ht

/-- An event line ends the header, and no other line does. -/
theorem step_eq_event_iff {h : Header} {line : Line} {e : TimedEvent} :
    h.step line = .ok (.event e) ↔ line.Tells e := by
  constructor
  · intro event
    unfold step at event
    split at event
    · next tag body text =>
      dsimp only at event
      split_ifs at event with first
      · subst first
        obtain ⟨e, read, same⟩ := map_eq_ok_iff.mp event
        cases same
        obtain ⟨time, type, code, value, words⟩ := TimedEvent.ofLine_eq_ok_iff.mp read
        exact ⟨body, time, type, code, value, text, words⟩
      all_goals
        first
        | cases event
        | obtain ⟨_, -, other⟩ := map_eq_ok_iff.mp event
          cases other
    · cases event
  · rintro ⟨body, time, type, code, value, text, words⟩
    have read : TimedEvent.ofLine line body = .ok e :=
      TimedEvent.ofLine_eq_ok_iff.mpr ⟨time, type, code, value, words⟩
    simp only [step, text]
    rw [read]
    rfl

theorem readHeader_event {h : Header} {line : Line} {e : TimedEvent} (tells : line.Tells e)
    {r : Registration} (registered : h.registration = .ok r) (failure : Option IoError)
    (more : List Line) : Recording.readHeader failure h (line :: more) = .ok (r, line :: more) := by
  rw [Recording.readHeader, step_eq_event_iff.mpr tells]
  dsimp only
  rw [registered]

private theorem takes_of_step {h after : Header} {line : Line} (more : h.step line = .ok (.more after)) :
    h.Takes line.text after := fun _ => more

/-- A header that can be read takes the lines up to the first event line, and has a name and ids. -/
theorem exists_reads {failure : Option IoError} {h : Header} {lines rest : List Line}
    {r : Registration} (read : Recording.readHeader failure h lines = .ok (r, rest)) :
    ∃ front after, lines = front ++ rest ∧ Reads h (front.map (·.text)) after ∧
      after.registration = .ok r ∧ (rest = [] → failure = none) ∧ ∀ l ∈ rest.head?, ∃ e, l.Tells e := by
  induction lines generalizing h with
  | nil =>
    cases failure with
    | some e => cases read
    | none =>
      rw [Recording.readHeader] at read
      split at read
      · next registered =>
        cases read
        exact ⟨[], h, rfl, .nil h, registered, fun _ => rfl, by simp⟩
      · cases read
  | cons line lines ih =>
    rw [Recording.readHeader] at read
    split at read
    · cases read
    · next more =>
      obtain ⟨front, after, rfl, reads, ends⟩ := ih read
      exact ⟨line :: front, after, rfl, .cons (takes_of_step more) reads, ends⟩
    · next e event =>
      split at read
      · next registered =>
        cases read
        refine ⟨[], h, rfl, .nil h, registered, by simp, fun l first => ⟨e, ?_⟩⟩
        obtain rfl := Option.some.inj first
        exact step_eq_event_iff.mp event
      · cases read

end Header

/-- A name without blanks around it stays as it is when blanks are taken away. -/
private theorem DeviceName.trim_blank (n : DeviceName) :
    Text.trim (' ' :: n.text.toList) = n.text.toList :=
  (congrArg Text.trimEnd (List.dropWhile_cons_of_pos (by decide))).trans n.trimmed

namespace Header

theorem takes_name (h : Header) (n : DeviceName) :
    h.Takes ('N' :: ':' :: ' ' :: n.text.toList) { h with name := some n.text } := by
  intro number
  obtain ⟨c, cs, hc⟩ := List.exists_cons_of_ne_nil n.nonempty
  have read : h.readName (' ' :: n.text.toList) = .ok { h with name := some n.text } := by
    rw [readName, n.trim_blank, hc]
    dsimp only
    rw [← hc, String.ofList_toList]
  simp only [step]
  rw [read]
  rfl

private theorem readIds_written (h : Header) {digits : Nat} {ids : DeviceIds} {fields : List LineField}
    (hf : fields.map (·.text) = idWords digits ids) :
    h.readIds fields = .ok { h with ids := some ids } := by
  simp only [idWords, List.map_cons, List.map_nil, List.map_eq_cons_iff, List.map_eq_nil_iff] at hf
  obtain ⟨_, _, rfl, hb, _, _, rfl, hv, _, _, rfl, hp, _, _, rfl, hn, rfl⟩ := hf
  rw [readIds, LineField.hex16_written hb, LineField.hex16_written hv,
    LineField.hex16_written hp, LineField.hex16_written hn]
  rfl

private theorem readProperties_written (h : Header) {bytes : List UInt8} {fields : List LineField}
    (hf : fields.map (·.text) = maskWords bytes) :
    h.readProperties fields = .ok { h with properties := h.properties ++ bytes } := by
  rw [readProperties, LineField.mapM_hex8 hf]
  rfl

private theorem readMask_written (h : Header) {digits : Nat} {type : UInt16} {bytes : List UInt8}
    {fields : List LineField}
    (hf : fields.map (·.text) = written 16 digits type.toNat :: maskWords bytes) :
    h.readMask fields = .ok { h with masks := h.masks.extend type bytes } := by
  obtain ⟨_, _, rfl, ht, hb⟩ := List.map_eq_cons_iff.mp hf
  rw [readMask, LineField.hex16_written ht, LineField.mapM_hex8 hb]
  rfl

private theorem readAxis_written (h : Header) {digits : Nat} {code : UInt16} {a : AxisRange}
    {fields : List LineField} (hf : fields.map (·.text) = axisWords digits code a) :
    h.readAxis fields = .ok { h with axes := h.axes.insert code a.info } := by
  simp only [axisWords, List.map_cons, List.map_nil, List.map_eq_cons_iff, List.map_eq_nil_iff]
    at hf
  obtain ⟨_, _, rfl, hc, _, _, rfl, hmin, _, _, rfl, hmax, _, _, rfl, hfuzz, _, _, rfl, hflat,
    _, _, rfl, hres, rfl⟩ := hf
  rw [readAxis, if_neg (by simp), LineField.hex16_written hc, LineField.int32_decimal hmin,
    LineField.int32_decimal hmax, LineField.int32_decimal hfuzz, LineField.int32_decimal hflat]
  simp only [LineField.int32_decimal hres]
  rfl

theorem takes_ids (h : Header) (digits : Nat) (ids : DeviceIds) :
    h.Takes (taggedLine 'I' (idWords digits ids)) { h with ids := some ids } := by
  intro number
  have fields := map_text_fields (isWord_of_mem_idWords digits ids) 3
  simp only [step, taggedLine]
  rw [h.readIds_written fields]
  rfl

theorem takes_properties (h : Header) (bytes : List UInt8) :
    h.Takes (taggedLine 'P' (maskWords bytes)) { h with properties := h.properties ++ bytes } := by
  intro number
  have fields := map_text_fields (isWord_of_mem_maskWords bytes) 3
  simp only [step, taggedLine]
  rw [h.readProperties_written fields]
  rfl

theorem takes_mask (h : Header) (digits : Nat) (type : UInt16) (bytes : List UInt8) :
    h.Takes (taggedLine 'B' (written 16 digits type.toNat :: maskWords bytes))
      { h with masks := h.masks.extend type bytes } := by
  intro number
  have fields := map_text_fields (List.forall_mem_cons.mpr
    ⟨isWord_hex digits type.toNat, isWord_of_mem_maskWords bytes⟩) 3
  simp only [step, taggedLine]
  rw [h.readMask_written fields]
  rfl

theorem takes_axis (h : Header) (digits : Nat) (code : UInt16) (a : AxisRange) :
    h.Takes (taggedLine 'A' (axisWords digits code a))
      { h with axes := h.axes.insert code a.info } := by
  intro number
  have fields := map_text_fields (isWord_of_mem_axisWords digits code a) 3
  simp only [step, taggedLine]
  rw [h.readAxis_written fields]
  rfl

end Header

/-- An event line tells of its event. -/
theorem tells_eventLine (number digits : Nat) (time : UInt64) (e : RawEvent) :
    Line.Tells ⟨number, taggedLine 'E' (eventWords digits time e)⟩ ⟨time.toNat, e⟩ := by
  have ws := isWord_of_mem_eventWords digits time e
  refine ⟨_, _, _, _, _, rfl, by rw [beforeComment_spaced ws, words_spaced ws, eventWords], ?_⟩
  exact ⟨timestamp?_timeWord time.toNat_lt,
    Text.Numeral.unsigned?_written (by decide) (by decide) _ _,
    Text.Numeral.unsigned?_written (by decide) (by decide) _ _, Text.Numeral.signed?_decimal _⟩

end ScriptedInput

import ScriptedInput.Proofs.Recording.HeaderLines

/-! What a header line says by itself, and the part of the header that it changes. Lines that change
different parts may stand in any order. -/
namespace ScriptedInput
open Text.Numeral (unsigned? signed?)

abbrev WriteBytes : List (List Char) → List UInt8 → Prop :=
  List.Forall₂ fun w b => unsigned? 16 w = some b.toNat

abbrev WriteInts : List (List Char) → List Int32 → Prop :=
  List.Forall₂ fun w v => signed? 10 w = some v.toInt

/-- Words that write the calibration of an axis. The resolution may be left out, and is zero then. -/
def AxisRange.WrittenAs (a : AxisRange) (ws : List (List Char)) : Prop :=
  WriteInts ws [a.minimum, a.maximum, a.fuzz, a.flat, a.resolution] ∨
    WriteInts ws [a.minimum, a.maximum, a.fuzz, a.flat] ∧ a.resolution = 0

namespace Header

inductive Entry where
  | name (name : String)
  | ids (ids : DeviceIds)
  | properties (bytes : List UInt8)
  | mask (type : UInt16) (bytes : List UInt8)
  | axis (code : UInt16) (range : AxisRange)
  /-- The state of lights or switches. -/
  | state
  deriving DecidableEq, Repr

/-- A name, ids and an axis replace what was told before, and bytes are added to those before. -/
def Entry.addTo (h : Header) : Entry → Header
  | .name n => { h with name := some n }
  | .ids numbers => { h with ids := some numbers }
  | .properties bytes => { h with properties := h.properties ++ bytes }
  | .mask type bytes => { h with masks := h.masks.extend type bytes }
  | .axis code range => { h with axes := h.axes.insert code range.info }
  | .state => h

inductive Brings : List Char → Entry → Prop
  | name {body : List Char} (named : Text.trim body ≠ []) :
    Brings ('N' :: ':' :: body) (.name (String.ofList (Text.trim body)))
  | ids {body bus vendor product version : List Char} {ids : DeviceIds}
    (four : words (beforeComment body) = [bus, vendor, product, version])
    (hb : unsigned? 16 bus = some ids.bus.toNat) (hv : unsigned? 16 vendor = some ids.vendor.toNat)
    (hp : unsigned? 16 product = some ids.product.toNat)
    (hn : unsigned? 16 version = some ids.version.toNat) : Brings ('I' :: ':' :: body) (.ids ids)
  | properties {body : List Char} {bytes : List UInt8}
    (written : WriteBytes (words (beforeComment body)) bytes) :
    Brings ('P' :: ':' :: body) (.properties bytes)
  | mask {body word : List Char} {more : List (List Char)} {type : UInt16} {bytes : List UInt8}
    (begins : words (beforeComment body) = word :: more) (first : unsigned? 16 word = some type.toNat)
    (written : WriteBytes more bytes) : Brings ('B' :: ':' :: body) (.mask type bytes)
  | axis {body word : List Char} {more : List (List Char)} {code : UInt16} {range : AxisRange}
    (begins : words (beforeComment body) = word :: more) (first : unsigned? 16 word = some code.toNat)
    (written : range.WrittenAs more) : Brings ('A' :: ':' :: body) (.axis code range)
  | state {tag : Char} {body : List Char} (ignored : tag = 'L' ∨ tag = 'S') :
    Brings (tag :: ':' :: body) .state

section Reading
variable {h after : Header} {body : List Char} {fields : List LineField}

private theorem readName_eq_ok_iff : h.readName body = .ok after ↔
    Text.trim body ≠ [] ∧ after = { h with name := some (String.ofList (Text.trim body)) } := by
  unfold readName
  split
  · next none => simp [none]
  · next some =>
    rw [and_iff_right some, Except.ok.injEq]
    exact eq_comm

private theorem readIds_eq_ok_iff : h.readIds fields = .ok after ↔
    ∃ bus vendor product version, ∃ ids : DeviceIds,
      fields.map (·.text) = [bus, vendor, product, version] ∧ unsigned? 16 bus = some ids.bus.toNat ∧
      unsigned? 16 vendor = some ids.vendor.toNat ∧ unsigned? 16 product = some ids.product.toNat ∧
      unsigned? 16 version = some ids.version.toNat ∧ after = { h with ids := some ids } := by
  unfold readIds
  split
  · simp only [bind_eq_ok_iff, LineField.hex16_eq_ok_iff]
    constructor
    · rintro ⟨b, bus, v, vendor, p, product, n, version, ok⟩
      cases ok
      exact ⟨_, _, _, _, ⟨b, v, p, n⟩, rfl, bus, vendor, product, version, rfl⟩
    · rintro ⟨_, _, _, _, ids, texts, bus, vendor, product, version, rfl⟩
      simp only [List.map_cons, List.map_nil, List.cons.injEq, and_true] at texts
      obtain ⟨rfl, rfl, rfl, rfl⟩ := texts
      exact ⟨_, bus, _, vendor, _, product, _, version, rfl⟩
  · next other =>
    simp only [reduceCtorEq, false_iff]
    rintro ⟨_, _, _, _, _, texts, -⟩
    simp only [List.map_eq_cons_iff, List.map_eq_nil_iff] at texts
    obtain ⟨_, _, rfl, -, _, _, rfl, -, _, _, rfl, -, _, _, rfl, -, rfl⟩ := texts
    exact other _ _ _ _ rfl

private theorem mapM_hex8_eq_ok_iff {what : RecordedNumber} {bytes : List UInt8} :
    fields.mapM (·.hex8 what) = .ok bytes ↔ WriteBytes (fields.map (·.text)) bytes := by
  rw [mapM_eq_ok_iff, WriteBytes, List.forall₂_map_left_iff]
  simp only [LineField.hex8_eq_ok_iff]

private theorem readProperties_eq_ok_iff : h.readProperties fields = .ok after ↔
    ∃ bytes, WriteBytes (fields.map (·.text)) bytes ∧
      after = { h with properties := h.properties ++ bytes } := by
  simp only [readProperties, bind_eq_ok_iff, mapM_hex8_eq_ok_iff, pure, Except.pure, Except.ok.injEq]
  simp only [eq_comm (a := after)]

private theorem readMask_eq_ok_iff : h.readMask fields = .ok after ↔
    ∃ word more type bytes, fields.map (·.text) = word :: more ∧ unsigned? 16 word = some type.toNat ∧
      WriteBytes more bytes ∧ after = { h with masks := h.masks.extend type bytes } := by
  unfold readMask
  split
  · simp
  · simp only [bind_eq_ok_iff, LineField.hex16_eq_ok_iff, mapM_hex8_eq_ok_iff]
    constructor
    · rintro ⟨type, ht, bytes, hb, ok⟩
      cases ok
      exact ⟨_, _, type, bytes, rfl, ht, hb, rfl⟩
    · rintro ⟨_, _, type, bytes, texts, ht, hb, rfl⟩
      obtain ⟨rfl, rfl⟩ := List.cons.inj texts
      exact ⟨type, ht, bytes, hb, rfl⟩

private theorem readAxis_eq_ok_iff : h.readAxis fields = .ok after ↔
    ∃ word more code, ∃ range : AxisRange, fields.map (·.text) = word :: more ∧
      unsigned? 16 word = some code.toNat ∧ range.WrittenAs more ∧
      after = { h with axes := h.axes.insert code range.info } := by
  constructor
  · intro ok
    unfold readAxis at ok
    split at ok
    · next more =>
      split_ifs at ok with many
      simp only [bind_eq_ok_iff, LineField.hex16_eq_ok_iff, LineField.int32_eq_ok_iff] at ok
      obtain ⟨c, first, lo, hlo, hi, hhi, fuzz, hfuzz, flat, hflat, ok⟩ := ok
      match more with
      | [] =>
        cases ok
        have four : WriteInts _ [lo, hi, fuzz, flat] :=
          .cons hlo (.cons hhi (.cons hfuzz (.cons hflat .nil)))
        exact ⟨_, _, c, ⟨lo, hi, fuzz, flat, 0⟩, rfl, first, .inr ⟨four, rfl⟩, rfl⟩
      | [last] =>
        obtain ⟨res, hres, ok⟩ := bind_eq_ok_iff.mp ok
        cases ok
        have five : WriteInts _ [lo, hi, fuzz, flat, res] :=
          .cons hlo (.cons hhi (.cons hfuzz (.cons hflat
            (.cons (LineField.int32_eq_ok_iff.mp hres) .nil))))
        exact ⟨_, _, c, ⟨lo, hi, fuzz, flat, res⟩, rfl, first, .inl five, rfl⟩
      | _ :: _ :: more => exact absurd (Nat.lt_add_of_pos_left (Nat.succ_pos more.length)) many
    · cases ok
  · rintro ⟨word, more, code, range, texts, first, written, rfl⟩
    obtain ⟨f, fields, rfl, rfl, rfl⟩ := List.map_eq_cons_iff.mp texts
    have key : f.hex16 .axisCode = .ok code := LineField.hex16_eq_ok_iff.mpr first
    have number {f : LineField} {v : Int32} (h : signed? 10 f.text = some v.toInt) :
        f.int32 .axisValue = .ok v := LineField.int32_eq_ok_iff.mpr h
    simp only [AxisRange.WrittenAs, WriteInts, List.forall₂_map_left_iff] at written
    rcases written with all | ⟨short, zero⟩
    · obtain _ | ⟨lo, _ | ⟨hi, _ | ⟨fuzz, _ | ⟨flat, _ | ⟨res, _ | _⟩⟩⟩⟩⟩ := all
      rw [readAxis, if_neg (by simp), key, number lo, number hi, number fuzz, number flat]
      simp only [number res]
      rfl
    · obtain _ | ⟨lo, _ | ⟨hi, _ | ⟨fuzz, _ | ⟨flat, _ | _⟩⟩⟩⟩ := short
      rw [readAxis, if_neg (by simp), key, number lo, number hi, number fuzz, number flat,
        AxisRange.info, zero]
      rfl

private theorem map_more_eq_ok_iff {read : Except LineFault Header} :
    read.map Step.more = .ok (.more after) ↔ read = .ok after := by
  cases read <;> simp [Except.map]

/-- A header line is taken if it tells something, and that is added to the header. -/
private theorem step_eq_more_iff {line : Line} :
    h.step line = .ok (.more after) ↔ ∃ e, Brings line.text e ∧ after = e.addTo h := by
  have texts (body : List Char) := map_text_lineFields 3 (beforeComment body)
  obtain ⟨number, text⟩ := line
  constructor
  · intro ok
    unfold step at ok
    split at ok
    · next tag body text =>
      obtain rfl : _ = tag :: ':' :: body := text
      dsimp only at ok
      split_ifs at ok with event name ids properties mask axis state
      · obtain ⟨_, -, other⟩ := map_eq_ok_iff.mp ok
        cases other
      · subst name
        obtain ⟨named, rfl⟩ := readName_eq_ok_iff.mp (map_more_eq_ok_iff.mp ok)
        exact ⟨_, .name named, rfl⟩
      · subst ids
        obtain ⟨_, _, _, _, numbers, four, hb, hv, hp, hn, rfl⟩ :=
          readIds_eq_ok_iff.mp (map_more_eq_ok_iff.mp ok)
        exact ⟨_, .ids (texts body ▸ four) hb hv hp hn, rfl⟩
      · subst properties
        obtain ⟨bytes, written, rfl⟩ := readProperties_eq_ok_iff.mp (map_more_eq_ok_iff.mp ok)
        exact ⟨_, .properties (texts body ▸ written), rfl⟩
      · subst mask
        obtain ⟨_, _, type, bytes, begins, first, written, rfl⟩ :=
          readMask_eq_ok_iff.mp (map_more_eq_ok_iff.mp ok)
        exact ⟨_, .mask (texts body ▸ begins) first written, rfl⟩
      · subst axis
        obtain ⟨_, _, code, range, begins, first, written, rfl⟩ :=
          readAxis_eq_ok_iff.mp (map_more_eq_ok_iff.mp ok)
        exact ⟨_, .axis (texts body ▸ begins) first written, rfl⟩
      · cases ok
        exact ⟨_, .state state, rfl⟩
    · cases ok
  · rintro ⟨e, brings, rfl⟩
    cases brings with
    | name named => exact map_more_eq_ok_iff.mpr (readName_eq_ok_iff.mpr ⟨named, rfl⟩)
    | @ids body _ _ _ _ numbers four hb hv hp hn =>
      rw [← texts body] at four
      exact map_more_eq_ok_iff.mpr
        (readIds_eq_ok_iff.mpr ⟨_, _, _, _, numbers, four, hb, hv, hp, hn, rfl⟩)
    | @properties body bytes written =>
      rw [← texts body] at written
      exact map_more_eq_ok_iff.mpr (readProperties_eq_ok_iff.mpr ⟨bytes, written, rfl⟩)
    | @mask body word more type bytes begins first written =>
      rw [← texts body] at begins
      exact map_more_eq_ok_iff.mpr
        (readMask_eq_ok_iff.mpr ⟨word, more, type, bytes, begins, first, written, rfl⟩)
    | @axis body word more code range begins first written =>
      rw [← texts body] at begins
      exact map_more_eq_ok_iff.mpr
        (readAxis_eq_ok_iff.mpr ⟨word, more, code, range, begins, first, written, rfl⟩)
    | state ignored => rcases ignored with rfl | rfl <;> rfl

end Reading

theorem takes_iff {h after : Header} {text : List Char} :
    h.Takes text after ↔ ∃ e, Brings text e ∧ after = e.addTo h :=
  ⟨fun takes => step_eq_more_iff.mp (takes 0), fun brings _ => step_eq_more_iff.mpr brings⟩

theorem Takes.unique {h after after' : Header} {text : List Char} (takes : h.Takes text after)
    (takes' : h.Takes text after') : after = after' := by
  have same := (takes 0).symm.trans (takes' 0)
  cases same
  rfl

private theorem Reads.brings {h after : Header} {texts : List (List Char)} (reads : Reads h texts after) :
    ∀ t ∈ texts, ∃ e, Brings t e := by
  induction reads with
  | nil => simp
  | cons takes _ ih =>
    obtain ⟨e, brings, -⟩ := takes_iff.mp takes
    exact List.forall_mem_cons.mpr ⟨⟨e, brings⟩, ih⟩

/-- Lines that each tell something are read, whatever was read before. -/
private theorem exists_reads_of_brings {texts : List (List Char)} (each : ∀ t ∈ texts, ∃ e, Brings t e)
    (h : Header) : ∃ after, Reads h texts after := by
  induction texts generalizing h with
  | nil => exact ⟨h, .nil h⟩
  | cons t texts ih =>
    obtain ⟨⟨e, brings⟩, later⟩ := List.forall_mem_cons.mp each
    obtain ⟨after, reads⟩ := ih later (e.addTo h)
    exact ⟨after, .cons (takes_iff.mpr ⟨e, brings, rfl⟩) reads⟩

inductive Part where
  | name | ids | properties
  | mask (type : Nat)
  | axis (code : Nat)
  deriving DecidableEq, Repr

def partOf (text : List Char) : Option Part :=
  match text with
  | tag :: ':' :: body =>
    let first := (words (beforeComment body)).head?.bind (unsigned? 16)
    if tag = 'N' then some .name
    else if tag = 'I' then some .ids
    else if tag = 'P' then some .properties
    else if tag = 'B' then first.map .mask
    else if tag = 'A' then first.map .axis
    else none
  | _ => none

def Entry.part? : Entry → Option Part
  | .name _ => some .name
  | .ids _ => some .ids
  | .properties _ => some .properties
  | .mask type _ => some (.mask type.toNat)
  | .axis code _ => some (.axis code.toNat)
  | .state => none

private theorem Brings.part {text : List Char} {e : Entry} (brings : Brings text e) :
    e.part? = partOf text := by
  cases brings with
  | name | ids | properties => rfl
  | mask begins first => simp [partOf, Entry.part?, begins, first]
  | axis begins first => simp [partOf, Entry.part?, begins, first]
  | state ignored => rcases ignored with rfl | rfl <;> rfl

def SameAt (h h' : Header) : Part → Prop
  | .name => h.name = h'.name
  | .ids => h.ids = h'.ids
  | .properties => h.properties = h'.properties
  | .mask type => ∀ t : UInt16, t.toNat = type → h.masks.get? t = h'.masks.get? t
  | .axis code => ∀ c : UInt16, c.toNat = code → h.axes.get? c = h'.axes.get? c

section Parts
variable {h h' h'' after after' : Header} {p : Part}

private theorem SameAt.refl (h : Header) (p : Part) : h.SameAt h p := by
  cases p <;> simp [SameAt]

private theorem SameAt.symm (same : h.SameAt h' p) : h'.SameAt h p := by
  cases p with
  | name | ids | properties => exact Eq.symm same
  | mask | axis => exact fun c hc => (same c hc).symm

private theorem SameAt.trans (same : h.SameAt h' p) (same' : h'.SameAt h'' p) : h.SameAt h'' p := by
  cases p with
  | name | ids | properties => exact Eq.trans same same'
  | mask | axis => exact fun c hc => (same c hc).trans (same' c hc)

/-- A header is the same as another one if all its parts are. -/
private theorem eq_of_sameAt (same : ∀ p, h.SameAt h' p) : h = h' := by
  have masks : h.masks = h'.masks := CodeMap.ext_get? fun t => same (.mask t.toNat) t rfl
  have axes : h.axes = h'.axes := CodeMap.ext_get? fun c => same (.axis c.toNat) c rfl
  obtain ⟨name, ids, properties, _, _⟩ := h
  obtain ⟨name', ids', properties', _, _⟩ := h'
  obtain rfl : name = name' := same .name
  obtain rfl : ids = ids' := same .ids
  obtain rfl : properties = properties' := same .properties
  obtain rfl := masks
  obtain rfl := axes
  rfl

/-- A line that is about another part changes nothing in this one. -/
private theorem sameAt_addTo {e : Entry} (other : e.part? ≠ some p) (h : Header) :
    (e.addTo h).SameAt h p := by
  cases p with
  | name =>
    cases e with
    | name => exact absurd rfl other
    | _ => rfl
  | ids =>
    cases e with
    | ids => exact absurd rfl other
    | _ => rfl
  | properties =>
    cases e with
    | properties => exact absurd rfl other
    | _ => rfl
  | mask number =>
    rintro t rfl
    cases e with
    | mask type bytes =>
      have apart : t ≠ type := fun same => other (same ▸ rfl)
      exact (CodeMap.get?_insert ..).trans (if_neg apart)
    | _ => rfl
  | axis number =>
    rintro c rfl
    cases e with
    | axis code range =>
      have apart : c ≠ code := fun same => other (same ▸ rfl)
      exact (CodeMap.get?_insert ..).trans (if_neg apart)
    | _ => rfl

/-- What a line makes of a part is told by that part alone. -/
private theorem SameAt.addTo (same : h.SameAt h' p) (e : Entry) : (e.addTo h).SameAt (e.addTo h') p := by
  by_cases about : e.part? = some p
  · cases e with
    | name n => cases about; rfl
    | ids numbers => cases about; rfl
    | properties bytes =>
      cases about
      exact congrArg (· ++ bytes) same
    | mask type bytes =>
      cases about
      intro t ht
      have before : h.masks.get? type = h'.masks.get? type := same type rfl
      simp only [Entry.addTo, CodeMap.extend, CodeMap.get?_insert, before, same t ht]
    | axis code range =>
      cases about
      intro c hc
      simp only [Entry.addTo, CodeMap.get?_insert, same c hc]
    | state => cases about
  · exact ((sameAt_addTo about h).trans same).trans (sameAt_addTo about h').symm

/-- What becomes of a part is told by the lines that are about it. -/
private theorem SameAt.reads {texts : List (List Char)} (same : h.SameAt h' p)
    (reads : Reads h texts after)
    (reads' : Reads h' (texts.filter (partOf · = some p)) after') : after.SameAt after' p := by
  induction reads generalizing h' with
  | nil =>
    cases reads'
    exact same
  | @cons h between after text texts takes later ih =>
    obtain ⟨e, brings, rfl⟩ := takes_iff.mp takes
    by_cases about : partOf text = some p
    · rw [List.filter_cons_of_pos (by simpa using about)] at reads'
      cases reads' with
      | cons takes' later' =>
        obtain rfl := takes'.unique (takes_iff.mpr ⟨e, brings, rfl⟩)
        exact ih (same.addTo e) later'
    · rw [List.filter_cons_of_neg (by simpa using about)] at reads'
      exact ih ((sameAt_addTo (brings.part ▸ about) _).trans same) reads'

/-- Header lines may be put in another order, as long as those about one part keep theirs. -/
theorem Reads.reorder {texts texts' : List (List Char)} (reads : Reads h texts after)
    (perm : texts.Perm texts')
    (order : ∀ p, texts.filter (partOf · = some p) = texts'.filter (partOf · = some p)) :
    Reads h texts' after := by
  have each := reads.brings
  obtain ⟨after', reads'⟩ := exists_reads_of_brings (fun t ht => each t (perm.mem_iff.mpr ht)) h
  suffices same : after = after' from same ▸ reads'
  refine eq_of_sameAt fun p => ?_
  have about : ∀ t ∈ texts.filter (partOf · = some p), ∃ e, Brings t e := fun t ht =>
    each t (List.mem_of_mem_filter ht)
  obtain ⟨part, told⟩ := exists_reads_of_brings about h
  have here : after.SameAt part p := (SameAt.refl h p).reads reads told
  have there : after'.SameAt part p := (SameAt.refl h p).reads reads' (order p ▸ told)
  exact here.trans there.symm

end Parts
end Header
end ScriptedInput

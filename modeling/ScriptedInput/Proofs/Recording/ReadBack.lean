import ScriptedInput.Proofs.Recording.HeaderLines
import ScriptedInput.Proofs.Recording.Pace

/-! Recordings are read back: the text of a recording gives the registration of the device that was
recorded, and then exactly the events that it emitted. -/
namespace ScriptedInput

/-- A text whose blanks at the ends were taken away does not end with one. -/
private theorem Text.isBlank_of_getLast?_trim {cs : List Char} {c : Char}
    (h : (trim cs).getLast? = some c) : isBlank c = false := by
  have kept := List.head?_dropWhile_not isBlank (trimStart cs).reverse
  rw [trim, trimEnd, List.getLast?_reverse] at h
  rwa [h] at kept

namespace Header

private theorem reads_properties (h : Header) (chunks : List (List UInt8)) :
    Reads h (chunks.map fun bytes => taggedLine 'P' (maskWords bytes))
      { h with properties := h.properties ++ chunks.flatten } := by
  have added : chunks.foldl (fun h bytes => { h with properties := h.properties ++ bytes }) h =
      { h with properties := h.properties ++ chunks.flatten } := by
    induction chunks generalizing h with
    | nil => simp
    | cons chunk chunks ih => simp [ih]
  rw [← added]
  exact reads_map takes_properties h chunks

private theorem reads_mask (h : Header) (digits : Nat) (type : UInt16) (chunks : List (List UInt8)) :
    Reads h (chunks.map fun bytes =>
        taggedLine 'B' (Text.Numeral.written 16 digits type.toNat :: maskWords bytes))
      { h with masks := chunks.foldl (·.extend type) h.masks } := by
  have added : chunks.foldl (fun h bytes => { h with masks := h.masks.extend type bytes }) h =
      { h with masks := chunks.foldl (·.extend type) h.masks } :=
    List.foldl_hom (fun masks => { h with masks }) fun _ _ => rfl
  rw [← added]
  exact reads_map (fun h bytes => takes_mask h digits type bytes) h chunks

private theorem reads_masks (h : Header) (digits : Nat) {α : Type} (type : α → UInt16)
    (chunks : α → List (List UInt8)) (as : List α) :
    Reads h (as.flatMap fun a => (chunks a).map fun bytes =>
        taggedLine 'B' (Text.Numeral.written 16 digits (type a).toNat :: maskWords bytes))
      { h with masks := as.foldl (fun m a => (chunks a).foldl (·.extend (type a)) m) h.masks } := by
  have added : as.foldl (fun h a =>
        { h with masks := (chunks a).foldl (·.extend (type a)) h.masks }) h =
      { h with masks := as.foldl (fun m a => (chunks a).foldl (·.extend (type a)) m) h.masks } :=
    List.foldl_hom (fun masks => { h with masks }) fun _ _ => rfl
  rw [← added]
  exact reads_flatMap (fun h a => reads_mask h digits (type a) (chunks a)) h as

private theorem reads_axes (h : Header) (digits : Nat) (axes : List (UInt16 × AxisRange)) :
    Reads h (axes.map fun e => taggedLine 'A' (axisWords digits e.1 e.2))
      { h with axes := axes.foldl (fun m e => m.insert e.1 e.2.info) h.axes } := by
  have added : axes.foldl (fun h e => { h with axes := h.axes.insert e.1 e.2.info }) h =
      { h with axes := axes.foldl (fun m e => m.insert e.1 e.2.info) h.axes } :=
    List.foldl_hom (fun axes => { h with axes }) fun _ _ => rfl
  rw [← added]
  exact reads_map (fun h e => takes_axis h digits e.1 e.2) h axes

end Header

/-- All event types with a setter have a mask in a recording. -/
private theorem Setter.ofEventType?_eq_some_iff {type : UInt16} {s : Setter} :
    ofEventType? type = some s ↔ (type, s) ∈ maskTypes := by
  constructor
  · intro h
    unfold ofEventType? at h
    split_ifs at h <;> subst_vars <;> cases h <;> decide
  · intro h
    have each : ∀ e ∈ maskTypes, ofEventType? e.1 = some e.2 := by decide
    exact each _ h

namespace Recorded
variable (r : Recorded) (w : Layout)

def header : Header where
  name := some r.name.text
  ids := some r.ids
  properties := (r.codes .propBit).mask (w.padding .propBit)
  masks := maskTypes.foldl (fun m e => (r.maskPieces w e.2).foldl (·.extend e.1) m) default
  axes := r.axes.map AxisRange.info

private theorem reads_headerLines : Header.Reads {} (r.headerLines w) (r.header w) := by
  refine .cons (Header.takes_name {} r.name) (.cons (Header.takes_ids _ w.idDigits r.ids) ?_)
  refine ((Header.reads_properties _ _).append (Header.reads_masks _ _ Prod.fst _ _)).append ?_
  have axes : r.axes.entries.foldl (fun m e => m.insert e.1 e.2.info) {} =
      r.axes.map AxisRange.info := by
    have built := CodeMap.ofList_entries (r.axes.map AxisRange.info)
    rwa [CodeMap.ofList, CodeMap.map, List.foldl_map] at built
  have properties : [] ++ (r.maskPieces w .propBit).flatten =
      (r.codes .propBit).mask (w.padding .propBit) := flatten_pieces _ _
  have reads := Header.reads_axes { r.header w with axes := {} } w.axisDigits r.axes.entries
  rw [axes] at reads
  rw [properties]
  exact reads

/-- The header has a mask for each event type whose mask has a line. -/
private theorem entries_masks :
    (r.header w).masks.entries = maskTypes.filterMap (fun e =>
      if (r.maskPieces w e.2).isEmpty then none
      else some (e.1, (r.codes e.2).mask (w.padding e.2))) := by
  let written := maskTypes.map (fun e => (e.1, r.maskPieces w e.2))
  have ascending : (([] : List UInt16) ++ written.map Prod.fst).Pairwise (· < ·) := by
    rw [List.nil_append, List.map_map]
    exact (by decide : (maskTypes.map Prod.fst).Pairwise (· < ·))
  have entries := CodeMap.entries_foldl_extend (m := default) ascending
  rw [List.foldl_map, List.filterMap_map] at entries
  refine entries.trans (List.filterMap_congr fun e _ => ?_)
  simp only [Function.comp_apply, maskPieces, flatten_pieces]
  rfl

private theorem configuration_header :
    (r.header w).configuration =
      (maskTypes.map Prod.snd ++ [Setter.propBit]).filterMap r.configured := by
  have properties : maskCodes (r.header w).properties = (r.codes .propBit).codes :=
    CodeSet.maskCodes_mask _ _
  rw [Header.configuration, entries_masks, List.filterMap_append, List.filterMap_map,
    List.filterMap_filterMap]
  congr 1
  · refine List.filterMap_congr fun e he => ?_
    have mask : maskCodes ((r.codes e.2).mask (w.padding e.2)) = (r.codes e.2).codes :=
      CodeSet.maskCodes_mask _ _
    cases hp : r.maskPieces w e.2 with
    | nil =>
      -- No line at all is no byte, and so no code.
      have bytes := flatten_pieces (w.cuts e.2) ((r.codes e.2).mask (w.padding e.2))
      rw [← maskPieces, hp, List.flatten_nil] at bytes
      have none : (r.codes e.2).codes = [] := by rw [← mask, ← bytes]; rfl
      simp [configured, none]
    | cons chunk chunks =>
      by_cases hc : (r.codes e.2).codes = []
      · simp [configured, mask, hc]
      · simp [configured, mask, hc, Setter.ofEventType?_eq_some_iff.mpr he]
  · by_cases hc : (r.codes .propBit).codes = []
    · simp [configured, properties, hc]
    · simp [configured, properties, hc]

/-- A recorded device is given effects if one of its entries is for force feedback. -/
private theorem any_configured : ((maskTypes.map Prod.snd ++ [Setter.propBit]).filterMap r.configured).any
    (·.setter = .ffBit) ↔ (r.codes .ffBit).codes ≠ [] := by
  rw [List.any_eq_true]
  constructor
  · rintro ⟨e, he, hs⟩
    obtain ⟨s, -, hse⟩ := List.mem_filterMap.mp he
    unfold configured at hse
    split at hse
    · cases hse
    · next hne =>
      obtain rfl := Option.some.inj hse
      obtain rfl : s = .ffBit := of_decide_eq_true hs
      exact hne
  · intro hne
    exact ⟨⟨.ffBit, (r.codes .ffBit).codes⟩,
      List.mem_filterMap.mpr ⟨.ffBit, by decide, if_neg hne⟩, rfl⟩

private theorem registration_header : (r.header w).registration = .ok r.registration := by
  have configuration := r.configuration_header w
  have effects : (if (r.header w).configuration.any (·.setter = .ffBit)
      then Header.defaultEffects else 0) = if (r.codes .ffBit).codes = [] then 0 else 16 := by
    rw [configuration]
    by_cases hc : (r.codes .ffBit).codes = []
    · rw [if_pos hc, if_neg (fun any => r.any_configured.mp any hc)]
    · rw [if_neg hc, if_pos (r.any_configured.mpr hc)]
      rfl
  simp only [Header.registration, header] at configuration effects ⊢
  rw [effects, configuration]
  rfl

private theorem plainLine_nameLine : PlainLine r.nameLine := by
  have last : r.nameLine.getLast? = r.name.text.toList.getLast? := by
    rw [nameLine, List.getLast?_cons_of_ne_nil (by simp), List.getLast?_cons_of_ne_nil (by simp),
      List.getLast?_cons_of_ne_nil r.name.nonempty]
  refine ⟨?_, fun returned => ?_, by simp [Lines.counts, nameLine, Text.isBlank]⟩
  · simpa [nameLine] using r.name.unbroken
  · rw [last, ← r.name.trimmed] at returned
    exact absurd (Text.isBlank_of_getLast?_trim returned) (by decide)

/-- The lines of a recording are read as they are written. -/
private theorem plainLine_lines : ∀ l ∈ r.lines w, PlainLine l := by
  have name := r.plainLine_nameLine
  have ids := plainLine_tagged 'I' (by decide) (isWord_of_mem_idWords w.idDigits r.ids)
  have properties (bytes : List UInt8) :=
    plainLine_tagged 'P' (by decide) (isWord_of_mem_maskWords bytes)
  have mask (type : UInt16) (bytes : List UInt8) :=
    plainLine_tagged 'B' (by decide) (List.forall_mem_cons.mpr
      ⟨isWord_hex w.typeDigits type.toNat, isWord_of_mem_maskWords bytes⟩)
  have axis (code : UInt16) (a : AxisRange) :=
    plainLine_tagged 'A' (by decide) (isWord_of_mem_axisWords w.axisDigits code a)
  have event (time : UInt64) (e : RawEvent) :=
    plainLine_tagged 'E' (by decide) (isWord_of_mem_eventWords w.eventDigits time e)
  have masks : ∀ l ∈ r.maskLines w, PlainLine l := by
    intro l hl
    obtain ⟨e, -, hl⟩ := List.mem_flatMap.mp hl
    obtain ⟨bytes, -, rfl⟩ := List.mem_map.mp hl
    exact mask e.1 bytes
  simp only [lines, headerLines, List.forall_mem_append, List.forall_mem_cons]
  exact ⟨⟨name, ids, ⟨List.forall_mem_map.mpr fun _ _ => properties _, masks⟩,
    List.forall_mem_map.mpr fun _ _ => axis _ _⟩, List.forall_mem_map.mpr fun _ _ => event _ _⟩

private theorem tellOf_eventLines {lines : List Line} (h : lines.map (·.text) = r.eventLines w) :
    TellOf lines r.timedEvents := by
  rw [eventLines, ← List.forall₂_eq_eq_eq, List.forall₂_map_left_iff,
    List.forall₂_map_right_iff] at h
  rw [TellOf, timedEvents, List.forall₂_map_right_iff]
  refine h.imp fun line e he => ?_
  have tells := tells_eventLine line.number w.eventDigits e.1 e.2
  rwa [← he] at tells

/-- The header of a recording ends where its events begin, or where it ends itself. -/
private theorem readHeader_lines {lines : List Line} (h : lines.map (·.text) = r.lines w) :
    ∃ rest, TellOf rest r.timedEvents ∧
      Recording.readHeader none {} lines = .ok (r.registration, rest) := by
  obtain ⟨head, rest, rfl, hh, hr⟩ := List.map_eq_append_iff.mp h
  have told := r.tellOf_eventLines w hr
  refine ⟨rest, told, ?_⟩
  rw [(r.reads_headerLines w).readHeader none hh]
  cases rest with
  | nil => rw [Recording.readHeader, registration_header]
  | cons line rest =>
    generalize r.timedEvents = es at told
    obtain _ | ⟨first, -⟩ := told
    exact Header.readHeader_event first (registration_header ..) none rest

end Recorded

/-- Every recording is read back exactly. From its text, however its masks are split into lines and in
whatever buffers it arrives, comes the registration of the recorded device, and then the recorded
events: none of them lost, in their order, cut after synchronisation reports, and in time. -/
theorem written_recording_read_back (r : Recorded) (w : Layout) (size : Nat) :
    ∃ rest, (Script.ofSource .evemu (.buffered size (Text.encode (r.text w)))).events =
        .ok (⟨1, .register r.registration⟩ :: rest) ∧
      Conserves r.timedEvents rest ∧ batches rest = (frames r.timedEvents).map (·.2) ∧
      (pauses rest).length = (frames r.timedEvents).length ∧
      (Timeline.ofEvents (frames r.timedEvents) rest).KeepsTime (frames r.timedEvents).length := by
  obtain ⟨whole, texts⟩ := Lines.ofSource_linesText (r.plainLine_lines w) size
  obtain ⟨rest, told, read⟩ := r.readHeader_lines w texts
  have paused := Recording.pauses_replay told.timely none
  refine ⟨_, Recording.events_of_readHeader whole told read, Recording.conserves_replay told,
    Recording.batches_replay none _, ?_, (Timeline.paced_ofEvents paused).keepsTime⟩
  rw [paused, Recording.length_pausesFrom, List.length_map]

end ScriptedInput

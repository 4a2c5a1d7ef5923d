import Mathlib.Data.Char
import ScriptedInput.Proofs.Commands.NumberSlots

/-! The names of buses, in letters of either case. The words for buses and numerals may be written in any
case, while symbolic names are written in capitals only. -/
namespace ScriptedInput

open Json (Value)

def SameLetters (cs ds : List Char) : Prop := cs.map Char.toLower = ds.map Char.toLower

instance (cs ds : List Char) : Decidable (SameLetters cs ds) := inferInstanceAs (Decidable (_ = _))

namespace Text
variable {c d : Char}

private theorem toNat_toLower (c : Char) :
    c.toLower.toNat = if 65 ≤ c.toNat ∧ c.toNat ≤ 90 then c.toNat + 32 else c.toNat := by
  unfold Char.toLower
  split
  · next capital =>
    have bounds : 65 ≤ c.toNat ∧ c.toNat ≤ 90 := capital
    have size : c.toNat + 32 < 0x100000000 := by omega
    rw [if_pos bounds]
    exact Nat.mod_eq_of_lt size
  · next other => exact (if_neg other).symm

private theorem isLower_iff : c.isLower ↔ 97 ≤ c.toNat ∧ c.toNat ≤ 122 := by
  change (decide _ && decide _) = true ↔ _
  rw [Bool.and_eq_true, decide_eq_true_eq, decide_eq_true_eq]
  exact Iff.rfl

private theorem isBlank_toLower (c : Char) : isBlank c.toLower = isBlank c := by
  have code := toNat_toLower c
  rw [Bool.eq_iff_iff]
  simp only [isBlank, Bool.or_eq_true, Bool.and_eq_true, decide_eq_true_eq, beq_iff_eq]
  split_ifs at code <;> omega

/-- Letters that are the same but for their case are the same if none is small. -/
private theorem eq_of_toLower_eq_toLower (same : c.toLower = d.toLower) (hc : c.isLower = false)
    (hd : d.isLower = false) : c = d := by
  have code : c.toLower.toNat = d.toLower.toNat := congrArg Char.toNat same
  rw [toNat_toLower, toNat_toLower] at code
  rw [Bool.eq_false_iff, Ne, isLower_iff] at hc hd
  refine Char.toNat_inj.mp ?_
  split_ifs at code <;> omega

end Text

/-- A letter in another case is no other character. -/
private theorem eq_of_toLower_eq {c d : Char} (h : c.toLower = d) (other : d.isLower = false) :
    c = d := by
  subst h
  have code := Text.toNat_toLower c
  rw [Bool.eq_false_iff, Ne, Text.isLower_iff] at other
  refine Char.toNat_inj.mp ?_
  split_ifs at code <;> omega

private theorem Text.trim_map_toLower (cs : List Char) :
    trim (cs.map Char.toLower) = (trim cs).map Char.toLower := by
  have each : isBlank ∘ Char.toLower = isBlank := funext isBlank_toLower
  simp only [trim, trimEnd, trimStart, List.dropWhile_map, ← List.map_reverse, each]

namespace Scalar

open Text.Numeral

private theorem signed?_of_ne {b : Nat} {c : Char} (plus : c ≠ '+') (minus : c ≠ '-') (cs : List Char) :
    signed? b (c :: cs) = (digits? b (c :: cs)).map Int.ofNat := by
  unfold signed?
  split
  · next h => exact absurd (List.cons.inj h).1 plus
  · next h => exact absurd (List.cons.inj h).1 minus
  · rfl

private theorem signed?_map_toLower (b : Nat) (cs : List Char) :
    signed? b (cs.map Char.toLower) = signed? b cs := by
  cases cs with
  | nil => rfl
  | cons c cs =>
    by_cases plus : c = '+'
    · subst plus
      exact congrArg (Option.map Int.ofNat) (digits?_map_toLower cs)
    by_cases minus : c = '-'
    · subst minus
      have digits := digits?_map_toLower (b := b) cs
      simp only [List.map_cons, signed?, Char.reduceToLower, digits]
    have plus' : c.toLower ≠ '+' := fun h => plus (eq_of_toLower_eq h rfl)
    have minus' : c.toLower ≠ '-' := fun h => minus (eq_of_toLower_eq h rfl)
    rw [List.map_cons, signed?_of_ne plus' minus', signed?_of_ne plus minus, ← List.map_cons,
      digits?_map_toLower]

def Marked (cs : List Char) : Prop := ∃ x hex, (x = 'x' ∨ x = 'X') ∧ cs = '0' :: x :: hex

private theorem magnitude?_of_not_marked {cs : List Char} (h : ¬ Marked cs) :
    magnitude? cs = (digits? 10 cs).map Int.ofNat := by
  unfold magnitude?
  split
  · exact absurd ⟨_, _, .inl rfl, rfl⟩ h
  · exact absurd ⟨_, _, .inr rfl, rfl⟩ h
  · rfl

private theorem Marked.of_map_toLower {cs : List Char} (h : Marked (cs.map Char.toLower)) :
    Marked cs := by
  obtain ⟨x, hex, mark, text⟩ := h
  obtain ⟨zero, rest, rfl, first, later⟩ := List.map_eq_cons_iff.mp text
  obtain ⟨y, hex, rfl, second, -⟩ := List.map_eq_cons_iff.mp later
  obtain rfl := eq_of_toLower_eq first rfl
  refine ⟨y, hex, ?_, rfl⟩
  rcases mark with rfl | rfl
  · have code := Text.toNat_toLower y
    rw [second] at code
    split_ifs at code
    · exact .inr (Char.toNat_inj.mp (Nat.add_right_cancel code.symm))
    · exact .inl (Char.toNat_inj.mp code.symm)
  · exact .inr (eq_of_toLower_eq second rfl)

private theorem magnitude?_map_toLower (cs : List Char) :
    magnitude? (cs.map Char.toLower) = magnitude? cs := by
  by_cases marked : Marked cs
  · obtain ⟨x, hex, mark, rfl⟩ := marked
    rcases mark with rfl | rfl <;> exact signed?_map_toLower 16 hex
  · rw [magnitude?_of_not_marked marked, magnitude?_of_not_marked fun h => marked h.of_map_toLower,
      digits?_map_toLower]

/-- Numerals may be written in letters of either case. -/
private theorem numeral?_map_toLower (cs : List Char) : numeral? (cs.map Char.toLower) = numeral? cs := by
  cases cs with
  | nil => rfl
  | cons c cs =>
    by_cases minus : c = '-'
    · subst minus
      have magnitude := magnitude?_map_toLower cs
      simp only [numeral?_eq, List.map_cons, Char.reduceToLower, magnitude]
    · have minus' : c.toLower ≠ '-' := fun h => minus (eq_of_toLower_eq h rfl)
      have unsigned {d : Char} (h : d ≠ '-') (ds : List Char) :
          numeral? (d :: ds) = (magnitude? (d :: ds)).filter inWord := by
        rw [numeral?_eq]
        split
        · next text => exact absurd (List.cons.inj text).1 h
        · rfl
      rw [List.map_cons, unsigned minus', unsigned minus, ← List.map_cons, magnitude?_map_toLower]

end Scalar

/-- There are no small letters in symbolic names. -/
private theorem capitals_of_known : ∀ e ∈ CodeNames.all,
    e.1.toByteArray.data.toList.all fun b => b < 128 && !(Char.ofNat b.toNat).isLower := by
  decide +kernel

private theorem isLower_of_lookup? {name : String} {n : Nat} (h : CodeNames.lookup? name = some n) :
    ∀ c ∈ name.toList, c.isLower = false := by
  obtain ⟨before, after, all, -⟩ := List.lookup_eq_some_iff.mp h
  have known := capitals_of_known (name, n) (by rw [all]; simp)
  simp only [List.all_eq_true, Bool.and_eq_true, decide_eq_true_eq, Bool.not_eq_true'] at known
  rw [Text.eq_map_of_bytesOf (Text.bytesOf_toList name) fun b hb => (known b hb).1]
  exact List.forall_mem_map.mpr fun b hb => (known b hb).2

/-- Symbolic names are different also in letters of either case. -/
private theorem eq_of_sameLetters {s t : String} {m n : Nat} (hs : CodeNames.lookup? s = some m)
    (ht : CodeNames.lookup? t = some n) (same : SameLetters s.toList t.toList) : s = t := by
  have capitals {cs ds : List Char} (hc : ∀ c ∈ cs, c.isLower = false) (hd : ∀ d ∈ ds, d.isLower = false)
      (same : SameLetters cs ds) : cs = ds := by
    induction cs generalizing ds with
    | nil => exact (List.map_eq_nil_iff.mp same.symm).symm
    | cons c cs ih =>
      obtain ⟨d, ds, rfl, first, later⟩ := List.map_eq_cons_iff.mp same.symm
      obtain ⟨hc, hcs⟩ := List.forall_mem_cons.mp hc
      obtain ⟨hd, hds⟩ := List.forall_mem_cons.mp hd
      rw [Text.eq_of_toLower_eq_toLower first.symm hc hd, ih hcs hds later.symm]
  exact String.toList_inj.mp (capitals (isLower_of_lookup? hs) (isLower_of_lookup? ht) same)

namespace Scalar
variable {s t : String}

/-- A text that is a symbolic name, but for blanks around it. -/
def isSymbolic (s : String) : Bool := (CodeNames.lookup? (String.ofList (Text.trim s.toList))).isSome

private theorem trim_sameLetters (same : SameLetters s.toList t.toList) :
    SameLetters (Text.trim s.toList) (Text.trim t.toList) := by
  rw [SameLetters, ← Text.trim_map_toLower, ← Text.trim_map_toLower, same]

private theorem numeral?_eq_of_sameLetters {cs ds : List Char} (same : SameLetters cs ds) :
    numeral? cs = numeral? ds := by
  rw [← numeral?_map_toLower, same, numeral?_map_toLower]

/-- Where the same number is meant, letters of either case name the same bus. -/
private theorem bus_eq_of_resolve_eq (same : SameLetters s.toList t.toList)
    (number : (text t).resolve (.field .bus) = (text s).resolve (.field .bus)) :
    (text t).bus = (text s).bus := by
  have word : (Text.trim t.toList).map Char.toLower = (Text.trim s.toList).map Char.toLower :=
    (trim_sameLetters same).symm
  simp only [bus, uint16, within, number, word]

/-- The words for buses may be written in letters of either case. -/
private theorem bus_eq_of_word (same : SameLetters s.toList t.toList)
    (word : (Text.trim s.toList).map Char.toLower ∈ ["usb", "bluetooth", "virtual"].map String.toList) :
    (text t).bus = (text s).bus := by
  obtain ⟨w, listed, lower⟩ := List.mem_map.mp word
  have lower' : w.toList = (Text.trim t.toList).map Char.toLower := lower.trans (trim_sameLetters same)
  simp only [bus, ← lower, ← lower', String.ofList_toList]
  simp only [List.mem_cons, List.not_mem_nil, or_false] at listed
  rcases listed with rfl | rfl | rfl <;> rfl

/-- What is no word for a bus is read as a number. -/
theorem bus_of_not_word
    (other : (Text.trim s.toList).map Char.toLower ∉ ["usb", "bluetooth", "virtual"].map String.toList) :
    (text s).bus = ((text s).uint16 (.field .bus)).map Bus.ofRaw := by
  have ne (word : String) (hw : word ∈ ["usb", "bluetooth", "virtual"]) :
      String.ofList ((Text.trim s.toList).map Char.toLower) ≠ word := by
    rintro rfl
    exact other (by simpa using List.mem_map_of_mem (f := String.toList) hw)
  simp only [bus, ne "usb" (by simp), ne "bluetooth" (by simp), ne "virtual" (by simp), if_false]

/-- A symbolic name in other letters is not known. -/
private theorem bus_of_isSymbolic (same : SameLetters s.toList t.toList) (symbolic : isSymbolic s)
    (other : Text.trim t.toList ≠ Text.trim s.toList) :
    (text t).bus = .error (.unknownName (String.ofList (Text.trim t.toList)) (.field .bus)) := by
  have letters := trim_sameLetters same
  obtain ⟨n, known⟩ := Option.isSome_iff_exists.mp symbolic
  have noNumeral : numeral? (Text.trim t.toList) = none := by
    have none := (of_lookup? known).1
    rwa [String.toList_ofList, numeral?_eq_of_sameLetters letters] at none
  have noName : CodeNames.lookup? (String.ofList (Text.trim t.toList)) = none := by
    rw [Option.eq_none_iff_forall_ne_some]
    intro m known'
    have eq := eq_of_sameLetters known' known
      (by rw [String.toList_ofList, String.toList_ofList]; exact letters.symm)
    exact other (String.ofList_injective eq)
  have noWord : (Text.trim t.toList).map Char.toLower ∉
      ["usb", "bluetooth", "virtual"].map String.toList := by
    intro word
    rw [← (letters : List.map _ _ = _)] at word
    rw [(no_number_of_word word).2] at known
    cases known
  rw [bus_of_not_word noWord]
  simp only [uint16, within, resolve, noNumeral, noName]
  rfl

/-- The bus of a text whose letters are written in other cases. -/
private theorem bus_of_sameLetters (same : SameLetters s.toList t.toList) {bus : Bus}
    (accepted : (text s).bus = .ok bus) : (text t).bus =
      if isSymbolic s ∧ Text.trim t.toList ≠ Text.trim s.toList then
        .error (.unknownName (String.ofList (Text.trim t.toList)) (.field .bus))
      else .ok bus := by
  have letters := trim_sameLetters same
  split_ifs with misspelled
  · exact bus_of_isSymbolic same misspelled.1 misspelled.2
  · rw [← accepted]
    by_cases spelled : Text.trim t.toList = Text.trim s.toList
    · simp only [Scalar.bus, uint16, within, resolve, spelled]
    have unknown : CodeNames.lookup? (String.ofList (Text.trim s.toList)) = none := by
      simpa [isSymbolic, spelled] using misspelled
    by_cases word : (Text.trim s.toList).map Char.toLower ∈
        ["usb", "bluetooth", "virtual"].map String.toList
    · exact bus_eq_of_word same word
    · cases numeral : numeral? (Text.trim s.toList) with
      | some n =>
        refine bus_eq_of_resolve_eq same ?_
        simp only [resolve, ← numeral?_eq_of_sameLetters letters, numeral]
      | none =>
        rw [bus_of_not_word word] at accepted
        simp [uint16, within, resolve, numeral, unknown, Except.map, bind, Except.bind] at accepted

end Scalar

namespace Draft
variable {d : Draft} {s : Scalar} {id : DeviceId} {r : Registration}

/-- With another bus, a registration is the same but for the bus. -/
private theorem event_put_bus (registered : (d.put .bus (some s)).event = .ok ⟨id, .register r⟩)
    (t : Scalar) : (d.put .bus (some t)).event = t.bus.map fun bus => ⟨id, .register { r with bus }⟩ := by
  obtain ⟨⟨a, ha, hid⟩, ⟨name, given, named⟩, does⟩ := event_eq_ok_iff.mp registered
  cases read : t.bus with
  | ok bus =>
    exact event_eq_ok_iff.mpr ⟨⟨a, ha, hid⟩, ⟨name, given, named⟩, { does with bus := read }⟩
  | error fault =>
    obtain ⟨v, hv, vendor⟩ := does.vendor
    obtain ⟨p, hp, product⟩ := does.product
    -- The fields that are read before the bus are as they were.
    have refused : (d.put .bus (some t)).registration = .error fault := by
      simp only [registration, bind_eq_error_iff, required_eq_ok_iff]
      exact .inr ⟨_, does.name, .inr ⟨v, hv, .inr ⟨_, vendor, .inr ⟨p, hp, .inr ⟨_, product,
        .inr ⟨_, does.version, .inl read⟩⟩⟩⟩⟩⟩
    change _ = Except.error fault
    simp only [event, bind_eq_error_iff, required_eq_ok_iff]
    refine .inr ⟨a, ha, .inr ⟨_, hid, .inr ⟨name, given, ?_⟩⟩⟩
    rw [named]
    exact bind_eq_error_iff.mpr (.inl (bind_eq_error_iff.mpr (.inl refused)))

end Draft

/-- With the letters of its bus in other cases, a command to register a device does as it did. Where the
bus is a symbolic name, the command is refused. -/
theorem register_in_either_case {command : Value → Value} (hole : FieldHole .bus command)
    {s t : String} (same : SameLetters s.toList t.toList) {id : DeviceId} {r : Registration}
    (accepted : Event.ofValue (command (.string s)) = .ok ⟨id, .register r⟩) :
    Event.ofValue (command (.string t)) =
      if Scalar.isSymbolic s ∧ Text.trim t.toList ≠ Text.trim s.toList then
        .error (.unknownName (String.ofList (Text.trim t.toList)) (.field .bus))
      else .ok ⟨id, .register r⟩ := by
  obtain ⟨draft, read, told⟩ := bind_eq_ok_iff.mp accepted
  obtain ⟨_, ⟨d, rfl⟩, all⟩ := Draft.hingesOn_number (f := .bus) hole _ _ read
  have each (t : String) : Event.ofValue (command (.string t)) = (d.put .bus (some (.text t))).event := by
    have one : Draft.ofValue (command (.string t)) = .ok (d.put .bus (some (.text t))) := all _
    rw [Event.ofValue, one]
    rfl
  rw [each] at accepted ⊢
  have bus : (Scalar.text s).bus = .ok r.bus := by
    obtain ⟨_, -, does⟩ := Draft.event_eq_ok_iff.mp accepted
    have read : orDefault (some (Scalar.text s)) .usb (·.bus) = .ok r.bus := does.bus
    rwa [orDefault] at read
  rw [Draft.event_put_bus accepted, Scalar.bus_of_sameLetters same bus]
  split_ifs <;> rfl

def registering (bus : Value) : Value :=
  .object [("id", .int 7), ("command", .string "register"), ("name", .string "pad"), ("vid", .int 1),
    ("pid", .int 2), ("bus", bus)]

theorem registering_in_capitals :
    FieldHole .bus registering ∧ SameLetters " virtual".toList " VirTUAL".toList ∧
      Event.ofValue (registering (.string " VirTUAL")) =
        .ok ⟨7, .register { name := "pad", vendor := 1, product := 2, bus := .virtual }⟩ := by
  have spelled : Field.ofKey? "bus" = some .bus := by decide
  have hole : FieldHole .bus registering := .mk spelled [_, _, _, _, _] []
  have same : SameLetters " virtual".toList " VirTUAL".toList := by decide
  have accepted : Event.ofValue (registering (.string " virtual")) =
    .ok ⟨7, .register { name := "pad", vendor := 1, product := 2, bus := .virtual }⟩ := by decide +kernel
  have plain : ¬ Scalar.isSymbolic " virtual" := by decide +kernel
  refine ⟨hole, same, (register_in_either_case hole same accepted).trans (if_neg ?_)⟩
  exact fun misspelled => plain misspelled.1

/-- A bus that is a symbolic name, and the same in small letters. -/
theorem symbolic_in_small_letters :
    Event.ofValue (registering (.string "BUS_USB")) =
        .ok ⟨7, .register { name := "pad", vendor := 1, product := 2, bus := .usb }⟩ ∧
      SameLetters "BUS_USB".toList "bus_usb".toList ∧
      Event.ofValue (registering (.string "bus_usb")) = .error (.unknownName "bus_usb" (.field .bus)) := by
  decide +kernel

end ScriptedInput

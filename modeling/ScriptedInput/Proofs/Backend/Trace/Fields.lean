import Mathlib.Data.List.Perm.Basic
import ScriptedInput.Backend.Trace
import ScriptedInput.Proofs.Commands.ReadBack
import ScriptedInput.Proofs.Json.Members
import ScriptedInput.Proofs.Text.Numeral

/-! The objects that calls are written as tell the calls: every argument is found under its key
again, whatever order the keys stand in. -/
namespace ScriptedInput
open Json (Value)

def Setter.ofName? (name : String) : Option Setter := all.find? (·.name = name)

private theorem Setter.ofName?_name (s : Setter) : ofName? s.name = some s := by
  cases s <;> decide

private theorem CallKind.ofName?_name (k : CallKind) : ofName? k.name = some k := by
  cases k <;> decide

def RawEvent.ofJson? (v : Value) : Option RawEvent :=
  return {
    type := ← v.read? "type" Value.uint16?, code := ← v.read? "code" Value.uint16?,
    value := ← v.read? "value" Value.int32? }

private theorem RawEvent.ofJson?_json (e : RawEvent) : ofJson? e.json = some e := by
  simp [ofJson?, json, lookup_cons_eq_ite]

def ConfigEntry.ofJson? (v : Value) : Option ConfigEntry :=
  return {
    setter := ← v.read? "kind" fun kind => kind.string?.bind Setter.ofName?
    codes := ← v.read? "codes" (Value.list? Value.uint16?) }

private theorem ConfigEntry.ofJson?_json (e : ConfigEntry) : ofJson? e.json = some e := by
  simp [ofJson?, json, lookup_cons_eq_ite, Setter.ofName?_name,
    Value.list?_array Value.uint16?_int]

def AbsInfo.ofJson? (v : Value) : Option AbsInfo :=
  return {
    value := ← v.read? "value" Value.int32?, minimum := ← v.read? "minimum" Value.int32?,
    maximum := ← v.read? "maximum" Value.int32?, fuzz := ← v.read? "fuzz" Value.int32?,
    flat := ← v.read? "flat" Value.int32?, resolution := ← v.read? "resolution" Value.int32? }

private theorem AbsInfo.ofJson?_json (a : AbsInfo) : ofJson? a.json = some a := by
  simp [ofJson?, json, lookup_cons_eq_ite]

def Bus.ofJson? (v : Value) : Option Bus :=
  match v.string? with
  | some name => [("usb", .usb), ("bluetooth", .bluetooth), ("virtual", .virtual)].lookup name
  | none => (v.read? "other" Value.uint16?).map .other

private theorem Bus.ofJson?_json (b : Bus) : ofJson? b.json = some b := by
  cases b <;> simp [ofJson?, json, lookup_cons_eq_ite]

def codeOfKey? (key : String) : Option UInt16 :=
  (Text.Numeral.unsigned? 10 key.toList).map .ofNat

private theorem codeOfKey?_toString (code : UInt16) : codeOfKey? (toString code) = some code := by
  have digits : (toString code).toList = Nat.toDigits 10 code.toNat := String.toList_ofList
  rw [codeOfKey?, digits, Text.Numeral.unsigned?_toDigits (by decide) (by decide), Option.map_some,
    UInt16.ofNat_toNat]

def axisOfMember? (m : String × Value) : Option (UInt16 × AbsInfo) :=
  return (← codeOfKey? m.1, ← AbsInfo.ofJson? m.2)

def axesOfJson? (v : Value) : Option (CodeMap AbsInfo) :=
  return .ofList (← (← v.members?).mapM axisOfMember?)

/-- The keys of axes stand in the order of their texts, not of their numbers, which is all the same
for the map. -/
private theorem axesOfJson?_json (axes : CodeMap AbsInfo) :
    axesOfJson? (.ofMembers (axes.entries.map fun e => (toString e.1, e.2.json))) = some axes := by
  let json (e : UInt16 × AbsInfo) : String × Value := (toString e.1, e.2.json)
  have distinct : ((axes.entries.map json).map Prod.fst).Nodup := by
    rw [List.Nodup, List.map_map, List.pairwise_map]
    refine axes.ascending.imp ?_
    intro a b lt same
    have read := congrArg codeOfKey? same
    simp only [json, Function.comp_apply, codeOfKey?_toString] at read
    exact UInt16.ne_of_lt lt (Option.some.inj read)
  obtain ⟨entries, same, rearranged⟩ : ∃ entries : List (UInt16 × AbsInfo),
      Value.arranged (axes.entries.map json) = entries.map json ∧ entries.Perm axes.entries :=
    (congrFun₂ (List.eq_map_comp_perm json) _ _).mpr (Value.perm_arranged distinct)
  have read (e : UInt16 × AbsInfo) : axisOfMember? (json e) = some e := by
    simp [axisOfMember?, json, codeOfKey?_toString, AbsInfo.ofJson?_json]
  rw [Value.ofMembers_eq]
  change ((Value.arranged (axes.entries.map json)).mapM axisOfMember?).bind _ = _
  rw [same, mapM_map_pure read]
  exact congrArg some (CodeMap.ofList_of_perm rearranged)

def Registration.ofJson? (v : Value) : Option Registration :=
  return {
    name := ← v.read? "name" Value.string?, vendor := ← v.read? "vendor_id" Value.uint16?
    product := ← v.read? "product_id" Value.uint16?
    version := ← v.read? "version_id" Value.uint16?, bus := ← v.read? "bus" Bus.ofJson?
    configuration := ← v.read? "configuration" (Value.list? ConfigEntry.ofJson?)
    ffEffectsMax := ← v.read? "ff_effects_max" Value.uint32?
    axes := ← v.read? "abs_info" axesOfJson?
    port := ← v.read? "port" (Value.optional? Value.string?) }

private theorem Registration.ofJson?_json (r : Registration) : ofJson? r.json = some r := by
  obtain ⟨name, vendor, product, version, bus, configuration, effects, axes, port⟩ := r
  have entries := Value.list?_array ConfigEntry.ofJson?_json configuration
  have calibrated := axesOfJson?_json axes
  cases port <;>
    simp [ofJson?, json, lookup_cons_eq_ite, Bus.ofJson?_json, Value.optional?, entries, calibrated]

def Call.ofJson? (v : Value) : Option Call := do
  let id ← v.read? "id" Value.int32?
  match ← v.read? "call" fun name => name.string?.bind CallKind.ofName? with
  | .create => return .create id (← v.read? "registration" Registration.ofJson?)
  | .inject => return .inject id (← v.read? "events" (Value.list? RawEvent.ofJson?))
  | .delay => return .delay id (← v.read? "millis" Value.uint64?)
  | .idle => return .idle id
  | .sync => return .sync id (← v.read? "syncToken" Value.string?)
  | .close => return .close id

/-- The object of a call tells the call. -/
theorem Call.ofJson?_json {c : Call} {v : Value} (h : c.json? = some v) : ofJson? v = some c := by
  cases c with
  | create id r =>
    have kind : CallKind.ofName? "create" = some .create := CallKind.ofName?_name .create
    cases h
    simp [ofJson?, lookup_cons_eq_ite, kind, Registration.ofJson?_json]
  | inject id events =>
    have kind : CallKind.ofName? "inject" = some .inject := CallKind.ofName?_name .inject
    cases h
    simp [ofJson?, lookup_cons_eq_ite, kind, Value.list?_array RawEvent.ofJson?_json]
  | delay id millis =>
    have kind : CallKind.ofName? "delay" = some .delay := CallKind.ofName?_name .delay
    cases h
    simp [ofJson?, lookup_cons_eq_ite, kind]
  | idle id => cases h
  | sync id token =>
    have kind : CallKind.ofName? "sync" = some .sync := CallKind.ofName?_name .sync
    cases h
    simp [ofJson?, lookup_cons_eq_ite, kind]
  | close id =>
    have kind : CallKind.ofName? "close" = some .close := CallKind.ofName?_name .close
    cases h
    simp [ofJson?, lookup_cons_eq_ite, kind]

end ScriptedInput

import Mathlib.Data.String.Basic
import ScriptedInput.Proofs.CodeMap
import ScriptedInput.Proofs.Commands.Written
import ScriptedInput.Proofs.Success
import ScriptedInput.Script.CommandReader

/-! Commands are read back from their JSON objects: first their fields by shape, then what these mean.
-/
namespace ScriptedInput

open Json (Value)

namespace Scalar

private theorem ofValue_int {n : Int} (low : -0x8000000000000000 ≤ n) (high : n < 0x8000000000000000) :
    ofValue (.int n) = .ok (.int n) := by
  simp [Value.int, ofValue, inWord, low, high]

theorem within_int {low high n : Int} (h : low ≤ n ∧ n ≤ high) (place : Place) :
    (int n).within low high place = .ok n := by
  simp [within, resolve, bind, Except.bind, h, pure, Except.pure]

theorem uint16_toNat (v : UInt16) (place : Place) : (int v.toNat).uint16 place = .ok v := by
  have fits : 0 ≤ (v.toNat : Int) ∧ (v.toNat : Int) ≤ 0xffff := by have := v.toNat_lt; omega
  simp [uint16, within_int fits, Except.map]

theorem uint32_toNat (v : UInt32) (place : Place) : (int v.toNat).uint32 place = .ok v := by
  have fits : 0 ≤ (v.toNat : Int) ∧ (v.toNat : Int) ≤ 0xffffffff := by have := v.toNat_lt; omega
  simp [uint32, within_int fits, Except.map]

theorem uint64_toNat (v : UInt64) (place : Place) : (int v.toNat).uint64 place = .ok v := by
  have fits : 0 ≤ (v.toNat : Int) ∧ (v.toNat : Int) ≤ 0xffffffffffffffff := by
    have := v.toNat_lt
    omega
  simp [uint64, within_int fits, Except.map]

theorem int32_toInt (v : Int32) (place : Place) : (int v.toInt).int32 place = .ok v := by
  have fits : -0x80000000 ≤ v.toInt ∧ v.toInt ≤ 0x7fffffff := by
    have low := v.le_toInt
    have high := v.toInt_lt
    omega
  simp [int32, within_int fits, Except.map]

private theorem ofValue_uint16 (v : UInt16) : ofValue (.int v.toNat) = .ok (.int v.toNat) :=
  ofValue_int (by omega) (by have := v.toNat_lt; omega)

private theorem ofValue_uint32 (v : UInt32) : ofValue (.int v.toNat) = .ok (.int v.toNat) :=
  ofValue_int (by omega) (by have := v.toNat_lt; omega)

private theorem ofValue_int32 (v : Int32) : ofValue (.int v.toInt) = .ok (.int v.toInt) :=
  ofValue_int (by have := v.le_toInt; omega) (by have := v.toInt_lt; omega)

end Scalar

theorem Setter.ofControlCode?_controlCode (s : Setter) : ofControlCode? s.controlCode = some s := by
  cases s <;> rfl

theorem Bus.raw_ofRaw (raw : UInt16) : (ofRaw raw).raw = raw := by
  unfold ofRaw
  split_ifs <;> simp_all [Bus.raw]

private theorem Command.ofName?_keyword (c : Command) : ofName? c.keyword = some c := by
  cases c <;> decide +kernel

private theorem Field.ofKey?_label (f : Field) : ofKey? f.label = some f := by
  cases f <;> decide

namespace Draft

/-- A field that is there is read by its shape. -/
private theorem optional_eq {α : Type} {shape : Value → Except CommandFault α} {v : Value} {a : α}
    (hv : v ≠ .null) (h : shape v = .ok a) : optional shape v = .ok (some a) := by
  cases v <;> simp_all [optional, Except.map]

private theorem optional_int {n : Int} (h : Scalar.ofValue (.int n) = .ok (.int n)) :
    optional Scalar.ofValue (.int n) = .ok (some (.int n)) := optional_eq nofun h

theorem optional_string (s : String) : optional string (.string s) = .ok (some s) := rfl

private theorem optional_list {α β : Type} {item : Value → Except CommandFault α} {g : β → Value}
    {h : β → α} (read : ∀ b, item (g b) = .ok (h b)) (bs : List β) :
    optional (list item) (.array (bs.map g)) = .ok (some (bs.map h)) :=
  optional_eq nofun (mapM_map_ok read bs)

end Draft

def ConfigEntry.draft (e : ConfigEntry) : ConfigDraft :=
  { type := some (.int e.setter.controlCode), data := e.codes.map fun c => .int c.toNat }

theorem ConfigEntry.value_eq (e : ConfigEntry) : e.value = .object [
    ("data", .array (e.codes.map fun c => .int c.toNat)), ("type", .int e.setter.controlCode)] := by
  -- Keys are literals, which `simp` compares as they stand; `lt_iff_ltb` would take them apart.
  simp [-String.lt_iff_ltb, ConfigEntry.value, Value.ofMembers, insertAscending]

private theorem ConfigDraft.ofValue_value (e : ConfigEntry) : ofValue e.value = .ok e.draft := by
  have data : Draft.list Scalar.ofValue (.array (e.codes.map fun c => .int c.toNat)) =
      .ok (e.codes.map fun c => .int c.toNat) := mapM_map_ok Scalar.ofValue_uint16 e.codes
  have type : Scalar.ofValue (.int e.setter.controlCode) = .ok (.int e.setter.controlCode) := by
    cases e.setter <;> rfl
  rw [e.value_eq, ofValue]
  simp only [List.foldlM_cons, List.foldlM_nil, bind_eq_ok_iff]
  refine ⟨{ data := e.codes.map fun c => .int c.toNat }, ?_, e.draft, ?_, rfl⟩
  · simp only [set]
    rw [data]
    rfl
  · simp only [set]
    rw [Draft.optional_int type]
    rfl

/-- An entry means what it was written for. -/
private theorem ConfigEntry.entry_draft (e : ConfigEntry) : e.draft.entry = .ok e := by
  have data : e.draft.data.mapM (·.uint16 .setterData) = .ok e.codes := by
    exact mapM_map_self (f := fun s : Scalar => s.uint16 .setterData)
      (fun c => Scalar.uint16_toNat c .setterData) e.codes
  simp only [ConfigDraft.entry, bind_eq_ok_iff]
  refine ⟨_, rfl, _, rfl, ?_⟩
  rw [Setter.ofControlCode?_controlCode]
  exact bind_eq_ok_iff.mpr ⟨_, data, rfl⟩

def AbsInfo.draft (a : AbsInfo) : AxisInfoDraft where
  value := some (.int a.value.toInt)
  minimum := some (.int a.minimum.toInt)
  maximum := some (.int a.maximum.toInt)
  fuzz := some (.int a.fuzz.toInt)
  flat := some (.int a.flat.toInt)
  resolution := some (.int a.resolution.toInt)

theorem AbsInfo.json_eq (a : AbsInfo) : a.json = .object [
    ("flat", .int a.flat.toInt), ("fuzz", .int a.fuzz.toInt), ("maximum", .int a.maximum.toInt),
    ("minimum", .int a.minimum.toInt), ("resolution", .int a.resolution.toInt),
    ("value", .int a.value.toInt)] := by
  simp [-String.lt_iff_ltb, json, Value.ofMembers, insertAscending]

private theorem AxisInfoDraft.ofValue_json (a : AbsInfo) : ofValue a.json = .ok a.draft := by
  have number (d : AxisInfoDraft) (f : AxisField) (v : Int32) :
      d.set f (.int v.toInt) = .ok (d.put f (some (.int v.toInt))) := by
    rw [set, Draft.optional_int (Scalar.ofValue_int32 v)]
    rfl
  rw [a.json_eq, ofValue]
  simp only [List.foldlM_cons, List.foldlM_nil]
  simp only [AxisField.all, AxisField.label, List.find?, String.reduceEq, decide_false, decide_true,
    number]
  rfl

/-- A calibration means what it was written for. -/
private theorem AbsInfo.info_draft (a : AbsInfo) : a.draft.info = .ok a := by
  simp only [AxisInfoDraft.info, draft, orDefault, Scalar.int32_toInt]
  rfl

def axisDraft (code : UInt16) (info : AbsInfo) : AxisDraft :=
  { code := some (.int code.toNat), info := some info.draft }

theorem axisValue_eq (code : UInt16) (info : AbsInfo) :
    axisValue code info = .object [("code", .int code.toNat), ("info", info.json)] := by
  simp [-String.lt_iff_ltb, axisValue, Value.ofMembers, insertAscending]

private theorem AxisDraft.ofValue_value (code : UInt16) (info : AbsInfo) :
    ofValue (axisValue code info) = .ok (axisDraft code info) := by
  have calibration : Draft.optional AxisInfoDraft.ofValue info.json = .ok (some info.draft) :=
    Draft.optional_eq nofun (AxisInfoDraft.ofValue_json info)
  rw [axisValue_eq, ofValue]
  simp only [List.foldlM_cons, List.foldlM_nil, bind_eq_ok_iff]
  refine ⟨{ code := some (.int code.toNat) }, ?_, axisDraft code info, ?_, rfl⟩
  · simp only [set]
    rw [Draft.optional_int (Scalar.ofValue_uint16 code)]
    rfl
  · simp only [set]
    rw [calibration]
    rfl

private theorem axis_axisDraft (code : UInt16) (info : AbsInfo) :
    (axisDraft code info).axis = .ok (code, info) := by
  simp only [AxisDraft.axis, axisDraft, required, bind_eq_ok_iff]
  exact ⟨_, rfl, code, Scalar.uint16_toNat code .axisCode, _, rfl, info, info.info_draft, rfl⟩

def RawEvent.scalars (e : RawEvent) : List Scalar :=
  [.int e.type.toNat, .int e.code.toNat, .int e.value.toInt]

private theorem triples_scalars (events : List RawEvent) :
    triples (events.flatMap (·.scalars)) = .ok events := by
  induction events with
  | nil => rfl
  | cons e events ih =>
    rw [List.flatMap_cons, RawEvent.scalars, List.cons_append, List.cons_append, List.cons_append,
      List.nil_append, triples]
    simp only [Scalar.uint16_toNat, Scalar.int32_toInt, ih]
    rfl

/-- A flat list of triples means the input events it was written for. -/
private theorem rawEvents_scalars (events : List RawEvent) :
    rawEvents (events.flatMap (·.scalars)) = .ok events := by
  have length : (events.flatMap (·.scalars)).length = events.length * 3 := by
    simp [List.length_flatMap, RawEvent.scalars]
  rw [rawEvents, if_pos (by omega), triples_scalars]

private theorem mapM_ofValue_triples (events : List RawEvent) :
    (events.flatMap (·.triple)).mapM Scalar.ofValue = .ok (events.flatMap (·.scalars)) := by
  rw [mapM_eq_ok_iff]
  induction events with
  | nil => exact .nil
  | cons e events ih =>
    exact .cons (Scalar.ofValue_uint16 e.type) (.cons (Scalar.ofValue_uint16 e.code)
      (.cons (Scalar.ofValue_int32 e.value) ih))

namespace Draft

/-- Members that spell different fields are taken in one after the other. -/
private theorem addMembers_fields {fields : List (Field × Value)} {seen : List Field} {d : Draft}
    (distinct : (fields.map Prod.fst).Nodup) (fresh : ∀ f ∈ fields, f.1 ∉ seen) :
    addMembers seen d (fields.map fun f => (f.1.label, f.2)) =
      fields.foldlM (fun d f => d.set f.1 f.2) d := by
  induction fields generalizing seen d with
  | nil => rfl
  | cons f fields ih =>
    obtain ⟨hf, hfs⟩ := List.forall_mem_cons.mp fresh
    obtain ⟨other, distinct⟩ := List.nodup_cons.mp distinct
    have later : ∀ g ∈ fields, g.1 ∉ f.1 :: seen := by
      intro g hg hmem
      rcases List.mem_cons.mp hmem with eq | hmem
      · exact other (eq ▸ List.mem_map_of_mem hg)
      · exact hfs g hg hmem
    rw [List.map_cons, addMembers, Field.ofKey?_label]
    simp only [hf, if_false, List.foldlM_cons]
    exact congrArg _ (funext fun d => ih distinct later)

private theorem ofValue_fields {fields : List (Field × Value)} (distinct : (fields.map Prod.fst).Nodup) :
    ofValue (.object (fields.map fun f => (f.1.label, f.2))) =
      fields.foldlM (fun d f => d.set f.1 f.2) {} :=
  addMembers_fields distinct (by simp)

end Draft

def Event.draft (e : Event) : Draft :=
  let d : Draft := { id := some (.int e.id.toInt), command := some e.command.keyword }
  match e.action with
  | .register r => { d with
      name := some r.name, vid := some (.int r.vendor.toNat), pid := some (.int r.product.toNat),
      version := some (.int r.version.toNat), bus := some (.int r.bus.raw.toNat),
      configuration := some (r.configuration.map (·.draft)),
      ffEffectsMax := some (.int r.ffEffectsMax.toNat),
      absInfo := some (r.axes.entries.map fun a => axisDraft a.1 a.2), port := r.port }
  | .inject events => { d with events := some (events.flatMap (·.scalars)) }
  | .delay millis => { d with duration := some (.int millis.toNat) }
  | .sync token => { d with syncToken := some token }

def Event.sortedFields (e : Event) : List (Field × Value) :=
  let id : Field × Value := (.id, .int e.id.toInt)
  let command : Field × Value := (.command, .string e.command.keyword)
  match e.action with
  | .register r =>
    [(.absInfo, .array (r.axes.entries.map fun a => axisValue a.1 a.2)),
     (.bus, .int r.bus.raw.toNat), command,
     (.configuration, .array (r.configuration.map (·.value))),
     (.ffEffectsMax, .int r.ffEffectsMax.toNat), id, (.name, .string r.name),
     (.pid, .int r.product.toNat)] ++ (r.port.map fun port => (.port, .string port)).toList ++
    [(.version, .int r.version.toNat), (.vid, .int r.vendor.toNat)]
  | .inject events => [command, (.events, .array (events.flatMap (·.triple))), id]
  | .delay millis => [command, (.duration, .int millis.toNat), id]
  | .sync token => [command, id, (.syncToken, .string token)]

theorem Event.value_eq (e : Event) :
    e.value = .object (e.sortedFields.map fun f => (f.1.label, f.2)) := by
  obtain ⟨id, action⟩ := e
  cases action with
  | register r =>
    cases hp : r.port <;>
      simp [-String.lt_iff_ltb, value, fields, Action.fields, Registration.fields, sortedFields,
        Value.ofMembers, insertAscending, Field.label, hp]
  | inject | delay | sync =>
    simp [-String.lt_iff_ltb, value, fields, Action.fields, sortedFields, Value.ofMembers,
      insertAscending, Field.label]

private theorem Event.nodup_sortedFields (e : Event) : (e.sortedFields.map Prod.fst).Nodup := by
  obtain ⟨id, action⟩ := e
  cases action with
  | register r => cases hp : r.port <;> simp [sortedFields, hp]
  | inject | delay | sync => simp [sortedFields]

/-- The fields of a command have the shapes that they were written in. -/
private theorem Draft.ofValue_value {e : Event} (h : e.Tellable) : ofValue e.value = .ok e.draft := by
  rw [Event.value_eq, ofValue_fields e.nodup_sortedFields]
  obtain ⟨id, action⟩ := e
  have address := optional_int (Scalar.ofValue_int32 id)
  cases action with
  | register r =>
    have number (v : UInt16) := optional_int (Scalar.ofValue_uint16 v)
    have effects := optional_int (Scalar.ofValue_uint32 r.ffEffectsMax)
    have configuration := optional_list ConfigDraft.ofValue_value r.configuration
    have axes := optional_list (fun a : UInt16 × AbsInfo => AxisDraft.ofValue_value a.1 a.2)
      r.axes.entries
    cases hp : r.port <;>
      simp only [Event.sortedFields, hp, Option.map_none, Option.map_some, Option.toList_none,
        Option.toList_some, List.cons_append, List.nil_append, List.append_nil, List.foldlM_cons,
        List.foldlM_nil, set, optional_string, address, number, effects, configuration, axes] <;>
      simp only [Event.draft, hp] <;> rfl
  | inject events =>
    have triples : optional (list Scalar.ofValue) (.array (events.flatMap (·.triple))) =
        .ok (some (events.flatMap (·.scalars))) := optional_eq nofun (mapM_ofValue_triples events)
    simp only [Event.sortedFields, List.foldlM_cons, List.foldlM_nil, set, optional_string, address,
      triples]
    rfl
  | delay millis =>
    have duration : optional Scalar.ofValue (.int millis.toNat) = .ok (some (.int millis.toNat)) :=
      optional_int (Scalar.ofValue_int (by omega) (by simp only [Event.Tellable] at h; omega))
    simp only [Event.sortedFields, List.foldlM_cons, List.foldlM_nil, set, optional_string, address,
      duration]
    rfl
  | sync token =>
    simp only [Event.sortedFields, List.foldlM_cons, List.foldlM_nil, set, optional_string, address]
    rfl

/-- The shape of a registration means the registration. -/
private theorem Draft.registration_draft {id : DeviceId} {r : Registration}
    (h : ∃ raw, r.bus = .ofRaw raw) : (Event.mk id (.register r)).draft.registration = .ok r := by
  obtain ⟨raw, hraw⟩ := h
  have bus : (Scalar.int r.bus.raw.toNat).bus = .ok r.bus := by
    rw [Scalar.bus, Scalar.uint16_toNat, hraw, Except.map, Bus.raw_ofRaw]
  have configuration := mapM_map_self ConfigEntry.entry_draft r.configuration
  have axes := mapM_map_self (fun a : UInt16 × AbsInfo => axis_axisDraft a.1 a.2) r.axes.entries
  simp only [registration, Event.draft, required, orDefault, Option.getD_some, bind_eq_ok_iff]
  refine ⟨_, rfl, _, rfl, _, Scalar.uint16_toNat _ _, _, rfl, _, Scalar.uint16_toNat _ _,
    _, Scalar.uint16_toNat _ _, _, bus, _, configuration, _, Scalar.uint32_toNat _ _, _, axes, ?_⟩
  rw [r.axes.ofList_entries]
  rfl

/-- A command is read back from its fields. -/
private theorem Event.event_draft {e : Event} (h : e.Tellable) : e.draft.event = .ok e := by
  obtain ⟨id, action⟩ := e
  have address : (Scalar.int id.toInt).int32 (.field .id) = .ok id := Scalar.int32_toInt id _
  have done : (Event.mk id action).draft.action action.command = .ok action := by
    cases action with
    | register r => exact bind_eq_ok_iff.mpr ⟨r, Draft.registration_draft h, rfl⟩
    | inject events =>
      exact bind_eq_ok_iff.mpr ⟨_, rfl, bind_eq_ok_iff.mpr ⟨_, rawEvents_scalars events, rfl⟩⟩
    | delay millis =>
      exact bind_eq_ok_iff.mpr ⟨_, rfl, bind_eq_ok_iff.mpr ⟨_, Scalar.uint64_toNat millis _, rfl⟩⟩
    | sync token => rfl
  have named : (Event.mk id action).draft.id = some (.int id.toInt) ∧
      (Event.mk id action).draft.command = some action.command.keyword := by
    cases action <;> exact ⟨rfl, rfl⟩
  simp only [Draft.event, named.1, named.2, required, bind_eq_ok_iff]
  refine ⟨_, rfl, id, address, _, rfl, ?_⟩
  rw [Command.ofName?_keyword]
  exact bind_eq_ok_iff.mpr ⟨action, done, rfl⟩

/-- The object that a command is written as means the command. -/
theorem Event.ofValue_value {e : Event} (h : e.Tellable) : ofValue e.value = .ok e :=
  bind_eq_ok_iff.mpr ⟨e.draft, Draft.ofValue_value h, e.event_draft h⟩

end ScriptedInput

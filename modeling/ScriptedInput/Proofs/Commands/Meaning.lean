import ScriptedInput.Proofs.Commands.SpellingInvariance
import ScriptedInput.Proofs.Hinges

/-! What a command means, field by field: each part of its event is read from a field of its own. -/
namespace ScriptedInput

namespace Draft

structure Registers (d : Draft) (r : Registration) : Prop where
  name : d.name = some r.name
  vendor : ∃ s, d.vid = some s ∧ s.uint16 (.field .vid) = .ok r.vendor
  product : ∃ s, d.pid = some s ∧ s.uint16 (.field .pid) = .ok r.product
  version : orDefault d.version 0 (·.uint16 (.field .version)) = .ok r.version
  bus : orDefault d.bus .usb (·.bus) = .ok r.bus
  configuration : (d.configuration.getD []).mapM (·.entry) = .ok r.configuration
  ffEffectsMax : orDefault d.ffEffectsMax 0 (·.uint32 (.field .ffEffectsMax)) = .ok r.ffEffectsMax
  axes : ∃ axes, (d.absInfo.getD []).mapM (·.axis) = .ok axes ∧ r.axes = .ofList axes
  port : d.port = r.port

def Does (d : Draft) : Action → Prop
  | .register r => d.Registers r
  | .inject events => ∃ numbers, d.events = some numbers ∧ rawEvents numbers = .ok events
  | .delay millis => ∃ s, d.duration = some s ∧ s.uint64 (.field .duration) = .ok millis
  | .sync token => d.syncToken = some token

structure Means (d : Draft) (e : Event) : Prop where
  id : ∃ s, d.id = some s ∧ s.int32 (.field .id) = .ok e.id
  command : ∃ name, d.command = some name ∧ Command.ofName? name = some e.command
  action : d.Does e.action

end Draft

theorem required_eq_ok_iff {α : Type} {field? : Option α} {place : Place} {a : α} :
    required field? place = .ok a ↔ field? = some a := by
  cases field? <;> simp [required]

namespace Draft
variable {d : Draft}

private theorem registration_eq_ok_iff {r : Registration} : d.registration = .ok r ↔ d.Registers r := by
  simp only [registration, bind_eq_ok_iff, required_eq_ok_iff]
  constructor
  · rintro ⟨name, hname, v, hv, vendor, hvendor, p, hp, product, hproduct, version, hversion, bus, hbus,
      configuration, hconfiguration, count, hcount, axes, haxes, ⟨⟩⟩
    exact ⟨hname, ⟨v, hv, hvendor⟩, ⟨p, hp, hproduct⟩, hversion, hbus, hconfiguration, hcount,
      ⟨axes, haxes, rfl⟩, rfl⟩
  · intro h
    obtain ⟨v, hv, hvendor⟩ := h.vendor
    obtain ⟨p, hp, hproduct⟩ := h.product
    obtain ⟨axes, haxes, built⟩ := h.axes
    refine ⟨_, h.name, v, hv, _, hvendor, p, hp, _, hproduct, _, h.version, _, h.bus, _,
      h.configuration, _, h.ffEffectsMax, axes, haxes, ?_⟩
    rw [← built, h.port]
    rfl

private theorem action_eq_ok_iff {c : Command} {a : Action} :
    d.action c = .ok a ↔ a.command = c ∧ d.Does a := by
  constructor
  · intro h
    cases c with
    | register =>
      obtain ⟨r, read, ⟨⟩⟩ := bind_eq_ok_iff.mp h
      exact ⟨rfl, registration_eq_ok_iff.mp read⟩
    | inject =>
      obtain ⟨numbers, given, h⟩ := bind_eq_ok_iff.mp h
      obtain ⟨events, read, ⟨⟩⟩ := bind_eq_ok_iff.mp h
      exact ⟨rfl, numbers, required_eq_ok_iff.mp given, read⟩
    | delay =>
      obtain ⟨s, given, h⟩ := bind_eq_ok_iff.mp h
      obtain ⟨millis, read, ⟨⟩⟩ := bind_eq_ok_iff.mp h
      exact ⟨rfl, s, required_eq_ok_iff.mp given, read⟩
    | sync =>
      obtain ⟨token, given, ⟨⟩⟩ := bind_eq_ok_iff.mp h
      exact ⟨rfl, required_eq_ok_iff.mp given⟩
  · rintro ⟨rfl, h⟩
    cases a with
    | register r => exact bind_eq_ok_iff.mpr ⟨r, registration_eq_ok_iff.mpr h, rfl⟩
    | inject events =>
      obtain ⟨numbers, given, read⟩ := h
      exact bind_eq_ok_iff.mpr ⟨numbers, required_eq_ok_iff.mpr given,
        bind_eq_ok_iff.mpr ⟨events, read, rfl⟩⟩
    | delay millis =>
      obtain ⟨s, given, read⟩ := h
      exact bind_eq_ok_iff.mpr ⟨s, required_eq_ok_iff.mpr given,
        bind_eq_ok_iff.mpr ⟨millis, read, rfl⟩⟩
    | sync token => exact bind_eq_ok_iff.mpr ⟨token, required_eq_ok_iff.mpr h, rfl⟩

/-- A command is accepted as an event exactly if its fields give it. -/
theorem event_eq_ok_iff {e : Event} : d.event = .ok e ↔ d.Means e := by
  simp only [event, bind_eq_ok_iff, required_eq_ok_iff]
  constructor
  · rintro ⟨s, hs, id, hid, name, hname, h⟩
    cases named : Command.ofName? name with
    | none => simp [named] at h
    | some c =>
      rw [named] at h
      obtain ⟨action, done, ⟨⟩⟩ := bind_eq_ok_iff.mp h
      obtain ⟨rfl, does⟩ := action_eq_ok_iff.mp done
      exact ⟨⟨s, hs, hid⟩, ⟨name, hname, named⟩, does⟩
  · rintro ⟨⟨s, hs, hid⟩, ⟨name, hname, named⟩, does⟩
    refine ⟨s, hs, e.id, hid, name, hname, ?_⟩
    rw [named]
    exact bind_eq_ok_iff.mpr ⟨e.action, action_eq_ok_iff.mpr ⟨rfl, does⟩, rfl⟩

end Draft

/-- Where the parts of an entry are read from. -/
private theorem ConfigDraft.entry_eq_ok_iff {d : ConfigDraft} {e : ConfigEntry} : d.entry = .ok e ↔
    (∃ type number, d.type = some type ∧ type.resolve .setterType = .ok number ∧
      Setter.ofControlCode? number = some e.setter) ∧
    d.data.mapM (·.uint16 .setterData) = .ok e.codes := by
  simp only [entry, bind_eq_ok_iff, required_eq_ok_iff]
  constructor
  · rintro ⟨type, given, number, read, h⟩
    cases known : Setter.ofControlCode? number with
    | none => simp [known] at h
    | some setter =>
      rw [known] at h
      obtain ⟨codes, data, ⟨⟩⟩ := bind_eq_ok_iff.mp h
      exact ⟨⟨type, number, given, read, known⟩, data⟩
  · rintro ⟨⟨type, number, given, read, known⟩, data⟩
    refine ⟨type, given, number, read, ?_⟩
    rw [known]
    exact bind_eq_ok_iff.mpr ⟨e.codes, data, rfl⟩

/-- Where the parts of an axis are read from. -/
private theorem AxisDraft.axis_eq_ok_iff {d : AxisDraft} {code : UInt16} {a : AbsInfo} :
    d.axis = .ok (code, a) ↔ (∃ s, d.code = some s ∧ s.uint16 .axisCode = .ok code) ∧
      ∃ info, d.info = some info ∧ info.info = .ok a := by
  simp only [axis, bind_eq_ok_iff, required_eq_ok_iff]
  constructor
  · rintro ⟨s, given, code, read, info, there, a, calibrated, ⟨⟩⟩
    exact ⟨⟨s, given, read⟩, info, there, calibrated⟩
  · rintro ⟨⟨s, given, read⟩, info, there, calibrated⟩
    exact ⟨s, given, code, read, info, there, a, calibrated, rfl⟩

def AbsInfo.number (a : AbsInfo) : AxisField → Int32
  | .value => a.value
  | .minimum => a.minimum
  | .maximum => a.maximum
  | .fuzz => a.fuzz
  | .flat => a.flat
  | .resolution => a.resolution

/-- Each number of a calibration is read from the field of its name. -/
private theorem AxisInfoDraft.info_eq_ok_iff {d : AxisInfoDraft} {a : AbsInfo} : d.info = .ok a ↔
    ∀ f, orDefault (d.get f) 0 (·.int32 (.axis f)) = .ok (a.number f) := by
  simp only [info, bind_eq_ok_iff]
  constructor
  · rintro ⟨value, hvalue, minimum, hminimum, maximum, hmaximum, fuzz, hfuzz, flat, hflat, resolution,
      hresolution, ⟨⟩⟩ f
    cases f <;> assumption
  · intro h
    exact ⟨_, h .value, _, h .minimum, _, h .maximum, _, h .fuzz, _, h .flat, _, h .resolution, rfl⟩

def AbsInfo.put (a : AbsInfo) (f : AxisField) (v : Int32) : AbsInfo :=
  match f with
  | .value => { a with value := v }
  | .minimum => { a with minimum := v }
  | .maximum => { a with maximum := v }
  | .fuzz => { a with fuzz := v }
  | .flat => { a with flat := v }
  | .resolution => { a with resolution := v }

theorem AbsInfo.number_put (a : AbsInfo) (f g : AxisField) (v : Int32) :
    (a.put f v).number g = if f = g then v else a.number g := by
  cases f <;> cases g <;> rfl

/-- What an entry means hinges on its data. -/
private theorem ConfigDraft.hingesOn_entry (d : ConfigDraft) :
    HingesOn (fun data => ConfigDraft.entry { d with data })
      (fun data => data.mapM (·.uint16 .setterData))
      fun put => ∃ e : ConfigEntry, put = fun codes => { e with codes } := by
  intro data e read
  obtain ⟨⟨type, number, given, resolved, known⟩, -⟩ := entry_eq_ok_iff.mp read
  have typed : d.type = some type := given
  refine ⟨_, ⟨e, rfl⟩, fun data => ?_⟩
  simp only [entry, typed, required, bind, Except.bind, resolved, known]
  cases data.mapM (·.uint16 .setterData) <;> rfl

/-- What an axis means hinges on its code. -/
private theorem AxisDraft.hingesOn_axis_code (d : AxisDraft) :
    HingesOn (fun code => AxisDraft.axis { d with code })
      (fun code => required code .axisCode >>= (·.uint16 .axisCode))
      fun put => ∃ info : AbsInfo, put = fun code => (code, info) := by
  intro code a read
  obtain ⟨-, info, given, calibrated⟩ := axis_eq_ok_iff.mp read
  have there : d.info = some info := given
  refine ⟨_, ⟨a.2, rfl⟩, fun code => ?_⟩
  cases code with
  | none => rfl
  | some s =>
    simp only [axis, there, required, bind, Except.bind, calibrated]
    cases s.uint16 .axisCode <;> rfl

/-- What an axis means hinges on its calibration. -/
private theorem AxisDraft.hingesOn_axis_info (d : AxisDraft) :
    HingesOn (fun info : AxisInfoDraft => AxisDraft.axis { d with info := some info }) (·.info)
      fun put => ∃ code : UInt16, put = fun info => (code, info) := by
  intro info a read
  obtain ⟨⟨s, given, coded⟩, -⟩ := axis_eq_ok_iff.mp read
  have there : d.code = some s := given
  refine ⟨_, ⟨a.1, rfl⟩, fun info => ?_⟩
  simp only [axis, there, required, bind, Except.bind, coded]
  cases info.info <;> rfl

theorem AxisInfoDraft.info_eq (d : AxisInfoDraft) : d.info = (do
    let value ← orDefault (d.get .value) 0 (·.int32 (.axis .value))
    let minimum ← orDefault (d.get .minimum) 0 (·.int32 (.axis .minimum))
    let maximum ← orDefault (d.get .maximum) 0 (·.int32 (.axis .maximum))
    let fuzz ← orDefault (d.get .fuzz) 0 (·.int32 (.axis .fuzz))
    let flat ← orDefault (d.get .flat) 0 (·.int32 (.axis .flat))
    let resolution ← orDefault (d.get .resolution) 0 (·.int32 (.axis .resolution))
    return { value, minimum, maximum, fuzz, flat, resolution }) := rfl

/-- What a calibration means hinges on each of its numbers. -/
private theorem AxisInfoDraft.hingesOn_info (d : AxisInfoDraft) (f : AxisField) :
    HingesOn (fun s => (d.put f s).info) (fun s => orDefault s 0 (·.int32 (.axis f)))
      fun put => ∃ a : AbsInfo, put = a.put f := by
  intro s a read
  have others (g : AxisField) (ne : f ≠ g) :
      orDefault (d.get g) 0 (·.int32 (.axis g)) = .ok (a.number g) := by
    have each := info_eq_ok_iff.mp read g
    rwa [get_put, if_neg ne] at each
  refine ⟨_, ⟨a, rfl⟩, fun s => ?_⟩
  -- All but the one number are known, so that only its own fault can be the first.
  cases f <;> simp only [info_eq, get_put, if_true, reduceCtorEq, if_false, ne_eq,
      not_false_eq_true, others, bind, Except.bind] <;>
    (generalize orDefault s _ _ = number; cases number <;> rfl)

/-- What entries mean hinges on each number of their data. -/
theorem hingesOn_entries (front back : List ConfigDraft) (d : ConfigDraft)
    (before behind : List Scalar) :
    HingesOn (fun s => (front ++ { d with data := before ++ s :: behind } :: back).mapM (·.entry))
      (·.uint16 .setterData) fun put => ∃ (e : ConfigEntry) (one : ConfigEntry → List ConfigEntry)
        (codes : UInt16 → List UInt16), PutsItem front.length one ∧ PutsItem before.length codes ∧
        put = fun v => one { e with codes := codes v } := by
  intro s es read
  obtain ⟨_, ⟨one, puts, _, ⟨_, ⟨e, rfl⟩, codes, puts', rfl⟩, rfl⟩, all⟩ :=
    ((hingesOn_mapM (·.entry) front back).comp
      fun s => { d with data := before ++ s :: behind }).trans
      ((d.hingesOn_entry.comp fun s => before ++ s :: behind).trans
        (hingesOn_mapM (·.uint16 .setterData) before behind)) s es read
  exact ⟨_, ⟨e, one, codes, puts, puts', rfl⟩, all⟩

/-- What axes mean hinges on the code of each. -/
theorem hingesOn_axes_code (front back : List AxisDraft) (d : AxisDraft) :
    HingesOn (fun code => (front ++ { d with code } :: back).mapM (·.axis))
      (fun code => required code .axisCode >>= (·.uint16 .axisCode))
      fun put => ∃ (info : AbsInfo) (one : UInt16 × AbsInfo → List (UInt16 × AbsInfo)),
        PutsItem front.length one ∧ put = fun code => one (code, info) := by
  intro code axes read
  obtain ⟨_, ⟨one, puts, _, ⟨info, rfl⟩, rfl⟩, all⟩ :=
    ((hingesOn_mapM (·.axis) front back).comp fun code => { d with code }).trans
      d.hingesOn_axis_code code axes read
  exact ⟨_, ⟨info, one, puts, rfl⟩, all⟩

/-- What axes mean hinges on each number of their calibrations. -/
theorem hingesOn_axes_number (front back : List AxisDraft) (d : AxisDraft) (info : AxisInfoDraft)
    (f : AxisField) :
    HingesOn
      (fun s => (front ++ { d with info := some (info.put f s) } :: back).mapM (·.axis))
      (fun s => orDefault s 0 (·.int32 (.axis f)))
      fun put => ∃ (code : UInt16) (a : AbsInfo) (one : UInt16 × AbsInfo → List (UInt16 × AbsInfo)),
        PutsItem front.length one ∧ put = fun v => one (code, a.put f v) := by
  intro s axes read
  obtain ⟨_, ⟨one, puts, _, ⟨_, ⟨code, rfl⟩, _, ⟨a, rfl⟩, rfl⟩, rfl⟩, all⟩ :=
    ((hingesOn_mapM (·.axis) front back).comp
      fun s => { d with info := some (info.put f s) }).trans
      ((d.hingesOn_axis_info.comp (info.put f)).trans (info.hingesOn_info f)) s axes read
  exact ⟨_, ⟨code, a, one, puts, rfl⟩, all⟩

inductive EventNumber where
  | type | code | value
  deriving DecidableEq, Repr

namespace EventNumber

def offset : EventNumber → Nat
  | type => 0
  | code => 1
  | value => 2

def of (e : RawEvent) : EventNumber → Int
  | type => e.type.toNat
  | code => e.code.toNat
  | value => e.value.toInt

def ReadFrom (s : Scalar) (e : RawEvent) : EventNumber → Prop
  | type => s.uint16 (.field .events) = .ok e.type
  | code => s.uint16 (.field .events) = .ok e.code
  | value => s.int32 (.field .events) = .ok e.value

theorem offset_lt (number : EventNumber) : number.offset < 3 := by cases number <;> decide

end EventNumber

/-- Three numbers at a time are read as one input event. -/
private theorem triples_eq_ok_iff {numbers : List Scalar} (whole : numbers.length % 3 = 0)
    {events : List RawEvent} : triples numbers = .ok events ↔
      numbers.length = 3 * events.length ∧ ∀ (i : Nat) (number : EventNumber) s e,
        numbers[3 * i + number.offset]? = some s → events[i]? = some e → number.ReadFrom s e := by
  induction numbers using triples.induct generalizing events with
  | case1 type code value rest ih =>
    have shorter : rest.length % 3 = 0 := by
      simp only [List.length_cons] at whole
      omega
    simp only [triples, bind_eq_ok_iff]
    constructor
    · rintro ⟨t, ht, c, hc, v, hv, later, read, ⟨⟩⟩
      obtain ⟨length, each⟩ := (ih shorter).mp read
      refine ⟨by simp only [List.length_cons, length]; omega, fun i number s e hs he => ?_⟩
      cases i with
      | zero =>
        cases he
        cases number <;> cases hs <;> assumption
      | succ i =>
        refine each i number s e ?_ he
        rwa [show 3 * (i + 1) + number.offset = 3 * i + number.offset + 3 by omega] at hs
    · rintro ⟨length, each⟩
      obtain _ | ⟨e, later⟩ := events
      · simp at length
      · refine ⟨_, each 0 .type _ e rfl rfl, _, each 0 .code _ e rfl rfl, _,
          each 0 .value _ e rfl rfl, later, (ih shorter).mpr ⟨?_, fun i number s d hs hd => ?_⟩, rfl⟩
        · simp only [List.length_cons] at length
          omega
        · refine each (i + 1) number s d ?_ hd
          rwa [show 3 * (i + 1) + number.offset = 3 * i + number.offset + 3 by omega]
  | case2 numbers few =>
    have none : numbers = [] := by
      obtain _ | ⟨type, _ | ⟨code, _ | ⟨value, rest⟩⟩⟩ := numbers
      · rfl
      · simp at whole
      · simp at whole
      · exact absurd rfl (few type code value rest)
    subst none
    simp [triples, eq_comm]

theorem rawEvents_eq_ok_iff {numbers : List Scalar} {events : List RawEvent} :
    rawEvents numbers = .ok events ↔
      numbers.length = 3 * events.length ∧ ∀ (i : Nat) (number : EventNumber) s e,
        numbers[3 * i + number.offset]? = some s → events[i]? = some e → number.ReadFrom s e := by
  rw [rawEvents]
  split_ifs with whole
  · exact triples_eq_ok_iff whole
  · constructor
    · intro read
      cases read
    · rintro ⟨length, -⟩
      omega

end ScriptedInput

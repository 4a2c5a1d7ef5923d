import ScriptedInput.Proofs.Commands.NumberTypes
import ScriptedInput.Proofs.Commands.NumberSlots

/-! The numbers that a command may hold in its places, and how its event carries them. -/
namespace ScriptedInput

open Json (Value)

namespace Slot

def type : Slot → NumberType
  | field .id | event _ .value | axisNumber .. => .int32
  | field .ffEffectsMax => .uint32
  | field .duration => .uint64
  | field _ | data .. | event .. | axisCode _ => .uint16

def UsedBy : Slot → Command → Prop
  | field .id, _ => True
  | field .duration, c => c = .delay
  | event .., c => c = .inject
  | field _, c | data .., c | axisCode _, c | axisNumber .., c => c = .register

end Slot

def listedAxes (command : Value) : Except CommandFault (List (UInt16 × AbsInfo)) := do
  ((← Draft.ofValue command).absInfo.getD []).mapM (·.axis)

/-- The registration has the axis that a command lists there, unless a later one takes its place. -/
structure Registration.Follows (r : Registration) (command : Value) (i : Nat) (code : UInt16)
    (info : AbsInfo) : Prop where
  present : (r.axes.get? code).isSome
  last : ∃ axes, listedAxes command = .ok axes ∧ axes[i]? = some (code, info) ∧
    ((∀ later ∈ axes.drop (i + 1), later.1 ≠ code) → r.axes.get? code = some info)

inductive Slot.Carries (command : Value) : Slot → Event → Int → Prop
  | id (e : Event) : Carries command (.field .id) e e.id.toInt
  | vid (id : DeviceId) (r : Registration) :
    Carries command (.field .vid) ⟨id, .register r⟩ r.vendor.toNat
  | pid (id : DeviceId) (r : Registration) :
    Carries command (.field .pid) ⟨id, .register r⟩ r.product.toNat
  | version (id : DeviceId) (r : Registration) :
    Carries command (.field .version) ⟨id, .register r⟩ r.version.toNat
  | bus (id : DeviceId) (r : Registration) :
    Carries command (.field .bus) ⟨id, .register r⟩ r.bus.raw.toNat
  | ffEffectsMax (id : DeviceId) (r : Registration) :
    Carries command (.field .ffEffectsMax) ⟨id, .register r⟩ r.ffEffectsMax.toNat
  | duration (id : DeviceId) (millis : UInt64) :
    Carries command (.field .duration) ⟨id, .delay millis⟩ millis.toNat
  | data (id : DeviceId) {r : Registration} {i j : Nat} {entry : ConfigEntry} {code : UInt16}
    (entered : r.configuration[i]? = some entry) (item : entry.codes[j]? = some code) :
    Carries command (.data i j) ⟨id, .register r⟩ code.toNat
  | event (id : DeviceId) {events : List RawEvent} {i : Nat} {e : RawEvent} (number : EventNumber)
    (there : events[i]? = some e) :
    Carries command (.event i number) ⟨id, .inject events⟩ (number.of e)
  | axisCode (id : DeviceId) {r : Registration} {i : Nat} {code : UInt16} {info : AbsInfo}
    (follows : r.Follows command i code info) :
    Carries command (.axisCode i) ⟨id, .register r⟩ code.toNat
  | axisNumber (id : DeviceId) {r : Registration} {i : Nat} {code : UInt16} {info : AbsInfo}
    (f : AxisField) (follows : r.Follows command i code info) :
    Carries command (.axisNumber i f) ⟨id, .register r⟩ (info.number f).toInt

/-- Whatever an event carries is of the slot's type. -/
theorem Slot.Carries.holds {command : Value} {slot : Slot} {e : Event} {n : Int}
    (h : slot.Carries command e n) : slot.type.Holds n := by
  cases h with
  | id => exact NumberType.holds_int32 _
  | vid | pid | version | bus | data | axisCode => exact NumberType.holds_uint16 _
  | ffEffectsMax id r => exact Scalar.exists_uint32_iff.mp ⟨_, Scalar.uint32_toNat _ .setterData⟩
  | duration id millis => exact Scalar.exists_uint64_iff.mp ⟨_, Scalar.uint64_toNat _ .setterData⟩
  | event id number =>
    cases number with
    | type | code => exact NumberType.holds_uint16 _
    | value => exact NumberType.holds_int32 _
  | axisNumber => exact NumberType.holds_int32 _

/-- What the list of a command's axes is. -/
private theorem listedAxes_eq {command : Value} {d : Draft} (read : Draft.ofValue command = .ok d) :
    listedAxes command = (d.absInfo.getD []).mapM (·.axis) := by
  rw [listedAxes, read]
  rfl

/-- A registration follows the axes that the command lists. -/
private theorem Draft.Registers.follows {d : Draft} {r : Registration} (h : d.Registers r)
    {command : Value}
    (read : Draft.ofValue command = .ok d) {front back : List (UInt16 × AbsInfo)} {code : UInt16}
    {info : AbsInfo}
    (listed : (d.absInfo.getD []).mapM (·.axis) = .ok (front ++ (code, info) :: back)) :
    r.Follows command front.length code info := by
  obtain ⟨axes, all, built⟩ := h.axes
  obtain rfl : front ++ (code, info) :: back = axes := Except.ok.inj (listed.symm.trans all)
  have put : r.axes =
      back.foldl (fun m e => m.insert e.1 e.2) ((CodeMap.ofList front).insert code info) := by
    rw [built, CodeMap.ofList, List.foldl_append]
    rfl
  have there : ((CodeMap.ofList front).insert code info).get? code = some info := by
    rw [CodeMap.get?_insert, if_pos rfl]
  refine ⟨?_, _, (listedAxes_eq read).trans listed, by simp, fun other => ?_⟩
  · rw [put]
    exact CodeMap.isSome_get?_foldl_insert (by rw [there]; rfl) back
  · rw [put, CodeMap.get?_foldl_insert (by simpa using other), there]

/-- Only the item itself is replaced. -/
private theorem getElem?_of_ne {α : Type} {before behind : List α} {a b : α} {k : Nat}
    (h : k ≠ before.length) : (before ++ a :: behind)[k]? = (before ++ b :: behind)[k]? := by
  rcases Nat.lt_or_gt_of_ne h with front | back
  · rw [List.getElem?_append_left front, List.getElem?_append_left front]
  · obtain ⟨m, rfl⟩ := Nat.exists_eq_add_of_lt back
    simp [List.getElem?_append_right, Nat.add_assoc]

/-- One number of an input event can be read anew, the others as before. -/
private theorem EventNumber.exists_readFrom {number : EventNumber} {i : Nat} {n : Int}
    (holds : (Slot.event i number).type.Holds n) (e : RawEvent) :
    ∃ e', number.ReadFrom (.int n) e' ∧
      ∀ other ≠ number, ∀ s, other.ReadFrom s e → other.ReadFrom s e' := by
  cases number with
  | type =>
    obtain ⟨v, read⟩ := Scalar.exists_uint16_iff.mpr holds
    exact ⟨{ e with type := v }, read, fun other ne s h => by cases other <;> trivial⟩
  | code =>
    obtain ⟨v, read⟩ := Scalar.exists_uint16_iff.mpr holds
    exact ⟨{ e with code := v }, read, fun other ne s h => by cases other <;> trivial⟩
  | value =>
    obtain ⟨v, read⟩ := Scalar.exists_int32_iff.mpr holds
    exact ⟨{ e with value := v }, read, fun other ne s h => by cases other <;> trivial⟩

namespace Slot.Varies
variable {slot : Slot} {d : Draft} {vary : Scalar → Draft} {e : Event} {n : Int}

theorem command_eq (h : slot.Varies d vary) (s : Scalar) : (vary s).command = d.command := by
  cases h with
  | field f => cases f <;> rfl
  | _ => rfl

/-- A command takes no notice of a number that is not for it. -/
theorem unused (h : slot.Varies d vary) (means : d.Means e) (unused : ¬ slot.UsedBy e.command)
    (s : Scalar) : (vary s).Means e := by
  obtain ⟨id, action⟩ := e
  cases h with
  | field f =>
    cases f with
    | id => exact absurd trivial unused
    | duration =>
      cases action with
      | register r => exact ⟨means.id, means.command, { means.action with }⟩
      | delay => exact absurd rfl unused
      | inject | sync => exact ⟨means.id, means.command, means.action⟩
    | vid | pid | version | bus | ffEffectsMax =>
      cases action with
      | register => exact absurd rfl unused
      | inject | delay | sync => exact ⟨means.id, means.command, means.action⟩
  | event =>
    cases action with
    | register r => exact ⟨means.id, means.command, { means.action with }⟩
    | inject => exact absurd rfl unused
    | delay | sync => exact ⟨means.id, means.command, means.action⟩
  | data | axisCode | axisNumber =>
    cases action with
    | register => exact absurd rfl unused
    | inject | delay | sync => exact ⟨means.id, means.command, means.action⟩

/-- Whole numbers of the slot's type give a registration. -/
private theorem registers (h : slot.Varies d vary) (used : slot.UsedBy .register) {r : Registration}
    (hr : d.Registers r) (holds : slot.type.Holds n) : ∃ r, (vary (.int n)).Registers r := by
  cases h with
  | field f =>
    cases f with
    | id => exact ⟨r, { hr with }⟩
    | vid =>
      obtain ⟨v, read⟩ := Scalar.exists_uint16_iff.mpr holds
      exact ⟨{ r with vendor := v }, { hr with vendor := ⟨_, rfl, read⟩ }⟩
    | pid =>
      obtain ⟨v, read⟩ := Scalar.exists_uint16_iff.mpr holds
      exact ⟨{ r with product := v }, { hr with product := ⟨_, rfl, read⟩ }⟩
    | version =>
      obtain ⟨v, read⟩ := Scalar.exists_uint16_iff.mpr holds
      exact ⟨{ r with version := v }, { hr with version := read }⟩
    | bus =>
      obtain ⟨v, read⟩ := (@Scalar.exists_uint16_iff n (.field .bus)).mpr holds
      exact ⟨{ r with bus := .ofRaw v }, { hr with
        bus := Scalar.bus_int_eq_ok_iff.mpr ⟨v, Scalar.uint16_int_eq_ok_iff.mp read, rfl⟩ }⟩
    | ffEffectsMax =>
      obtain ⟨v, read⟩ := Scalar.exists_uint32_iff.mpr holds
      exact ⟨{ r with ffEffectsMax := v }, { hr with ffEffectsMax := read }⟩
    | duration => cases used
  | @data _ front back entry before behind s₀ was =>
    have configuration := hr.configuration
    rw [was] at configuration
    obtain ⟨put, -, all⟩ := hingesOn_entries front back entry before behind s₀ _ configuration
    obtain ⟨v, read⟩ := (@Scalar.exists_uint16_iff n .setterData).mpr holds
    exact ⟨{ r with configuration := put v },
      { hr with configuration := (all _).trans (congrArg (Except.map put) read) }⟩
  | event => cases used
  | @axisCode _ front back axis was =>
    obtain ⟨axes, listed, built⟩ := hr.axes
    rw [was] at listed
    obtain ⟨put, -, all⟩ := hingesOn_axes_code front back axis axis.code _ listed
    obtain ⟨v, read⟩ := (@Scalar.exists_uint16_iff n .axisCode).mpr holds
    exact ⟨{ r with axes := .ofList (put v) },
      { hr with axes := ⟨_, (all _).trans (congrArg (Except.map put) read), rfl⟩ }⟩
  | @axisNumber _ f front back axis info s₀ was =>
    obtain ⟨axes, listed, built⟩ := hr.axes
    rw [was] at listed
    obtain ⟨put, -, all⟩ := hingesOn_axes_number front back axis info f s₀ _ listed
    obtain ⟨v, read⟩ := (@Scalar.exists_int32_iff n (.axis f)).mpr holds
    exact ⟨{ r with axes := .ofList (put v) },
      { hr with axes := ⟨_, (all _).trans (congrArg (Except.map put) read), rfl⟩ }⟩

/-- Whole numbers of the slot's type give input events. -/
private theorem injects (h : slot.Varies d vary) (used : slot.UsedBy .inject) {events : List RawEvent}
    (does : d.Does (.inject events)) (holds : slot.type.Holds n) :
    ∃ events, (vary (.int n)).Does (.inject events) := by
  cases h with
  | field f =>
    cases f with
    | id => exact ⟨events, does⟩
    | _ => cases used
  | data | axisCode | axisNumber => cases used
  | @event _ i number before behind s₀ was place =>
    obtain ⟨numbers, given, read⟩ := does
    obtain rfl : before ++ s₀ :: behind = numbers := Option.some.inj (was.symm.trans given)
    obtain ⟨length, each⟩ := rawEvents_eq_ok_iff.mp read
    have inside : i < events.length := by
      have := number.offset_lt
      simp only [List.length_append, List.length_cons] at length
      omega
    obtain ⟨e, anew, others⟩ := EventNumber.exists_readFrom holds events[i]
    refine ⟨events.set i e, _, rfl, rawEvents_eq_ok_iff.mpr ⟨by simpa using length, ?_⟩⟩
    intro j other s e' hs he'
    by_cases here : 3 * j + other.offset = before.length
    · have := number.offset_lt
      have := other.offset_lt
      obtain ⟨rfl, same⟩ : j = i ∧ other.offset = number.offset := by omega
      obtain rfl : other = number := by cases other <;> cases number <;> trivial
      obtain rfl : .int n = s := by simpa [here] using hs
      obtain rfl : e = e' := by simpa [inside] using he'
      exact anew
    · have old : (before ++ s₀ :: behind)[3 * j + other.offset]? = some s := by
        rwa [getElem?_of_ne here] at hs
      by_cases same : i = j
      · subst same
        obtain rfl : e = e' := by simpa [inside] using he'
        have different : other ≠ number := fun eq => here (by rw [eq, place])
        exact others other different s (each i other s _ old (List.getElem?_eq_getElem inside))
      · rw [List.getElem?_set_ne same] at he'
        exact each j other s e' old he'

/-- Whole numbers of the slot's type are accepted. -/
theorem accepts (h : slot.Varies d vary) (means : d.Means e)
    (holds : slot.UsedBy e.command → slot.type.Holds n) : ∃ e, (vary (.int n)).Means e := by
  by_cases used : slot.UsedBy e.command
  swap
  · exact ⟨e, h.unused means used _⟩
  replace holds := holds used
  have named := means.command
  rw [← h.command_eq (.int n)] at named
  obtain ⟨id, action⟩ := e
  have addressed : ∃ id, ∃ s, (vary (.int n)).id = some s ∧ s.int32 (.field .id) = .ok id := by
    cases h with
    | field f =>
      cases f with
      | id =>
        obtain ⟨v, read⟩ := Scalar.exists_int32_iff.mpr holds
        exact ⟨v, _, rfl, read⟩
      | _ => exact ⟨id, means.id⟩
    | _ => exact ⟨id, means.id⟩
  obtain ⟨id, addressed⟩ := addressed
  cases action with
  | register r =>
    obtain ⟨r, hr⟩ := h.registers used means.action holds
    exact ⟨⟨id, .register r⟩, addressed, named, hr⟩
  | inject events =>
    obtain ⟨events, does⟩ := h.injects used means.action holds
    exact ⟨⟨id, .inject events⟩, addressed, named, does⟩
  | delay millis =>
    cases h with
    | field f =>
      cases f with
      | id => exact ⟨⟨id, .delay millis⟩, addressed, named, means.action⟩
      | duration =>
        obtain ⟨v, read⟩ := Scalar.exists_uint64_iff.mpr holds
        exact ⟨⟨id, .delay v⟩, addressed, named, _, rfl, read⟩
      | _ => cases used
    | _ => cases used
  | sync token =>
    cases h with
    | field f =>
      cases f with
      | id => exact ⟨⟨id, .sync token⟩, addressed, named, means.action⟩
      | _ => cases used
    | _ => cases used

/-- An accepted command carries the number. -/
theorem carries (h : slot.Varies d vary) (means : (vary (.int n)).Means e)
    (used : slot.UsedBy e.command) {command : Value}
    (read : Draft.ofValue command = .ok (vary (.int n))) : slot.Carries command e n := by
  obtain ⟨id, action⟩ := e
  cases h with
  | field f =>
    cases f with
    | id =>
      obtain ⟨_, ⟨⟩, read⟩ := means.id
      exact Scalar.int32_int_eq_ok_iff.mp read ▸ .id _
    | duration =>
      cases action with
      | delay millis =>
        obtain ⟨_, ⟨⟩, read⟩ := means.action
        exact Scalar.uint64_int_eq_ok_iff.mp read ▸ .duration id millis
      | register | inject | sync => cases used
    | vid =>
      cases action with
      | register r =>
        obtain ⟨_, ⟨⟩, read⟩ := means.action.vendor
        exact Scalar.uint16_int_eq_ok_iff.mp read ▸ .vid id r
      | delay | inject | sync => cases used
    | pid =>
      cases action with
      | register r =>
        obtain ⟨_, ⟨⟩, read⟩ := means.action.product
        exact Scalar.uint16_int_eq_ok_iff.mp read ▸ .pid id r
      | delay | inject | sync => cases used
    | version =>
      cases action with
      | register r => exact Scalar.uint16_int_eq_ok_iff.mp means.action.version ▸ .version id r
      | delay | inject | sync => cases used
    | bus =>
      cases action with
      | register r =>
        obtain ⟨raw, rfl, told⟩ := Scalar.bus_int_eq_ok_iff.mp means.action.bus
        have carried : Slot.Carries command (.field .bus) ⟨id, .register r⟩ r.bus.raw.toNat := .bus id r
        rwa [← told, Bus.raw_ofRaw] at carried
      | delay | inject | sync => cases used
    | ffEffectsMax =>
      cases action with
      | register r =>
        exact Scalar.uint32_int_eq_ok_iff.mp means.action.ffEffectsMax ▸ .ffEffectsMax id r
      | delay | inject | sync => cases used
  | @data _ front back entry before behind s₀ was =>
    cases action with
    | register r =>
      obtain ⟨_, ⟨e, _, _, ⟨entries, rest, length, rfl⟩, ⟨codes, others, place, rfl⟩, rfl⟩, all⟩ :=
        hingesOn_entries front back entry before behind _ _ means.action.configuration
      obtain ⟨v, read, told⟩ := map_eq_ok_iff.mp ((all _).symm.trans means.action.configuration)
      refine Scalar.uint16_int_eq_ok_iff.mp read ▸
        @Slot.Carries.data command id r _ _ { e with codes := codes ++ v :: others } v ?_ ?_
      · rw [← told, ← length]
        simp
      · rw [← place]
        simp
    | delay | inject | sync => cases used
  | @event _ i number before behind s₀ was place =>
    cases action with
    | inject events =>
      obtain ⟨_, ⟨⟩, read⟩ := means.action
      obtain ⟨length, each⟩ := rawEvents_eq_ok_iff.mp read
      have inside : i < events.length := by
        have := number.offset_lt
        simp only [List.length_append, List.length_cons] at length
        omega
      have there := List.getElem?_eq_getElem inside
      have from_n := each i number (.int n) _ (by simp [← place]) there
      have same : number.of events[i] = n := by
        cases number with
        | type | code => exact Scalar.uint16_int_eq_ok_iff.mp from_n
        | value => exact Scalar.int32_int_eq_ok_iff.mp from_n
      exact same ▸ .event id number there
    | register | delay | sync => cases used
  | @axisCode _ front back axis was =>
    cases action with
    | register r =>
      obtain ⟨axes, listed, built⟩ := means.action.axes
      obtain ⟨_, ⟨info, _, ⟨axesBefore, axesAfter, length, rfl⟩, rfl⟩, all⟩ :=
        hingesOn_axes_code front back axis _ _ listed
      obtain ⟨code, coded, rfl⟩ := map_eq_ok_iff.mp ((all _).symm.trans listed)
      exact Scalar.uint16_int_eq_ok_iff.mp coded ▸ length ▸
        .axisCode id (means.action.follows read listed)
    | delay | inject | sync => cases used
  | @axisNumber _ f front back axis info s₀ was =>
    cases action with
    | register r =>
      obtain ⟨axes, listed, built⟩ := means.action.axes
      obtain ⟨_, ⟨code, a, _, ⟨axesBefore, axesAfter, length, rfl⟩, rfl⟩, all⟩ :=
        hingesOn_axes_number front back axis info f _ _ listed
      obtain ⟨v, number, rfl⟩ := map_eq_ok_iff.mp ((all _).symm.trans listed)
      have carried := length ▸ Slot.Carries.axisNumber id f (means.action.follows read listed)
      rw [AbsInfo.number_put, if_pos rfl, Scalar.int32_int_eq_ok_iff.mp number] at carried
      exact carried
    | delay | inject | sync => cases used

end Slot.Varies

end ScriptedInput

import ScriptedInput.Proofs.Commands.Meaning
import ScriptedInput.Proofs.Hinges

/-! Where a command holds a number, and what its reading by shape makes of the value there. All else in
the command stays what it was. -/
namespace ScriptedInput

open Json (Value)

inductive NumberField where
  | id | vid | pid | version | bus | ffEffectsMax | duration
  deriving DecidableEq, Repr

def NumberField.field : NumberField → Field
  | id => .id
  | vid => .vid
  | pid => .pid
  | version => .version
  | bus => .bus
  | ffEffectsMax => .ffEffectsMax
  | duration => .duration

inductive Slot where
  | field (f : NumberField)
  | data (entry item : Nat)
  | event (index : Nat) (number : EventNumber)
  | axisCode (axis : Nat)
  | axisNumber (axis : Nat) (f : AxisField)
  deriving DecidableEq, Repr

inductive ItemHole : Nat → (Value → Value) → Prop
  | mk (front back : List Value) : ItemHole front.length fun v => .array (front ++ v :: back)

/-- A record with one member left open: an object, no later member of which has the key, or an array that
lists its members in order. -/
inductive MemberHole (keys : List String) (key : String) : (Value → Value) → Prop
  | named (front : List (String × Value)) {back : List (String × Value)}
    (last : ∀ m ∈ back, m.1 ≠ key) : MemberHole keys key fun v => .object (front ++ (key, v) :: back)
  | listed {front : List Value} (place : keys[front.length]? = some key) (back : List Value) :
    MemberHole keys key fun v => .array (front ++ v :: back)

/-- A command with one field left open, whichever way its key is spelled. -/
inductive FieldHole (f : Field) : (Value → Value) → Prop
  | mk {key : String} (spelled : Field.ofKey? key = some f) (front back : List (String × Value)) :
    FieldHole f fun v => .object (front ++ (key, v) :: back)

def ConfigDraft.keys : List String := ["type", "data"]

def AxisDraft.keys : List String := ["code", "info"]

inductive Slot.Hole : Slot → (Value → Value) → Prop
  | field {f : NumberField} {command : Value → Value} (field : FieldHole f.field command) :
    Hole (.field f) command
  | data {i j : Nat} {command entries entry codes : Value → Value}
    (field : FieldHole .configuration command) (item : ItemHole i entries)
    (member : MemberHole ConfigDraft.keys "data" entry) (code : ItemHole j codes) :
    Hole (.data i j) fun v => command (entries (entry (codes v)))
  | event {i : Nat} {number : EventNumber} {command numbers : Value → Value}
    (field : FieldHole .events command) (item : ItemHole (3 * i + number.offset) numbers) :
    Hole (.event i number) fun v => command (numbers v)
  | axisCode {i : Nat} {command axes axis : Value → Value} (field : FieldHole .absInfo command)
    (item : ItemHole i axes) (member : MemberHole AxisDraft.keys "code" axis) :
    Hole (.axisCode i) fun v => command (axes (axis v))
  | axisNumber {i : Nat} {f : AxisField} {command axes axis info : Value → Value}
    (field : FieldHole .absInfo command) (item : ItemHole i axes)
    (member : MemberHole AxisDraft.keys "info" axis)
    (number : MemberHole NumberLayout.axisNumbers f.label info) :
    Hole (.axisNumber i f) fun v => command (axes (axis (info v)))

namespace Draft

def take (d : Draft) (f : Field) (e : Draft) : Draft :=
  match f with
  | .id => { d with id := e.id }
  | .command => { d with command := e.command }
  | .name => { d with name := e.name }
  | .vid => { d with vid := e.vid }
  | .pid => { d with pid := e.pid }
  | .version => { d with version := e.version }
  | .bus => { d with bus := e.bus }
  | .configuration => { d with configuration := e.configuration }
  | .ffEffectsMax => { d with ffEffectsMax := e.ffEffectsMax }
  | .absInfo => { d with absInfo := e.absInfo }
  | .port => { d with port := e.port }
  | .events => { d with events := e.events }
  | .duration => { d with duration := e.duration }
  | .syncToken => { d with syncToken := e.syncToken }

/-- Setting a field is reading it by itself. -/
private theorem set_eq_take (d : Draft) (f : Field) (v : Value) :
    d.set f v = (({} : Draft).set f v).map (d.take f) := by
  cases f <;> simp only [set] <;> (generalize optional _ v = read; cases read <;> rfl)

/-- Other fields are set alike whatever was taken. -/
private theorem set_take {f g : Field} (h : f ≠ g) (d e : Draft) (v : Value) :
    (d.take f e).set g v = (d.set g v).map (·.take f e) := by
  cases g <;> simp only [set] <;> (generalize optional _ v = read; cases read) <;> cases f <;>
    first
    | rfl
    | exact absurd rfl h

private theorem addMembers_take {f : Field} {seen : List Field} (known : f ∈ seen) (d e : Draft)
    (members : List (String × Value)) :
    addMembers seen (d.take f e) members = (addMembers seen d members).map (·.take f e) := by
  induction members generalizing seen d with
  | nil => rfl
  | cons m members ih =>
    obtain ⟨key, v⟩ := m
    rw [addMembers, addMembers]
    cases Field.ofKey? key with
    | none => exact ih known d
    | some g =>
      dsimp only
      split_ifs with again
      · rfl
      · have other : f ≠ g := fun eq => again (eq ▸ known)
        rw [set_take other]
        cases d.set g v with
        | error => rfl
        | ok d => exact ih (List.mem_cons_of_mem g known) d

/-- A command hinges on each of its fields. -/
private theorem hingesOn_addMembers {f : Field} {key : String} (spelled : Field.ofKey? key = some f)
    (front back : List (String × Value)) (seen : List Field) (d : Draft) :
    HingesOn (fun v => addMembers seen d (front ++ (key, v) :: back)) (({} : Draft).set f)
      fun put => ∃ d : Draft, put = d.take f := by
  induction front generalizing seen d with
  | nil =>
    intro v e read
    simp only [List.nil_append, addMembers, spelled] at read ⊢
    split_ifs at read ⊢ with again
    rw [set_eq_take] at read
    obtain ⟨_, first, read⟩ := bind_eq_ok_iff.mp read
    obtain ⟨taken, -, rfl⟩ := map_eq_ok_iff.mp first
    rw [addMembers_take List.mem_cons_self] at read
    obtain ⟨rest, back_read, -⟩ := map_eq_ok_iff.mp read
    refine ⟨_, ⟨rest, rfl⟩, fun v => ?_⟩
    rw [set_eq_take]
    cases ({} : Draft).set f v with
    | error => rfl
    | ok e => exact (addMembers_take List.mem_cons_self d e back).trans (by rw [back_read]; rfl)
  | cons m front ih =>
    obtain ⟨name, w⟩ := m
    intro v e read
    simp only [List.cons_append, addMembers] at read ⊢
    cases named : Field.ofKey? name with
    | none =>
      rw [named] at read
      exact ih seen d v e read
    | some g =>
      rw [named] at read
      dsimp only at read ⊢
      split_ifs at read ⊢ with again
      obtain ⟨next, first, read⟩ := bind_eq_ok_iff.mp read
      rw [first]
      exact ih (g :: seen) next v e read

private theorem hingesOn_field {f : Field} {command : Value → Value} (hole : FieldHole f command) :
    HingesOn (fun v => ofValue (command v)) (({} : Draft).set f)
      fun put => ∃ d : Draft, put = d.take f := by
  cases hole with
  | mk spelled front back => exact hingesOn_addMembers spelled front back [] {}

/-- A list hinges on each of its items. -/
private theorem hingesOn_item {α : Type} (item : Value → Except CommandFault α) {i : Nat}
    {items : Value → Value} (hole : ItemHole i items) :
    HingesOn (fun v => list item (items v)) item (PutsItem i) := by
  cases hole with
  | mk front back => exact hingesOn_mapM item front back

end Draft

/-- The array of a record is read as the object with the same members. -/
def ReadsArrays {α : Type} (keys : List String) (read : Value → Except CommandFault α) : Prop :=
  ∀ vs a, read (.array vs) = .ok a → ∀ ws, ws.length = vs.length →
    read (.array ws) = read (.object (keys.zip ws))

/-- What is so for a record that is an object is so for one that is an array. -/
private theorem MemberHole.hingesOn {α β : Type} {keys : List String} {key : String}
    {record : Value → Value} {read : Value → Except CommandFault β} {part : Value → Except CommandFault α}
    {Puts : (α → β) → Prop} (hole : MemberHole keys key record) (distinct : keys.Nodup)
    (arrays : ReadsArrays keys read)
    (objects : ∀ front back : List (String × Value), (∀ m ∈ back, m.1 ≠ key) →
      HingesOn (fun v => read (.object (front ++ (key, v) :: back))) part Puts) :
    HingesOn (fun v => read (record v)) part Puts := by
  cases hole with
  | named front last => exact objects front _ last
  | @listed front place back =>
    intro v b accepted
    obtain ⟨inside, found⟩ := List.getElem?_eq_some_iff.mp place
    have parted : keys = keys.take front.length ++ key :: keys.drop (front.length + 1) := by
      rw [← found, List.getElem_cons_drop, List.take_append_drop]
    have members (v : Value) : keys.zip (front ++ v :: back) =
        (keys.take front.length).zip front ++ (key, v) :: (keys.drop (front.length + 1)).zip back := by
      conv_lhs => rw [parted]
      exact List.zip_append (by rw [List.length_take]; omega)
    have same (v : Value) : read (.array (front ++ v :: back)) = read (.object
        ((keys.take front.length).zip front ++
          (key, v) :: (keys.drop (front.length + 1)).zip back)) := by
      rw [← members]
      exact arrays _ b accepted _ (by simp)
    have last : ∀ m ∈ (keys.drop (front.length + 1)).zip back, m.1 ≠ key := by
      intro m hm eq
      rw [parted] at distinct
      have later := (List.nodup_cons.mp (List.nodup_append.mp distinct).2.1).1
      exact later (eq ▸ (List.of_mem_zip hm).1)
    simp only [same] at accepted ⊢
    exact objects _ _ last v b accepted

namespace ConfigDraft

private theorem readsArrays : ReadsArrays keys ofValue := by
  intro vs d read ws length
  match vs, ws with
  | [], _ => cases read
  | [_], [type] => exact (bind_pure _).symm
  | [_, _], [type, data] => simp [ofValue, keys]
  | _ :: _ :: _ :: _, _ =>
    obtain ⟨_, -, read⟩ := bind_eq_ok_iff.mp read
    obtain ⟨_, -, read⟩ := bind_eq_ok_iff.mp read
    cases read

private theorem set_data (d : ConfigDraft) (v : Value) :
    d.set "data" v = (Draft.list Scalar.ofValue v).map fun data => { d with data } := by
  simp only [set, String.reduceEq, if_false, if_true]
  cases Draft.list Scalar.ofValue v <;> rfl

private theorem set_of_ne_data {key : String} (h : key ≠ "data") (d : ConfigDraft) (data : List Scalar)
    (v : Value) : { d with data }.set key v = (d.set key v).map ({ · with data }) := by
  simp only [set, if_neg h]
  split_ifs
  · cases Draft.optional Scalar.ofValue v <;> rfl
  · rfl

/-- An entry hinges on its data. -/
private theorem hingesOn_data {entry : Value → Value} (hole : MemberHole keys "data" entry) :
    HingesOn (fun v => ofValue (entry v)) (Draft.list Scalar.ofValue)
      fun put => ∃ d : ConfigDraft, put = fun data => { d with data } := by
  refine hole.hingesOn (by decide) readsArrays fun front back last => ?_
  simp only [ofValue]
  refine hingesOn_foldlM ?_ ?_ front _
  · exact set_data
  · exact fun m hm d data => set_of_ne_data (last m hm) d data m.2

end ConfigDraft

namespace AxisDraft

private theorem readsArrays : ReadsArrays keys ofValue := by
  intro vs d read ws length
  match vs, ws with
  | [], _ => cases read
  | [_], _ =>
    obtain ⟨_, -, read⟩ := bind_eq_ok_iff.mp read
    cases read
  | [_, _], [code, info] => simp [ofValue, keys]
  | _ :: _ :: _ :: _, _ =>
    obtain ⟨_, -, read⟩ := bind_eq_ok_iff.mp read
    obtain ⟨_, -, read⟩ := bind_eq_ok_iff.mp read
    cases read

private theorem set_code (d : AxisDraft) (v : Value) :
    d.set "code" v = (Draft.optional Scalar.ofValue v).map fun code => { d with code } := by
  simp only [set, if_true]
  cases Draft.optional Scalar.ofValue v <;> rfl

private theorem set_info (d : AxisDraft) (v : Value) :
    d.set "info" v = (Draft.optional AxisInfoDraft.ofValue v).map fun info => { d with info } := by
  simp only [set, String.reduceEq, if_false, if_true]
  cases Draft.optional AxisInfoDraft.ofValue v <;> rfl

private theorem set_of_ne_code {key : String} (h : key ≠ "code") (d : AxisDraft) (code : Option Scalar)
    (v : Value) : { d with code }.set key v = (d.set key v).map ({ · with code }) := by
  simp only [set, if_neg h]
  split_ifs
  · cases Draft.optional AxisInfoDraft.ofValue v <;> rfl
  · rfl

private theorem set_of_ne_info {key : String} (h : key ≠ "info") (d : AxisDraft)
    (info : Option AxisInfoDraft) (v : Value) :
    { d with info }.set key v = (d.set key v).map ({ · with info }) := by
  simp only [set, if_neg h]
  split_ifs
  · cases Draft.optional Scalar.ofValue v <;> rfl
  · rfl

/-- An axis hinges on its code. -/
private theorem hingesOn_code {axis : Value → Value} (hole : MemberHole keys "code" axis) :
    HingesOn (fun v => ofValue (axis v)) (Draft.optional Scalar.ofValue)
      fun put => ∃ d : AxisDraft, put = fun code => { d with code } := by
  refine hole.hingesOn (by decide) readsArrays fun front back last => ?_
  simp only [ofValue]
  refine hingesOn_foldlM ?_ ?_ front _
  · exact set_code
  · exact fun m hm d code => set_of_ne_code (last m hm) d code m.2

/-- An axis hinges on its calibration. -/
private theorem hingesOn_info {axis : Value → Value} (hole : MemberHole keys "info" axis) :
    HingesOn (fun v => ofValue (axis v)) (Draft.optional AxisInfoDraft.ofValue)
      fun put => ∃ d : AxisDraft, put = fun info => { d with info } := by
  refine hole.hingesOn (by decide) readsArrays fun front back last => ?_
  simp only [ofValue]
  refine hingesOn_foldlM ?_ ?_ front _
  · exact set_info
  · exact fun m hm d info => set_of_ne_info (last m hm) d info m.2

end AxisDraft

namespace AxisInfoDraft

private theorem set_eq_map (d : AxisInfoDraft) (f : AxisField) (v : Value) :
    d.set f v = (Draft.optional Scalar.ofValue v).map (d.put f) := by
  rw [set]
  cases Draft.optional Scalar.ofValue v <;> rfl

private theorem set_put {f g : AxisField} (h : g ≠ f) (d : AxisInfoDraft) (s : Option Scalar)
    (v : Value) : (d.put f s).set g v = (d.set g v).map (·.put f s) := by
  rw [set_eq_map, set_eq_map]
  cases Draft.optional Scalar.ofValue v with
  | error => rfl
  | ok t =>
    cases f <;> cases g <;>
      first
      | rfl
      | exact absurd rfl h

private theorem find?_label (f : AxisField) :
    AxisField.all.find? (fun g => g.label = f.label) = some f := by
  cases f <;> decide

private theorem readsArrays : ReadsArrays NumberLayout.axisNumbers ofValue := by
  intro vs d read ws length
  simp only [ofValue] at read ⊢
  obtain ⟨_, -, read⟩ := bind_eq_ok_iff.mp read
  split_ifs at read with few many
  simp only [length, if_neg few, if_neg many, NumberLayout.axisNumbers, List.zip_map_left,
    List.foldlM_map, Prod.map_fst, Prod.map_snd, find?_label]
  exact bind_pure _

/-- A calibration hinges on each of its numbers. -/
private theorem hingesOn_number {f : AxisField} {info : Value → Value}
    (hole : MemberHole NumberLayout.axisNumbers f.label info) :
    HingesOn (fun v => ofValue (info v)) (Draft.optional Scalar.ofValue)
      fun put => ∃ d : AxisInfoDraft, put = d.put f := by
  refine hole.hingesOn (by decide) readsArrays fun front back last => ?_
  simp only [ofValue]
  refine hingesOn_foldlM (fun d v => ?_) (fun m hm d s => ?_) front _
  · rw [find?_label]
    exact set_eq_map d f v
  · cases found : AxisField.all.find? (fun g => g.label = m.1) with
    | none => rfl
    | some g =>
      have label : g.label = m.1 := by simpa using List.find?_some found
      have other : g ≠ f := fun eq => last m hm (label.symm.trans (congrArg AxisField.label eq))
      exact set_put other d s m.2

end AxisInfoDraft

namespace Draft

def put (d : Draft) (f : NumberField) (s : Option Scalar) : Draft :=
  match f with
  | .id => { d with id := s }
  | .vid => { d with vid := s }
  | .pid => { d with pid := s }
  | .version => { d with version := s }
  | .bus => { d with bus := s }
  | .ffEffectsMax => { d with ffEffectsMax := s }
  | .duration => { d with duration := s }

private theorem put_put (d : Draft) (f : NumberField) (s t : Option Scalar) :
    (d.put f s).put f t = d.put f t := by
  cases f <;> rfl

/-- A command hinges on the number in a field. -/
theorem hingesOn_number {f : NumberField} {command : Value → Value}
    (hole : FieldHole f.field command) :
    HingesOn (fun v => ofValue (command v)) (optional Scalar.ofValue)
      fun put => ∃ d : Draft, put = d.put f := by
  have read (v : Value) : ({} : Draft).set f.field v =
      (optional Scalar.ofValue v).map (({} : Draft).put f) := by
    cases f <;> simp only [NumberField.field, set] <;> cases optional Scalar.ofValue v <;> rfl
  intro v e accepted
  obtain ⟨_, ⟨_, ⟨d, rfl⟩, _, rfl, rfl⟩, all⟩ :=
    (hingesOn_field hole).trans (.of_map read rfl) v e accepted
  refine ⟨d.put f, ⟨d, rfl⟩, fun v => (all v).trans ?_⟩
  congr
  cases f <;> rfl

/-- A command hinges on each item of a list in a field. -/
private theorem hingesOn_listed {α : Type} {f : Field} {item : Value → Except CommandFault α}
    {holding : Option (List α) → Draft}
    (read : ∀ v, ({} : Draft).set f v = (optional (list item) v).map holding) {i : Nat}
    {command items : Value → Value} (field : FieldHole f command) (hole : ItemHole i items) :
    HingesOn (fun v => ofValue (command (items v))) item fun put =>
      ∃ (d : Draft) (one : α → List α), PutsItem i one ∧
        put = fun a => d.take f (holding (some (one a))) := by
  have shape (v : Value) : ({} : Draft).set f (items v) =
      (list item (items v)).map fun as => holding (some as) := by
    rw [read]
    cases hole with
    | mk front back =>
      dsimp only [optional]
      cases list item (.array (front ++ v :: back)) <;> rfl
  intro v e accepted
  obtain ⟨_, ⟨_, ⟨_, ⟨d, rfl⟩, _, rfl, rfl⟩, one, puts, rfl⟩, all⟩ :=
    (((hingesOn_field field).comp items).trans (.of_map shape rfl)).trans (hingesOn_item item hole)
      v e accepted
  exact ⟨_, ⟨d, one, puts, rfl⟩, all⟩

private theorem set_configuration (v : Value) : ({} : Draft).set .configuration v =
    (optional (list ConfigDraft.ofValue) v).map fun configuration => { configuration } := by
  simp only [set]
  cases optional (list ConfigDraft.ofValue) v <;> rfl

private theorem set_absInfo (v : Value) : ({} : Draft).set .absInfo v =
    (optional (list AxisDraft.ofValue) v).map fun absInfo => { absInfo } := by
  simp only [set]
  cases optional (list AxisDraft.ofValue) v <;> rfl

private theorem set_events (v : Value) : ({} : Draft).set .events v =
    (optional (list Scalar.ofValue) v).map fun events => { events } := by
  simp only [set]
  cases optional (list Scalar.ofValue) v <;> rfl

end Draft

/-- The drafts that are as the given one but for the number at the slot. -/
inductive Slot.Varies : Slot → Draft → (Scalar → Draft) → Prop
  | field (f : NumberField) (d : Draft) : Varies (.field f) d fun s => d.put f (some s)
  | data {d : Draft} {front back : List ConfigDraft} {e : ConfigDraft} {before behind : List Scalar}
    {s₀ : Scalar}
    (was : d.configuration = some (front ++ { e with data := before ++ s₀ :: behind } :: back)) :
    Varies (.data front.length before.length) d fun s => { d with
      configuration := some (front ++ { e with data := before ++ s :: behind } :: back) }
  | event {d : Draft} {i : Nat} {number : EventNumber} {before behind : List Scalar} {s₀ : Scalar}
    (was : d.events = some (before ++ s₀ :: behind)) (place : before.length = 3 * i + number.offset) :
    Varies (.event i number) d fun s => { d with events := some (before ++ s :: behind) }
  | axisCode {d : Draft} {front back : List AxisDraft} {a : AxisDraft}
    (was : d.absInfo = some (front ++ a :: back)) :
    Varies (.axisCode front.length) d fun s => { d with
      absInfo := some (front ++ { a with code := some s } :: back) }
  | axisNumber {d : Draft} {f : AxisField} {front back : List AxisDraft} {a : AxisDraft}
    {info : AxisInfoDraft} {s₀ : Option Scalar}
    (was : d.absInfo = some (front ++ { a with info := some (info.put f s₀) } :: back)) :
    Varies (.axisNumber front.length f) d fun s => { d with
      absInfo := some (front ++ { a with info := some (info.put f (some s)) } :: back) }

/-- What is read by shape varies with the number at a slot only there. -/
theorem Slot.Hole.varies {slot : Slot} {command : Value → Value} (hole : slot.Hole command)
    {v₀ : Value} {d₀ : Draft} (read : Draft.ofValue (command v₀) = .ok d₀) :
    ∃ vary, slot.Varies d₀ vary ∧ ∀ n : Json.Number,
      Draft.ofValue (command (.number n)) = (Scalar.ofValue (.number n)).map vary := by
  -- A number is never null.
  have given {α : Type} (n : Json.Number) (put : Option Scalar → α) :
      (Draft.optional Scalar.ofValue (.number n)).map put =
        (Scalar.ofValue (.number n)).map fun s => put (some s) := by
    dsimp only [Draft.optional]
    cases Scalar.ofValue (.number n) <;> rfl
  cases hole with
  | @field f command field =>
    obtain ⟨_, ⟨d, rfl⟩, all⟩ := Draft.hingesOn_number field v₀ d₀ read
    obtain ⟨s, -, rfl⟩ := map_eq_ok_iff.mp ((all v₀).symm.trans read)
    refine ⟨_, .field f _, fun n => ?_⟩
    simp only [Draft.put_put]
    exact (all _).trans (given n (d.put f))
  | @data i j command entries entry codes field item member code =>
    have hinge := (((Draft.hingesOn_listed Draft.set_configuration field item).comp
      fun v => entry (codes v)).trans ((ConfigDraft.hingesOn_data member).comp codes)).trans
      (Draft.hingesOn_item Scalar.ofValue code)
    obtain ⟨_, ⟨_, ⟨_, ⟨d, _, ⟨front, back, rfl, rfl⟩, rfl⟩, _, ⟨e, rfl⟩, rfl⟩, _,
      ⟨before, behind, rfl, rfl⟩, rfl⟩, all⟩ := hinge v₀ d₀ read
    obtain ⟨s, -, rfl⟩ := map_eq_ok_iff.mp ((all v₀).symm.trans read)
    exact ⟨_, .data rfl, fun n => all _⟩
  | @event i number command numbers field item =>
    have hinge := Draft.hingesOn_listed Draft.set_events field item
    obtain ⟨_, ⟨d, _, ⟨before, behind, place, rfl⟩, rfl⟩, all⟩ := hinge v₀ d₀ read
    obtain ⟨s, -, rfl⟩ := map_eq_ok_iff.mp ((all v₀).symm.trans read)
    exact ⟨_, .event rfl place, fun n => all _⟩
  | @axisCode i command axes axis field item member =>
    have hinge := ((Draft.hingesOn_listed Draft.set_absInfo field item).comp axis).trans
      (AxisDraft.hingesOn_code member)
    obtain ⟨_, ⟨_, ⟨d, _, ⟨front, back, rfl, rfl⟩, rfl⟩, _, ⟨a, rfl⟩, rfl⟩, all⟩ := hinge v₀ d₀ read
    obtain ⟨s, -, rfl⟩ := map_eq_ok_iff.mp ((all v₀).symm.trans read)
    exact ⟨_, .axisCode rfl, fun n => (all _).trans (given n _)⟩
  | @axisNumber i f command axes axis info field item member number =>
    have shape (v : Value) : Draft.optional AxisInfoDraft.ofValue (info v) =
        (AxisInfoDraft.ofValue (info v)).map some := by
      cases number <;> rfl
    have hinge := (((Draft.hingesOn_listed Draft.set_absInfo field item).comp
      fun v => axis (info v)).trans ((AxisDraft.hingesOn_info member).comp info)).trans
      (.trans (.of_map shape rfl) (AxisInfoDraft.hingesOn_number number))
    obtain ⟨_, ⟨_, ⟨_, ⟨d, _, ⟨front, back, rfl, rfl⟩, rfl⟩, _, ⟨a, rfl⟩, rfl⟩, _,
      ⟨_, rfl, _, ⟨info, rfl⟩, rfl⟩, rfl⟩, all⟩ := hinge v₀ d₀ read
    obtain ⟨s, -, rfl⟩ := map_eq_ok_iff.mp ((all v₀).symm.trans read)
    exact ⟨_, .axisNumber rfl, fun n => (all _).trans (given n _)⟩

end ScriptedInput

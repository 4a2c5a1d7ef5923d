import ScriptedInput.Proofs.Commands.Spelling
import ScriptedInput.Proofs.Success

/-! Values that differ in the spelling of their numbers only. Where numbers stand in a command is told by
layouts; what is read there is the same for all spellings of a number. -/
namespace ScriptedInput

open Json (Value)

/-- Where the numbers stand in a value: nowhere, everywhere, in the items of a list, or in the members of
a record, which is an object or lists its members in the order of their keys. -/
inductive NumberLayout where
  | fixed
  | number
  | items (item : NumberLayout)
  | record (keys : List String) (member : String → NumberLayout)

namespace NumberLayout

inductive InOrder (R : String → Value → Value → Prop) : List String → List Value → List Value → Prop
    where
  | done (key : String) (keys : List String) : InOrder R (key :: keys) [] []
  | past (vs : List Value) : InOrder R [] vs vs
  | next {key : String} {keys : List String} {v w : Value} {vs ws : List Value} (first : R key v w)
      (later : InOrder R keys vs ws) : InOrder R (key :: keys) (v :: vs) (w :: ws)

def Respelled : NumberLayout → Value → Value → Prop
  | fixed, v, w => v = w
  | number, v, w =>
    v = w ∨ ∃ n : Int, n.natAbs < 2 ^ 63 ∧ Scalar.Spells n v ∧ Scalar.Spells n w
  | items item, v, w =>
    v = w ∨ ∃ vs ws, v = .array vs ∧ w = .array ws ∧ List.Forall₂ item.Respelled vs ws
  | record keys member, v, w =>
    v = w ∨
    (∃ ms ns, v = .object ms ∧ w = .object ns ∧
      List.Forall₂ (fun m n => m.1 = n.1 ∧ (member m.1).Respelled m.2 n.2) ms ns) ∨
    ∃ vs ws, v = .array vs ∧ w = .array ws ∧ InOrder (fun key => (member key).Respelled) keys vs ws

def configMember (key : String) : NumberLayout :=
  if key = "type" then number else if key = "data" then items number else fixed

def configEntry : NumberLayout := record ["type", "data"] configMember

def axisNumbers : List String := AxisField.all.map (·.label)

def axisNumber (key : String) : NumberLayout := if key ∈ axisNumbers then number else fixed

def axisInfo : NumberLayout := record axisNumbers axisNumber

def axisMember (key : String) : NumberLayout :=
  if key = "code" then number else if key = "info" then axisInfo else fixed

def axisEntry : NumberLayout := record ["code", "info"] axisMember

def ofField : Field → NumberLayout
  | .id | .vid | .pid | .version | .bus | .ffEffectsMax | .duration => number
  | .configuration => items configEntry
  | .absInfo => items axisEntry
  | .events => items number
  | .command | .name | .port | .syncToken => fixed

def commandMember (key : String) : NumberLayout := ((Field.ofKey? key).map ofField).getD fixed

def command : NumberLayout := record [] commandMember

theorem Respelled.refl (l : NumberLayout) (v : Value) : l.Respelled v v := by
  cases l with
  | fixed => exact rfl
  | number | items | record => exact .inl rfl

theorem InOrder.length_eq {R : String → Value → Value → Prop} {keys : List String}
    {vs ws : List Value} (h : InOrder R keys vs ws) : vs.length = ws.length := by
  induction h with
  | done | past => rfl
  | next _ _ ih => exact congrArg (· + 1) ih

theorem InOrder.zip {R : String → Value → Value → Prop} {fields : List AxisField}
    {vs ws : List Value} (h : InOrder R (fields.map (·.label)) vs ws) :
    List.Forall₂ (fun a b => a.1 = b.1 ∧ R a.1.label a.2 b.2) (fields.zip vs) (fields.zip ws) := by
  induction fields generalizing vs ws with
  | nil => exact .nil
  | cons f fields ih =>
    cases h with
    | done => exact .nil
    | next first later => exact .cons ⟨rfl, first⟩ (ih later)

private theorem Respelled.eq_null_iff {l : NumberLayout} {v w : Value} (h : l.Respelled v w) :
    v = .null ↔ w = .null := by
  have number {n : Int} : ¬ Scalar.Spells n .null := nofun
  cases l with
  | fixed => rw [show v = w from h]
  | number =>
    rcases h with rfl | ⟨n, -, hv, hw⟩
    · exact Iff.rfl
    · constructor <;> rintro rfl
      · cases hv
      · cases hw
  | items =>
    rcases h with rfl | ⟨vs, ws, rfl, rfl, -⟩
    · exact Iff.rfl
    · exact ⟨nofun, nofun⟩
  | record =>
    rcases h with rfl | ⟨ms, ns, rfl, rfl, -⟩ | ⟨vs, ws, rfl, rfl, -⟩
    · exact Iff.rfl
    · exact ⟨nofun, nofun⟩
    · exact ⟨nofun, nofun⟩

end NumberLayout

/-- Two scalars that are read alike wherever they stand. -/
structure Scalar.Alike (s t : Scalar) : Prop where
  resolve : ∀ place, s.resolve place = t.resolve place
  bus : s.bus = t.bus

namespace Scalar.Alike
variable {s t : Scalar}

theorem refl (s : Scalar) : s.Alike s := ⟨fun _ => rfl, rfl⟩

private theorem within (h : s.Alike t) (low high : Int) (place : Place) :
    s.within low high place = t.within low high place := by
  rw [Scalar.within, Scalar.within, h.resolve]

theorem uint16 (h : s.Alike t) (place : Place) : s.uint16 place = t.uint16 place :=
  congrArg _ (h.within _ _ place)

theorem uint32 (h : s.Alike t) (place : Place) : s.uint32 place = t.uint32 place :=
  congrArg _ (h.within _ _ place)

theorem uint64 (h : s.Alike t) (place : Place) : s.uint64 place = t.uint64 place :=
  congrArg _ (h.within _ _ place)

theorem int32 (h : s.Alike t) (place : Place) : s.int32 place = t.int32 place :=
  congrArg _ (h.within _ _ place)

private theorem of_means {n : Int} (hs : s.Means n) (ht : t.Means n) : s.Alike t := by
  have resolve (place : Place) : s.resolve place = t.resolve place := (hs place).trans (ht place).symm
  refine ⟨resolve, ?_⟩
  rw [hs.bus_eq, ht.bus_eq, Scalar.uint16, Scalar.uint16, Scalar.within, Scalar.within, resolve]

end Scalar.Alike

/-- A reader that takes values alike which differ in the spelling of their numbers only. -/
def Reads {α : Type} (l : NumberLayout) (R : α → α → Prop) (read : Value → Except CommandFault α) :
    Prop :=
  ∀ v w, l.Respelled v w → Agree R (read v) (read w)

section Readers
variable {α : Type} {l : NumberLayout} {R : α → α → Prop} {read : Value → Except CommandFault α}

theorem optional_refl (same : ∀ a, R a a) (a? : Option α) : Option.Rel R a? a? := by
  cases a? with
  | none => exact .none
  | some a => exact .some (same a)

theorem forall₂_refl (same : ∀ a, R a a) (as : List α) : List.Forall₂ R as as :=
  List.forall₂_same.mpr fun a _ => same a

theorem reads_fixed (read : Value → Except CommandFault α) : Reads .fixed Eq read :=
  fun _ _ h => .of_eq (congrArg read h)

theorem Scalar.reads : Reads .number Scalar.Alike Scalar.ofValue := by
  rintro v w (rfl | ⟨n, bound, hv, hw⟩)
  · exact .refl Alike.refl _
  · obtain ⟨s, hs, s_means⟩ := hv.means bound
    obtain ⟨t, ht, t_means⟩ := hw.means bound
    rw [hs, ht]
    exact .ok (.of_means s_means t_means)

theorem Reads.list (same : ∀ a, R a a) (h : Reads l R read) :
    Reads (.items l) (List.Forall₂ R) (Draft.list read) := by
  rintro v w (rfl | ⟨vs, ws, rfl, rfl, items⟩)
  · exact .refl (forall₂_refl same) _
  · exact .mapM items h

private theorem Draft.optional_of_ne {v : Value} (h : v ≠ .null) :
    optional read v = (read v).map some := by
  cases v with
  | null => exact absurd rfl h
  | _ => rfl

theorem Reads.optional (h : Reads l R read) :
    Reads l (Option.Rel R) (Draft.optional read) := by
  intro v w respelled
  by_cases null : v = .null
  · rw [null, respelled.eq_null_iff.mp null]
    exact .ok .none
  · rw [Draft.optional_of_ne null, Draft.optional_of_ne (mt respelled.eq_null_iff.mpr null)]
    exact (h v w respelled).map fun _ _ => .some

/-- An object is read member by member. -/
theorem reads_members {set : α → String → Value → Except CommandFault α} {member : String → NumberLayout}
    (step : ∀ {d e}, R d e → ∀ key {v w}, (member key).Respelled v w →
      Agree R (set d key v) (set e key w))
    {ms ns : List (String × Value)} {d e : α} (start : R d e)
    (h : List.Forall₂ (fun m n => m.1 = n.1 ∧ (member m.1).Respelled m.2 n.2) ms ns) :
    Agree R (ms.foldlM (fun d m => set d m.1 m.2) d) (ns.foldlM (fun d m => set d m.1 m.2) e) :=
  .foldlM h (fun _ _ related m _ ⟨key, respelled⟩ => key ▸ step related m.1 respelled) start

theorem required_agree {a? b? : Option α} (h : Option.Rel R a? b?) (place : Place) :
    Agree R (required a? place) (required b? place) := by
  cases h with
  | none => exact .error _ _
  | some related => exact .ok related

theorem getD_nil_related {as? bs? : Option (List α)} (h : Option.Rel (List.Forall₂ R) as? bs?) :
    List.Forall₂ R (as?.getD []) (bs?.getD []) := by
  cases h with
  | none => exact .nil
  | some related => exact related

theorem orDefault_agree {β : Type} {a? b? : Option α} (h : Option.Rel R a? b?) (default : β)
    {read : α → Except CommandFault β} (each : ∀ a b, R a b → read a = read b) :
    Agree Eq (orDefault a? default read) (orDefault b? default read) := by
  cases h with
  | none => exact .ok rfl
  | some related => exact .of_eq (each _ _ related)

end Readers

end ScriptedInput

import ScriptedInput.Proofs.Commands.BusNames
import ScriptedInput.Proofs.Commands.NumericText
import ScriptedInput.Proofs.Guarded

/-! Reading a command in a program that overflows stop. One kind of text does: the least number of 64 bits
with a minus sign in front. Where such a number wraps around instead, the command is refused for it. -/
namespace ScriptedInput

open Guarded

namespace Scalar

def turned64 (n : Int) : Except Trap Int := if inWord (-n) then .ok (-n) else .error .overflow

def guardedNumeral? (cs : List Char) : Except Trap (Option Int) :=
  match cs with
  | '-' :: digits =>
    match (magnitude? digits).filter inWord with
    | some n => (turned64 n).map some
    | none => .ok none
  | digits => .ok ((magnitude? digits).filter inWord)

/-- Reads a scalar. Before all else, what it has behind a minus sign is turned round. -/
def guarded {α : Type} (s : Scalar) (read : Except CommandFault α) : Guarded CommandFault α :=
  match s with
  | .int _ => check read
  | .text written => do
    let _ ← attempt (guardedNumeral? (Text.trim written.toList))
    check read

end Scalar

def guardedOr {α : Type} (field? : Option Scalar) (default : α)
    (read : Scalar → Except CommandFault α) : Guarded CommandFault α :=
  match field? with
  | some s => s.guarded (read s)
  | none => return default

def ConfigDraft.guardedEntry (d : ConfigDraft) : Guarded CommandFault ConfigEntry := do
  let type ← check (required d.type .setterType)
  let number ← type.guarded (type.resolve .setterType)
  match Setter.ofControlCode? number with
  | none => throw (.unknownSetter type)
  | some setter => return ⟨setter, ← d.data.mapM fun s => s.guarded (s.uint16 .setterData)⟩

def AxisInfoDraft.guardedInfo (d : AxisInfoDraft) : Guarded CommandFault AbsInfo := do
  let value ← guardedOr d.value 0 (·.int32 (.axis .value))
  let minimum ← guardedOr d.minimum 0 (·.int32 (.axis .minimum))
  let maximum ← guardedOr d.maximum 0 (·.int32 (.axis .maximum))
  let fuzz ← guardedOr d.fuzz 0 (·.int32 (.axis .fuzz))
  let flat ← guardedOr d.flat 0 (·.int32 (.axis .flat))
  let resolution ← guardedOr d.resolution 0 (·.int32 (.axis .resolution))
  return { value, minimum, maximum, fuzz, flat, resolution }

def AxisDraft.guardedAxis (d : AxisDraft) : Guarded CommandFault (UInt16 × AbsInfo) := do
  let code ← check (required d.code .axisCode)
  let code ← code.guarded (code.uint16 .axisCode)
  let info ← check (required d.info .axisInfo)
  return (code, ← info.guardedInfo)

def guardedTriples : List Scalar → Guarded CommandFault (List RawEvent)
  | type :: code :: value :: rest => do
    let place := Place.field .events
    let type ← type.guarded (type.uint16 place)
    let code ← code.guarded (code.uint16 place)
    let value ← value.guarded (value.int32 place)
    return ⟨type, code, value⟩ :: (← guardedTriples rest)
  | _ => return []

def guardedEvents (scalars : List Scalar) : Guarded CommandFault (List RawEvent) :=
  if scalars.length % 3 = 0 then guardedTriples scalars else throw (.raggedEvents scalars.length)

namespace Draft

def guardedRegistration (d : Draft) : Guarded CommandFault Registration := do
  let name ← check (required d.name (.field .name))
  let vendor ← check (required d.vid (.field .vid))
  let vendor ← vendor.guarded (vendor.uint16 (.field .vid))
  let product ← check (required d.pid (.field .pid))
  let product ← product.guarded (product.uint16 (.field .pid))
  let version ← guardedOr d.version 0 (·.uint16 (.field .version))
  let bus ← guardedOr d.bus .usb Scalar.bus
  let configuration ← (d.configuration.getD []).mapM (·.guardedEntry)
  let ffEffectsMax ← guardedOr d.ffEffectsMax 0 (·.uint32 (.field .ffEffectsMax))
  let axes ← (d.absInfo.getD []).mapM (·.guardedAxis)
  return { name, vendor, product, version, bus, configuration, ffEffectsMax,
           axes := .ofList axes, port := d.port }

def guardedAction (d : Draft) : Command → Guarded CommandFault Action
  | .register => return .register (← d.guardedRegistration)
  | .inject => do
    let numbers ← check (required d.events (.field .events))
    return .inject (← guardedEvents numbers)
  | .delay => do
    let duration ← check (required d.duration (.field .duration))
    return .delay (← duration.guarded (duration.uint64 (.field .duration)))
  | .sync => return .sync (← check (required d.syncToken (.field .syncToken)))

def guardedEvent (d : Draft) : Guarded CommandFault Event := do
  let id ← check (required d.id (.field .id))
  let id ← id.guarded (id.int32 (.field .id))
  let name ← check (required d.command (.field .command))
  match Command.ofName? name with
  | none => throw (.unknownCommand name)
  | some command => return ⟨id, ← d.guardedAction command⟩

end Draft

/-- The event that a value means, in a program that overflows stop. -/
def Event.guardedOfValue (v : Json.Value) : Guarded CommandFault Event := do
  (← check (Draft.ofValue v)).guardedEvent

inductive CommandFault.Wraps : CommandFault → Prop where
  | number (place : Place) : Wraps (.outOfRange (-0x8000000000000000) place)
  | setter {written : String} (overturned : Scalar.Overturned (Text.trim written.toList)) :
    Wraps (.unknownSetter (.text written))

/-- Guarded work comes to the same as work in which numbers wrap around. It is stopped only where that
finds a number at fault that has. -/
def Keeps {α : Type} (x : Guarded CommandFault α) (m : Except CommandFault α) : Prop :=
  x.Gives m ∨ x.run = .error .overflow ∧ ∃ f, m = .error f ∧ f.Wraps

namespace Keeps
variable {α β : Type}

private theorem check (m : Except CommandFault α) : Keeps (check m) m := .inl (gives_check m)

private theorem bind {x : Guarded CommandFault α} {m : Except CommandFault α}
    {f : α → Guarded CommandFault β} {g : α → Except CommandFault β} (hx : Keeps x m)
    (hf : ∀ a, Keeps (f a) (g a)) : Keeps (x >>= f) (m >>= g) := by
  rcases hx with given | ⟨stopped, fault, rfl, wraps⟩
  · cases m with
    | error fault => exact .inl (given.bind_error f)
    | ok a =>
      rw [bind_of_gives given]
      exact hf a
  · exact .inr ⟨run_bind_of_error stopped f, fault, rfl, wraps⟩

/-- A list is read item by item. -/
private theorem mapM {f : α → Guarded CommandFault β} {g : α → Except CommandFault β}
    (each : ∀ a, Keeps (f a) (g a)) (as : List α) : Keeps (as.mapM f) (as.mapM g) := by
  induction as with
  | nil => exact .inl rfl
  | cons a as ih =>
    rw [List.mapM_cons, List.mapM_cons]
    exact (each a).bind fun b => ih.bind fun bs => .inl rfl

end Keeps

namespace Scalar

private theorem numeral?_of_overturned {cs : List Char} (h : Overturned cs) :
    numeral? cs = some (-0x8000000000000000) := by
  obtain ⟨digits, rfl, inner⟩ := h
  rw [numeral?_negated, magnitude?_eq_some_iff.mpr (.inr inner)]
  rfl

/-- A numeral is turned round without a trap unless it is the least one. -/
private theorem guardedNumeral?_eq (cs : List Char) : guardedNumeral? cs = .ok (numeral? cs) ∨
    guardedNumeral? cs = .error .overflow ∧ Overturned cs := by
  unfold guardedNumeral?
  split
  · next digits =>
    rw [numeral?_negated]
    cases read : (magnitude? digits).filter inWord with
    | none => exact .inl rfl
    | some n =>
      obtain ⟨value, word⟩ := Option.filter_eq_some_iff.mp read
      by_cases fits : inWord (-n)
      · have other : n ≠ -0x8000000000000000 := by
          rintro rfl
          cases fits
        rw [Option.map_some, turned_of_ne other]
        simp only [turned64, fits, if_true]
        exact .inl rfl
      · obtain rfl : n = -0x8000000000000000 := by
          have bounds := inWord_iff.mp word
          by_contra other
          exact fits (inWord_iff.mpr (by omega))
        refine .inr ⟨rfl, digits, rfl, ?_⟩
        rcases magnitude?_eq_some_iff.mp value with ⟨n, negative, -⟩ | inner
        · omega
        · exact inner
  · next unsigned =>
    have first : cs.head? ≠ some '-' := by
      cases cs with
      | nil => nofun
      | cons c cs => exact fun minus => unsigned cs (congrArg (· :: cs) (Option.some.inj minus))
    exact .inl (congrArg Except.ok (numeral?_unsigned first).symm)

variable {α : Type} {s : Scalar} {place : Place}

private theorem guarded_gives_or (s : Scalar) (read : Except CommandFault α) :
    (s.guarded read).Gives read ∨
    (s.guarded read).run = .error .overflow ∧ ∃ t, s = .text t ∧ Overturned (Text.trim t.toList) := by
  cases s with
  | int n => exact .inl (gives_check read)
  | text t =>
    rcases guardedNumeral?_eq (Text.trim t.toList) with fits | ⟨overflows, overturned⟩
    · refine .inl ?_
      rw [guarded, attempt_bind fits]
      exact gives_check read
    · refine .inr ⟨?_, t, rfl, overturned⟩
      rw [guarded, overflows]
      rfl

/-- Guarded reading keeps to reading, if that finds at fault the number that has wrapped around. -/
private theorem keeps_guarded {read : Except CommandFault α}
    (wraps : ∀ t, s = .text t → Overturned (Text.trim t.toList) → ∃ f, read = .error f ∧ f.Wraps) :
    Keeps (s.guarded read) read := by
  rcases guarded_gives_or s read with given | ⟨stopped, t, text, overturned⟩
  · exact .inl given
  · exact .inr ⟨stopped, wraps t text overturned⟩

private theorem resolve_of_overturned {t : String} (overturned : Overturned (Text.trim t.toList)) :
    (text t).resolve place = .ok (-0x8000000000000000) := by
  rw [resolve, numeral?_of_overturned overturned]

/-- No bounds let the least number of 64 bits in. -/
private theorem within_of_overturned {t : String} (overturned : Overturned (Text.trim t.toList))
    {low high : Int} (above : -0x8000000000000000 < low) :
    (text t).within low high place = .error (.outOfRange (-0x8000000000000000) place) := by
  have outside : ¬ (low ≤ -0x8000000000000000 ∧ -0x8000000000000000 ≤ high) := by omega
  rw [within, resolve_of_overturned overturned]
  exact if_neg outside

private theorem keeps_within {low high : Int} (above : -0x8000000000000000 < low) (f : Int → α) :
    Keeps (s.guarded ((s.within low high place).map f)) ((s.within low high place).map f) := by
  refine keeps_guarded ?_
  rintro t rfl overturned
  rw [within_of_overturned overturned above]
  exact ⟨_, rfl, .number place⟩

private theorem keeps_uint16 : Keeps (s.guarded (s.uint16 place)) (s.uint16 place) :=
  keeps_within (by decide) _

private theorem keeps_uint32 : Keeps (s.guarded (s.uint32 place)) (s.uint32 place) :=
  keeps_within (by decide) _

private theorem keeps_uint64 : Keeps (s.guarded (s.uint64 place)) (s.uint64 place) :=
  keeps_within (by decide) _

private theorem keeps_int32 : Keeps (s.guarded (s.int32 place)) (s.int32 place) :=
  keeps_within (by decide) _

private theorem keeps_bus : Keeps (s.guarded s.bus) s.bus := by
  refine keeps_guarded ?_
  rintro t rfl overturned
  have other : (Text.trim t.toList).map Char.toLower ∉ ["usb", "bluetooth", "virtual"].map String.toList := by
    obtain ⟨digits, text, -⟩ := overturned
    rw [text]
    simp
  rw [bus_of_not_word other, uint16, within_of_overturned overturned (by decide)]
  exact ⟨_, rfl, .number _⟩

end Scalar

private theorem keeps_guardedOr {α : Type} (field? : Option Scalar) (default : α)
    {read : Scalar → Except CommandFault α} (each : ∀ s, Keeps (s.guarded (read s)) (read s)) :
    Keeps (guardedOr field? default read) (orDefault field? default read) := by
  cases field? with
  | none => exact .inl rfl
  | some s => exact each s

private theorem ConfigDraft.keeps_entry (d : ConfigDraft) : Keeps d.guardedEntry d.entry := by
  refine .bind (.check _) fun type => ?_
  rcases Scalar.guarded_gives_or type (type.resolve .setterType) with given | ⟨stopped, t, rfl, overturned⟩
  · refine .bind (.inl given) fun number => ?_
    cases Setter.ofControlCode? number with
    | none => exact .inl rfl
    | some setter => exact (Keeps.mapM (fun _ => Scalar.keeps_uint16) d.data).bind fun _ => .inl rfl
  · refine .inr ⟨run_bind_of_error stopped _, _, ?_, .setter overturned⟩
    rw [Scalar.resolve_of_overturned overturned]
    rfl

private theorem AxisInfoDraft.keeps_info (d : AxisInfoDraft) : Keeps d.guardedInfo d.info := by
  have each (field? : Option Scalar) (f : AxisField) :
      Keeps (guardedOr field? 0 (·.int32 (.axis f))) (orDefault field? 0 (·.int32 (.axis f))) :=
    keeps_guardedOr field? 0 fun _ => Scalar.keeps_int32
  exact (each _ _).bind fun _ => (each _ _).bind fun _ => (each _ _).bind fun _ => (each _ _).bind fun _ =>
    (each _ _).bind fun _ => (each _ _).bind fun _ => .inl rfl

private theorem AxisDraft.keeps_axis (d : AxisDraft) : Keeps d.guardedAxis d.axis :=
  .bind (.check _) fun _ => Scalar.keeps_uint16.bind fun _ => .bind (.check _) fun info =>
    info.keeps_info.bind fun _ => .inl rfl

private theorem keeps_triples (scalars : List Scalar) :
    Keeps (guardedTriples scalars) (triples scalars) := by
  fun_induction guardedTriples scalars with
  | case1 type code value rest place ih =>
    exact Scalar.keeps_uint16.bind fun _ => Scalar.keeps_uint16.bind fun _ => Scalar.keeps_int32.bind fun _ =>
      ih.bind fun _ => .inl rfl
  | case2 scalars short =>
    refine .inl ?_
    unfold triples
    split
    · exact absurd rfl (short _ _ _ _)
    · rfl

private theorem keeps_events (scalars : List Scalar) :
    Keeps (guardedEvents scalars) (rawEvents scalars) := by
  unfold guardedEvents rawEvents
  split_ifs
  · exact keeps_triples scalars
  · exact .inl rfl

namespace Draft
variable (d : Draft)

private theorem keeps_registration : Keeps d.guardedRegistration d.registration :=
  .bind (.check _) fun _ => .bind (.check _) fun _ => Scalar.keeps_uint16.bind fun _ =>
    .bind (.check _) fun _ => Scalar.keeps_uint16.bind fun _ =>
    (keeps_guardedOr _ _ fun _ => Scalar.keeps_uint16).bind fun _ =>
    (keeps_guardedOr _ _ fun _ => Scalar.keeps_bus).bind fun _ =>
    (Keeps.mapM ConfigDraft.keeps_entry _).bind fun _ =>
    (keeps_guardedOr _ _ fun _ => Scalar.keeps_uint32).bind fun _ =>
    (Keeps.mapM AxisDraft.keeps_axis _).bind fun _ => .inl rfl

private theorem keeps_action (c : Command) : Keeps (d.guardedAction c) (d.action c) := by
  cases c with
  | register => exact d.keeps_registration.bind fun _ => .inl rfl
  | inject => exact .bind (.check _) fun numbers => (keeps_events numbers).bind fun _ => .inl rfl
  | delay => exact .bind (.check _) fun _ => Scalar.keeps_uint64.bind fun _ => .inl rfl
  | sync => exact .bind (.check _) fun _ => .inl rfl

private theorem keeps_event : Keeps d.guardedEvent d.event := by
  refine .bind (.check _) fun id => Scalar.keeps_int32.bind fun id => .bind (.check _) fun name => ?_
  cases Command.ofName? name with
  | none => exact .inl rfl
  | some command => exact (d.keeps_action command).bind fun _ => .inl rfl

end Draft

/-- A command is read as where numbers wrap around. A trap stops only the reading of one that is refused
there for the number that has. -/
theorem Event.keeps_ofValue (v : Json.Value) : Keeps (Event.guardedOfValue v) (Event.ofValue v) :=
  .bind (.check _) fun d => d.keeps_event

example : (Event.guardedOfValue (.object [("id", .string "-0x-8000000000000000")])).run = .error .overflow := by
  rfl

end ScriptedInput

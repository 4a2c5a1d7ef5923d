import ScriptedInput.Script.Draft
import ScriptedInput.CodeNames
import ScriptedInput.Event
import ScriptedInput.Text.Blank
import ScriptedInput.Text.Numeral

/-! The event that a JSON command means. -/
namespace ScriptedInput

namespace Scalar

/-- The number that digits without a sign stand for: decimal ones, or hexadecimal ones after `0x`, which
may have a sign of their own. -/
def magnitude? (digits : List Char) : Option Int :=
  match digits with
  | '0' :: 'x' :: hex | '0' :: 'X' :: hex => Text.Numeral.signed? 16 hex
  | digits => (Text.Numeral.digits? 10 digits).map Int.ofNat

/-- A number of 64 bits with the other sign. There is none for the least one, which wraps around to
itself. -/
def turned (n : Int) : Int := if n = -0x8000000000000000 then n else -n

/-- The value of a text that is a numeral: digits for a number of 64 bits, with a minus sign in front
that turns it round. -/
def numeral? (cs : List Char) : Option Int :=
  match cs with
  | '-' :: digits => ((magnitude? digits).filter inWord).map turned
  | digits => (magnitude? digits).filter inWord

/-- The number that a scalar means: itself, the value of a numeral, or that of a symbolic name.
Blanks around a text do not count. -/
def resolve (s : Scalar) (place : Place) : Except CommandFault Int :=
  match s with
  | .int n => .ok n
  | .text written =>
    let trimmed := Text.trim written.toList
    match numeral? trimmed with
    | some n => .ok n
    | none =>
      match CodeNames.lookup? (String.ofList trimmed) with
      | some n => .ok n
      | none => .error (.unknownName (String.ofList trimmed) place)

def within (low high : Int) (s : Scalar) (place : Place) : Except CommandFault Int := do
  let n ← s.resolve place
  if low ≤ n ∧ n ≤ high then return n else throw (.outOfRange n place)

def uint16 (s : Scalar) (place : Place) : Except CommandFault UInt16 :=
  (s.within 0 0xffff place).map (fun n => UInt16.ofNat n.toNat)

def uint32 (s : Scalar) (place : Place) : Except CommandFault UInt32 :=
  (s.within 0 0xffffffff place).map (fun n => UInt32.ofNat n.toNat)

def uint64 (s : Scalar) (place : Place) : Except CommandFault UInt64 :=
  (s.within 0 0xffffffffffffffff place).map (fun n => UInt64.ofNat n.toNat)

def int32 (s : Scalar) (place : Place) : Except CommandFault Int32 :=
  (s.within (-0x80000000) 0x7fffffff place).map Int32.ofInt

/-- A bus is named by one of three words in letters of either case, or by its number. -/
def bus (s : Scalar) : Except CommandFault Bus :=
  let byNumber := (s.uint16 (.field .bus)).map Bus.ofRaw
  match s with
  | .int _ => byNumber
  | .text written =>
    let word := String.ofList ((Text.trim written.toList).map Char.toLower)
    if word = "usb" then .ok .usb
    else if word = "bluetooth" then .ok .bluetooth
    else if word = "virtual" then .ok .virtual
    else byNumber

end Scalar

def required {α : Type} (field? : Option α) (place : Place) : Except CommandFault α :=
  match field? with
  | some a => .ok a
  | none => .error (.missing place)

def orDefault {α β : Type} (field? : Option α) (default : β)
    (read : α → Except CommandFault β) : Except CommandFault β :=
  match field? with
  | some a => read a
  | none => .ok default

def ConfigDraft.entry (d : ConfigDraft) : Except CommandFault ConfigEntry := do
  let type ← required d.type .setterType
  let number ← type.resolve .setterType
  match Setter.ofControlCode? number with
  | none => throw (.unknownSetter type)
  | some setter => return ⟨setter, ← d.data.mapM (·.uint16 .setterData)⟩

def AxisInfoDraft.info (d : AxisInfoDraft) : Except CommandFault AbsInfo := do
  let value ← orDefault d.value 0 (·.int32 (.axis .value))
  let minimum ← orDefault d.minimum 0 (·.int32 (.axis .minimum))
  let maximum ← orDefault d.maximum 0 (·.int32 (.axis .maximum))
  let fuzz ← orDefault d.fuzz 0 (·.int32 (.axis .fuzz))
  let flat ← orDefault d.flat 0 (·.int32 (.axis .flat))
  let resolution ← orDefault d.resolution 0 (·.int32 (.axis .resolution))
  return { value, minimum, maximum, fuzz, flat, resolution }

def AxisDraft.axis (d : AxisDraft) : Except CommandFault (UInt16 × AbsInfo) := do
  let code ← (← required d.code .axisCode).uint16 .axisCode
  let info ← required d.info .axisInfo
  return (code, ← info.info)

/-- Input events written as a flat list, three numbers each. -/
def triples : List Scalar → Except CommandFault (List RawEvent)
  | type :: code :: value :: rest => do
    let place := Place.field .events
    let e : RawEvent := ⟨← type.uint16 place, ← code.uint16 place, ← value.int32 place⟩
    return e :: (← triples rest)
  | _ => .ok []

def rawEvents (scalars : List Scalar) : Except CommandFault (List RawEvent) :=
  if scalars.length % 3 = 0 then triples scalars else .error (.raggedEvents scalars.length)

namespace Draft

def registration (d : Draft) : Except CommandFault Registration := do
  let name ← required d.name (.field .name)
  let vendor ← (← required d.vid (.field .vid)).uint16 (.field .vid)
  let product ← (← required d.pid (.field .pid)).uint16 (.field .pid)
  let version ← orDefault d.version 0 (·.uint16 (.field .version))
  let bus ← orDefault d.bus .usb (·.bus)
  let configuration ← (d.configuration.getD []).mapM (·.entry)
  let ffEffectsMax ← orDefault d.ffEffectsMax 0 (·.uint32 (.field .ffEffectsMax))
  let axes ← (d.absInfo.getD []).mapM (·.axis)
  return { name, vendor, product, version, bus, configuration, ffEffectsMax,
           axes := .ofList axes, port := d.port }

def action (d : Draft) : Command → Except CommandFault Action
  | .register => return .register (← d.registration)
  | .inject => return .inject (← rawEvents (← required d.events (.field .events)))
  | .delay => do
    let duration ← required d.duration (.field .duration)
    return .delay (← duration.uint64 (.field .duration))
  | .sync => return .sync (← required d.syncToken (.field .syncToken))

/-- The event a command means. Of several faults the first field's is reported, the address and the
command's name before all others. -/
def event (d : Draft) : Except CommandFault Event := do
  let id ← (← required d.id (.field .id)).int32 (.field .id)
  let name ← required d.command (.field .command)
  match Command.ofName? name with
  | none => throw (.unknownCommand name)
  | some command => return ⟨id, ← d.action command⟩

end Draft

def Event.ofValue (v : Json.Value) : Except CommandFault Event := do
  (← Draft.ofValue v).event

end ScriptedInput

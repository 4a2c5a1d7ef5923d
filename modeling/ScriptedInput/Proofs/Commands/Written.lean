import ScriptedInput.Json.Printer
import ScriptedInput.Json.Registration
import ScriptedInput.Script.CommandFault

/-! Writing commands: the JSON object that stands for an event, with the main spelling of each field.
-/
namespace ScriptedInput

open Json (Value)

def ConfigEntry.value (e : ConfigEntry) : Value :=
  .ofMembers [
    ("type", .int e.setter.controlCode), ("data", .array (e.codes.map fun c => .int c.toNat))]

def axisValue (code : UInt16) (info : AbsInfo) : Value :=
  .ofMembers [("code", .int code.toNat), ("info", info.json)]

def RawEvent.triple (e : RawEvent) : List Value :=
  [.int e.type.toNat, .int e.code.toNat, .int e.value.toInt]

/-- The fields of a registration. Without a port there is no field for it. -/
def Registration.fields (r : Registration) : List (Field × Value) :=
  [(.name, .string r.name), (.vid, .int r.vendor.toNat), (.pid, .int r.product.toNat),
   (.version, .int r.version.toNat), (.bus, .int r.bus.raw.toNat),
   (.configuration, .array (r.configuration.map (·.value))),
   (.ffEffectsMax, .int r.ffEffectsMax.toNat),
   (.absInfo, .array (r.axes.entries.map fun e => axisValue e.1 e.2))] ++
  match r.port with
  | none => []
  | some port => [(.port, .string port)]

def Action.fields : Action → List (Field × Value)
  | .register r => r.fields
  | .inject events => [(.events, .array (events.flatMap (·.triple)))]
  | .delay millis => [(.duration, .int millis.toNat)]
  | .sync token => [(.syncToken, .string token)]

def Event.fields (e : Event) : List (Field × Value) :=
  [(.id, .int e.id.toInt), (.command, .string e.command.keyword)] ++ e.action.fields

def Event.value (e : Event) : Value := .ofMembers (e.fields.map fun f => (f.1.label, f.2))

/-- What commands can tell: delays that fit a signed number of 64 bits, and buses that have a number of
their own. -/
def Event.Tellable (e : Event) : Prop :=
  match e.action with
  | .register r => ∃ raw, r.bus = .ofRaw raw
  | .delay millis => millis.toNat ≤ 0x7fffffffffffffff
  | .inject _ | .sync _ => True

def commandsText (events : List Event) : String := String.ofList (events.flatMap (·.value.text))

end ScriptedInput

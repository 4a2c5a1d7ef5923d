import ScriptedInput.Event
import ScriptedInput.Json.Value

/-! Registrations and input events as JSON values. -/
namespace ScriptedInput

open Json (Value)

def Bus.json : Bus → Value
  | .usb => .string "usb"
  | .bluetooth => .string "bluetooth"
  | .virtual => .string "virtual"
  | .other raw => .ofMembers [("other", .int raw.toNat)]

def ConfigEntry.json (e : ConfigEntry) : Value :=
  .ofMembers [
    ("kind", .string e.setter.name), ("codes", .array (e.codes.map (fun c => .int c.toNat)))]

def AbsInfo.json (a : AbsInfo) : Value :=
  .ofMembers [
    ("value", .int a.value.toInt), ("minimum", .int a.minimum.toInt),
    ("maximum", .int a.maximum.toInt), ("fuzz", .int a.fuzz.toInt),
    ("flat", .int a.flat.toInt), ("resolution", .int a.resolution.toInt)]

def Registration.json (r : Registration) : Value :=
  .ofMembers [
    ("name", .string r.name), ("vendor_id", .int r.vendor.toNat),
    ("product_id", .int r.product.toNat), ("version_id", .int r.version.toNat),
    ("bus", r.bus.json), ("configuration", .array (r.configuration.map (·.json))),
    ("ff_effects_max", .int r.ffEffectsMax.toNat),
    ("abs_info", .ofMembers (r.axes.entries.map (fun e => (toString e.1, e.2.json)))),
    ("port", match r.port with
      | none => .null
      | some port => .string port)]

def RawEvent.json (e : RawEvent) : Value :=
  .ofMembers [
    ("type", .int e.type.toNat), ("code", .int e.code.toNat), ("value", .int e.value.toInt)]

end ScriptedInput

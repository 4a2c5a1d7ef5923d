import ScriptedInput.Event
import ScriptedInput.Script.LineFields
import ScriptedInput.Script.Lines

/-! The header of a recording: one line per property of the device, in any order, up to the first
event line. -/
namespace ScriptedInput

structure TimedEvent where
  timestamp : Nat
  event : RawEvent
  deriving DecidableEq, Repr

def TimedEvent.ofLine (line : Line) (body : List Char) : Except LineFault TimedEvent :=
  match lineFields 3 (beforeComment body) with
  | [time, type, code, value] => do
    let timestamp ← time.timestamp
    let type ← type.hex16 .eventType
    let code ← code.hex16 .eventCode
    let value ← value.int32 .eventValue
    return ⟨timestamp, ⟨type, code, value⟩⟩
  | _ => .error ⟨1, .eventFields line.string⟩

/-- The codes of the bits that are set in a mask whose first byte has this index, least significant
bit first. Codes have 16 bits. -/
def maskCodesFrom (index : Nat) : List UInt8 → List UInt16
  | [] => []
  | byte :: rest =>
    ((List.range 8).filter byte.toNat.testBit).map (fun bit => UInt16.ofNat (8 * index + bit)) ++
      maskCodesFrom (index + 1) rest

def maskCodes (mask : List UInt8) : List UInt16 := maskCodesFrom 0 mask

structure DeviceIds where
  bus : UInt16
  vendor : UInt16
  product : UInt16
  version : UInt16
  deriving DecidableEq, Repr

structure Header where
  name : Option String := none
  ids : Option DeviceIds := none
  properties : List UInt8 := []
  masks : CodeMap (List UInt8) := {}
  axes : CodeMap AbsInfo := {}
  deriving DecidableEq, Repr

namespace Header

/-- Recordings do not tell how many effects fit on a device with force feedback. -/
def defaultEffects : UInt32 := 16

def configuration (h : Header) : List ConfigEntry :=
  let ofMask (e : UInt16 × List UInt8) : Option ConfigEntry :=
    let codes := maskCodes e.2
    if codes.isEmpty then none
    else (Setter.ofEventType? e.1).map (fun setter => ⟨setter, codes⟩)
  let properties := maskCodes h.properties
  h.masks.entries.filterMap ofMask ++ if properties.isEmpty then [] else [⟨.propBit, properties⟩]

def registration (h : Header) : Except RecordingFault Registration :=
  match h.name, h.ids with
  | none, _ => .error .missingName
  | some _, none => .error .missingIds
  | some name, some ids =>
    let configuration := h.configuration
    .ok {
      name
      vendor := ids.vendor
      product := ids.product
      version := ids.version
      bus := .ofRaw ids.bus
      configuration
      ffEffectsMax := if configuration.any (·.setter = .ffBit) then defaultEffects else 0
      axes := h.axes
      port := none }

/-- A name line. The name is the whole of the line but for blanks around it. -/
def readName (h : Header) (body : List Char) : Except LineFault Header :=
  match Text.trim body with
  | [] => .error ⟨3, .emptyName⟩
  | name => .ok { h with name := some (String.ofList name) }

def readIds (h : Header) : List LineField → Except LineFault Header
  | [bus, vendor, product, version] => do
    let bus ← bus.hex16 .id
    let vendor ← vendor.hex16 .id
    let product ← product.hex16 .id
    let version ← version.hex16 .id
    return { h with ids := some ⟨bus, vendor, product, version⟩ }
  | _ => .error ⟨1, .idFields⟩

def readProperties (h : Header) (fields : List LineField) : Except LineFault Header := do
  let bytes ← fields.mapM (·.hex8 .propertyByte)
  return { h with properties := h.properties ++ bytes }

def readMask (h : Header) : List LineField → Except LineFault Header
  | [] => .error ⟨1, .maskFields⟩
  | type :: fields => do
    let type ← type.hex16 .eventType
    let bytes ← fields.mapM (·.hex8 .maskByte)
    return { h with masks := h.masks.insert type ((h.masks.get? type).getD [] ++ bytes) }

/-- An axis line calibrates an axis; a later line for the axis replaces an earlier one. -/
def readAxis (h : Header) : List LineField → Except LineFault Header
  | code :: minimum :: maximum :: fuzz :: flat :: more =>
    if 1 < more.length then .error ⟨1, .axisFields⟩
    else do
      let code ← code.hex16 .axisCode
      let minimum ← minimum.int32 .axisValue
      let maximum ← maximum.int32 .axisValue
      let fuzz ← fuzz.int32 .axisValue
      let flat ← flat.int32 .axisValue
      let resolution ← match more with
        | [] => pure 0
        | resolution :: _ => resolution.int32 .axisValue
      let info : AbsInfo := { minimum, maximum, fuzz, flat, resolution }
      return { h with axes := h.axes.insert code info }
  | _ => .error ⟨1, .axisFields⟩

inductive Step where
  | more (h : Header)
  /-- The first event line, which ends the header. -/
  | event (e : TimedEvent)

/-- One line. Its first character tells its kind and is followed by a colon; the state of lights and
switches is not replayed. -/
def step (h : Header) (line : Line) : Except LineFault Step :=
  match line.text with
  | tag :: ':' :: body =>
    let fields := lineFields 3 (beforeComment body)
    if tag = 'E' then (TimedEvent.ofLine line body).map .event
    else if tag = 'N' then (h.readName body).map .more
    else if tag = 'I' then (h.readIds fields).map .more
    else if tag = 'P' then (h.readProperties fields).map .more
    else if tag = 'B' then (h.readMask fields).map .more
    else if tag = 'A' then (h.readAxis fields).map .more
    else if tag = 'L' ∨ tag = 'S' then .ok (.more h)
    else if tag.utf8Size ≠ 1 ∨ tag = ':' then .error ⟨1, .unrecognized line.string⟩
    else .error ⟨1, .unexpectedTag tag⟩
  | _ => .error ⟨1, .unrecognized line.string⟩

end Header
end ScriptedInput

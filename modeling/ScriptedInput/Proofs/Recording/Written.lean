import Mathlib.Data.Nat.Bitwise
import ScriptedInput.Proofs.CodeMap
import ScriptedInput.Proofs.Recording.TextLines
import ScriptedInput.Proofs.Text.Numeral
import ScriptedInput.Script.Recording

/-! Writing recordings: what a recording tells of a device, and the text that tells it. -/
namespace ScriptedInput

/-- A set of codes, kept as the list of them in strictly ascending order. -/
structure CodeSet where
  codes : List UInt16 := []
  ascending : codes.Pairwise (· < ·) := by simp
  deriving DecidableEq, Repr

namespace CodeSet

def has (s : CodeSet) (n : Nat) : Bool := s.codes.any (·.toNat = n)

def width (s : CodeSet) : Nat :=
  match s.codes.getLast? with
  | none => 0
  | some code => code.toNat / 8 + 1

end CodeSet

/-- The bits for eight numbers each, the first for the least one. -/
def maskOf (has : Nat → Bool) (bytes : List Nat) : List UInt8 :=
  bytes.map (fun i => UInt8.ofNat (Nat.ofBits (fun bit : Fin 8 => has (8 * i + bit))))

/-- The little-endian mask of a set, with more bytes than needed. -/
def CodeSet.mask (s : CodeSet) (padding : Nat) : List UInt8 :=
  maskOf s.has (List.range (s.width + padding))

/-- The name of a recorded device: not empty, on one line, and without blanks around it. -/
structure DeviceName where
  text : String
  nonempty : text.toList ≠ []
  unbroken : '\n' ∉ text.toList
  trimmed : Text.trim text.toList = text.toList

structure AxisRange where
  minimum : Int32
  maximum : Int32
  fuzz : Int32
  flat : Int32
  resolution : Int32
  deriving DecidableEq, Repr

/-- Where the axis stands is not recorded. -/
def AxisRange.info (a : AxisRange) : AbsInfo :=
  { value := 0, minimum := a.minimum, maximum := a.maximum, fuzz := a.fuzz, flat := a.flat,
    resolution := a.resolution }

/-- A device and the events it emitted, each at a time in microseconds. -/
structure Recorded where
  name : DeviceName
  ids : DeviceIds
  /-- The codes that each setter is to enable. Those of `propBit` are the properties, all others
  belong to an event type. -/
  codes : Setter → CodeSet
  axes : CodeMap AxisRange
  events : List (UInt64 × RawEvent)

def maskTypes : List (UInt16 × Setter) :=
  [(0x00, .evBit), (0x01, .keyBit), (0x02, .relBit), (0x03, .absBit), (0x04, .mscBit),
   (0x05, .swBit), (0x11, .ledBit), (0x12, .sndBit), (0x15, .ffBit)]

/-- What the form of a recording leaves open: how many digits hexadecimal numbers have at least, how
many zero bytes more a mask has than it needs, and how many bytes of it each line takes. -/
structure Layout where
  idDigits : Nat := 4
  typeDigits : Nat := 2
  axisDigits : Nat := 2
  eventDigits : Nat := 4
  padding : Setter → Nat := fun _ => 0
  cuts : Setter → List Nat := fun _ => []

def pieces : List Nat → List UInt8 → List (List UInt8)
  | [], [] => []
  | [], bytes => [bytes]
  | n :: ns, bytes => bytes.take n :: pieces ns (bytes.drop n)

open Text.Numeral (written decimal)

def spaced (ws : List (List Char)) : List Char := ws.flatMap (' ' :: ·)

def taggedLine (tag : Char) (ws : List (List Char)) : List Char := tag :: ':' :: spaced ws

def maskWords (bytes : List UInt8) : List (List Char) := bytes.map (fun b => written 16 2 b.toNat)

def timeWord (micros : Nat) : List Char :=
  Nat.toDigits 10 (micros / 1000000) ++ '.' :: written 10 6 (micros % 1000000)

def idWords (digits : Nat) (ids : DeviceIds) : List (List Char) :=
  [ids.bus, ids.vendor, ids.product, ids.version].map (fun id => written 16 digits id.toNat)

def axisWords (digits : Nat) (code : UInt16) (a : AxisRange) : List (List Char) :=
  written 16 digits code.toNat ::
    [a.minimum, a.maximum, a.fuzz, a.flat, a.resolution].map (fun v => decimal v.toInt)

def eventWords (digits : Nat) (time : UInt64) (e : RawEvent) : List (List Char) :=
  [timeWord time.toNat, written 16 digits e.type.toNat, written 16 digits e.code.toNat,
    decimal e.value.toInt]

namespace Recorded
variable (r : Recorded) (w : Layout)

def nameLine : List Char := 'N' :: ':' :: ' ' :: r.name.text.toList

def idLine : List Char := taggedLine 'I' (idWords w.idDigits r.ids)

def maskPieces (s : Setter) : List (List UInt8) :=
  pieces (w.cuts s) ((r.codes s).mask (w.padding s))

def propertyLines : List (List Char) :=
  (r.maskPieces w .propBit).map (fun bytes => taggedLine 'P' (maskWords bytes))

def maskLines : List (List Char) :=
  maskTypes.flatMap (fun e => (r.maskPieces w e.2).map (fun bytes =>
    taggedLine 'B' (written 16 w.typeDigits e.1.toNat :: maskWords bytes)))

def axisLines : List (List Char) :=
  r.axes.entries.map (fun e => taggedLine 'A' (axisWords w.axisDigits e.1 e.2))

def eventLines : List (List Char) :=
  r.events.map (fun e => taggedLine 'E' (eventWords w.eventDigits e.1 e.2))

def headerLines : List (List Char) :=
  r.nameLine :: r.idLine w :: (r.propertyLines w ++ r.maskLines w ++ r.axisLines w)

def lines : List (List Char) := r.headerLines w ++ r.eventLines w

def text : String := String.ofList (linesText (r.lines w))

def timedEvents : List TimedEvent := r.events.map (fun e => ⟨e.1.toNat, e.2⟩)

def configured (s : Setter) : Option ConfigEntry :=
  if (r.codes s).codes = [] then none else some ⟨s, (r.codes s).codes⟩

/-- The registration of the recorded device: entries in the order of their event types, that of the
properties last, and as many effects as a device with force feedback is given. -/
def registration : Registration where
  name := r.name.text
  vendor := r.ids.vendor
  product := r.ids.product
  version := r.ids.version
  bus := .ofRaw r.ids.bus
  configuration := (maskTypes.map Prod.snd ++ [Setter.propBit]).filterMap r.configured
  ffEffectsMax := if (r.codes .ffBit).codes = [] then 0 else 16
  axes := r.axes.map AxisRange.info
  port := none

end Recorded
end ScriptedInput

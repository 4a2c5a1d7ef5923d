import ScriptedInput.Event
import ScriptedInput.Text.Utf8

/-! The requests of the uinput interface, their numbers and arguments, and the records that are read
from and written to its node. -/
namespace ScriptedInput.Uinput

def defaultPath : String := "/dev/uinput"

/-- The bytes of a name in a setup, the NUL at its end included. -/
def nameSize : Nat := 80

def feedbackType : UInt16 := 0x0101

def uploadCode : UInt16 := 1

def eraseCode : UInt16 := 2

/-- Force feedback codes below this play an effect. -/
def gainCode : UInt16 := 0x60

inductive Request where
  | devCreate
  | devDestroy
  | devSetup
  | absSetup
  | setBit (s : Setter)
  | setPhys
  | beginUpload
  | endUpload
  | beginErase
  | endErase
  deriving DecidableEq, Repr

namespace Request

def all : List Request :=
  [devCreate, devDestroy, devSetup, absSetup, setBit .evBit, setBit .keyBit, setBit .relBit,
   setBit .absBit, setBit .mscBit, setBit .ledBit, setBit .sndBit, setBit .ffBit, setPhys,
   setBit .swBit, setBit .propBit, beginUpload, endUpload, beginErase, endErase]

def name : Request → String
  | devCreate => "UI_DEV_CREATE"
  | devDestroy => "UI_DEV_DESTROY"
  | devSetup => "UI_DEV_SETUP"
  | absSetup => "UI_ABS_SETUP"
  | setBit s => s.name
  | setPhys => "UI_SET_PHYS"
  | beginUpload => "UI_BEGIN_FF_UPLOAD"
  | endUpload => "UI_END_FF_UPLOAD"
  | beginErase => "UI_BEGIN_FF_ERASE"
  | endErase => "UI_END_FF_ERASE"

/-- Whether the system writes and reads the argument: bit 0 for what it reads, bit 1 for what it
writes. -/
def direction : Request → Nat
  | devCreate => 0
  | devDestroy => 0
  | beginUpload => 3
  | beginErase => 3
  | _ => 1

def index : Request → Nat
  | devCreate => 1
  | devDestroy => 2
  | devSetup => 3
  | absSetup => 4
  | setBit s => s.controlCode
  | setPhys => 108
  | beginUpload => 200
  | endUpload => 201
  | beginErase => 202
  | endErase => 203

def size : Request → Nat
  | devCreate => 0
  | devDestroy => 0
  | devSetup => 92
  | absSetup => 28
  | setBit _ => 4
  | setPhys => 8
  | beginUpload => 104
  | endUpload => 104
  | beginErase => 12
  | endErase => 12

/-- A request's number holds its direction, the size of its argument, the letter U and its index. -/
def number (r : Request) : Nat :=
  r.direction * 0x40000000 + r.size * 0x10000 + 0x55 * 0x100 + r.index

end Request

structure Setup where
  bus : UInt16
  vendor : UInt16
  product : UInt16
  version : UInt16
  name : List UInt8
  ffEffectsMax : UInt32
  deriving DecidableEq, Repr

/-- A name cut so that a NUL follows it, and filled up with NULs. -/
def nameField (name : String) : List UInt8 :=
  let bytes := (Text.encode name).take (nameSize - 1)
  bytes ++ List.replicate (nameSize - bytes.length) 0

def Setup.ofRegistration (r : Registration) : Setup where
  bus := r.bus.raw
  vendor := r.vendor
  product := r.product
  version := r.version
  name := nameField r.name
  ffEffectsMax := r.ffEffectsMax

structure Feedback where
  request : UInt32
  result : Int32 := 0
  effect : Int := 0
  deriving DecidableEq, Repr

inductive Argument where
  | none
  | code (c : UInt16)
  | path (bytes : List UInt8)
  | setup (s : Setup)
  | axis (code : UInt16) (info : AbsInfo)
  | feedback (f : Feedback)
  deriving DecidableEq, Repr

def littleEndian : (size : Nat) → Nat → List UInt8
  | 0, _ => []
  | size + 1, n => UInt8.ofNat (n % 256) :: littleEndian size (n / 256)

/-- An event as it is written to the node: a time of zero, type, code and value. -/
def eventRecord (e : RawEvent) : List UInt8 :=
  List.replicate 16 0 ++ littleEndian 2 e.type.toNat ++ littleEndian 2 e.code.toNat ++
    littleEndian 4 e.value.toUInt32.toNat

def batchBytes (events : List RawEvent) : List UInt8 := events.flatMap eventRecord

end ScriptedInput.Uinput

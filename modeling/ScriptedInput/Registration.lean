import ScriptedInput.CodeMap

/-! What a virtual input device is created from: its name and ids, its bus, the capability bits to
set, the calibration of its absolute axes and its force feedback slots. -/
namespace ScriptedInput

abbrev DeviceId := Int32

inductive Bus where
  | usb
  | bluetooth
  | virtual
  | other (raw : UInt16)
  deriving DecidableEq, Repr, Inhabited

namespace Bus

def ofRaw (raw : UInt16) : Bus :=
  if raw = 3 then .usb
  else if raw = 5 then .bluetooth
  else if raw = 6 then .virtual
  else .other raw

def raw : Bus → UInt16
  | .usb => 3
  | .bluetooth => 5
  | .virtual => 6
  | .other raw => raw

end Bus

inductive Setter where
  | evBit | keyBit | relBit | absBit | mscBit | ledBit | sndBit | ffBit | swBit | propBit
  deriving DecidableEq, Repr

namespace Setter

def all : List Setter :=
  [.evBit, .keyBit, .relBit, .absBit, .mscBit, .ledBit, .sndBit, .ffBit, .swBit, .propBit]

def name : Setter → String
  | .evBit => "UI_SET_EVBIT"
  | .keyBit => "UI_SET_KEYBIT"
  | .relBit => "UI_SET_RELBIT"
  | .absBit => "UI_SET_ABSBIT"
  | .mscBit => "UI_SET_MSCBIT"
  | .ledBit => "UI_SET_LEDBIT"
  | .sndBit => "UI_SET_SNDBIT"
  | .ffBit => "UI_SET_FFBIT"
  | .swBit => "UI_SET_SWBIT"
  | .propBit => "UI_SET_PROPBIT"

/-- The number scripts write for a setter, which is also its number among the uinput requests. -/
def controlCode : Setter → Nat
  | .evBit => 100
  | .keyBit => 101
  | .relBit => 102
  | .absBit => 103
  | .mscBit => 104
  | .ledBit => 105
  | .sndBit => 106
  | .ffBit => 107
  | .swBit => 109
  | .propBit => 110

def ofControlCode? (code : Int) : Option Setter :=
  all.find? (fun s => (s.controlCode : Int) = code)

/-- The setter for the codes of an event type; some types have none. -/
def ofEventType? (type : UInt16) : Option Setter :=
  if type = 0x00 then some .evBit
  else if type = 0x01 then some .keyBit
  else if type = 0x02 then some .relBit
  else if type = 0x03 then some .absBit
  else if type = 0x04 then some .mscBit
  else if type = 0x05 then some .swBit
  else if type = 0x11 then some .ledBit
  else if type = 0x12 then some .sndBit
  else if type = 0x15 then some .ffBit
  else none

end Setter

structure ConfigEntry where
  setter : Setter
  codes : List UInt16
  deriving DecidableEq, Repr

structure AbsInfo where
  value : Int32 := 0
  minimum : Int32 := 0
  maximum : Int32 := 0
  fuzz : Int32 := 0
  flat : Int32 := 0
  resolution : Int32 := 0
  deriving DecidableEq, Repr, Inhabited

structure Registration where
  name : String
  vendor : UInt16
  product : UInt16
  version : UInt16 := 0
  bus : Bus := .usb
  configuration : List ConfigEntry := []
  ffEffectsMax : UInt32 := 0
  axes : CodeMap AbsInfo := {}
  port : Option String := none
  deriving DecidableEq, Repr

end ScriptedInput

import ScriptedInput.Registration

/-! The events of a script: one command each, addressed to one device. -/
namespace ScriptedInput

/-! Numbers of the input event interface that the replay itself looks at. -/
namespace EventType

def syn : UInt16 := 0x00
def key : UInt16 := 0x01
def rel : UInt16 := 0x02
def abs : UInt16 := 0x03
def ff : UInt16 := 0x15

end EventType

/-- The synchronisation code that ends a frame. -/
def synReport : UInt16 := 0x00

structure RawEvent where
  type : UInt16
  code : UInt16
  value : Int32
  deriving DecidableEq, Repr

def RawEvent.isSyncReport (e : RawEvent) : Bool := e.type = EventType.syn ∧ e.code = synReport

inductive Command where
  | register | inject | delay | sync
  deriving DecidableEq, Repr

namespace Command

def name : Command → String
  | .register => "REGISTER"
  | .inject => "INJECT"
  | .delay => "DELAY"
  | .sync => "SYNC"

def keyword : Command → String
  | .register => "register"
  | .inject => "inject"
  | .delay => "delay"
  | .sync => "sync"

/-- Scripts may write a command's name with ASCII letters of either case. -/
def ofName? (text : String) : Option Command :=
  [register, inject, delay, sync].find? (fun c => c.keyword = text.map Char.toLower)

end Command

inductive Action where
  | register (registration : Registration)
  | inject (events : List RawEvent)
  | delay (millis : UInt64)
  | sync (token : String)
  deriving DecidableEq, Repr

def Action.command : Action → Command
  | .register _ => .register
  | .inject _ => .inject
  | .delay _ => .delay
  | .sync _ => .sync

structure Event where
  id : DeviceId
  action : Action
  deriving DecidableEq, Repr

def Event.command (e : Event) : Command := e.action.command

end ScriptedInput

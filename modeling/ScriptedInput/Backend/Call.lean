import ScriptedInput.Device.Backend

/-! The calls a device replay makes to its back end, as data. -/
namespace ScriptedInput

inductive CallKind where
  | create | inject | delay | idle | sync | close
  deriving DecidableEq, Repr

namespace CallKind

def all : List CallKind := [create, inject, delay, idle, sync, close]

def name : CallKind → String
  | create => "create"
  | inject => "inject"
  | delay => "delay"
  | idle => "idle"
  | sync => "sync"
  | close => "close"

def ofName? (name : String) : Option CallKind := all.find? (fun k => k.name = name)

end CallKind

inductive Call where
  | create (id : DeviceId) (registration : Registration)
  | inject (id : DeviceId) (events : List RawEvent)
  | delay (id : DeviceId) (millis : UInt64)
  | idle (id : DeviceId)
  | sync (id : DeviceId) (token : String)
  | close (id : DeviceId)
  deriving DecidableEq, Repr

namespace Call

def kind : Call → CallKind
  | create _ _ => .create
  | inject _ _ => .inject
  | delay _ _ => .delay
  | idle _ => .idle
  | sync _ _ => .sync
  | close _ => .close

def id : Call → DeviceId
  | create id _ => id
  | inject id _ => id
  | delay id _ => id
  | idle id => id
  | sync id _ => id
  | close id => id

end Call
end ScriptedInput

import ScriptedInput.Device.Registry
import ScriptedInput.Script.Outcome

/-! Sessions: the devices created so far and the back end they were created on. Events are routed to
devices by number; a run ends with all devices closed, however it ends. -/
namespace ScriptedInput

structure Session (σ η : Type) where
  registry : Registry η := {}
  backend : σ

namespace Session
variable {σ η ε : Type}

def onBackend {α : Type} (x : Act σ (Entry ε) α) : Act (Session σ η) (Entry ε) α :=
  x.onPart (·.backend) (fun s backend => { s with backend })

def modifyRegistry (f : Registry η → Registry η) : Act (Session σ η) (Entry ε) Unit :=
  Act.modify (fun s => { s with registry := f s.registry })

/-- Creates a device and registers it. If its number is taken the new device is closed again. -/
def create (b : Backend σ η ε) (id : DeviceId) (r : Registration) :
    Act (Session σ η) (Entry ε) (Except ReplayError Unit) := do
  match ← onBackend (Device.create b id r) with
  | .error e => return .error e
  | .ok d =>
    match (← Act.get).registry.insert? d with
    | some registry => modifyRegistry (fun _ => registry)
    | none =>
      Act.log (.warning (.alreadyRegistered id))
      let _ ← onBackend (d.close b)
    return .ok ()

def register (b : Backend σ η ε) (e : Event) :
    Act (Session σ η) (Entry ε) (Except ReplayError Unit) :=
  match e.action with
  | .register r => create b e.id r
  | action => return .error (.notRegistration e.id action.command)

/-- Routes an event to its device. The first registration of a number creates the device; later
ones, and commands for numbers that are not registered, are left out with a warning. -/
def process (b : Backend σ η ε) (e : Event) :
    Act (Session σ η) (Entry ε) (Except ReplayError Unit) := do
  match (← Act.get).registry.get? e.id, e.action with
  | none, .register r => create b e.id r
  | none, action =>
    Act.log (.warning (.unknownDevice e.id action.command))
    return .ok ()
  | some _, .register _ =>
    Act.log (.warning (.alreadyRegistered e.id))
    return .ok ()
  | some d, .inject events => onBackend (d.inject b events)
  | some d, .sync token => onBackend (d.sync b token)
  | some d, .delay millis =>
    let (answer, d) ← onBackend (d.delay b millis)
    modifyRegistry (·.update d)
    return answer

def processAll (b : Backend σ η ε) (failure : Option ParseError) :
    List Delivery → Act (Session σ η) (Entry ε) (Except ReplayError Unit)
  | [] => return match failure with
    | none => .ok ()
    | some e => .error (.parse e)
  | d :: rest => do
    Act.logAll (d.warnings.map .warning)
    match ← process b d.event with
    | .error e => return .error e
    | .ok () => processAll b failure rest

def shutdown (b : Backend σ η ε) : Act (Session σ η) (Entry ε) Unit := do
  let registry ← onBackend ((← Act.get).registry.closeAll b)
  modifyRegistry (fun _ => registry)

def runFeed (b : Backend σ η ε) (f : Feed) :
    Act (Session σ η) (Entry ε) (Except ReplayError Unit) := do
  let answer ← processAll b f.failure f.deliveries
  shutdown b
  return answer

inductive Request where
  | run (f : Feed)
  | process (e : Event)
  | register (e : Event)
  | shutdown
  deriving DecidableEq, Repr

def perform (b : Backend σ η ε) : Request → Act (Session σ η) (Entry ε) (Except ReplayError Unit)
  | .run f => runFeed b f
  | .process e => process b e
  | .register e => register b e
  | .shutdown => do
    shutdown b
    return .ok ()

/-- Carries out requests in order, each whether or not those before it succeeded. -/
def performAll (b : Backend σ η ε) :
    List Request → Act (Session σ η) (Entry ε) (List (Except ReplayError Unit))
  | [] => return []
  | r :: rest => do
    let answer ← perform b r
    let answers ← performAll b rest
    return answer :: answers

def drop (b : Backend σ η ε) : Act (Session σ η) (Entry ε) Unit := shutdown b

def lifetime (b : Backend σ η ε) (requests : List Request) :
    Act (Session σ η) (Entry ε) (List (Except ReplayError Unit)) := do
  let answers ← performAll b requests
  drop b
  return answers

end Session
end ScriptedInput

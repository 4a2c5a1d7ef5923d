import ScriptedInput.Backend.Uinput.Node
import ScriptedInput.Device.Backend

/-! The uinput back end: devices are made by a fixed program of requests, batches are written to the
node, and requests for force feedback are answered whenever a device is attended to.

Reports go to standard output, which is assumed to take them all. A report that it refused would end its
call with that error, as a refused request to the node does; nothing here describes such a run. -/
namespace ScriptedInput
namespace Uinput

structure Handle where
  id : DeviceId
  /-- Only devices with effect slots are asked for force feedback. -/
  forceFeedback : Bool
  /-- Whether the device has not been destroyed. -/
  live : Bool := true
  deriving DecidableEq, Repr

def capabilityRequests (r : Registration) : List (Request × Argument) :=
  r.configuration.flatMap (fun e => e.codes.map (fun c => (.setBit e.setter, .code c)))

def axisRequests (r : Registration) : List (Request × Argument) :=
  r.axes.entries.map (fun e => (.absSetup, .axis e.1 e.2))

def portRequests (r : Registration) : List (Request × Argument) :=
  match r.port with
  | none => []
  | some port => [(.setPhys, .path (Text.encode port))]

def setupRequests (r : Registration) : List (Request × Argument) :=
  [(.devSetup, .setup (.ofRegistration r)), (.devCreate, .none)]

def portHasNul (r : Registration) : Bool :=
  match r.port with
  | none => false
  | some port => port.toList.any (·.toNat = 0)

def create (id : DeviceId) (r : Registration) : Act Node Effect (Except BackendError Handle) := do
  match (← Act.get).openFailure with
  | some errno => return .error (.os "open uinput" (.os errno))
  | none =>
    match ← Node.requestAll (capabilityRequests r ++ axisRequests r) with
    | .error e => return .error e
    | .ok () =>
      if portHasNul r then return .error (.rejected (.nulInPort (r.port.getD "")))
      else match ← Node.requestAll (portRequests r ++ setupRequests r) with
        | .error e => return .error e
        | .ok () => return .ok { id, forceFeedback := 0 < r.ffEffectsMax }

def gone (h : Handle) : BackendError := .rejected (.destroyed h.id)

def acknowledge (begins ends : Request) (wrap : Int → Int) (value : Int32) :
    Act Node Effect (Except BackendError Unit) := do
  let asked : Feedback := { request := value.toUInt32 }
  match ← Node.requestEffect begins asked with
  | .error e => return .error e
  | .ok effect => Node.request ends (.feedback { asked with effect := wrap effect })

def answer (h : Handle) (e : RawEvent) : Act Node Effect (Except BackendError Unit) :=
  if e.type = feedbackType ∧ e.code = uploadCode then
    acknowledge .beginUpload .endUpload (fun n => (Int16.ofInt n).toInt) e.value
  else if e.type = feedbackType ∧ e.code = eraseCode then
    acknowledge .beginErase .endErase (fun n => (UInt32.ofInt n).toNat) e.value
  else if e.type = EventType.ff ∧ e.code < gainCode then do
    -- By assumption the report is taken.
    Act.log (.report (.vibrating h.id e.code (e.value ≠ 0)))
    return .ok ()
  else return .ok ()

def serveFrom (h : Handle) : List ReadResult → Act Node Effect (Except BackendError Unit)
  | [] => do
    Act.modify (fun n => { n with reads := [] })
    return .ok ()
  | .short _ :: rest => do
    Act.modify (fun n => { n with reads := rest })
    return .ok ()
  | .error errno :: rest =>
    if errno = interrupted then serveFrom h rest
    else do
      Act.modify (fun n => { n with reads := rest })
      return if errno = tryAgain then .ok () else .error (.os "read uinput" (.os errno))
  | .event e :: rest => do
    Act.modify (fun n => { n with reads := rest })
    match ← answer h e with
    | .ok () => serveFrom h rest
    | .error e => return .error e

def serve (h : Handle) : Act Node Effect (Except BackendError Unit) :=
  if ¬ h.forceFeedback then return .ok ()
  else if ¬ h.live then return .error (gone h)
  else do serveFrom h (← Act.get).reads

def inject (h : Handle) (events : List RawEvent) : Act Node Effect (Except BackendError Unit) :=
  if ¬ h.live then return .error (gone h)
  else do
    match ← Node.writeAll (batchBytes events) with
    | .error e => return .error e
    | .ok () => serve h

def sync (h : Handle) (token : String) : Act Node Effect (Except BackendError Unit) := do
  match ← serve h with
  | .error e => return .error e
  | .ok () =>
    -- The same assumption as for reports on effects.
    Act.log (.report (.sync h.id token))
    return .ok ()

/-- Destroys a device once. The device is gone even if the system refuses. -/
def close (h : Handle) : Act Node Effect (Except BackendError Unit × Handle) :=
  if ¬ h.live then return (.ok (), h)
  else do
    match ← Node.request .devDestroy .none with
    | .ok () => return (.ok (), { h with live := false })
    | .error e =>
      Act.log (.destroyFailed h.id e)
      return (.error e, { h with live := false })

end Uinput

def uinput : Backend Uinput.Node Uinput.Handle Uinput.Effect where
  create := Uinput.create
  inject := Uinput.inject
  delay h _ := Uinput.serve h
  idle h := Uinput.serve h
  sync := Uinput.sync
  close := Uinput.close

end ScriptedInput

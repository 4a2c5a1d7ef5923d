import ScriptedInput.Device.Backend

/-! Handles as a back end gives them out, without devices around them: no call is held back, and
nothing is closed unless that is asked for. -/
namespace ScriptedInput

structure HandleTable (σ η : Type) where
  handles : List η := []
  backend : σ

namespace HandleTable
variable {σ η ε : Type}

def onBackend {α : Type} (x : Act σ ε α) : Act (HandleTable σ η) ε α :=
  x.onPart (·.backend) (fun table backend => { table with backend })

def create (b : Backend σ η ε) (id : DeviceId) (r : Registration) :
    Act (HandleTable σ η) ε (Except BackendError Unit) := do
  match ← onBackend (b.create id r) with
  | .error e => return .error e
  | .ok handle =>
    Act.modify (fun table => { table with handles := table.handles ++ [handle] })
    return .ok ()

def change (n : Nat) (call : η → Act σ ε (Except BackendError Unit × η)) :
    Act (HandleTable σ η) ε (Except BackendError Unit) := do
  match (← Act.get).handles[n]? with
  | none => return .error (.rejected .noHandle)
  | some handle =>
    let (answer, handle) ← onBackend (call handle)
    Act.modify (fun table => { table with handles := table.handles.set n handle })
    return answer

def call (n : Nat) (call : η → Act σ ε (Except BackendError Unit)) :
    Act (HandleTable σ η) ε (Except BackendError Unit) :=
  change n (fun handle => do return (← call handle, handle))

def close (b : Backend σ η ε) (n : Nat) : Act (HandleTable σ η) ε (Except BackendError Unit) :=
  change n b.close

inductive Request where
  | create (id : DeviceId) (r : Registration)
  | inject (n : Nat) (events : List RawEvent)
  | delay (n : Nat) (millis : UInt64)
  | idle (n : Nat)
  | sync (n : Nat) (token : String)
  | close (n : Nat)
  deriving DecidableEq, Repr

def perform (b : Backend σ η ε) : Request → Act (HandleTable σ η) ε (Except BackendError Unit)
  | .create id r => create b id r
  | .inject n events => call n (b.inject · events)
  | .delay n millis => call n (b.delay · millis)
  | .idle n => call n b.idle
  | .sync n token => call n (b.sync · token)
  | .close n => close b n

def performAll (b : Backend σ η ε) :
    List Request → Act (HandleTable σ η) ε (List (Except BackendError Unit))
  | [] => return []
  | r :: rest => do
    let answer ← perform b r
    let answers ← performAll b rest
    return answer :: answers

end HandleTable
end ScriptedInput

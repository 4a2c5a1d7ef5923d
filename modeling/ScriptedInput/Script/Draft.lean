import ScriptedInput.Script.CommandFault

/-! The fields of a command object by their shapes: which are there, and which hold numbers, texts
or records. What they mean is not looked at yet. -/
namespace ScriptedInput

def Scalar.inWord (n : Int) : Bool := -0x8000000000000000 ≤ n && n < 0x8000000000000000

def Scalar.ofValue : Json.Value → Except CommandFault Scalar
  | .number (.int n) => if inWord n then .ok (.int n) else .error .notScalar
  | .string s => .ok (.text s)
  | _ => .error .notScalar

namespace Draft

def string : Json.Value → Except CommandFault String
  | .string s => .ok s
  | v => .error (.mismatch (.ofValue v) .string)

def list {α : Type} (item : Json.Value → Except CommandFault α) :
    Json.Value → Except CommandFault (List α)
  | .array items => items.mapM item
  | v => .error (.mismatch (.ofValue v) .sequence)

/-- A field that is absent may also be null. -/
def optional {α : Type} (shape : Json.Value → Except CommandFault α) :
    Json.Value → Except CommandFault (Option α)
  | .null => .ok none
  | v => (shape v).map some

end Draft

structure ConfigDraft where
  type : Option Scalar := none
  data : List Scalar := []
  deriving DecidableEq, Repr

namespace ConfigDraft
open Draft

def set (d : ConfigDraft) (key : String) (v : Json.Value) : Except CommandFault ConfigDraft := do
  if key = "type" then return { d with type := ← optional Scalar.ofValue v }
  else if key = "data" then return { d with data := ← list Scalar.ofValue v }
  else return d

/-- An object, or an array of the type and, perhaps, the data. -/
def ofValue : Json.Value → Except CommandFault ConfigDraft
  | .object members => members.foldlM (fun d m => d.set m.1 m.2) {}
  | .array [] => .error (.tooShort 0 .configEntry)
  | .array [type] => ({} : ConfigDraft).set "type" type
  | .array (type :: data :: rest) => do
    let d ← ({} : ConfigDraft).set "type" type
    let d ← d.set "data" data
    if rest.isEmpty then return d else throw (.tooLong (rest.length + 2))
  | v => .error (.mismatch (.ofValue v) (.record .configEntry))

end ConfigDraft

structure AxisInfoDraft where
  value : Option Scalar := none
  minimum : Option Scalar := none
  maximum : Option Scalar := none
  fuzz : Option Scalar := none
  flat : Option Scalar := none
  resolution : Option Scalar := none
  deriving DecidableEq, Repr

namespace AxisInfoDraft
open Draft

def put (d : AxisInfoDraft) (f : AxisField) (s : Option Scalar) : AxisInfoDraft :=
  match f with
  | .value => { d with value := s }
  | .minimum => { d with minimum := s }
  | .maximum => { d with maximum := s }
  | .fuzz => { d with fuzz := s }
  | .flat => { d with flat := s }
  | .resolution => { d with resolution := s }

def set (d : AxisInfoDraft) (f : AxisField) (v : Json.Value) :
    Except CommandFault AxisInfoDraft := do
  return d.put f (← optional Scalar.ofValue v)

/-- An object, or an array of all six numbers in their order. -/
def ofValue : Json.Value → Except CommandFault AxisInfoDraft
  | .object members =>
    members.foldlM (fun d m =>
      match AxisField.all.find? (fun f => f.label = m.1) with
      | some f => d.set f m.2
      | none => .ok d) {}
  | .array items => do
    let d ← (AxisField.all.zip items).foldlM (fun d e => AxisInfoDraft.set d e.1 e.2) {}
    if items.length < 6 then throw (.tooShort items.length .axisInfo)
    else if 6 < items.length then throw (.tooLong items.length)
    else return d
  | v => .error (.mismatch (.ofValue v) (.record .axisInfo))

end AxisInfoDraft

structure AxisDraft where
  code : Option Scalar := none
  info : Option AxisInfoDraft := none
  deriving DecidableEq, Repr

namespace AxisDraft
open Draft

def set (d : AxisDraft) (key : String) (v : Json.Value) : Except CommandFault AxisDraft := do
  if key = "code" then return { d with code := ← optional Scalar.ofValue v }
  else if key = "info" then return { d with info := ← optional AxisInfoDraft.ofValue v }
  else return d

/-- An object, or an array of the code and the calibration. -/
def ofValue : Json.Value → Except CommandFault AxisDraft
  | .object members => members.foldlM (fun d m => d.set m.1 m.2) {}
  | .array [] => .error (.tooShort 0 .axisEntry)
  | .array [code] => do
    let _ ← ({} : AxisDraft).set "code" code
    throw (.tooShort 1 .axisEntry)
  | .array (code :: info :: rest) => do
    let d ← ({} : AxisDraft).set "code" code
    let d ← d.set "info" info
    if rest.isEmpty then return d else throw (.tooLong (rest.length + 2))
  | v => .error (.mismatch (.ofValue v) (.record .axisEntry))

end AxisDraft

/-- The fields of a command, those that are there. -/
structure Draft where
  id : Option Scalar := none
  command : Option String := none
  name : Option String := none
  vid : Option Scalar := none
  pid : Option Scalar := none
  version : Option Scalar := none
  bus : Option Scalar := none
  configuration : Option (List ConfigDraft) := none
  ffEffectsMax : Option Scalar := none
  absInfo : Option (List AxisDraft) := none
  port : Option String := none
  events : Option (List Scalar) := none
  duration : Option Scalar := none
  syncToken : Option String := none
  deriving DecidableEq, Repr

namespace Draft

def set (d : Draft) (f : Field) (v : Json.Value) : Except CommandFault Draft := do
  match f with
  | .id => return { d with id := ← optional Scalar.ofValue v }
  | .command => return { d with command := ← optional string v }
  | .name => return { d with name := ← optional string v }
  | .vid => return { d with vid := ← optional Scalar.ofValue v }
  | .pid => return { d with pid := ← optional Scalar.ofValue v }
  | .version => return { d with version := ← optional Scalar.ofValue v }
  | .bus => return { d with bus := ← optional Scalar.ofValue v }
  | .configuration =>
    return { d with configuration := ← optional (list ConfigDraft.ofValue) v }
  | .ffEffectsMax => return { d with ffEffectsMax := ← optional Scalar.ofValue v }
  | .absInfo => return { d with absInfo := ← optional (list AxisDraft.ofValue) v }
  | .port => return { d with port := ← optional string v }
  | .events => return { d with events := ← optional (list Scalar.ofValue) v }
  | .duration => return { d with duration := ← optional Scalar.ofValue v }
  | .syncToken => return { d with syncToken := ← optional string v }

/-- Takes in members one by one. A field may be spelled in one way only, even to say null. -/
def addMembers : List Field → Draft → List (String × Json.Value) → Except CommandFault Draft
  | _, d, [] => .ok d
  | seen, d, (key, v) :: rest =>
    match Field.ofKey? key with
    | none => addMembers seen d rest
    | some f =>
      if f ∈ seen then .error (.duplicate f)
      else do addMembers (f :: seen) (← d.set f v) rest

/-- The fields of a command object. Unknown members are left out. -/
def ofValue : Json.Value → Except CommandFault Draft
  | .object members => addMembers [] {} members
  | v => .error (.notObject (.ofValue v))

end Draft
end ScriptedInput

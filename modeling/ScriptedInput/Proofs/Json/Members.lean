import Mathlib.Data.List.Induction
import ScriptedInput.Json.Value
import ScriptedInput.Proofs.CodeMap
import ScriptedInput.Proofs.Json.ReadBack
import ScriptedInput.Proofs.Success

/-! Taking values apart: the members of an object by their keys, and numbers, texts and arrays by
shape. -/
namespace ScriptedInput.Json.Value

def at? : Value → String → Option Value
  | .object members, key => members.lookup key
  | _, _ => none

def string? : Value → Option String
  | .string s => some s
  | _ => none

@[simp] theorem string?_string (s : String) : string? (.string s) = some s := rfl

def optional? {α : Type} (shape : Value → Option α) : Value → Option (Option α)
  | .null => some none
  | v => (shape v).map some

def int? : Value → Option Int
  | .number (.int n) => some n
  | _ => none

def items? : Value → Option (List Value)
  | .array items => some items
  | _ => none

def members? : Value → Option Members
  | .object members => some members
  | _ => none

section
variable {α : Type}

def number? (ofInt : Int → α) (toInt : α → Int) (v : Value) : Option α :=
  v.int?.bind fun n => if toInt (ofInt n) = n then some (ofInt n) else none

private theorem number?_int {ofInt : Int → α} {toInt : α → Int} (inverse : ∀ a, ofInt (toInt a) = a)
    (a : α) : number? ofInt toInt (.int (toInt a)) = some a := by
  have read : (Value.int (toInt a)).int? = some (toInt a) := rfl
  rw [number?, read, Option.bind_some, inverse, if_pos rfl]

def uint16? : Value → Option UInt16 := number? (fun n => .ofNat n.toNat) (fun v => v.toNat)

def uint32? : Value → Option UInt32 := number? (fun n => .ofNat n.toNat) (fun v => v.toNat)

def uint64? : Value → Option UInt64 := number? (fun n => .ofNat n.toNat) (fun v => v.toNat)

def int32? : Value → Option Int32 := number? .ofInt Int32.toInt

@[simp] theorem uint16?_int (v : UInt16) : uint16? (.int v.toNat) = some v :=
  number?_int (fun _ => UInt16.ofNat_toNat) v

@[simp] theorem uint32?_int (v : UInt32) : uint32? (.int v.toNat) = some v :=
  number?_int (fun _ => UInt32.ofNat_toNat) v

@[simp] theorem uint64?_int (v : UInt64) : uint64? (.int v.toNat) = some v :=
  number?_int (fun _ => UInt64.ofNat_toNat) v

@[simp] theorem int32?_int (v : Int32) : int32? (.int v.toInt) = some v :=
  number?_int Int32.ofInt_toInt v

def read? (v : Value) (key : String) (shape : Value → Option α) : Option α := (v.at? key).bind shape

def list? (shape : Value → Option α) (v : Value) : Option (List α) := v.items?.bind (·.mapM shape)

@[simp] theorem list?_array {shape : Value → Option α} {json : α → Value}
    (read : ∀ a, shape (json a) = some a) (as : List α) :
    list? shape (.array (as.map json)) = some as :=
  mapM_map_pure read as

end

def arranged (members : Members) : Members :=
  members.foldl (fun ms m => insertAscending m.1 m.2 ms) []

theorem ofMembers_eq (members : Members) : ofMembers members = .object (arranged members) := rfl

@[simp] theorem string?_ofMembers (members : Members) : (ofMembers members).string? = none := rfl

private theorem arranged_concat (members : Members) (m : String × Value) :
    arranged (members ++ [m]) = insertAscending m.1 m.2 (arranged members) := by
  rw [arranged, List.foldl_append]
  rfl

private theorem ascending_arranged (members : Members) :
    (arranged members).Pairwise fun a b => a.1 < b.1 := by
  induction members using List.reverseRecOn with
  | nil => exact .nil
  | append_singleton members m ih =>
    rw [arranged_concat]
    refine ascending_insertAscending (fun _ _ _ => String.lt_trans) (fun a b le ne => ?_) ih m.2
    exact Std.lt_of_le_of_ne (String.not_lt.mp le) ne.symm

private theorem mem_of_mem_arranged {members : Members} {m : String × Value} (h : m ∈ arranged members) :
    m ∈ members := by
  induction members using List.reverseRecOn with
  | nil => exact h
  | append_singleton members last ih =>
    rw [arranged_concat] at h
    rcases mem_insertAscending h with rfl | h
    · simp
    · exact List.mem_append_left _ (ih h)

/-- The last member given for a key counts. -/
private theorem at?_ofMembers (members : Members) (key : String) :
    (ofMembers members).at? key = members.reverse.lookup key := by
  rw [ofMembers_eq, at?]
  induction members using List.reverseRecOn with
  | nil => rfl
  | append_singleton members m ih =>
    rw [arranged_concat, lookup_insertAscending, ih, List.reverse_append, List.reverse_singleton,
      List.singleton_append, lookup_cons_eq_ite]

@[simp] theorem read?_ofMembers {α : Type} (members : Members) (key : String)
    (shape : Value → Option α) :
    (ofMembers members).read? key shape = (members.reverse.lookup key).bind shape := by
  rw [read?, at?_ofMembers]

/-- Members with different keys are all kept. -/
theorem perm_arranged {members : Members} (distinct : (members.map Prod.fst).Nodup) :
    (arranged members).Perm members := perm_foldl_insertAscending [] distinct

/-- An object is plain if all that was given for it is. -/
theorem Plain.ofMembers {depth : Nat} {members : Members} (plain : ∀ m ∈ members, Plain depth m.2) :
    Plain (depth + 1) (ofMembers members) :=
  .object (ascending_arranged members) fun m hm => plain m (mem_of_mem_arranged hm)

end ScriptedInput.Json.Value

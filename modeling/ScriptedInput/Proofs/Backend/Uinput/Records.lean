import Mathlib.Algebra.Group.Nat.Defs
import Mathlib.Data.List.Basic
import ScriptedInput.Backend.Uinput.Request

/-! The records that events are written as: what is written for batches, cut into records, gives the
events of these batches again. -/
namespace ScriptedInput.Uinput

def recordSize : Nat := 24

/-- The number that bytes stand for, least significant first. -/
def ofLittleEndian : List UInt8 → Nat
  | [] => 0
  | b :: bs => b.toNat + 256 * ofLittleEndian bs

private theorem ofLittleEndian_littleEndian (size n : Nat) :
    ofLittleEndian (littleEndian size n) = n % 256 ^ size := by
  induction size generalizing n with
  | zero => rw [Nat.pow_zero, Nat.mod_one, littleEndian, ofLittleEndian]
  | succ size ih =>
    have low : (UInt8.ofNat (n % 256)).toNat = n % 256 :=
      UInt8.toNat_ofNat_of_lt' (Nat.mod_lt n (by decide))
    rw [littleEndian, ofLittleEndian, low, ih, Nat.pow_succ', Nat.mod_mul]

theorem ofLittleEndian_of_lt {size n : Nat} (h : n < 256 ^ size) :
    ofLittleEndian (littleEndian size n) = n := by
  rw [ofLittleEndian_littleEndian, Nat.mod_eq_of_lt h]

theorem length_littleEndian (size n : Nat) : (littleEndian size n).length = size := by
  induction size generalizing n with
  | zero => rfl
  | succ size ih => rw [littleEndian, List.length_cons, ih]

/-- The unsigned number of the same bits is the value in two's complement. -/
theorem toNat_toUInt32 (v : Int32) : (v.toUInt32.toNat : Int) = v.toInt % 0x100000000 := by
  have low : v.toUInt32.toNat < 0x100000000 := v.toUInt32.toNat_lt
  have signed : v.toInt = if 2 * v.toUInt32.toNat < 0x100000000 then (v.toUInt32.toNat : Int)
      else (v.toUInt32.toNat : Int) - 0x100000000 := v.toBitVec.toInt_eq_toNat_cond
  rw [signed]
  split <;> omega

def readRecord? (bytes : List UInt8) : Option RawEvent :=
  let fields := bytes.drop 16
  let later := fields.drop 2
  if bytes.take 16 = List.replicate 16 0 then some {
    type := .ofNat (ofLittleEndian (fields.take 2))
    code := .ofNat (ofLittleEndian (later.take 2))
    value := (UInt32.ofNat (ofLittleEndian (later.drop 2))).toInt32 }
  else none

def readRecords? (bytes : List UInt8) : Option (List RawEvent) :=
  if bytes.isEmpty then some []
  else if bytes.length < recordSize then none
  else do
    let first ← readRecord? (bytes.take recordSize)
    let rest ← readRecords? (bytes.drop recordSize)
    return first :: rest
termination_by bytes.length
decreasing_by
  simp only [List.length_drop, recordSize] at *
  omega

theorem length_eventRecord (e : RawEvent) : (eventRecord e).length = recordSize := by
  simp [eventRecord, length_littleEndian, recordSize]

private theorem readRecord?_eventRecord (e : RawEvent) : readRecord? (eventRecord e) = some e := by
  have type : e.type.toNat < 256 ^ 2 := e.type.toNat_lt
  have code : e.code.toNat < 256 ^ 2 := e.code.toNat_lt
  have value : e.value.toUInt32.toNat < 256 ^ 4 := e.value.toUInt32.toNat_lt
  have front (size n : Nat) (bs : List UInt8) :
      (littleEndian size n ++ bs).take size = littleEndian size n :=
    List.take_left' (length_littleEndian size n)
  have back (size n : Nat) (bs : List UInt8) : (littleEndian size n ++ bs).drop size = bs :=
    List.drop_left' (length_littleEndian size n)
  have time (bs : List UInt8) : (List.replicate 16 0 ++ bs).take 16 = List.replicate 16 0 :=
    List.take_left' List.length_replicate
  have fields (bs : List UInt8) : (List.replicate 16 0 ++ bs).drop 16 = bs :=
    List.drop_left' List.length_replicate
  simp only [readRecord?, eventRecord, List.append_assoc, time, fields, front, back, if_true,
    ofLittleEndian_of_lt type, ofLittleEndian_of_lt code, ofLittleEndian_of_lt value,
    UInt16.ofNat_toNat, UInt32.ofNat_toNat, Int32.toInt32_toUInt32]

/-- Whatever batches are written, the events are read back in order. -/
theorem readRecords?_batchBytes (events : List RawEvent) :
    readRecords? (batchBytes events) = some events := by
  induction events with
  | nil => simp [batchBytes, readRecords?]
  | cons e events ih =>
    have size := length_eventRecord e
    have bytes : batchBytes (e :: events) = eventRecord e ++ batchBytes events := rfl
    have enough : ¬ (batchBytes (e :: events)).length < recordSize := by
      rw [bytes, List.length_append, size]
      omega
    have more : ¬ (batchBytes (e :: events)).isEmpty := by
      intro none
      rw [List.isEmpty_iff.mp none] at enough
      exact enough (by decide)
    rw [readRecords?, if_neg more, if_neg enough, bytes, List.take_left' size,
      List.drop_left' size, readRecord?_eventRecord, ih]
    rfl

theorem batchBytes_flatMap {α : Type} (f : α → List RawEvent) (as : List α) :
    batchBytes (as.flatMap f) = as.flatMap fun a => batchBytes (f a) := List.flatMap_assoc

end ScriptedInput.Uinput

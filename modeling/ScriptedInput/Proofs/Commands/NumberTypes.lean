import ScriptedInput.Proofs.Commands.Fields

/-! The types of the numbers of an event. Whole numbers are narrowed to them exactly, or not at all. -/
namespace ScriptedInput

inductive NumberType where
  | uint16 | uint32 | uint64 | int32
  deriving DecidableEq, Repr

namespace NumberType

def low : NumberType → Int
  | uint16 | uint32 | uint64 => 0
  | int32 => -0x80000000

def high : NumberType → Int
  | uint16 => 0xffff
  | uint32 => 0xffffffff
  | uint64 => 0xffffffffffffffff
  | int32 => 0x7fffffff

def Holds (t : NumberType) (n : Int) : Prop := t.low ≤ n ∧ n ≤ t.high

instance (t : NumberType) (n : Int) : Decidable (t.Holds n) := inferInstanceAs (Decidable (_ ∧ _))

end NumberType

namespace Scalar
variable {n : Int} {place : Place}

private theorem within_int_eq_ok_iff {low high m : Int} :
    (int n).within low high place = .ok m ↔ (low ≤ n ∧ n ≤ high) ∧ n = m := by
  by_cases h : low ≤ n ∧ n ≤ high
  · simp [within_int h, h]
  · simp [within, resolve, bind, Except.bind, h]

/-- What a whole number is narrowed to is the number itself. -/
private theorem eq_of_narrowed {α : Type} (toInt : α → Int) {ofInt : Int → α} {low high : Int} {v : α}
    (inverse : low ≤ n → n ≤ high → toInt (ofInt n) = n)
    (h : ((int n).within low high place).map ofInt = .ok v) : toInt v = n := by
  obtain ⟨m, within, rfl⟩ := map_eq_ok_iff.mp h
  obtain ⟨bounds, rfl⟩ := within_int_eq_ok_iff.mp within
  exact inverse bounds.1 bounds.2

theorem uint16_int_eq_ok_iff {v : UInt16} : (int n).uint16 place = .ok v ↔ (v.toNat : Int) = n :=
  ⟨eq_of_narrowed (fun v : UInt16 => (v.toNat : Int)) fun low high => by
    simp only [UInt16.toNat_ofNat']; omega, by rintro rfl; exact uint16_toNat v place⟩

theorem uint32_int_eq_ok_iff {v : UInt32} : (int n).uint32 place = .ok v ↔ (v.toNat : Int) = n :=
  ⟨eq_of_narrowed (fun v : UInt32 => (v.toNat : Int)) fun low high => by
    simp only [UInt32.toNat_ofNat']; omega, by rintro rfl; exact uint32_toNat v place⟩

theorem uint64_int_eq_ok_iff {v : UInt64} : (int n).uint64 place = .ok v ↔ (v.toNat : Int) = n :=
  ⟨eq_of_narrowed (fun v : UInt64 => (v.toNat : Int)) fun low high => by
    simp only [UInt64.toNat_ofNat']; omega, by rintro rfl; exact uint64_toNat v place⟩

theorem int32_int_eq_ok_iff {v : Int32} : (int n).int32 place = .ok v ↔ v.toInt = n :=
  ⟨eq_of_narrowed Int32.toInt fun low high => Int32.toInt_ofInt_of_le (by omega) (by omega),
    by rintro rfl; exact int32_toInt v place⟩

/-- A whole number is accepted where it is of the type that is called for. -/
theorem exists_uint16_iff : (∃ v, (int n).uint16 place = .ok v) ↔ NumberType.uint16.Holds n := by
  simp [uint16, map_eq_ok_iff, within_int_eq_ok_iff, NumberType.Holds, NumberType.low, NumberType.high]

theorem exists_uint32_iff : (∃ v, (int n).uint32 place = .ok v) ↔ NumberType.uint32.Holds n := by
  simp [uint32, map_eq_ok_iff, within_int_eq_ok_iff, NumberType.Holds, NumberType.low, NumberType.high]

theorem exists_uint64_iff : (∃ v, (int n).uint64 place = .ok v) ↔ NumberType.uint64.Holds n := by
  simp [uint64, map_eq_ok_iff, within_int_eq_ok_iff, NumberType.Holds, NumberType.low, NumberType.high]

theorem exists_int32_iff : (∃ v, (int n).int32 place = .ok v) ↔ NumberType.int32.Holds n := by
  simp [int32, map_eq_ok_iff, within_int_eq_ok_iff, NumberType.Holds, NumberType.low, NumberType.high]

theorem bus_int_eq_ok_iff {bus : Bus} :
    (int n).bus = .ok bus ↔ ∃ raw : UInt16, (raw.toNat : Int) = n ∧ Bus.ofRaw raw = bus := by
  simp only [Scalar.bus, map_eq_ok_iff, uint16_int_eq_ok_iff]

end Scalar
namespace NumberType

theorem holds_uint16 (v : UInt16) : uint16.Holds v.toNat :=
  Scalar.exists_uint16_iff.mp ⟨v, Scalar.uint16_toNat v .setterData⟩

theorem holds_int32 (v : Int32) : int32.Holds v.toInt :=
  Scalar.exists_int32_iff.mp ⟨v, Scalar.int32_toInt v .setterData⟩

end NumberType

end ScriptedInput

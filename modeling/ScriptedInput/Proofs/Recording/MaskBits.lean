import Mathlib.Data.List.Nodup
import Mathlib.Data.List.Sort
import ScriptedInput.Script.Header

/-! The bits of a mask and the codes that they are read as. Codes have 16 bits, so that the bits from
65536 on have none of their own: they are read as the codes of other bits. -/
namespace ScriptedInput

/-- The bit of a mask that has this number. Bits are counted from the least significant one of the first
byte, and behind the last byte there are none. -/
def maskBit (mask : List UInt8) (n : Nat) : Bool := mask[n / 8]?.any (·.toNat.testBit (n % 8))

private theorem maskBit_iff {mask : List UInt8} {n : Nat} :
    maskBit mask n ↔ ∃ byte, mask[n / 8]? = some byte ∧ byte.toNat.testBit (n % 8) := by
  rw [maskBit, Option.any_eq_true]

/-- Bits lie within the mask. -/
private theorem lt_of_maskBit {mask : List UInt8} {n : Nat} (h : maskBit mask n) :
    n < 8 * mask.length := by
  obtain ⟨byte, inside, -⟩ := maskBit_iff.mp h
  obtain ⟨low, -⟩ := List.getElem?_eq_some_iff.mp inside
  omega

private theorem maskBit_cons_of_lt (byte : UInt8) (mask : List UInt8) {n : Nat} (h : n < 8) :
    maskBit (byte :: mask) n = byte.toNat.testBit n := by
  rw [maskBit, Nat.div_eq_of_lt h, Nat.mod_eq_of_lt h, List.getElem?_cons_zero, Option.any_some]

private theorem maskBit_cons_add (byte : UInt8) (mask : List UInt8) (n : Nat) :
    maskBit (byte :: mask) (8 + n) = maskBit mask n := by
  have index : (8 + n) / 8 = n / 8 + 1 := by omega
  rw [maskBit, maskBit, index, Nat.add_mod_left, List.getElem?_cons_succ]

def setBits (mask : List UInt8) : List Nat := (List.range (8 * mask.length)).filter (maskBit mask)

private theorem mem_setBits {mask : List UInt8} {n : Nat} : n ∈ setBits mask ↔ maskBit mask n := by
  rw [setBits, List.mem_filter, List.mem_range]
  exact ⟨And.right, fun h => ⟨lt_of_maskBit h, h⟩⟩

private theorem setBits_ascending (mask : List UInt8) : (setBits mask).Pairwise (· < ·) :=
  List.pairwise_lt_range.filter _

/-- The bits of the first byte come first, and those of the others are eight further on. -/
private theorem setBits_cons (byte : UInt8) (mask : List UInt8) :
    setBits (byte :: mask) =
      (List.range 8).filter byte.toNat.testBit ++ (setBits mask).map (8 + ·) := by
  have bits : List.range (8 * (byte :: mask).length) =
      List.range 8 ++ (List.range (8 * mask.length)).map (8 + ·) := by
    rw [List.length_cons, Nat.mul_succ, Nat.add_comm, List.range_add]
  have first : (List.range 8).filter (maskBit (byte :: mask)) =
      (List.range 8).filter byte.toNat.testBit :=
    List.filter_congr fun n hn => maskBit_cons_of_lt byte mask (List.mem_range.mp hn)
  have others : (List.range (8 * mask.length)).filter (maskBit (byte :: mask) ∘ (8 + ·)) =
      setBits mask :=
    List.filter_congr fun n _ => maskBit_cons_add byte mask n
  rw [setBits, bits, List.filter_append, first, List.filter_map, others]

private theorem maskCodesFrom_eq (index : Nat) (mask : List UInt8) :
    maskCodesFrom index mask = (setBits mask).map fun n => UInt16.ofNat (8 * index + n) := by
  induction mask generalizing index with
  | nil => rfl
  | cons byte mask ih =>
    rw [maskCodesFrom, ih, setBits_cons, List.map_append, List.map_map]
    congr 2
    funext n
    congr 1
    show 8 * (index + 1) + n = 8 * index + (8 + n)
    omega

/-- A mask is read as its bits, one after the other, each with the 16 bits of its number. -/
private theorem maskCodes_eq (mask : List UInt8) : maskCodes mask = (setBits mask).map UInt16.ofNat := by
  rw [maskCodes, maskCodesFrom_eq]
  simp only [Nat.mul_zero, Nat.zero_add]

/-- A mask is read as the codes of its bits, each once and in ascending order. -/
structure DecodesExactly (mask : List UInt8) : Prop where
  ascending : (maskCodes mask).Pairwise (· < ·)
  mem_iff : ∀ c, c ∈ maskCodes mask ↔
    ∃ byte, mask[c.toNat / 8]? = some byte ∧ byte.toNat.testBit (c.toNat % 8)

/-- With no bit beyond the last code, the numbers of the bits are the codes. -/
private theorem decodesExactly_of_lt {mask : List UInt8} (low : ∀ n, maskBit mask n → n < UInt16.size) :
    DecodesExactly mask where
  ascending := by
    rw [maskCodes_eq, List.pairwise_map]
    refine (setBits_ascending mask).imp_of_mem fun {m n} hm hn less => ?_
    rw [UInt16.lt_iff_toNat_lt, UInt16.toNat_ofNat_of_lt' (low m (mem_setBits.mp hm)),
      UInt16.toNat_ofNat_of_lt' (low n (mem_setBits.mp hn))]
    exact less
  mem_iff c := by
    rw [← maskBit_iff, ← mem_setBits, maskCodes_eq, List.mem_map]
    constructor
    · rintro ⟨n, hn, rfl⟩
      rwa [UInt16.toNat_ofNat_of_lt' (low n (mem_setBits.mp hn))]
    · exact fun hc => ⟨c.toNat, hc, UInt16.ofNat_toNat⟩

theorem decodesExactly_of_length_le {mask : List UInt8} (short : mask.length ≤ 8192) :
    DecodesExactly mask := by
  refine decodesExactly_of_lt fun n set => ?_
  have inside := lt_of_maskBit set
  have size : UInt16.size = 65536 := rfl
  omega

/-- A bit beyond the last code is read as the code of another bit. If that one is not set the code is one
too many, and if it is set the code is there twice. -/
private theorem DecodesExactly.lt {mask : List UInt8} (h : DecodesExactly mask) {n : Nat}
    (set : maskBit mask n) : n < UInt16.size := by
  have codes := maskCodes_eq mask
  have read : UInt16.ofNat n ∈ maskCodes mask := by
    rw [codes]
    exact List.mem_map_of_mem (mem_setBits.mpr set)
  have other : maskBit mask (UInt16.ofNat n).toNat := maskBit_iff.mpr ((h.mem_iff _).mp read)
  have once : ((setBits mask).map UInt16.ofNat).Nodup := by
    rw [← codes]
    exact h.ascending.imp UInt16.ne_of_lt
  have same : (UInt16.ofNat n).toNat = n :=
    List.inj_on_of_nodup_map once (mem_setBits.mpr other) (mem_setBits.mpr set) UInt16.ofNat_toNat
  rw [← same]
  exact UInt16.toNat_lt_size _

/-- A mask of any length is read as the numbers of its bits in ascending order, of which codes keep the
lower 16 bits. So it is decoded exactly if, and only if, no bit is set that has no code of its own. -/
theorem mask_decoded (mask : List UInt8) :
    maskCodes mask = ((List.range (8 * mask.length)).filter (maskBit mask)).map UInt16.ofNat ∧
      (DecodesExactly mask ↔ ∀ n, maskBit mask n → n < UInt16.size) :=
  ⟨maskCodes_eq mask, fun h _ => h.lt, decodesExactly_of_lt⟩

def overlongMask : List UInt8 := List.replicate 8192 0 ++ [1]

private theorem maskBit_overlongMask : maskBit overlongMask 65536 := by
  have last : overlongMask[8192]? = some 1 := by
    rw [overlongMask, List.getElem?_append_right (by rw [List.length_replicate]), List.length_replicate]
    rfl
  exact maskBit_iff.mpr ⟨1, last, rfl⟩

/-- The overlong mask is read as code 0, which it has no bit for. -/
theorem overlongMask_misread : 0 ∈ maskCodes overlongMask ∧ ¬ maskBit overlongMask 0 ∧
    ¬ DecodesExactly overlongMask := by
  refine ⟨?_, ?_, fun exactly => ?_⟩
  · rw [maskCodes_eq, List.mem_map]
    exact ⟨65536, mem_setBits.mpr maskBit_overlongMask, rfl⟩
  · rw [maskBit_iff]
    rintro ⟨byte, first, set⟩
    rw [overlongMask, List.getElem?_append_left (by rw [List.length_replicate]; decide),
      List.getElem?_replicate_of_lt (by decide)] at first
    obtain rfl : 0 = byte := Option.some.inj first
    exact absurd set (by decide)
  · exact absurd (exactly.lt maskBit_overlongMask) (by decide)

end ScriptedInput

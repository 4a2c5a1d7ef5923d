import Mathlib.Data.List.Basic
import ScriptedInput.Text.Utf8

/-! The bytes of texts: they stand for the text again, and those below 128 are characters by
themselves. -/
namespace ScriptedInput.Text

def bytesOf (cs : List Char) : List UInt8 := cs.flatMap String.utf8EncodeChar

theorem encode_ofList (cs : List Char) : encode (String.ofList cs) = bytesOf cs := by
  rw [encode, String.toList_ofList, bytesOf]

@[simp] theorem bytesOf_nil : bytesOf [] = [] := rfl

@[simp] theorem bytesOf_append (cs ds : List Char) :
    bytesOf (cs ++ ds) = bytesOf cs ++ bytesOf ds := List.flatMap_append

theorem bytesOf_cons (c : Char) (cs : List Char) :
    bytesOf (c :: cs) = String.utf8EncodeChar c ++ bytesOf cs := rfl

theorem bytesOf_toList (s : String) : bytesOf s.toList = s.toByteArray.data.toList := by
  have bytes : (String.ofList s.toList).toByteArray = (bytesOf s.toList).toByteArray :=
    String.toByteArray_ofList
  rw [String.ofList_toList] at bytes
  rw [bytes, List.toList_data_toByteArray]

/-- A text is encoded so that it can be decoded. -/
theorem decode?_bytesOf (cs : List Char) : decode? (bytesOf cs) = some (String.ofList cs) := by
  have bytes : (bytesOf cs).toByteArray = (String.ofList cs).toByteArray :=
    String.toByteArray_ofList.symm
  rw [decode?, bytes, String.fromUTF8?, dif_pos (String.ofList cs).isValidUTF8]
  rfl

theorem utf8EncodeChar_of_lt {c : Char} (h : c.toNat < 128) :
    String.utf8EncodeChar c = [UInt8.ofNat c.toNat] := by
  have small : c.val.toNat ≤ 0x7f := Nat.le_of_lt_succ h
  rw [String.utf8EncodeChar, if_pos small]
  rfl

private theorem utf8EncodeChar_ne_nil (c : Char) : String.utf8EncodeChar c ≠ [] := by
  have size := c.utf8Size_pos
  exact List.ne_nil_of_length_pos (by simpa using size)

/-- Characters beyond the first 128 have no byte in common with these. -/
private theorem le_of_mem_utf8EncodeChar {c : Char} (h : 128 ≤ c.toNat) {b : UInt8}
    (hb : b ∈ String.utf8EncodeChar c) : 128 ≤ b.toNat := by
  have large : ¬ c.val.toNat ≤ 0x7f := by
    have : c.toNat = c.val.toNat := rfl
    omega
  have high {n m : Nat} (hm : 128 ≤ m) (hn : n + m < 256) : 128 ≤ (UInt8.ofNat (n + m)).toNat := by
    rw [UInt8.toNat_ofNat_of_lt' hn]
    omega
  rw [String.utf8EncodeChar, if_neg large] at hb
  -- By the number of bytes: each is a mark of at least 128 plus some bits of the character.
  split_ifs at hb <;> simp only [List.mem_cons, List.not_mem_nil, or_false] at hb
  · rcases hb with rfl | rfl <;> exact high (by omega) (by omega)
  · rcases hb with rfl | rfl | rfl <;> exact high (by omega) (by omega)
  · rcases hb with rfl | rfl | rfl | rfl <;> exact high (by omega) (by omega)

/-- Each byte of a character is the character itself or none of the first 128. -/
theorem toNat_of_mem_utf8EncodeChar {c : Char} {b : UInt8} (hb : b ∈ String.utf8EncodeChar c) :
    b.toNat = c.toNat ∨ 128 ≤ b.toNat := by
  by_cases hc : c.toNat < 128
  · rw [utf8EncodeChar_of_lt hc, List.mem_singleton] at hb
    left
    rw [hb, UInt8.toNat_ofNat_of_lt' (Nat.lt_trans hc (by decide))]
  · exact .inr (le_of_mem_utf8EncodeChar (by omega) hb)

/-- The bytes of a text are those that it was decoded from. -/
theorem bytesOf_of_decode? {bs : List UInt8} {s : String} (h : decode? bs = some s) :
    bytesOf s.toList = bs := by
  unfold decode? String.fromUTF8? at h
  split at h
  · next valid =>
    have same : s.toByteArray = bs.toByteArray := by rw [← Option.some.inj h]; rfl
    have bytes : (bytesOf s.toList).toByteArray = (String.ofList s.toList).toByteArray :=
      String.toByteArray_ofList.symm
    rw [String.ofList_toList, same] at bytes
    exact List.toByteArray_inj.mp bytes
  · cases h

/-- A byte below 128 at the front is the first character. -/
theorem cons_of_bytesOf {cs : List Char} {b : UInt8} {bs : List UInt8} (h : bytesOf cs = b :: bs)
    (small : b.toNat < 128) : ∃ c rest, cs = c :: rest ∧ c.toNat = b.toNat ∧ bytesOf rest = bs := by
  cases cs with
  | nil => simp at h
  | cons c rest =>
    rw [bytesOf_cons] at h
    have front : b ∈ String.utf8EncodeChar c := by
      cases he : String.utf8EncodeChar c with
      | nil => exact absurd he (utf8EncodeChar_ne_nil c)
      | cons b' bs' =>
        rw [he, List.cons_append] at h
        rw [(List.cons.inj h).1]
        exact List.mem_cons_self
    have same : b.toNat = c.toNat := by
      rcases toNat_of_mem_utf8EncodeChar front with same | large
      · exact same
      · omega
    rw [utf8EncodeChar_of_lt (same ▸ small), List.singleton_append] at h
    exact ⟨c, rest, rfl, same.symm, (List.cons.inj h).2⟩

/-- Bytes below 128 are the characters that they encode. -/
theorem eq_map_of_bytesOf {cs : List Char} {bs : List UInt8} (h : bytesOf cs = bs)
    (small : ∀ b ∈ bs, b < 128) : cs = bs.map fun b => Char.ofNat b.toNat := by
  induction bs generalizing cs with
  | nil =>
    cases cs with
    | nil => rfl
    | cons c cs =>
      rw [bytesOf_cons] at h
      exact absurd (List.append_eq_nil_iff.mp h).1 (utf8EncodeChar_ne_nil c)
  | cons b bs ih =>
    obtain ⟨front, later⟩ := List.forall_mem_cons.mp small
    obtain ⟨c, rest, rfl, same, more⟩ := cons_of_bytesOf h (UInt8.lt_iff_toNat_lt.mp front)
    rw [List.map_cons, ← same, Char.ofNat_toNat, ← ih more later]

/-- A line feed behind bytes is decoded by itself. -/
theorem decode?_append_feed (raw : List UInt8) :
    decode? (raw ++ [10]) = (decode? raw).map fun s => String.ofList (s.toList ++ ['\n']) := by
  have feed : bytesOf ['\n'] = [10] := by decide
  cases front : decode? raw with
  | some s =>
    have bytes := bytesOf_of_decode? front
    rw [← bytes, ← feed, ← bytesOf_append, decode?_bytesOf]
    rfl
  | none =>
    rw [Option.map_none, Option.eq_none_iff_forall_ne_some]
    intro t whole
    have bytes := bytesOf_of_decode? whole
    rcases List.eq_nil_or_concat t.toList with none | ⟨cs, c, parts⟩
    · rw [none] at bytes
      simp at bytes
    · rw [parts, List.concat_eq_append, bytesOf_append] at bytes
      have some : bytesOf [c] ≠ [] := by simp [bytesOf]
      have last : 10 ∈ bytesOf [c] := by
        have ends := congrArg List.getLast? bytes
        rw [List.getLast?_append_of_ne_nil _ some, List.getLast?_append_of_ne_nil _ (by simp)] at ends
        exact List.mem_of_getLast? ends
      rw [bytesOf, List.flatMap_singleton] at last
      obtain rfl : c = '\n' := by
        rcases toNat_of_mem_utf8EncodeChar last with number | other
        · exact Char.ext (UInt32.toNat_inj.mp number.symm)
        · exact absurd other (by decide)
      rw [feed] at bytes
      have whole := decode?_bytesOf cs
      rw [List.append_cancel_right bytes, front] at whole
      cases whole

end ScriptedInput.Text

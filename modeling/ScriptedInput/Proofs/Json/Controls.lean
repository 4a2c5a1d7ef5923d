import ScriptedInput.Proofs.Json.ReadBack
import ScriptedInput.Proofs.Text.Numeral
import ScriptedInput.Proofs.Text.Utf8

/-! Written values hold no controls, whatever the strings in them hold. So a value is written on one
line. -/
namespace ScriptedInput.Json

def Uncontrolled (cs : List Char) : Prop := ∀ c ∈ cs, 32 ≤ c.toNat

instance (cs : List Char) : Decidable (Uncontrolled cs) := List.decidableBAll _ cs

namespace Uncontrolled
variable {cs ds : List Char}

private theorem append (hc : Uncontrolled cs) (hd : Uncontrolled ds) : Uncontrolled (cs ++ ds) :=
  List.forall_mem_append.mpr ⟨hc, hd⟩

private theorem cons {c : Char} (hc : 32 ≤ c.toNat) (hd : Uncontrolled ds) : Uncontrolled (c :: ds) :=
  List.forall_mem_cons.mpr ⟨hc, hd⟩

private theorem toDigits {b : Nat} (h1 : 1 < b) (hb : b ≤ 16) (n : Nat) :
    Uncontrolled (Nat.toDigits b n) := by
  intro c hc
  obtain ⟨d, hd, rfl⟩ := Text.Numeral.exists_of_mem_toDigits h1 hc
  have digits : ∀ d < 16, 32 ≤ d.digitChar.toNat := by decide
  exact digits d (by omega)

/-- Controls are escaped. -/
private theorem stringChar (c : Char) : Uncontrolled (stringChar c) := by
  have digits : Uncontrolled (Text.hexDigits c.toNat) := toDigits (by decide) (by decide) c.toNat
  unfold Json.stringChar
  split_ifs
  any_goals decide
  · exact .append (by decide) digits
  · exact .append (by decide) digits
  · exact .cons (by omega) nofun

private theorem stringText (s : String) : Uncontrolled (stringText s) := by
  refine .cons (by decide) (.append ?_ (by decide))
  intro c hc
  obtain ⟨d, -, hd⟩ := List.mem_flatMap.mp hc
  exact stringChar d c hd

private theorem itemTexts {items : List Value} (h : ∀ v ∈ items, Uncontrolled v.text) :
    Uncontrolled (Value.itemTexts items) := by
  induction items with
  | nil =>
    rw [Value.itemTexts]
    exact List.forall_mem_nil _
  | cons v items ih =>
    obtain ⟨first, rest⟩ := List.forall_mem_cons.mp h
    cases items with
    | nil => rwa [Value.itemTexts]
    | cons w items =>
      rw [Value.itemTexts]
      exact first.append (.cons (by decide) (ih rest))

private theorem memberTexts {members : Members} (h : ∀ m ∈ members, Uncontrolled m.2.text) :
    Uncontrolled (Value.memberTexts members) := by
  induction members with
  | nil =>
    rw [Value.memberTexts]
    exact List.forall_mem_nil _
  | cons m members ih =>
    obtain ⟨first, rest⟩ := List.forall_mem_cons.mp h
    have written := (stringText m.1).append (.cons (c := ':') (by decide) first)
    cases members with
    | nil =>
      rw [Value.memberTexts]
      exact written
    | cons m' members =>
      rw [Value.memberTexts]
      exact written.append (.cons (by decide) (ih rest))

theorem text {depth : Nat} {v : Value} (h : v.Plain depth) : Uncontrolled v.text := by
  induction h with
  | null =>
    rw [Value.text]
    decide
  | bool b =>
    rw [Value.text]
    cases b <;> decide
  | @int _ n _ _ =>
    rw [Value.int, Value.text]
    cases n with
    | ofNat n => exact toDigits (by decide) (by decide) n
    | negSucc n => exact .cons (by decide) (toDigits (by decide) (by decide) (n + 1))
  | string s =>
    rw [Value.text]
    exact stringText s
  | array _ ih =>
    rw [Value.text]
    exact .cons (by decide) ((itemTexts ih).append (by decide))
  | object _ _ ih =>
    rw [Value.text]
    exact .cons (by decide) ((memberTexts ih).append (by decide))

/-- No byte of such a text is a control either. -/
theorem le_of_mem_bytesOf (h : Uncontrolled cs) {b : UInt8} (hb : b ∈ Text.bytesOf cs) :
    32 ≤ b.toNat := by
  obtain ⟨c, hc, hb⟩ := List.mem_flatMap.mp hb
  have := h c hc
  have := Text.toNat_of_mem_utf8EncodeChar hb
  omega

end Uncontrolled
end ScriptedInput.Json

import ScriptedInput.Json.Reader

/-! What the reader can give: arrays that have no more items than their text has bytes, and, where a
value ends only before the next byte, one that is neither an array nor an object. -/
namespace ScriptedInput.Json

namespace Value

def weight : Value → Nat
  | .array items => items.length
  | .null | .bool _ | .number _ | .string _ | .object _ => 0

def IsScalar : Value → Prop
  | .array _ | .object _ => False
  | .null | .bool _ | .number _ | .string _ => True

end Value

def Mode.Plain : Mode → Prop
  | .word _ v | .settled v => v.IsScalar
  | .ready | .item _ | .afterItem _ | .key _ | .afterKey _ _ | .member _ _ | .afterMember _
  | .string _ _ _ | .number _ => True

def Mode.weight : Mode → Nat
  | .item items | .afterItem items => items.length
  | .ready | .key _ | .afterKey _ _ | .member _ _ | .afterMember _ | .string _ _ _ | .number _
  | .word _ _ | .settled _ => 0

def stackWeight : List Frame → Nat
  | [] => 0
  | .item items :: stack => items.length + stackWeight stack
  | .member _ _ :: stack => stackWeight stack

def Machine.weight (m : Machine) : Nat := m.mode.weight + stackWeight m.stack

/-- A byte leaves or gives at most `n` items. A value that ends before the byte is a scalar. -/
def Step.Within (n : Nat) : Step → Prop
  | .next m => m.mode.Plain ∧ m.weight ≤ n
  | .value v => v.weight ≤ n
  | .before v => v.IsScalar
  | .fault _ _ => True

namespace Machine

variable {n : Nat} {stack : List Frame}

private theorem resume_within (v : Value) {frame : Frame} (h : stackWeight (frame :: stack) + 1 ≤ n) :
    (Step.next (resume v frame stack)).Within n := by
  refine ⟨by cases frame <;> trivial, ?_⟩
  cases frame <;> simp [resume, weight, Mode.weight, stackWeight] at h ⊢ <;> omega

private theorem close_within {v : Value} (light : v.weight ≤ n) (h : stackWeight stack + 1 ≤ n) :
    (close v stack).Within n := by
  cases stack with
  | nil => exact light
  | cons frame stack => exact resume_within v h

private theorem begin_within (h : stackWeight stack ≤ n) (b : UInt8) : (begin stack b).Within n := by
  have bare {mode : Mode} (plain : mode.Plain) (light : mode.weight = 0) :
      (Step.next ⟨mode, stack⟩).Within n := ⟨plain, by simpa [weight, light] using h⟩
  have nested {mode : Mode} (plain : mode.Plain) (light : mode.weight = 0) :
      (openNested stack mode).Within n := by
    unfold openNested
    split
    · exact bare plain light
    · trivial
  unfold begin
  split
  · exact bare trivial rfl
  · repeat' split
    · exact bare trivial rfl
    · exact bare trivial rfl
    · exact nested trivial rfl
    · exact nested trivial rfl
    · exact bare trivial rfl
    · exact bare trivial rfl
    · exact bare trivial rfl
    · trivial

private theorem afterItem_within {items : List Value} (h : items.length + stackWeight stack ≤ n)
    (room : stackWeight stack + 1 ≤ n) (b : UInt8) : (afterItem items stack b).Within n := by
  unfold afterItem
  repeat' split
  · exact ⟨trivial, h⟩
  · exact ⟨trivial, h⟩
  · exact close_within (by simp only [Value.weight, List.length_reverse]; omega) room
  · trivial

/-- A machine that goes on without new items. -/
private theorem next_within {mode : Mode} (plain : mode.Plain) (light : mode.weight = 0)
    (h : stackWeight stack + 1 ≤ n) : (Step.next ⟨mode, stack⟩).Within n := by
  refine ⟨plain, ?_⟩
  simp only [weight, light]
  omega

private theorem afterMember_within {members : Members} (h : stackWeight stack + 1 ≤ n) (b : UInt8) :
    (afterMember members stack b).Within n := by
  unfold afterMember
  repeat' split
  · exact next_within trivial rfl h
  · exact next_within trivial rfl h
  · exact close_within (Nat.zero_le n) h
  · trivial

private theorem afterNumber_within {v : Number} (h : stackWeight stack + 1 ≤ n) (b : UInt8) :
    (afterNumber (.number v) stack b).Within n := by
  rcases stack with _ | ⟨items | ⟨members, key⟩, stack⟩
  · simp only [afterNumber]
    split <;> trivial
  · simp only [stackWeight] at h
    exact afterItem_within (by simp only [List.length_cons]; omega) (by omega) b
  · have room : stackWeight stack + 1 ≤ n := h
    exact afterMember_within room b

private theorem numberStep_within {k : NumberSoFar} (h : stackWeight stack + 1 ≤ n) (b : UInt8) :
    (numberStep k stack b).Within n := by
  unfold numberStep
  repeat' split
  · exact next_within trivial rfl h
  · trivial
  · exact afterNumber_within h b
  · trivial
  · trivial

private theorem stringEnd_within {role : StringRole} {read : List UInt8} (h : stackWeight stack + 1 ≤ n) :
    (stringEnd role read stack).Within n := by
  unfold stringEnd
  split
  · trivial
  · exact close_within (Nat.zero_le n) h
  · exact next_within trivial rfl h

private theorem escapeEnd_within {role : StringRole} {lead : Option Nat} {read : List UInt8}
    (h : stackWeight stack + 1 ≤ n) (k : Nat) : (escapeEnd role lead read stack k).Within n := by
  unfold escapeEnd
  repeat' split
  · trivial
  · exact next_within trivial rfl h
  · exact next_within trivial rfl h
  · exact next_within trivial rfl h
  · trivial

private theorem stringStep_within {role : StringRole} {phase : StringPhase} {read : List UInt8}
    (h : stackWeight stack + 1 ≤ n) (b : UInt8) : (stringStep role phase read stack b).Within n := by
  unfold stringStep
  repeat' split
  · exact stringEnd_within h
  · exact next_within trivial rfl h
  · trivial
  · exact next_within trivial rfl h
  · exact next_within trivial rfl h
  · exact next_within trivial rfl h
  · trivial
  · exact next_within trivial rfl h
  · exact escapeEnd_within h _
  · trivial
  · exact next_within trivial rfl h
  · trivial
  · exact next_within trivial rfl h
  · trivial

/-- A byte adds at most one item to what is open. -/
theorem step_within {m : Machine} (plain : m.mode.Plain) (b : UInt8) :
    (m.step b).Within (m.weight + 1) := by
  obtain ⟨mode, stack⟩ := m
  have same {mode' : Mode} (plain : mode'.Plain) (h : mode'.weight ≤ mode.weight) :
      (Step.next ⟨mode', stack⟩).Within ((Machine.mk mode stack).weight + 1) := by
    refine ⟨plain, ?_⟩
    simp only [weight]
    omega
  have room : stackWeight stack + 1 ≤ (Machine.mk mode stack).weight + 1 := by
    simp only [weight]
    omega
  unfold step
  cases mode with
  | ready =>
    dsimp only
    split
    · exact same trivial (Nat.le_refl _)
    · exact begin_within (by omega) b
  | item items =>
    dsimp only
    repeat' split
    · exact same trivial (Nat.le_refl _)
    · exact close_within (Nat.zero_le _) room
    · trivial
    · exact begin_within (by simp [weight, Mode.weight, stackWeight]) b
  | afterItem items => exact afterItem_within (by simp [weight, Mode.weight]) room b
  | key members =>
    dsimp only
    repeat' split
    · exact same trivial (Nat.le_refl _)
    · exact close_within (Nat.zero_le _) room
    · trivial
    · exact same trivial (Nat.le_refl _)
    · trivial
  | afterKey members key =>
    dsimp only
    repeat' split
    · exact same trivial (Nat.le_refl _)
    · exact same trivial (Nat.le_refl _)
    · trivial
  | member members key =>
    dsimp only
    split
    · exact same trivial (Nat.le_refl _)
    · exact begin_within (by simp [weight, Mode.weight, stackWeight]) b
  | afterMember members => exact afterMember_within room b
  | string role phase read => exact stringStep_within room b
  | number k => exact numberStep_within room b
  | word left v =>
    cases left with
    | nil => trivial
    | cons c left =>
      dsimp only
      repeat' split
      · trivial
      · exact same plain (Nat.le_refl _)
      · exact same plain (Nat.le_refl _)
      · exact resume_within v room
  | settled v =>
    dsimp only
    split
    · exact plain
    · trivial

/-- The end of the text completes only scalars. -/
theorem isScalar_of_last {m : Machine} (plain : m.mode.Plain) {v : Value} (h : m.last = .value v) :
    v.IsScalar := by
  obtain ⟨mode, stack⟩ := m
  unfold last at h
  cases mode with
  | settled w =>
    obtain rfl : w = v := by simpa using h
    exact plain
  | number k =>
    dsimp only at h
    repeat' split at h
    all_goals simp at h
    subst h
    trivial
  | _ => simp at h

end Machine

private theorem Value.IsScalar.weight_eq {v : Value} (h : v.IsScalar) : v.weight = 0 := by
  cases v <;> first | rfl | exact h.elim

/-- The items of a value and the bytes left after it are no more than the items that were open and the
bytes there were. -/
private theorem weight_le_of_pullFrom {failure : Option IoError} {m : Machine} (plain : m.mode.Plain)
    {p : Position} {bytes : List UInt8} {v : Value} {rest : Cursor}
    (h : pullFrom failure m p bytes = .value v rest) :
    v.weight + rest.bytes.length ≤ m.weight + bytes.length := by
  induction bytes generalizing m p with
  | nil =>
    unfold pullFrom at h
    split at h
    · simp at h
    · split at h <;> simp at h
      next hl =>
        obtain ⟨rfl, rfl⟩ := h
        have light := (Machine.isScalar_of_last plain hl).weight_eq
        simp [light]
  | cons b bs ih =>
    have light := Machine.step_within plain b
    unfold pullFrom at h
    rw [List.length_cons]
    split at h
    · next hs =>
      rw [hs] at light
      obtain ⟨plain, light⟩ := light
      have rest := ih plain h
      omega
    · next hs =>
      rw [hs, Step.Within] at light
      obtain ⟨rfl, rfl⟩ := by simpa using h
      dsimp only
      omega
    · next hs =>
      rw [hs, Step.Within] at light
      obtain ⟨rfl, rfl⟩ := by simpa using h
      rw [light.weight_eq]
      dsimp only [List.length_cons]
      omega
    · simp at h

/-- Each item of an array takes at least a byte of its text. -/
theorem weight_le_of_pull {failure : Option IoError} {c rest : Cursor} {v : Value}
    (h : pull failure c = .value v rest) : v.weight + rest.bytes.length ≤ c.bytes.length :=
  Nat.le_trans (weight_le_of_pullFrom (m := .start) trivial h) (Nat.le_of_eq (Nat.zero_add _))

end ScriptedInput.Json

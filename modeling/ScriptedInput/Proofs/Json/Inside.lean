import ScriptedInput.Proofs.Json.OwnText

/-! Reading an array or object inside another one. As long as it stays open, the reader does not see what
is around it, apart from the bound on how deeply arrays and objects nest. -/
namespace ScriptedInput.Json

namespace Machine

/-- How many arrays and objects are open. What is being read in one of them is on the stack only while a
value is read there. -/
def depth (m : Machine) : Nat :=
  match m.mode with
  | .item _ | .afterItem _ | .key _ | .afterKey _ _ | .member _ _ | .afterMember _
  | .string (.key _) _ _ => m.stack.length + 1
  | .ready | .string .value _ _ | .number _ | .word _ _ => m.stack.length
  | .settled _ => 0

/-- The machine in the same place, with one more array or object around all that it reads. -/
def inside (m : Machine) (frame : Frame) : Machine := ⟨m.mode, m.stack ++ [frame]⟩

/-- The second step does inside an array or object what the first one does by itself. If that leaves
off within a value, it is one in which something is open. -/
inductive Lifts (frame : Frame) : Step → Step → Prop
  | next {m : Machine} (opened : 0 < m.depth) : Lifts frame (.next m) (.next (m.inside frame))
  | value (v : Value) : Lifts frame (.value v) (.next (resume v frame []))
  | fault (f : Fault) (back : Nat) : Lifts frame (.fault f back) (.fault f back)

variable {frame : Frame} {stack : List Frame}

private theorem Lifts.mode {mode : Mode} (opened : 0 < (Machine.mk mode stack).depth) :
    Lifts frame (.next ⟨mode, stack⟩) (.next ⟨mode, stack ++ [frame]⟩) := .next opened

private theorem resume_lifts (v : Value) (innermost : Frame) :
    Lifts frame (.next (resume v innermost stack)) (.next (resume v innermost (stack ++ [frame]))) := by
  cases innermost with
  | item items => exact .mode (Nat.succ_pos _)
  | member members key => exact .mode (Nat.succ_pos _)

private theorem close_lifts (v : Value) (stack : List Frame) :
    Lifts frame (close v stack) (close v (stack ++ [frame])) := by
  cases stack with
  | nil => exact .value v
  | cons innermost stack => exact resume_lifts v innermost

private theorem openNested_lifts {mode : Mode} (opened : 0 < (Machine.mk mode stack).depth)
    (room : stack.length + 1 < depthLimit) :
    Lifts frame (openNested stack mode) (openNested (stack ++ [frame]) mode) := by
  rw [openNested, openNested, if_pos (by omega), if_pos (by simpa using room)]
  exact .mode opened

private theorem begin_lifts (opened : 0 < stack.length) (room : stack.length + 1 < depthLimit)
    (b : UInt8) : Lifts frame (begin stack b) (begin (stack ++ [frame]) b) := by
  unfold begin
  split
  · exact .mode opened
  · repeat' split
    · exact .mode opened
    · exact .mode opened
    · exact openNested_lifts (Nat.succ_pos _) room
    · exact openNested_lifts (Nat.succ_pos _) room
    · exact .mode opened
    · exact .mode opened
    · exact .mode opened
    · exact .fault _ _

private theorem afterItem_lifts (items : List Value) (stack : List Frame) (b : UInt8) :
    Lifts frame (afterItem items stack b) (afterItem items (stack ++ [frame]) b) := by
  unfold afterItem
  repeat' split
  · exact .mode (Nat.succ_pos _)
  · exact .mode (Nat.succ_pos _)
  · exact close_lifts _ _
  · exact .fault _ _

private theorem afterMember_lifts (members : Members) (stack : List Frame) (b : UInt8) :
    Lifts frame (afterMember members stack b) (afterMember members (stack ++ [frame]) b) := by
  unfold afterMember
  repeat' split
  · exact .mode (Nat.succ_pos _)
  · exact .mode (Nat.succ_pos _)
  · exact close_lifts _ _
  · exact .fault _ _

private theorem numberStep_lifts (k : NumberSoFar) (opened : 0 < stack.length) (b : UInt8) :
    Lifts frame (numberStep k stack b) (numberStep k (stack ++ [frame]) b) := by
  unfold numberStep
  split
  · exact .mode opened
  · exact .fault _ _
  · split
    · rcases stack with _ | ⟨items | ⟨members, key⟩, stack⟩
      · cases opened
      · exact afterItem_lifts _ stack b
      · exact afterMember_lifts _ stack b
    · exact .fault _ _
    · exact .fault _ _

section Strings
variable {role : StringRole}
  (opened : ∀ phase read, 0 < (Machine.mk (.string role phase read) stack).depth)
include opened

private theorem escapeEnd_lifts (lead : Option Nat) (read : List UInt8) (n : Nat) :
    Lifts frame (escapeEnd role lead read stack n) (escapeEnd role lead read (stack ++ [frame]) n) := by
  unfold escapeEnd
  repeat' split
  · exact .fault _ _
  · exact .mode (opened _ _)
  · exact .mode (opened _ _)
  · exact .mode (opened _ _)
  · exact .fault _ _

private theorem stringEnd_lifts (read : List UInt8) :
    Lifts frame (stringEnd role read stack) (stringEnd role read (stack ++ [frame])) := by
  unfold stringEnd
  split
  · exact .fault _ _
  · exact close_lifts _ _
  · exact .mode (Nat.succ_pos _)

private theorem stringStep_lifts (phase : StringPhase) (read : List UInt8) (b : UInt8) :
    Lifts frame (stringStep role phase read stack b)
      (stringStep role phase read (stack ++ [frame]) b) := by
  unfold stringStep
  repeat' split
  · exact stringEnd_lifts opened _
  · exact .mode (opened _ _)
  · exact .fault _ _
  · exact .mode (opened _ _)
  · exact .mode (opened _ _)
  · exact .mode (opened _ _)
  · exact .fault _ _
  · exact .mode (opened _ _)
  · exact escapeEnd_lifts opened _ _ _
  · exact .fault _ _
  · exact .mode (opened _ _)
  · exact .fault _ _
  · exact .mode (opened _ _)
  · exact .fault _ _

end Strings

/-- With an array or object open, a byte does the same inside another one. -/
private theorem step_lifts {m : Machine} (frame : Frame) (opened : 0 < m.depth)
    (room : m.depth + 1 < depthLimit) (b : UInt8) :
    Lifts frame (m.step b) ((m.inside frame).step b) := by
  obtain ⟨mode, stack⟩ := m
  have same : Lifts frame (.next ⟨mode, stack⟩) (.next ⟨mode, stack ++ [frame]⟩) := .mode opened
  unfold inside step
  cases mode with
  | ready =>
    dsimp only
    split
    · exact same
    · exact begin_lifts opened room b
  | item items =>
    dsimp only
    repeat' split
    · exact same
    · exact close_lifts _ _
    · exact .fault _ _
    · have nonempty : 0 < (Frame.item items :: stack).length := Nat.succ_pos _
      exact begin_lifts nonempty room b
  | afterItem items => exact afterItem_lifts items stack b
  | key members =>
    dsimp only
    repeat' split
    · exact same
    · exact close_lifts _ _
    · exact .fault _ _
    · exact .mode (Nat.succ_pos _)
    · exact .fault _ _
  | afterKey members key =>
    dsimp only
    repeat' split
    · exact same
    · exact .mode (Nat.succ_pos _)
    · exact .fault _ _
  | member members key =>
    dsimp only
    split
    · exact same
    · have nonempty : 0 < (Frame.member members key :: stack).length := Nat.succ_pos _
      exact begin_lifts nonempty room b
  | afterMember members => exact afterMember_lifts members stack b
  | string role phase read =>
    have within : ∀ phase read, 0 < (Machine.mk (.string role phase read) stack).depth := by
      cases role <;> exact fun _ _ => opened
    exact stringStep_lifts within phase read b
  | number k => exact numberStep_lifts k opened b
  | word left v =>
    cases left with
    | nil => exact .fault _ _
    | cons c left =>
      dsimp only
      split
      · exact .fault _ _
      · split
        · exact .mode opened
        · cases stack with
          | nil => cases opened
          | cons innermost stack => exact resume_lifts v innermost
  | settled v => cases opened

/-- The end of the text ends no value in which something is open. -/
private theorem last_ne_value {m : Machine} (opened : 0 < m.depth) (v : Value) : m.last ≠ .value v := by
  obtain ⟨mode, stack⟩ := m
  cases mode with
  | settled w => cases opened
  | number k =>
    cases stack with
    | nil => cases opened
    | cons innermost stack =>
      simp only [last]
      cases k.ending <;> cases innermost <;> simp [innermost]
  | _ => simp [last]

/-- The most arrays and objects that are open at once while the bytes are read. -/
def nesting : Machine → List UInt8 → Nat
  | m, [] => m.depth
  | m, b :: bs =>
    match m.step b with
    | .next n => max m.depth (n.nesting bs)
    | .value _ | .before _ | .fault _ _ => m.depth

private theorem depth_le_nesting (m : Machine) (bytes : List UInt8) : m.depth ≤ m.nesting bytes := by
  cases bytes with
  | nil => exact Nat.le_refl _
  | cons b bs =>
    rw [nesting]
    split
    · exact Nat.le_max_left _ _
    · exact Nat.le_refl _
    · exact Nat.le_refl _
    · exact Nat.le_refl _

theorem nesting_le_of_step {m n : Machine} {b : UInt8} (step : m.step b = .next n) (bs : List UInt8) :
    n.nesting bs ≤ m.nesting (b :: bs) := by
  rw [nesting, step]
  exact Nat.le_max_right _ _

/-- An array or object is read inside another one as by itself, if it does not nest too deeply. -/
theorem Spells.inside {v : Value} {m : Machine} {bytes : List UInt8} (h : m.Spells v bytes)
    (opened : 0 < m.depth) (shallow : m.nesting bytes + 1 < depthLimit) (frame : Frame) :
    (m.inside frame).after bytes = some (resume v frame []) := by
  induction h with
  | @next m n b bs step later ih =>
    have here := depth_le_nesting m (b :: bs)
    have rest := nesting_le_of_step step bs
    have lifted := step_lifts frame opened (by omega) b
    rw [step] at lifted
    generalize both : (m.inside frame).step b = outer at lifted
    cases lifted with
    | next opened => exact (after_cons both bs).trans (ih opened (by omega))
  | @closed m b step =>
    have here := depth_le_nesting m [b]
    have lifted := step_lifts frame opened (by omega) b
    rw [step] at lifted
    generalize both : (m.inside frame).step b = outer at lifted
    cases lifted with
    | value => exact after_cons both []
  | settled last => exact absurd last (last_ne_value opened v)

end Machine
end ScriptedInput.Json

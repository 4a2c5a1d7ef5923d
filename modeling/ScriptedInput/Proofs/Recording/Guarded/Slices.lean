import ScriptedInput.Proofs.Guarded
import ScriptedInput.Proofs.Recording.Columns
import ScriptedInput.Proofs.Recording.Pace

/-! Reading a text by byte offsets, with all that could stop a program in the midst of it: slices that are
out of range or cut a character in two, indices that are out of range, and sums that 64 bits do not hold. The
fields of a line are found without any of it. -/
namespace ScriptedInput

def longestText : Nat := 0x7fffffffffffffff

def itemAt {α : Type} (items : List α) (i : Nat) : Except Trap α := orTrap .index items[i]?

def itemsFrom {α : Type} (items : List α) (i : Nat) : Except Trap (List α) :=
  if i ≤ items.length then .ok (items.drop i) else .error .index

namespace Text

def width (cs : List Char) : Nat := (bytesOf cs).length

@[simp] theorem width_nil : width [] = 0 := rfl

@[simp] theorem width_cons (c : Char) (cs : List Char) : width (c :: cs) = c.utf8Size + width cs := by
  rw [width, bytesOf_cons, List.length_append, String.length_utf8EncodeChar, width]

@[simp] theorem width_append (cs ds : List Char) : width (cs ++ ds) = width cs + width ds := by
  rw [width, bytesOf_append, List.length_append, width, width]

def cutAt : List Char → Nat → Except Trap (List Char × List Char)
  | [], n => if n = 0 then .ok ([], []) else .error .slice
  | c :: cs, n =>
    if n = 0 then .ok ([], c :: cs)
    else if c.utf8Size ≤ n then (cutAt cs (n - c.utf8Size)).map fun parts => (c :: parts.1, parts.2)
    else .error .slice

private theorem cutAt_append (front back : List Char) :
    cutAt (front ++ back) (width front) = .ok (front, back) := by
  induction front with
  | nil => cases back <;> rfl
  | cons c front ih =>
    have size := c.utf8Size_pos
    have some : ¬ c.utf8Size + width front = 0 := by omega
    rw [List.cons_append, cutAt, width_cons, if_neg some, if_pos (Nat.le_add_right _ _),
      Nat.add_sub_cancel_left, ih]
    rfl

/-- A text is cut between two of its characters, and nowhere else. -/
theorem cutAt_eq_ok_iff {cs front back : List Char} {n : Nat} :
    cutAt cs n = .ok (front, back) ↔ cs = front ++ back ∧ width front = n := by
  constructor
  · intro h
    induction cs generalizing n front with
    | nil =>
      rw [cutAt] at h
      split_ifs at h with none
      cases h
      exact ⟨rfl, none.symm⟩
    | cons c cs ih =>
      rw [cutAt] at h
      split_ifs at h with none whole
      · cases h
        exact ⟨rfl, none.symm⟩
      · obtain ⟨⟨front, back⟩, later, ⟨⟩⟩ := map_eq_ok_iff.mp h
        obtain ⟨rfl, size⟩ := ih later
        refine ⟨rfl, ?_⟩
        rw [width_cons, size]
        omega
  · rintro ⟨rfl, rfl⟩
    exact cutAt_append front back

example : cutAt "é:".toList 1 = .error .slice := by decide

def sliceFrom (cs : List Char) (start : Nat) : Except Trap (List Char) := (cutAt cs start).map (·.2)

def sliceTo (cs : List Char) (stop : Nat) : Except Trap (List Char) := (cutAt cs stop).map (·.1)

def slice (cs : List Char) (start stop : Nat) : Except Trap (List Char) :=
  if start ≤ stop then do
    let behind ← sliceFrom cs start
    sliceTo behind (stop - start)
  else .error .slice

theorem sliceFrom_append (front back : List Char) :
    sliceFrom (front ++ back) (width front) = .ok back := by
  rw [sliceFrom, cutAt_append]
  rfl

theorem sliceTo_append (front back : List Char) : sliceTo (front ++ back) (width front) = .ok front := by
  rw [sliceTo, cutAt_append]
  rfl

private theorem slice_append (front run back : List Char) :
    slice (front ++ (run ++ back)) (width front) (width front + width run) = .ok run := by
  rw [slice, if_pos (Nat.le_add_right _ _), sliceFrom_append, Nat.add_sub_cancel_left]
  exact sliceTo_append run back

end Text

/-- The column of what stands at an offset into a part of a line, where that part has an offset of its own.
Columns are counted from 1. -/
def columnAt (offset start : Nat) : Except Trap Nat := do
  let before ← orTrap .overflow (Recording.add64? offset start)
  orTrap .overflow (Recording.add64? before 1)

def fieldAt (offset start : Nat) (text : Except Trap (List Char)) : Except Trap LineField := do
  let text ← text
  let column ← columnAt offset start
  return ⟨text, column⟩

/-- The fields of a line's part that has an offset in the line, from its character at `i` on. A field that
has begun there is known by its start. -/
def fieldsFrom (line : List Char) (offset i : Nat) (begun : Option Nat) :
    List Char → Except Trap (List LineField)
  | [] =>
    match begun with
    | none => .ok []
    | some start => (fieldAt offset start (Text.sliceFrom line start)).map ([·])
  | c :: cs =>
    if Text.isBlank c then
      match begun with
      | none => fieldsFrom line offset (i + c.utf8Size) none cs
      | some start => do
        let field ← fieldAt offset start (Text.slice line start i)
        let later ← fieldsFrom line offset (i + c.utf8Size) none cs
        return field :: later
    else fieldsFrom line offset (i + c.utf8Size) (some (begun.getD i)) cs

section
variable {c : Char} (line : List Char) (offset i : Nat) (cs : List Char)

private theorem fieldsFrom_blank (blank : Text.isBlank c) :
    fieldsFrom line offset i none (c :: cs) = fieldsFrom line offset (i + c.utf8Size) none cs :=
  if_pos blank

private theorem fieldsFrom_end (blank : Text.isBlank c) (start : Nat) :
    fieldsFrom line offset i (some start) (c :: cs) = do
      let field ← fieldAt offset start (Text.slice line start i)
      let later ← fieldsFrom line offset (i + c.utf8Size) none cs
      return field :: later :=
  if_pos blank

private theorem fieldsFrom_shown (shown : Text.isBlank c = false) (begun : Option Nat) :
    fieldsFrom line offset i begun (c :: cs) =
      fieldsFrom line offset (i + c.utf8Size) (some (begun.getD i)) cs :=
  if_neg (by rw [shown]; exact Bool.false_ne_true)

end

/-- The first field of a line is the run of characters that it begins with. -/
private theorem lineFields_run {run : List Char} (nonempty : run ≠ [])
    (unbroken : ∀ c ∈ run, Text.isBlank c = false) {after : List Char}
    (right : ∀ c ∈ after.head?, Text.isBlank c) (column : Nat) :
    lineFields column (run ++ after) =
      ⟨run, column⟩ :: lineFields (column + Text.width run) after := by
  induction run generalizing column with
  | nil => exact absurd rfl nonempty
  | cons c run ih =>
    obtain ⟨shown, later⟩ := List.forall_mem_cons.mp unbroken
    cases run with
    | nil => rw [List.singleton_append, lineFields_apart shown right, Text.width_cons, Text.width_nil,
        Nat.add_zero]
    | cons d run =>
      have shown' := later d List.mem_cons_self
      obtain ⟨g, rest, inner, outer⟩ := lineFields_joined shown shown' column (run ++ after)
      rw [← List.cons_append, ih (List.cons_ne_nil d run) later] at inner
      obtain ⟨rfl, rfl⟩ := List.cons.inj inner
      rw [List.cons_append, List.cons_append, outer, Text.width_cons c, Nat.add_assoc]

private theorem columnAt_eq {offset start : Nat} (fits : offset + start + 1 < UInt64.size) :
    columnAt offset start = .ok (offset + start + 1) := by
  have sum : Recording.add64? offset start = some (offset + start) := if_pos (by omega)
  have column : Recording.add64? (offset + start) 1 = some (offset + start + 1) := if_pos fits
  rw [columnAt, sum]
  exact congrArg (orTrap .overflow) column

/-- The fields of a line are found by slices in range. -/
theorem fieldsFrom_eq {offset : Nat} {line : List Char} (fits : offset + Text.width line + 1 < UInt64.size)
    (cs : List Char) :
    (∀ before, line = before ++ cs → fieldsFrom line offset (Text.width before) none cs =
      .ok (lineFields (offset + Text.width before + 1) cs)) ∧
    ∀ before run, line = before ++ (run ++ cs) → run ≠ [] → (∀ c ∈ run, Text.isBlank c = false) →
      fieldsFrom line offset (Text.width before + Text.width run) (some (Text.width before)) cs =
        .ok (lineFields (offset + Text.width before + 1) (run ++ cs)) := by
  have column {before after : List Char} (parts : line = before ++ after) :
      columnAt offset (Text.width before) = .ok (offset + Text.width before + 1) := by
    refine columnAt_eq ?_
    rw [parts, Text.width_append] at fits
    omega
  have field {before after run : List Char} (parts : line = before ++ after) {text : Except Trap (List Char)}
      (slice : text = .ok run) : fieldAt offset (Text.width before) text =
        .ok ⟨run, offset + Text.width before + 1⟩ := by
    rw [fieldAt, slice, column parts]
    rfl
  -- On what is left of the line. A field that has begun is the run of characters right before it.
  induction cs with
  | nil =>
    refine ⟨fun _ _ => rfl, fun before run parts nonempty unbroken => ?_⟩
    have slice : Text.sliceFrom line (Text.width before) = .ok run := by
      rw [parts, Text.sliceFrom_append, List.append_nil]
    rw [lineFields_run nonempty unbroken (by simp), lineFields_nil]
    dsimp only [fieldsFrom]
    rw [field parts slice]
    rfl
  | cons c cs ih =>
    obtain ⟨apart, joined⟩ := ih
    constructor
    · intro before parts
      cases blank : Text.isBlank c with
      | true =>
        have later := apart (before ++ [c]) (by rw [parts]; simp)
        rw [Text.width_append, Text.width_cons, Text.width_nil, Nat.add_zero] at later
        have column : offset + (Text.width before + c.utf8Size) + 1 =
            offset + Text.width before + 1 + c.utf8Size := by omega
        rw [fieldsFrom_blank _ _ _ _ blank, lineFields_blank blank, later, column]
      | false =>
        have later := joined before [c] parts (List.cons_ne_nil c []) (by simpa using blank)
        rw [Text.width_cons, Text.width_nil, Nat.add_zero] at later
        rw [fieldsFrom_shown _ _ _ _ blank]
        exact later
    · intro before run parts nonempty unbroken
      cases blank : Text.isBlank c with
      | true =>
        have slice : Text.slice line (Text.width before) (Text.width before + Text.width run) = .ok run := by
          rw [parts, Text.slice_append]
        have later := apart (before ++ run ++ [c]) (by rw [parts]; simp)
        simp only [Text.width_append, Text.width_cons, Text.width_nil, Nat.add_zero] at later
        have column : offset + (Text.width before + Text.width run + c.utf8Size) + 1 =
            offset + Text.width before + 1 + Text.width run + c.utf8Size := by omega
        rw [fieldsFrom_end _ _ _ _ blank, field parts slice, later, column,
          lineFields_run nonempty unbroken (by simpa using blank), lineFields_blank blank]
        rfl
      | false =>
        have shown : ∀ d ∈ run ++ [c], Text.isBlank d = false := by
          simpa [or_imp, forall_and, blank] using unbroken
        have later := joined before (run ++ [c]) (by rw [parts]; simp) (by simp) shown
        simp only [Text.width_append, Text.width_cons, Text.width_nil, Nat.add_zero, List.append_assoc,
          List.singleton_append] at later
        rw [fieldsFrom_shown _ _ _ _ blank, Nat.add_assoc]
        exact later

end ScriptedInput

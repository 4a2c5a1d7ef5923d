import ScriptedInput.Proofs.Json.Cut
import ScriptedInput.Proofs.Json.Tokens

/-! The texts of values. Reading a value takes spaces and then a text that is that value's own; and a
text that is an array's or an object's is read as it wherever it stands. -/
namespace ScriptedInput

def BlankBytes (raw : List UInt8) : Prop := ∀ b ∈ raw, Json.isSpace b

theorem BlankBytes.nil : BlankBytes [] := fun _ h => nomatch h

namespace Json

/-- From here on the bytes complete the value, and nothing is left of them. -/
inductive Machine.Spells (v : Value) : Machine → List UInt8 → Prop
  | next {m n : Machine} {b : UInt8} {bs : List UInt8} (step : m.step b = .next n)
    (later : n.Spells v bs) : Spells v m (b :: bs)
  | closed {m : Machine} {b : UInt8} (step : m.step b = .value v) : Spells v m [b]
  | settled {m : Machine} (last : m.last = .value v) : Spells v m []

structure OwnText (v : Value) (text : List UInt8) : Prop where
  spells : Machine.start.Spells v text
  bare : ∀ b ∈ text.head?, isSpace b = false

def Position.along (p : Position) (bytes : List UInt8) : Position := bytes.foldl Position.advance p

private theorem Position.along_cons (p : Position) (b : UInt8) (bs : List UInt8) :
    p.along (b :: bs) = (p.advance b).along bs := rfl

@[simp] theorem Position.offset_along (p : Position) (bytes : List UInt8) :
    (p.along bytes).offset = p.offset + bytes.length := by
  induction bytes generalizing p with
  | nil => rfl
  | cons b bs ih =>
    rw [along_cons, ih, offset_advance, List.length_cons]
    omega

/-- No value ended before the byte. -/
def Step.Prompt : Step → Prop
  | .before _ => False
  | .next _ | .value _ | .fault _ _ => True

namespace Machine

@[simp] theorem prompt_next (m : Machine) : (Step.next m).Prompt := trivial

@[simp] theorem prompt_value (v : Value) : (Step.value v).Prompt := trivial

@[simp] theorem prompt_fault (f : Fault) (back : Nat) : (Step.fault f back).Prompt := trivial

@[simp] theorem close_prompt (v : Value) (stack : List Frame) : (close v stack).Prompt := by
  cases stack <;> simp [close]

@[simp] theorem begin_prompt (stack : List Frame) (b : UInt8) : (begin stack b).Prompt := by
  unfold begin openNested
  repeat' split
  all_goals simp

@[simp] theorem afterItem_prompt (items : List Value) (stack : List Frame) (b : UInt8) :
    (afterItem items stack b).Prompt := by
  unfold afterItem
  repeat' split
  all_goals simp

@[simp] theorem afterMember_prompt (members : Members) (stack : List Frame) (b : UInt8) :
    (afterMember members stack b).Prompt := by
  unfold afterMember
  repeat' split
  all_goals simp

@[simp] theorem stringStep_prompt (role : StringRole) (phase : StringPhase) (read : List UInt8)
    (stack : List Frame) (b : UInt8) : (stringStep role phase read stack b).Prompt := by
  unfold stringStep stringEnd escapeEnd
  repeat' split
  all_goals simp

private theorem step_prompt {mode : Mode} (stack : List Frame) (b : UInt8)
    (number : ∀ k, mode ≠ .number k)
    (settled : ∀ v, mode ≠ .settled v) : ((Machine.mk mode stack).step b).Prompt := by
  unfold step
  cases mode with
  | number k => exact absurd rfl (number k)
  | settled v => exact absurd rfl (settled v)
  | word left v =>
    cases left with
    | nil => trivial
    | cons c left =>
      dsimp only
      repeat' split
      all_goals trivial
  | _ =>
    dsimp only
    repeat' split
    all_goals simp

private theorem last_of_afterNumber {n : Number} {k : NumberSoFar} (ends : k.ending = .number n)
    {stack : List Frame} {b : UInt8} {v : Value}
    (h : afterNumber (.number n) stack b = .before v) :
    (Machine.mk (.number k) stack).last = .value v := by
  cases stack with
  | nil =>
    simp only [afterNumber] at h
    split at h
    · cases h
      simp [last, ends, innermost]
    · cases h
  | cons frame stack =>
    have prompt : (afterNumber (.number n) (frame :: stack) b).Prompt := by
      cases frame <;> simp [afterNumber]
    rw [h] at prompt
    exact prompt.elim

/-- A value that ends before a byte could have ended with the text. -/
private theorem last_of_before {m : Machine} {b : UInt8} {v : Value} (h : m.step b = .before v) :
    m.last = .value v := by
  obtain ⟨mode, stack⟩ := m
  have late (number : ∀ k, mode ≠ .number k) (settled : ∀ w, mode ≠ .settled w) :
      (Machine.mk mode stack).last = .value v := by
    have prompt := step_prompt stack b number settled
    rw [h] at prompt
    exact prompt.elim
  cases mode with
  | number k =>
    simp only [step, numberStep] at h
    split at h
    · cases h
    · cases h
    · split at h
      · next ends => exact last_of_afterNumber ends h
      · cases h
      · cases h
  | settled w =>
    simp only [step] at h
    split at h
    · cases h
      rfl
    · cases h
  | _ => exact late (by simp) (by simp)

/-- A value that was read has its text in front of what is left. -/
theorem spells_of_pullFrom {failure : Option IoError} {m : Machine} {p : Position}
    {bytes : List UInt8} {v : Value} {rest : Cursor}
    (h : pullFrom failure m p bytes = .value v rest) :
    ∃ text, bytes = text ++ rest.bytes ∧ m.Spells v text ∧ rest.position = p.along text := by
  induction bytes generalizing m p with
  | nil =>
    unfold pullFrom at h
    split at h
    · simp at h
    · split at h <;> simp at h
      next last =>
      obtain ⟨rfl, rfl⟩ := h
      exact ⟨[], rfl, .settled last, rfl⟩
  | cons b bs ih =>
    unfold pullFrom at h
    split at h
    · next step =>
      obtain ⟨text, rfl, spells, position⟩ := ih h
      exact ⟨b :: text, rfl, .next step spells, position⟩
    · next step =>
      obtain ⟨rfl, rfl⟩ := by simpa using h
      exact ⟨[b], rfl, .closed step, rfl⟩
    · next step =>
      obtain ⟨rfl, rfl⟩ := by simpa using h
      exact ⟨[], rfl, .settled (last_of_before step), rfl⟩
    · simp at h

/-- The text of an array or object is read as it, whatever follows. -/
theorem pullFrom_of_spells {m : Machine} {v : Value} {text : List UInt8} (h : m.Spells v text)
    (plain : m.mode.Plain) (nested : ¬ v.IsScalar) (failure : Option IoError) (p : Position)
    (rest : List UInt8) :
    pullFrom failure m p (text ++ rest) = .value v ⟨p.along text, rest⟩ := by
  induction h generalizing p with
  | @next m n b bs step later ih =>
    have kind := step_within plain b
    rw [step] at kind
    rw [List.cons_append, pullFrom, step]
    exact ih kind.1 _
  | closed step =>
    rw [List.singleton_append, pullFrom, step]
    rfl
  | settled last => exact absurd (isScalar_of_last plain last) nested

/-- Where nothing follows, any value is read. -/
theorem pullFrom_of_spells_end {m : Machine} {v : Value} {text : List UInt8} (h : m.Spells v text)
    (p : Position) : pullFrom none m p text = .value v ⟨p.along text, []⟩ := by
  induction h generalizing p with
  | next step later ih =>
    rw [pullFrom, step]
    exact ih _
  | closed step =>
    rw [pullFrom, step]
    rfl
  | settled last =>
    simp only [pullFrom, last]
    rfl

/-- White space in a place where it says nothing. -/
theorem after_blank {m : Machine} (silent : ∀ b, isSpace b → m.step b = .next m) {bs : List UInt8}
    (blank : BlankBytes bs) : m.after bs = some m := by
  induction bs with
  | nil => rfl
  | cons b bs ih =>
    obtain ⟨space, spaces⟩ := List.forall_mem_cons.mp blank
    exact (after_cons (silent b space) bs).trans (ih spaces)

theorem start_silent (b : UInt8) (space : isSpace b) : start.step b = .next start := if_pos space

theorem Spells.append {m n : Machine} {v : Value} {bs cs : List UInt8} (h : m.after bs = some n)
    (spells : n.Spells v cs) : m.Spells v (bs ++ cs) := by
  induction bs generalizing m with
  | nil =>
    obtain rfl : m = n := by simpa [after] using h
    exact spells
  | cons b bs ih =>
    rw [after] at h
    split at h
    · next step => exact .next step (ih h)
    · cases h

theorem Spells.of_append {m n : Machine} {v : Value} {bs cs : List UInt8} (h : m.after bs = some n)
    (spells : m.Spells v (bs ++ cs)) : n.Spells v cs := by
  induction bs generalizing m with
  | nil =>
    obtain rfl : m = n := by simpa [after] using h
    exact spells
  | cons b bs ih =>
    rw [after] at h
    split at h
    · next step =>
      rw [List.cons_append] at spells
      generalize rest : bs ++ cs = bytes at spells
      cases spells with
      | next step' later =>
        rw [step] at step'
        cases step'
        exact ih h (rest ▸ later)
      | closed step' =>
        rw [step] at step'
        cases step'
    · cases h

theorem Spells.unique {m : Machine} {v w : Value} {bytes : List UInt8} (h : m.Spells v bytes)
    (h' : m.Spells w bytes) : v = w := by
  induction h with
  | next step later ih =>
    cases h' with
    | next step' later' =>
      rw [step] at step'
      cases step'
      exact ih later'
    | closed step' =>
      rw [step] at step'
      cases step'
  | closed step =>
    cases h' with
    | next step' later' =>
      rw [step] at step'
      cases step'
    | closed step' =>
      rw [step] at step'
      cases step'
      rfl
  | settled last =>
    cases h' with
    | settled last' =>
      rw [last] at last'
      cases last'
      rfl

private theorem Spells.split {v : Value} {bytes : List UInt8} (h : start.Spells v bytes) :
    ∃ spaces text, bytes = spaces ++ text ∧ BlankBytes spaces ∧ OwnText v text := by
  induction bytes with
  | nil => exact ⟨[], [], rfl, .nil, h, by simp⟩
  | cons b bs ih =>
    by_cases space : isSpace b
    · have step := start_silent b space
      cases h with
      | next step' later =>
        rw [step] at step'
        cases step'
        obtain ⟨spaces, text, rfl, blank, own⟩ := ih later
        exact ⟨b :: spaces, text, rfl, List.forall_mem_cons.mpr ⟨space, blank⟩, own⟩
      | closed step' =>
        rw [step] at step'
        cases step'
    · exact ⟨[], b :: bs, rfl, .nil, h, by simpa using space⟩

end Machine

/-- What is read as a value of a stream: spaces, and the value's own text. -/
theorem ownText_of_pull {failure : Option IoError} {c rest : Cursor} {v : Value}
    (h : pull failure c = .value v rest) :
    ∃ spaces text, c.bytes = spaces ++ text ++ rest.bytes ∧ BlankBytes spaces ∧
      OwnText v text ∧ rest.position = c.position.along (spaces ++ text) := by
  obtain ⟨bytes, all, spells, position⟩ := Machine.spells_of_pullFrom h
  obtain ⟨spaces, text, rfl, blank, own⟩ := spells.split
  exact ⟨spaces, text, all, blank, own, position⟩

theorem pull_spaces {spaces : List UInt8} (h : BlankBytes spaces) (p : Position) :
    pull none ⟨p, spaces⟩ = .finished := by
  obtain ⟨q, hq⟩ := Machine.pullFrom_after (Machine.after_blank Machine.start_silent h) none p []
  rw [List.append_nil] at hq
  exact hq

end Json
end ScriptedInput

import ScriptedInput.Proofs.Json.Weight

/-! Reading a value from a text that is cut off. Either the cut shows nowhere, or reading fails, and
then the value that the whole text has there ends behind the cut or is a scalar. -/
namespace ScriptedInput.Json

def Cursor.upTo (n : Nat) (c : Cursor) : Cursor := ⟨c.position, c.bytes.take (n - c.position.offset)⟩

/-- What comes of a text, and of its first `n` bytes if reading on then fails. -/
inductive CutShort (n : Nat) (e : IoError) : Pulled → Pulled → Prop where
  | value (v : Value) {rest : Cursor} (within : rest.position.offset ≤ n) :
    CutShort n e (.value v rest) (.value v (rest.upTo n))
  | fault (f : Fault) (p : Position) : CutShort n e (.fault f p) (.fault f p)
  | failed {whole : Pulled}
    (late : ∀ v rest, whole = .value v rest → v.IsScalar ∨ n < rest.position.offset) :
    CutShort n e whole (.failed e)

@[simp] theorem Position.offset_advance (p : Position) (b : UInt8) :
    (p.advance b).offset = p.offset + 1 := by
  unfold advance
  split <;> rfl

/-- Reading goes forward. -/
private theorem offset_le_of_pullFrom {failure : Option IoError} {m : Machine} {p : Position}
    {bytes : List UInt8} {v : Value} {rest : Cursor}
    (h : pullFrom failure m p bytes = .value v rest) : p.offset ≤ rest.position.offset := by
  induction bytes generalizing m p with
  | nil =>
    unfold pullFrom at h
    split at h
    · simp at h
    · split at h <;> simp at h
      simp [← h.2]
  | cons b bs ih =>
    unfold pullFrom at h
    split at h
    · have later := ih h
      rw [Position.offset_advance] at later
      omega
    · obtain ⟨-, rfl⟩ := by simpa using h
      simp
    · obtain ⟨-, rfl⟩ := by simpa using h
      exact Nat.le_refl _
    · simp at h

/-- The end of the text ends only scalars. -/
private theorem isScalar_of_pullFrom_nil {failure : Option IoError} {m : Machine} (plain : m.mode.Plain)
    {p : Position} {v : Value} {rest : Cursor} (h : pullFrom failure m p [] = .value v rest) :
    v.IsScalar := by
  unfold pullFrom at h
  split at h
  · simp at h
  · split at h <;> simp at h
    next last => exact h.1 ▸ Machine.isScalar_of_last plain last

/-- Anything else that ends does so behind where it was read from. -/
private theorem isScalar_or_lt_of_pullFrom {failure : Option IoError} {m : Machine} (plain : m.mode.Plain)
    {p : Position} {bytes : List UInt8} {v : Value} {rest : Cursor}
    (h : pullFrom failure m p bytes = .value v rest) :
    v.IsScalar ∨ p.offset < rest.position.offset := by
  cases bytes with
  | nil => exact .inl (isScalar_of_pullFrom_nil plain h)
  | cons b bs =>
    have kind := Machine.step_within plain b
    unfold pullFrom at h
    split at h
    · have later := offset_le_of_pullFrom h
      rw [Position.offset_advance] at later
      exact .inr later
    · obtain ⟨-, rfl⟩ := by simpa using h
      exact .inr (by simp)
    · next ended =>
      obtain ⟨rfl, -⟩ := by simpa using h
      rw [ended] at kind
      exact .inl kind
    · simp at h

private theorem cutShort_pullFrom (e : IoError) {m : Machine} (plain : m.mode.Plain) (p : Position)
    (bytes : List UInt8) (k : Nat) :
    CutShort (p.offset + k) e (pullFrom none m p bytes) (pullFrom (some e) m p (bytes.take k)) := by
  induction bytes generalizing m p k with
  | nil =>
    rw [List.take_nil]
    exact .failed fun v rest pulled => .inl (isScalar_of_pullFrom_nil plain pulled)
  | cons b bs ih =>
    cases k with
    | zero => exact .failed fun v rest pulled => isScalar_or_lt_of_pullFrom plain pulled
    | succ k =>
      have kind := Machine.step_within plain b
      rw [List.take_succ_cons, pullFrom, pullFrom]
      cases hs : m.step b with
      | next m' =>
        rw [hs] at kind
        have limit : (p.advance b).offset + k = p.offset + (k + 1) := by
          rw [Position.offset_advance]
          omega
        exact limit ▸ ih kind.1 (p.advance b) k
      | value v =>
        let rest : Cursor := ⟨p.advance b, bs⟩
        have left : rest.upTo (p.offset + (k + 1)) = ⟨p.advance b, bs.take k⟩ := by
          rw [Cursor.upTo, Position.offset_advance, Nat.add_sub_add_left, Nat.add_sub_cancel]
        have within : rest.position.offset ≤ p.offset + (k + 1) := by simp [rest]
        exact left ▸ .value v within
      | before v =>
        let rest : Cursor := ⟨p, b :: bs⟩
        have left : rest.upTo (p.offset + (k + 1)) = ⟨p, b :: bs.take k⟩ := by
          rw [Cursor.upTo, Nat.add_sub_cancel_left, List.take_succ_cons]
        have within : rest.position.offset ≤ p.offset + (k + 1) := by simp [rest]
        exact left ▸ .value v within
      | fault f back => exact .fault f _

/-- Reading the next value of a text that is cut off. -/
theorem cutShort_pull (e : IoError) {n : Nat} {c : Cursor} (within : c.position.offset ≤ n) :
    CutShort n e (pull none c) (pull (some e) (c.upTo n)) := by
  have cut := cutShort_pullFrom e (m := .start) trivial c.position c.bytes (n - c.position.offset)
  rwa [Nat.add_sub_cancel' within] at cut

theorem offset_le_of_pull {failure : Option IoError} {c rest : Cursor} {v : Value}
    (h : pull failure c = .value v rest) : c.position.offset ≤ rest.position.offset :=
  offset_le_of_pullFrom h

end ScriptedInput.Json

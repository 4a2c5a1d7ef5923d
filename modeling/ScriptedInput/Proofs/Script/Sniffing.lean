import ScriptedInput.Proofs.Script.Dialects

/-! Looking at the start of a script loses nothing of it. What is handed back is read byte by byte,
as any reader of it would see it, whatever buffers the bytes arrived in. -/
namespace ScriptedInput

namespace Source

def nextByte? : List (List UInt8) → Option (UInt8 × List (List UInt8))
  | [] => none
  | [] :: rest => nextByte? rest
  | (b :: bs) :: rest => some (b, bs :: rest)

def read (s : Source) : Except IoError (Option (UInt8 × Source)) :=
  match nextByte? s.buffers, s.failure with
  | some (b, rest), failure => .ok (some (b, ⟨rest, failure⟩))
  | none, some e => .error e
  | none, none => .ok none

/-- Reading a source to its end gives these bytes one after the other, and then this failure, if
there is one. -/
inductive Reads : Source → List UInt8 → Option IoError → Prop where
  | ended {s : Source} (nothing : s.read = .ok none) : Reads s [] none
  | failed {s : Source} {e : IoError} (refused : s.read = .error e) : Reads s [] (some e)
  | byte {s t : Source} {b : UInt8} {bs : List UInt8} {failure : Option IoError}
    (first : s.read = .ok (some (b, t))) (later : Reads t bs failure) : Reads s (b :: bs) failure

/-- The next byte is the first of all bytes. -/
private theorem nextByte?_spec (buffers : List (List UInt8)) :
    match nextByte? buffers with
    | none => buffers.flatten = []
    | some (b, rest) => buffers.flatten = b :: rest.flatten := by
  induction buffers with
  | nil => rfl
  | cons buffer rest ih =>
    cases buffer with
    | nil => exact ih
    | cons b bs => rfl

private theorem read_cases (s : Source) :
    (s.bytes = [] ∧ s.read = match s.failure with | none => .ok none | some e => .error e) ∨
      ∃ b t, s.read = .ok (some (b, t)) ∧ s.bytes = b :: t.bytes ∧ t.failure = s.failure := by
  have spec := nextByte?_spec s.buffers
  rw [read]
  cases next : nextByte? s.buffers with
  | none =>
    rw [next] at spec
    refine .inl ⟨spec, ?_⟩
    cases s.failure with
    | none => rfl
    | some e => rfl
  | some found =>
    rw [next] at spec
    exact .inr ⟨found.1, ⟨found.2, s.failure⟩, rfl, spec, rfl⟩

/-- A source is read in one way only: all its bytes, and then its failure. -/
private theorem reads_iff {s : Source} {bytes : List UInt8} {failure : Option IoError} :
    s.Reads bytes failure ↔ bytes = s.bytes ∧ failure = s.failure := by
  constructor
  · intro reads
    induction reads with
    | @ended s nothing =>
      rcases s.read_cases with ⟨none, read⟩ | ⟨b, t, read, -, -⟩
      · rw [nothing] at read
        cases hf : s.failure with
        | none => exact ⟨none.symm, rfl⟩
        | some e => simp [hf] at read
      · simp [nothing] at read
    | @failed s e refused =>
      rcases s.read_cases with ⟨none, read⟩ | ⟨b, t, read, -, -⟩
      · rw [refused] at read
        cases hf : s.failure with
        | none => simp [hf] at read
        | some e' =>
          rw [hf] at read
          exact ⟨none.symm, congrArg some (Except.error.inj read)⟩
      · simp [refused] at read
    | @byte s t b bs failure first _ ih =>
      obtain ⟨rest, kept⟩ := ih
      rcases s.read_cases with ⟨-, read⟩ | ⟨b', t', read, bytes, failure'⟩
      · rw [first] at read
        cases hf : s.failure with
        | none => simp [hf] at read
        | some e => simp [hf] at read
      · rw [first] at read
        obtain ⟨rfl, rfl⟩ := Prod.mk.inj (Option.some.inj (Except.ok.inj read))
        exact ⟨rest ▸ bytes.symm, kept.trans failure'⟩
  · rintro ⟨rfl, rfl⟩
    -- Each byte that is read leaves fewer.
    induction hn : s.bytes generalizing s with
    | nil =>
      rcases s.read_cases with ⟨-, read⟩ | ⟨b, t, -, bytes, -⟩
      · cases hf : s.failure with
        | none => exact .ended (by rw [read, hf])
        | some e => exact .failed (by rw [read, hf])
      · simp [hn] at bytes
    | cons b bs ih =>
      rcases s.read_cases with ⟨none, -⟩ | ⟨b', t, read, bytes, failure⟩
      · simp [hn] at none
      · obtain ⟨rfl, rest⟩ := List.cons.inj (hn.symm.trans bytes)
        exact .byte read (failure ▸ ih rest.symm)

end Source

/-- Sniffing is lossless. The first byte that is no line separator decides for a recording exactly
if it is `#` or `N`. What is handed back reads as all the bytes of the source, once each and in
order, and then as its failure. Only a failure that is met before such a byte keeps a source from
being sniffed; a source that ends there without one is taken for commands. -/
theorem sniff_lossless (s : Source) :
    match s.decisive?, s.failure with
    | some b, failure => ∃ t, s.sniff = .ok (if b = 35 ∨ b = 78 then .evemu else .json, t) ∧
        t.Reads s.bytes failure
    | none, none => ∃ t, s.sniff = .ok (.json, t) ∧ t.Reads s.bytes none
    | none, some e => s.sniff = .error e := by
  rcases s.sniff_cases with ⟨e, failure, unseen, refused⟩ | ⟨seen, t, found, bytes, failure⟩
  · rw [unseen, failure]
    exact refused
  · have reads : t.Reads s.bytes s.failure := Source.reads_iff.mpr ⟨bytes.symm, failure.symm⟩
    rw [Source.announced] at found
    cases first : s.decisive? with
    | some b =>
      rw [first, Dialect.ofFirst_eq] at found
      exact ⟨t, found, reads⟩
    | none =>
      have whole : s.failure = none := by simpa [first] using seen
      rw [first] at found
      rw [whole] at reads ⊢
      exact ⟨t, found, reads⟩

end ScriptedInput

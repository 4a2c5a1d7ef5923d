import Mathlib.Data.List.TakeWhile
import ScriptedInput.Proofs.Script.Feed

/-! Opening a script. Looking at its start takes nothing away from it, so that a script which can be
opened is read as if its dialect had been given. -/
namespace ScriptedInput

namespace Source

/-- The first byte that is no line separator. -/
def decisive? (s : Source) : Option UInt8 := s.bytes.find? (!isLineSeparator ·)

def announced (s : Source) : Dialect := .ofFirst s.decisive?

/-- What reading a source gives, in a given dialect or else in the one that its start announces. A
source that cannot be opened gives nothing but its failure. -/
def feed (s : Source) : Option Dialect → Feed
  | some d => (Script.ofSource d s).feed
  | none => match Script.openSource s with
    | .ok (_, script) => script.feed
    | .error e => ⟨[], some (.io e)⟩

private theorem find?_separators {bs : List UInt8} (h : bs.dropWhile isLineSeparator = []) :
    bs.find? (!isLineSeparator ·) = none := by
  rw [List.find?_eq_none]
  intro b hb
  simpa using List.dropWhile_eq_nil_iff.mp h b hb

/-- Nothing is lost or doubled where separators end, whatever buffer that is in. -/
private theorem skipSeparators_spec (buffers : List (List UInt8)) :
    (skipSeparators buffers).1 ++ (skipSeparators buffers).2.2.flatten = buffers.flatten ∧
      (skipSeparators buffers).2.1 = buffers.flatten.find? (!isLineSeparator ·) := by
  induction buffers with
  | nil => exact ⟨rfl, rfl⟩
  | cons buffer rest ih =>
    obtain ⟨bytes, first⟩ := ih
    rw [skipSeparators, List.flatten_cons]
    split
    · next hd =>
      refine ⟨?_, ?_⟩
      · rw [List.append_assoc, bytes]
      · rw [List.find?_append, find?_separators hd, Option.none_or]
        exact first
    · next b bs hd =>
      have parts : buffer.takeWhile isLineSeparator ++ b :: bs = buffer :=
        hd ▸ List.takeWhile_append_dropWhile
      have other : isLineSeparator b = false := by
        have kept := List.head?_dropWhile_not isLineSeparator buffer
        rwa [hd] at kept
      refine ⟨?_, ?_⟩
      · rw [List.flatten_cons, ← List.append_assoc, parts]
      · have before : (buffer.takeWhile isLineSeparator).find? (!isLineSeparator ·) = none := by
          rw [List.find?_eq_none]
          intro c hc
          simpa using List.mem_takeWhile_imp hc
        rw [← parts, List.append_assoc, List.find?_append, before, Option.none_or, List.cons_append,
          List.find?_cons_of_pos (by simp [other])]

/-- A script is opened unless reading fails before a byte that decides. -/
theorem sniff_cases (s : Source) :
    (∃ e, s.failure = some e ∧ s.decisive? = none ∧ s.sniff = .error e) ∨
      ((s.decisive?.isSome ∨ s.failure = none) ∧
        ∃ t, s.sniff = .ok (s.announced, t) ∧ t.bytes = s.bytes ∧ t.failure = s.failure) := by
  obtain ⟨bytes, first⟩ := skipSeparators_spec s.buffers
  have decides : (skipSeparators s.buffers).2.1 = s.decisive? := first
  rw [announced, ← decides, sniff]
  rcases hs : skipSeparators s.buffers with ⟨skipped, _ | b, left⟩
  · rw [hs] at bytes
    cases hf : s.failure with
    | some e => exact .inl ⟨e, rfl, rfl, rfl⟩
    | none => exact .inr ⟨.inr rfl, _, rfl, bytes, rfl⟩
  · rw [hs] at bytes
    exact .inr ⟨.inl rfl, _, rfl, bytes, rfl⟩

end Source

namespace Script

/-- Only the bytes of a source and the failure after them matter. -/
private theorem ofSource_congr {s t : Source} (bytes : t.bytes = s.bytes)
    (failure : t.failure = s.failure) (d : Dialect) : ofSource d t = ofSource d s := by
  cases d with
  | json => simp only [ofSource, CommandStream.ofSource, bytes, failure]
  | evemu => simp only [ofSource, Recording.ofSource, Lines.ofSource, Source.rawLines, bytes, failure]

private theorem openSource_cases (s : Source) :
    (∃ e, s.failure = some e ∧ s.decisive? = none ∧ openSource s = .error e) ∨
      ((s.decisive?.isSome ∨ s.failure = none) ∧
        openSource s = .ok (s.announced, ofSource s.announced s)) := by
  rcases s.sniff_cases with ⟨e, failure, unseen, refused⟩ | ⟨seen, t, found, bytes, failure⟩
  · exact .inl ⟨e, failure, unseen, by rw [openSource, refused]; rfl⟩
  · refine .inr ⟨seen, ?_⟩
    rw [openSource, found, ← ofSource_congr bytes failure]
    rfl

end Script

namespace Source

/-- A script that can be opened is read in the dialect that it announces. -/
theorem feed_opened {s : Source} (h : s.decisive?.isSome ∨ s.failure = none) :
    s.feed none = s.feed s.announced := by
  rcases Script.openSource_cases s with ⟨e, failure, unseen, -⟩ | ⟨-, opened⟩
  · simp [failure, unseen] at h
  · simp only [feed, opened]

theorem feed_refused {s : Source} {e : IoError} (unseen : s.decisive? = none)
    (failure : s.failure = some e) : s.feed none = ⟨[], some (.io e)⟩ := by
  rcases Script.openSource_cases s with ⟨e', failure', -, refused⟩ | ⟨seen, -⟩
  · obtain rfl : e = e' := Option.some.inj (failure.symm.trans failure')
    simp only [feed, refused]
  · simp [failure, unseen] at seen

end Source
end ScriptedInput

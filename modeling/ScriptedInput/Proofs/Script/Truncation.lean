import ScriptedInput.Proofs.Commands.Pieces
import ScriptedInput.Proofs.Recording.Pieces
import ScriptedInput.Proofs.Script.Dialects

/-! A failure to read on only truncates what a script gives. -/
namespace ScriptedInput

namespace Source

def pieces (s : Source) : Dialect → List Piece
  | .json => CommandStream.pieces { bytes := s.bytes }
  | .evemu => Recording.pieces s

/-- A source that hands out the first `n` bytes of another one, in any buffers, and then fails. -/
structure FailsAfter (n : Nat) (e : IoError) (whole cut : Source) : Prop where
  reads : whole.failure = none
  fails : cut.failure = some e
  bytes : cut.bytes = whole.bytes.take n

variable {n : Nat} {e : IoError} {whole cut : Source}

private theorem FailsAfter.cutOff (h : FailsAfter n e whole cut) (d : Dialect) :
    CutOff n e (whole.pieces d) (whole.feed (some d)) (cut.feed (some d)) := by
  cases d with
  | evemu => exact Recording.cutOff_ofSource h.reads h.fails h.bytes
  | json =>
    have start : ({ bytes := whole.bytes } : Json.Cursor).position.offset ≤ n := Nat.zero_le n
    have cutOff := CommandStream.cutOff_underway e start 0
    simp only [feed, Script.ofSource, CommandStream.ofSource, h.reads, h.fails, h.bytes]
    exact cutOff

/-- A byte that decides within the first bytes decides for the whole. -/
private theorem FailsAfter.announced (h : FailsAfter n e whole cut) (seen : cut.decisive?.isSome) :
    cut.announced = whole.announced := by
  obtain ⟨b, first⟩ := Option.isSome_iff_exists.mp seen
  have same : whole.decisive? = some b := by
    rw [decisive?, ← List.take_append_drop n whole.bytes, List.find?_append, ← h.bytes]
    rw [decisive?] at first
    rw [first, Option.some_or]
  rw [Source.announced, Source.announced, first, same]

end Source

/-- A failure to read on only truncates. Where reading a script fails after some of its bytes, in a
given dialect or in the one that is announced, the events are those that are told by values, header and
frames which lie completely within these bytes; they are the first events of the whole script, and then
comes the failure, or the fault that the whole script ends with. -/
theorem read_failure_truncates {n : Nat} {e : IoError} {whole cut : Source}
    (h : Source.FailsAfter n e whole cut) (forced : Option Dialect) :
    CutOff n e (whole.pieces (forced.getD whole.announced)) (whole.feed forced) (cut.feed forced) := by
  cases forced with
  | some d => exact h.cutOff d
  | none =>
    have cutOff := h.cutOff whole.announced
    rw [Option.getD_none, Source.feed_opened (.inr h.reads)]
    cases first : cut.decisive? with
    | some b =>
      have seen : cut.decisive?.isSome := by rw [first]; rfl
      rw [Source.feed_opened (.inl seen), h.announced seen]
      exact cutOff
    | none =>
      -- Opening fails. Read in the dialect of the whole, what there is gives nothing either.
      have silent : (cut.feed (some whole.announced)).events = [] := by
        by_contra given
        exact Source.not_yields_of_blank (Source.blank_of_decisive? first) _ given
      rw [Source.feed_refused first h.fails]
      refine ⟨cutOff.all, ?_, List.nil_prefix, .inl rfl⟩
      rw [← cutOff.complete, silent]
      rfl

def twoFrames : Source :=
  ⟨[Text.encode "N: k\nI: 3 1 2 0\nE: 0.0 0 0 0\nE: 0.02 0 0 0\n"], none⟩

def tornFrame : Source := .failingAfter 40 16 twoFrames.bytes (.os 5)

theorem tornFrame_truncated : Source.FailsAfter 40 (.os 5) twoFrames tornFrame ∧
    CutOff 40 (.os 5) (twoFrames.pieces .evemu) (twoFrames.feed none) (tornFrame.feed none) := by
  have fails : Source.FailsAfter 40 (.os 5) twoFrames tornFrame :=
    ⟨rfl, rfl, Source.bytes_buffered 16 (twoFrames.bytes.take 40) (some (.os 5))⟩
  have announced : twoFrames.announced = .evemu := by decide +kernel
  have cutOff := read_failure_truncates fails none
  rw [Option.getD_none, announced] at cutOff
  exact ⟨fails, cutOff⟩

end ScriptedInput

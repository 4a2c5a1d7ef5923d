import ScriptedInput.Proofs.Script.Feed

/-! Scripts piece by piece. What is told by one value of a stream of commands, or by the header or one
frame of a recording, is given together, once the text of it has been read to its end. -/
namespace ScriptedInput

/-- Events that are given together, and how many bytes a script has up to the end of what tells them.
There is no such number where only the end of the script ends it. -/
structure Piece where
  events : List Event
  stop : Option Nat
  deriving DecidableEq, Repr

def Piece.endsBy (n : Nat) (p : Piece) : Bool := p.stop.any (· ≤ n)

theorem Piece.endsBy_iff {n : Nat} {p : Piece} : p.endsBy n ↔ ∃ m, p.stop = some m ∧ m ≤ n := by
  simp [endsBy, Option.any_eq_true]

/-- The feed `cut` of a script of which only `n` bytes could be read, beside that of the whole script,
which these pieces make up. It has the pieces that are complete within these bytes, which come before
all others, and ends with the failure to read on, unless the whole ends at the same place with the same
failure. -/
structure CutOff (n : Nat) (e : IoError) (pieces : List Piece) (whole cut : Feed) : Prop where
  all : whole.events = pieces.flatMap (·.events)
  complete : cut.events = (pieces.filter (·.endsBy n)).flatMap (·.events)
  begins : cut.events <+: whole.events
  ending : cut.failure = some (.io e) ∨
    cut.events = whole.events ∧ whole.failure.isSome ∧ cut.failure = whole.failure

structure Feed.Adds (events : List Event) (later f : Feed) : Prop where
  events_eq : f.events = events ++ later.events
  failure_eq : f.failure = later.failure

namespace CutOff
variable {n : Nat} {e : IoError} {pieces kept dropped : List Piece} {p : Piece}
  {whole cut whole' cut' : Feed}

/-- Pieces that are complete come first, and then others that are not, or have no events. -/
theorem of_split (all : whole.events = (kept ++ dropped).flatMap (·.events))
    (given : cut.events = kept.flatMap (·.events)) (within : ∀ p ∈ kept, p.endsBy n)
    (beyond : ∀ p ∈ dropped, p.endsBy n → p.events = [])
    (ending : cut.failure = some (.io e) ∨
      cut.events = whole.events ∧ whole.failure.isSome ∧ cut.failure = whole.failure) :
    CutOff n e (kept ++ dropped) whole cut where
  all := all
  complete := by
    have silent : (dropped.filter (·.endsBy n)).flatMap (·.events) = [] := by
      rw [List.flatMap_eq_nil_iff]
      intro p hp
      obtain ⟨member, ends⟩ := List.mem_filter.mp hp
      exact beyond p member ends
    rw [List.filter_append, List.flatMap_append, List.filter_eq_self.mpr within, silent,
      List.append_nil, given]
  begins := by
    rw [all, given, List.flatMap_append]
    exact List.prefix_append _ _
  ending := ending

/-- Where nothing is given, nothing that has events may be complete. -/
theorem nothing (all : whole.events = pieces.flatMap (·.events)) (silent : cut.events = [])
    (beyond : ∀ p ∈ pieces, p.endsBy n → p.events = []) (failed : cut.failure = some (.io e)) :
    CutOff n e pieces whole cut := by
  rw [← List.nil_append pieces] at all
  exact of_split all silent (by simp) beyond (.inl failed)

/-- Where the failure is met later than the end of the whole, the cut shows nowhere. -/
theorem unharmed (all : whole.events = pieces.flatMap (·.events)) (within : ∀ p ∈ pieces, p.endsBy n)
    (failing : whole.failure.isSome) (events : cut.events = whole.events)
    (failure : cut.failure = whole.failure) : CutOff n e pieces whole cut := by
  have split : CutOff n e (pieces ++ []) whole cut :=
    of_split (by rwa [List.append_nil]) (events.trans all) within (by simp)
      (.inr ⟨events, failing, failure⟩)
  rwa [List.append_nil] at split

/-- One more complete piece in front. -/
theorem cons (h : CutOff n e pieces whole cut) (ends : p.endsBy n)
    (more : Feed.Adds p.events whole whole') (more' : Feed.Adds p.events cut cut') :
    CutOff n e (p :: pieces) whole' cut' where
  all := by rw [more.events_eq, h.all, List.flatMap_cons]
  complete := by rw [more'.events_eq, h.complete, List.filter_cons_of_pos ends, List.flatMap_cons]
  begins := by
    rw [more.events_eq, more'.events_eq, List.prefix_append_right_inj]
    exact h.begins
  ending := by
    rw [more.events_eq, more'.events_eq, more.failure_eq, more'.failure_eq]
    rcases h.ending with failed | ⟨events, failing, failure⟩
    · exact .inl failed
    · exact .inr ⟨congrArg _ events, failing, failure⟩

end CutOff
end ScriptedInput

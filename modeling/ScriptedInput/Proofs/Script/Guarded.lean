import ScriptedInput.Proofs.Commands.Guarded
import ScriptedInput.Proofs.Script.Discipline

/-! Scripts in programs that overflows stop. Only the reading of commands can overflow. A call that does is
not answered, and the stream is left behind the command as it was. -/
namespace ScriptedInput

/-- The next event of a stream of commands; no answer if the call is stopped. -/
def CommandStream.guardedNext (s : CommandStream) : Option Outcome × CommandStream :=
  match s.nextValue with
  | (.error e, s) => (some (.failed e), s)
  | (.ok none, s) => (some .ended, s)
  | (.ok (some v), s) =>
    match (Event.guardedOfValue v).run with
    | .ok (.ok e) => (some (.event { event := e }), { s with index := s.index + 1 })
    | .ok (.error f) =>
      (some (.failed (.malformed (.entry s.index s.cursor.position.offset) (.command f))),
        { s.finished with index := s.index + 1 })
    | .error _ => (none, { s with index := s.index + 1 })

namespace CommandStream
variable {s : CommandStream}

/-- A call answers as where numbers wrap around. If it is stopped, then the command that was read is refused
there for a number that has. -/
private theorem guardedNext_cases (s : CommandStream) : s.guardedNext = (some s.next.1, s.next.2) ∨
    ∃ v t, s.nextValue = (.ok (some v), t) ∧ s.guardedNext = (none, { t with index := t.index + 1 }) ∧
      ∃ location f, s.next.1 = .failed (.malformed location (.command f)) ∧ f.Wraps := by
  unfold guardedNext next
  rcases s.nextValue with ⟨e | _ | v, t⟩
  · exact .inl rfl
  · exact .inl rfl
  · dsimp only
    rcases Event.keeps_ofValue v with given | ⟨stopped, f, fault, wraps⟩
    · rw [(given : _ = _)]
      cases Event.ofValue v <;> exact .inl rfl
    · rw [stopped, fault]
      exact .inr ⟨v, t, rfl, rfl, _, f, rfl, wraps⟩

def GoesOn (answer : Option Outcome) : Prop := answer = none ∨ ∃ d, answer = some (.event d)

private theorem budget_lt_of_guardedNext (goes_on : GoesOn s.guardedNext.1) :
    s.guardedNext.2.budget < s.budget := by
  rcases s.guardedNext_cases with same | ⟨v, t, read, stopped, -⟩
  · rw [same] at goes_on ⊢
    obtain ⟨d, event⟩ := goes_on.resolve_left (Option.some_ne_none _)
    exact budget_lt_of_next (Prod.ext (Option.some.inj event) rfl)
  · rw [stopped]
    have less := budget_lt_of_nextValue read
    exact less

private theorem silent_of_guardedNext (ends : ¬ GoesOn s.guardedNext.1) :
    s.guardedNext.2.guardedNext = (some .ended, s.guardedNext.2) := by
  rcases s.guardedNext_cases with same | ⟨v, t, -, stopped, -⟩
  · rw [same] at ends ⊢
    have silent : s.next.2.next = (.ended, s.next.2) :=
      silent_of_next rfl fun d event => ends (.inr ⟨d, congrArg some event⟩)
    rcases s.next.2.guardedNext_cases with same | ⟨_, _, _, _, location, f, failed, _⟩
    · rw [same, silent]
    · rw [silent] at failed
      cases failed
  · rw [stopped] at ends
    exact absurd (.inl rfl) ends

end CommandStream

namespace Script

/-- The next event of a script. Nothing overflows in the reading of recordings. -/
def guardedNext : Script → Option Outcome × Script
  | commands s => let (o, s) := s.guardedNext; (o, commands s)
  | recording r => let (o, r) := r.next; (some o, recording r)

def guardedAnswer (s : Script) (calls : Nat) : Option Outcome := answerTo guardedNext s calls

/-- The first `k` calls give events or are stopped by overflows, the next one ends the script or fails, and
all later ones only say that it has ended. -/
structure GuardedEndsAt (s : Script) (k : Nat) : Prop where
  events : ∀ j < k, s.guardedAnswer j = none ∨ ∃ d, s.guardedAnswer j = some (.event d)
  ends : s.guardedAnswer k = some .ended ∨ ∃ e, s.guardedAnswer k = some (.failed e)
  ended : ∀ j, k < j → s.guardedAnswer j = some .ended

private theorem guardedNext_cases (s : Script) : s.guardedNext = (some s.next.1, s.next.2) ∨
    s.guardedNext.1 = none ∧
      ∃ location f, s.next.1 = .failed (.malformed location (.command f)) ∧ f.Wraps := by
  cases s with
  | commands s =>
    rcases s.guardedNext_cases with same | ⟨v, t, -, stopped, failed⟩
    · refine .inl ?_
      rw [guardedNext, same]
      rfl
    · refine .inr ⟨?_, failed⟩
      rw [guardedNext, stopped]
  | recording r => exact .inl rfl

private theorem guardedAnswer_commands (s : CommandStream) (k : Nat) :
    (commands s).guardedAnswer k = answerTo CommandStream.guardedNext s k := by
  induction k generalizing s with
  | zero => rfl
  | succ k ih => exact ih s.guardedNext.2

private theorem guardedAnswer_recording (r : Recording) (k : Nat) :
    (recording r).guardedAnswer k = some ((recording r).answer k) := by
  induction k generalizing r with
  | zero => rfl
  | succ k ih => exact ih r.next.2

private theorem exists_guardedEndsAt_commands (s : CommandStream) :
    ∃ k ≤ s.budget, (commands s).GuardedEndsAt k := by
  obtain ⟨k, hk, going, ends, rest⟩ := exists_endsAfter
    (fun _ => CommandStream.budget_lt_of_guardedNext) (fun _ => CommandStream.silent_of_guardedNext) s
  simp only [← guardedAnswer_commands] at going ends rest
  refine ⟨k, hk, going, ?_, rest⟩
  cases answered : (commands s).guardedAnswer k with
  | none => exact absurd (.inl answered) ends
  | some o =>
    cases o with
    | event d => exact absurd (.inr ⟨d, answered⟩) ends
    | ended => exact .inl rfl
    | failed e => exact .inr ⟨e, rfl⟩

private theorem EndsAt.guarded_recording {r : Recording} {k : Nat} (h : (recording r).EndsAt k) :
    (recording r).GuardedEndsAt k where
  events j hj := by
    obtain ⟨d, event⟩ := h.events j hj
    exact .inr ⟨d, by rw [guardedAnswer_recording, event]⟩
  ends := by
    rw [guardedAnswer_recording]
    exact h.ends.imp (congrArg some) fun ⟨e, failed⟩ => ⟨e, congrArg some failed⟩
  ended j hj := by rw [guardedAnswer_recording, h.ended j hj]

/-- Up to the first call that is stopped, the answers are those that are given where numbers wrap around. -/
private theorem guardedAnswer_eq (s : Script) {calls : Nat}
    (running : ∀ j < calls, s.guardedAnswer j ≠ none) :
    s.guardedAnswer calls = some (s.answer calls) ∨ s.guardedAnswer calls = none ∧
      ∃ location f, s.answer calls = .failed (.malformed location (.command f)) ∧ f.Wraps := by
  induction calls generalizing s with
  | zero =>
    rcases s.guardedNext_cases with same | stopped
    · exact .inl (congrArg Prod.fst same)
    · exact .inr stopped
  | succ calls ih =>
    rcases s.guardedNext_cases with same | ⟨stopped, -⟩
    · have later (k : Nat) : s.guardedAnswer (k + 1) = s.next.2.guardedAnswer k := by
        rw [guardedAnswer, answerTo_succ, same]
        rfl
      rw [later, answer_succ (Prod.mk.eta).symm]
      exact ih s.next.2 fun j hj => later j ▸ running (j + 1) (Nat.succ_lt_succ hj)
    · exact absurd stopped (running 0 (Nat.zero_lt_succ calls))

end Script

/-- Scripts keep the discipline of a stream. However its bytes are, and whether or not reading them fails, a
script gives no more events than it has bytes; then one call ends it, with a failure or without, and every
call after that says that it has ended. The same holds where overflows stop a call: none that is stopped
comes later, and before the first all answers are the same. There the script fails where numbers wrap
around, by one that has. -/
theorem stream_ends_once (d : Dialect) (s : Source) :
    (∃ k ≤ s.bytes.length, (Script.ofSource d s).EndsAt k) ∧
    (∃ k ≤ s.bytes.length, (Script.ofSource d s).GuardedEndsAt k) ∧
    ∀ calls, (∀ j < calls, (Script.ofSource d s).guardedAnswer j ≠ none) →
      (Script.ofSource d s).guardedAnswer calls = some ((Script.ofSource d s).answer calls) ∨
      (Script.ofSource d s).guardedAnswer calls = none ∧ ∃ location f,
        (Script.ofSource d s).answer calls = .failed (.malformed location (.command f)) ∧ f.Wraps := by
  obtain ⟨k, hk, ends⟩ := Script.exists_endsAt_ofSource d s
  refine ⟨⟨k, hk, ends⟩, ?_, fun calls running => Script.guardedAnswer_eq _ running⟩
  cases d with
  | json => exact Script.exists_guardedEndsAt_commands (.ofSource s)
  | evemu => exact ⟨k, hk, ends.guarded_recording⟩

end ScriptedInput

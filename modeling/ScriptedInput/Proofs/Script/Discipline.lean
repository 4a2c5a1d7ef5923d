import Mathlib.Logic.Function.Iterate
import ScriptedInput.Proofs.Json.Weight
import ScriptedInput.Proofs.Recording.Feed
import ScriptedInput.Proofs.Text.Utf8

/-! The discipline of asking a script for its events. Every call answers, there are no more events than
bytes, and after the first answer that is no event nothing is given any more, whatever is asked. -/
namespace ScriptedInput

section Asking
variable {σ ω : Type} {ask : σ → ω × σ} {goes : ω → Prop} {last : ω} {s : σ} {k : Nat}

/-- The answer to a call that comes after so many others. -/
def answerTo (ask : σ → ω × σ) (s : σ) (calls : Nat) : ω := (ask ((fun s => (ask s).2)^[calls] s)).1

theorem answerTo_succ (ask : σ → ω × σ) (s : σ) (k : Nat) :
    answerTo ask s (k + 1) = answerTo ask (ask s).2 k := rfl

/-- Calls go on for a while, then one does not, and all later ones are answered alike. -/
structure EndsAfter (ask : σ → ω × σ) (goes : ω → Prop) (last : ω) (s : σ) (k : Nat) : Prop where
  going : ∀ j < k, goes (answerTo ask s j)
  ends : ¬ goes (answerTo ask s k)
  rest : ∀ j, k < j → answerTo ask s j = last

private theorem answerTo_silent (silent : ask s = (last, s)) (k : Nat) : answerTo ask s k = last := by
  induction k with
  | zero => exact congrArg Prod.fst silent
  | succ k ih => rw [answerTo_succ, silent, ih]

private theorem EndsAfter.zero (ends : ¬ goes (ask s).1) (silent : ask (ask s).2 = (last, (ask s).2)) :
    EndsAfter ask goes last s 0 where
  going j hj := absurd hj (Nat.not_lt_zero j)
  ends := ends
  rest j hj := by
    obtain ⟨j, rfl⟩ := Nat.exists_eq_succ_of_ne_zero (Nat.ne_of_gt hj)
    exact answerTo_silent silent j

private theorem EndsAfter.succ (goes_on : goes (ask s).1) (later : EndsAfter ask goes last (ask s).2 k) :
    EndsAfter ask goes last s (k + 1) where
  going j hj := by
    cases j with
    | zero => exact goes_on
    | succ j => exact later.going j (Nat.lt_of_succ_lt_succ hj)
  ends := later.ends
  rest j hj := by
    obtain ⟨j, rfl⟩ := Nat.exists_eq_succ_of_ne_zero (Nat.ne_zero_of_lt hj)
    exact later.rest j (Nat.lt_of_succ_lt_succ hj)

/-- Calls that use up a budget end when it is used up, if not before. -/
theorem exists_endsAfter {budget : σ → Nat} (less : ∀ s, goes (ask s).1 → budget (ask s).2 < budget s)
    (silent : ∀ s, ¬ goes (ask s).1 → ask (ask s).2 = (last, (ask s).2)) (s : σ) :
    ∃ k ≤ budget s, EndsAfter ask goes last s k := by
  induction hn : budget s using Nat.strongRecOn generalizing s with
  | _ n ih =>
    by_cases goes_on : goes (ask s).1
    · have smaller := less s goes_on
      obtain ⟨k, hk, later⟩ := ih _ (by omega) (ask s).2 rfl
      exact ⟨k + 1, by omega, .succ goes_on later⟩
    · exact ⟨0, Nat.zero_le n, .zero goes_on (silent s goes_on)⟩

end Asking

namespace CommandStream

/-- A stream that is done has nothing that waits, and stays as it is. -/
private theorem next_silent {s : CommandStream} (done : s.done) (pending : s.pending = []) :
    s.next = (.ended, s) := by
  have value : s.nextValue = (.ok none, s) := by
    rw [nextValue]
    simp only [pending, done, if_true]
  rw [next, value]

/-- A stream that gives no value is done. -/
private theorem done_of_nextValue {s t : CommandStream} {r : Except ParseError (Option Json.Value)}
    (h : s.nextValue = (r, t)) (none : ∀ v, r ≠ .ok (some v)) : t.done ∧ t.pending = [] := by
  fun_induction nextValue s with
  | case1 | case8 | case9 =>
    obtain ⟨rfl, -⟩ := Prod.mk.inj h
    exact absurd rfl (none _)
  | case2 s hp hd =>
    obtain ⟨-, rfl⟩ := Prod.mk.inj h
    exact ⟨hd, hp⟩
  | case7 _ _ _ _ _ ih => exact ih h
  | _ =>
    obtain ⟨-, rfl⟩ := Prod.mk.inj h
    exact ⟨rfl, rfl⟩

theorem silent_of_next {s t : CommandStream} {o : Outcome} (h : s.next = (o, t))
    (none : ∀ d, o ≠ .event d) : t.next = (.ended, t) := by
  unfold next at h
  split at h
  · next hv =>
    obtain ⟨-, rfl⟩ := Prod.mk.inj h
    obtain ⟨done, pending⟩ := done_of_nextValue hv (by simp)
    exact next_silent done pending
  · next hv =>
    obtain ⟨-, rfl⟩ := Prod.mk.inj h
    obtain ⟨done, pending⟩ := done_of_nextValue hv (by simp)
    exact next_silent done pending
  · split at h
    · obtain ⟨rfl, -⟩ := Prod.mk.inj h
      exact absurd rfl (none _)
    · obtain ⟨-, rfl⟩ := Prod.mk.inj h
      exact next_silent rfl rfl

/-- The events that a stream can still give: one for each command that waits, and for each byte. -/
def budget (s : CommandStream) : Nat := s.cursor.bytes.length + s.pending.length

theorem budget_lt_of_nextValue {s t : CommandStream} {v : Json.Value}
    (h : s.nextValue = (.ok (some v), t)) : t.budget < s.budget := by
  fun_induction nextValue s with
  | case1 s v rest hp =>
    obtain ⟨-, rfl⟩ := Prod.mk.inj h
    simp [budget, hp]
  | case7 s hp _ rest hr ih =>
    have shorter := Json.length_lt_of_pull hr
    have later := ih h
    simp only [budget, hp, List.length_nil] at later ⊢
    omega
  | case8 s hp _ v vs rest hr =>
    have items := Json.weight_le_of_pull hr
    obtain ⟨-, rfl⟩ := Prod.mk.inj h
    simp only [Json.Value.weight, List.length_cons] at items
    simp only [budget, hp, List.length_nil]
    omega
  | case9 s hp _ v rest _ _ hr =>
    have shorter := Json.length_lt_of_pull hr
    obtain ⟨-, rfl⟩ := Prod.mk.inj h
    simp only [budget, hp, List.length_nil]
    omega
  | _ => simp at h

theorem budget_lt_of_next {s t : CommandStream} {d : Delivery} (h : s.next = (.event d, t)) :
    t.budget < s.budget := by
  unfold next at h
  split at h
  · simp at h
  · simp at h
  · next hv =>
    split at h
    · obtain ⟨-, rfl⟩ := Prod.mk.inj h
      have less := budget_lt_of_nextValue hv
      exact less
    · simp at h

end CommandStream

namespace Recording

private theorem next_finished (r : Recording) : r.finished.next = (.ended, r.finished) := rfl

private theorem give_silent {r t : Recording} {warnings : List Warning} {o : Outcome}
    (h : r.give warnings = (o, t)) (none : ∀ d, o ≠ .event d) : t.next = (.ended, t) := by
  unfold give at h
  split at h
  · obtain ⟨-, rfl⟩ := Prod.mk.inj h
    exact r.next_finished
  · obtain ⟨rfl, -⟩ := Prod.mk.inj h
    exact absurd rfl (none _)

private theorem silent_of_next {r t : Recording} {o : Outcome} (h : r.next = (o, t))
    (none : ∀ d, o ≠ .event d) : t.next = (.ended, t) := by
  unfold next at h
  split at h
  · exact give_silent h none
  · next hp hs =>
    obtain ⟨-, rfl⟩ := Prod.mk.inj h
    rw [next, hp, hs]
  · split at h
    · obtain ⟨-, rfl⟩ := Prod.mk.inj h
      exact r.next_finished
    · obtain ⟨rfl, -⟩ := Prod.mk.inj h
      exact absurd rfl (none _)
  · split at h
    · obtain ⟨-, rfl⟩ := Prod.mk.inj h
      exact r.next_finished
    · obtain ⟨-, rfl⟩ := Prod.mk.inj h
      exact r.next_finished
    · exact give_silent h none

/-- The events that a recording can still give: those that wait, a registration before its header, and
for each line a frame with the delay before it. -/
def budget (r : Recording) : Nat :=
  2 * r.lines.lines.length + r.pending.length + if r.stage = .header then 1 else 0

private theorem length_schedule_le (clock : Option Nat) (f : EventFrame) :
    (schedule clock f).events.length ≤ 2 := by
  unfold schedule
  dsimp only
  repeat' split
  all_goals simp

private theorem budget_lt_of_next {r t : Recording} {d : Delivery} (h : r.next = (.event d, t)) :
    t.budget < r.budget := by
  unfold next at h
  split at h
  · obtain ⟨hl, hs, hp⟩ := give_event h
    simp only [budget, hl, hs]
    omega
  · simp at h
  · next hp hs =>
    split at h
    · simp at h
    · next hr =>
      obtain ⟨-, rfl⟩ := Prod.mk.inj h
      have fewer := length_le_of_readHeader hr
      simp only [budget, hp, hs, List.length_nil, if_true, reduceCtorEq, if_false]
      omega
  · next hp hs =>
    split at h
    · simp at h
    · simp at h
    · next frame rest hf =>
      have fewer := length_lt_of_readFrame hf
      have few := length_schedule_le r.clock frame
      obtain ⟨hl, ht, hw⟩ := give_event h
      simp only [Option.isSome_none, Bool.false_eq_true, false_and, or_false] at fewer
      simp only [budget, hl, ht, hs, hp, List.length_nil, reduceCtorEq, if_false] at hw ⊢
      omega

end Recording

namespace Script

def after (s : Script) (calls : Nat) : Script := (fun s => s.next.2)^[calls] s

def answer (s : Script) (calls : Nat) : Outcome := (s.after calls).next.1

/-- The first `k` calls give events, the next one ends the script or fails, and all later ones only say
that it has ended. -/
structure EndsAt (s : Script) (k : Nat) : Prop where
  events : ∀ j < k, ∃ d, s.answer j = .event d
  ends : s.answer k = .ended ∨ ∃ e, s.answer k = .failed e
  ended : ∀ j, k < j → s.answer j = .ended

def budget : Script → Nat
  | commands s => s.budget
  | recording r => r.budget

private theorem next_commands (s : CommandStream) : (commands s).next = (s.next.1, commands s.next.2) :=
  rfl

private theorem next_recording (r : Recording) : (recording r).next = (r.next.1, recording r.next.2) :=
  rfl

private theorem budget_lt_of_next {s t : Script} {d : Delivery} (h : s.next = (.event d, t)) :
    t.budget < s.budget := by
  cases s with
  | commands s =>
    obtain ⟨ho, rfl⟩ := Prod.mk.inj h
    exact CommandStream.budget_lt_of_next (Prod.ext ho rfl)
  | recording r =>
    obtain ⟨ho, rfl⟩ := Prod.mk.inj h
    exact Recording.budget_lt_of_next (Prod.ext ho rfl)

private theorem silent_of_next {s t : Script} {o : Outcome} (h : s.next = (o, t))
    (none : ∀ d, o ≠ .event d) : t.next = (.ended, t) := by
  cases s with
  | commands s =>
    rw [next_commands] at h
    obtain ⟨rfl, rfl⟩ := Prod.mk.inj h
    have step : s.next.2.next = (.ended, s.next.2) := CommandStream.silent_of_next rfl none
    rw [next_commands, step]
  | recording r =>
    rw [next_recording] at h
    obtain ⟨rfl, rfl⟩ := Prod.mk.inj h
    have step : r.next.2.next = (.ended, r.next.2) := Recording.silent_of_next rfl none
    rw [next_recording, step]

theorem answer_succ {s t : Script} {o : Outcome} (h : s.next = (o, t)) (k : Nat) :
    s.answer (k + 1) = t.answer k := by
  rw [answer, after, Function.iterate_succ_apply, h]
  rfl

private theorem EndsAt.of_endsAfter {s : Script} {k : Nat}
    (h : EndsAfter next (∃ d, · = .event d) .ended s k) : s.EndsAt k where
  events := h.going
  ends := by
    have last : ¬ ∃ d, s.answer k = .event d := h.ends
    cases answered : s.answer k with
    | event d => exact absurd ⟨d, answered⟩ last
    | ended => exact .inl rfl
    | failed e => exact .inr ⟨e, rfl⟩
  ended := h.rest

private theorem EndsAt.endsAfter {s : Script} {k : Nat} (h : s.EndsAt k) :
    EndsAfter next (∃ d, · = .event d) .ended s k where
  going := h.events
  ends := by
    rintro ⟨d, event⟩
    rcases h.ends with ended | ⟨e, failed⟩
    · cases event.symm.trans ended
    · cases event.symm.trans failed
  rest := h.ended

private theorem endsAt_zero {s t : Script} {o : Outcome} (h : s.next = (o, t))
    (none : ∀ d, o ≠ .event d) : s.EndsAt 0 := by
  refine .of_endsAfter (.zero ?_ ?_)
  · rw [h]
    exact fun ⟨d, event⟩ => none d event
  · rw [h]
    exact silent_of_next h none

private theorem endsAt_succ {s t : Script} {d : Delivery} (h : s.next = (.event d, t)) {k : Nat}
    (later : t.EndsAt k) : s.EndsAt (k + 1) := by
  refine .of_endsAfter (.succ ?_ ?_)
  · rw [h]
    exact ⟨d, rfl⟩
  · rw [h]
    exact later.endsAfter

/-- A script ends when its budget is used up, if not before. -/
private theorem exists_endsAt (s : Script) : ∃ k ≤ s.budget, s.EndsAt k := by
  obtain ⟨k, hk, ends⟩ := @exists_endsAfter _ _ next (∃ d, · = .event d) .ended budget
    (fun s ⟨d, event⟩ => budget_lt_of_next (Prod.ext event rfl))
    (fun s none => silent_of_next rfl fun d event => none ⟨d, event⟩) s
  exact ⟨k, hk, .of_endsAfter ends⟩

/-- A script ends with the call after the last of its events. -/
theorem endsAt_feed (s : Script) : s.EndsAt s.feed.deliveries.length := by
  fun_induction feed s with
  | case1 s d rest step after ih => exact endsAt_succ step ih
  | case2 s rest step => exact endsAt_zero step (by simp)
  | case3 s e rest step => exact endsAt_zero step (by simp)

end Script

/-- Every byte is in a line or ends one. -/
theorem length_splitLines (bytes : List UInt8) :
    (splitLines bytes).1.flatten.length + (splitLines bytes).1.length + (splitLines bytes).2.length =
      bytes.length := by
  induction bytes with
  | nil => rfl
  | cons b bs ih =>
    rw [splitLines]
    rcases hs : splitLines bs with ⟨_ | ⟨line, lines⟩, left⟩ <;> rw [hs] at ih <;>
      by_cases hb : b = 10 <;> simp [hb] at ih ⊢ <;> omega

namespace Lines

/-- A line that counts has a byte, and so does what ends it. -/
private theorem length_number_le (failure : Option IoError) (n : Nat) (raws : List (List UInt8)) :
    2 * (number failure n raws).lines.length ≤ raws.flatten.length + raws.length := by
  induction raws generalizing n with
  | nil => simp [number]
  | cons raw raws ih =>
    rw [number, List.flatten_cons, List.length_append, List.length_cons]
    split
    · simp
    · next text ht =>
      have later := ih (n + 1)
      dsimp only
      split
      · next counted =>
        have byte : 0 < raw.length := by
          rw [List.length_pos_iff]
          rintro rfl
          obtain rfl : "" = text := Option.some.inj ((Text.decode?_bytesOf []).symm.trans ht)
          simp [counts, withoutReturns] at counted
        rw [List.length_cons]
        omega
      · omega

/-- There are at most half as many lines that count as bytes; only the last may lack what ends it. -/
private theorem length_ofSource_le (s : Source) :
    2 * (ofSource s).lines.length ≤ s.bytes.length + 1 := by
  have total := length_splitLines s.bytes
  have counted := length_number_le s.failure 0 s.rawLines
  have raws : s.rawLines.flatten.length + s.rawLines.length ≤ s.bytes.length + 1 := by
    rw [Source.rawLines]
    dsimp only
    split
    · omega
    · rw [List.flatten_append, List.length_append, List.length_append, List.flatten_singleton,
        List.length_singleton]
      omega
  rw [ofSource]
  omega

end Lines

/-- A header takes at least the line with the name. -/
private theorem Recording.length_lt_of_readHeader {failure : Option IoError} {lines rest : List Line}
    {r : Registration} (hr : readHeader failure {} lines = .ok (r, rest)) :
    rest.length < lines.length := by
  cases lines with
  | nil =>
    unfold readHeader at hr
    split at hr <;> simp [Header.registration] at hr
  | cons line lines =>
    unfold readHeader at hr
    split at hr
    · simp at hr
    · exact Nat.lt_succ_of_le (length_le_of_readHeader hr)
    · simp [Header.registration] at hr

/-- However its bytes are, and whether or not reading them fails, a script gives no more events than it
has bytes before it ends. -/
theorem Script.exists_endsAt_ofSource (d : Dialect) (s : Source) :
    ∃ k ≤ s.bytes.length, (Script.ofSource d s).EndsAt k := by
  cases d with
  | json =>
    obtain ⟨k, hk, ends⟩ := (Script.ofSource .json s).exists_endsAt
    exact ⟨k, hk, ends⟩
  | evemu =>
    cases hr : Recording.readHeader (Lines.ofSource s).failure {} (Lines.ofSource s).lines with
    | error e =>
      have failed : (Script.ofSource .evemu s).next =
          (.failed e, .recording (Recording.ofSource s).finished) := by
        rw [Script.ofSource, Script.next, Recording.ofSource, Recording.next_headless hr]
      exact ⟨0, Nat.zero_le _, Script.endsAt_zero failed (by simp)⟩
    | ok read =>
      let left := Recording.underway { Lines.ofSource s with lines := read.2 } none
      have registered : (Script.ofSource .evemu s).next =
          (.event { event := ⟨Recording.deviceId, .register read.1⟩ }, .recording left) := by
        rw [Script.ofSource, Script.next, Recording.ofSource, Recording.next_registered hr]
      obtain ⟨k, hk, later⟩ := (Script.recording left).exists_endsAt
      have fewer := Recording.length_lt_of_readHeader hr
      have bytes := Lines.length_ofSource_le s
      have budget : (Script.recording left).budget = 2 * read.2.length := by
        simp [Script.budget, Recording.budget, left, Recording.underway]
      exact ⟨k + 1, by omega, Script.endsAt_succ registered later⟩

end ScriptedInput

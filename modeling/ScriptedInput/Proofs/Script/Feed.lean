import ScriptedInput.Script.Reading

/-! What a script gives as a whole, told from its next event, and the bytes that it is read from. -/
namespace ScriptedInput

namespace Source

private theorem flatten_cut (size : Nat) {n : Nat} {bytes : List UInt8} (h : bytes.length ≤ n) :
    (buffered.cut size n bytes).flatten = bytes := by
  induction n generalizing bytes with
  | zero => simp [List.length_eq_zero_iff.mp (Nat.le_zero.mp h), buffered.cut]
  | succ n ih =>
    cases bytes with
    | nil => rfl
    | cons b bs =>
      have rest : ((b :: bs).drop (max size 1)).length ≤ n := by
        simp only [List.length_drop, List.length_cons] at h ⊢
        omega
      rw [buffered.cut, List.flatten_cons, ih rest, List.take_append_drop]
      simp

/-- Buffers of any size hand out the same bytes. -/
theorem bytes_buffered (size : Nat) (bytes : List UInt8) (failure : Option IoError) :
    (buffered size bytes failure).bytes = bytes := flatten_cut size (Nat.le_refl _)

end Source

namespace Script

theorem feed_event {s t : Script} {d : Delivery} (h : s.next = (.event d, t)) :
    s.feed = ⟨d :: t.feed.deliveries, t.feed.failure⟩ := by
  rw [feed]
  split <;> simp_all

theorem feed_ended {s t : Script} (h : s.next = (.ended, t)) : s.feed = ⟨[], none⟩ := by
  rw [feed]
  split <;> simp_all

theorem feed_failed {s t : Script} {e : ParseError} (h : s.next = (.failed e, t)) :
    s.feed = ⟨[], some e⟩ := by
  rw [feed]
  split <;> simp_all

theorem events_eq_ok_iff {s : Script} {events : List Event} :
    s.events = .ok events ↔ s.feed.failure = none ∧ s.feed.events = events := by
  unfold Script.events
  cases s.feed.failure <;> simp

/-- The feed of a script that is read to its end, or to its failure, by at most that many steps. -/
def feedWithin? : Nat → Script → Option Feed
  | 0, _ => none
  | n + 1, s =>
    match s.next with
    | (.event d, rest) =>
      (feedWithin? n rest).map (fun after => { after with deliveries := d :: after.deliveries })
    | (.ended, _) => some ⟨[], none⟩
    | (.failed e, _) => some ⟨[], some e⟩

private theorem feed_of_feedWithin? {n : Nat} {s : Script} {f : Feed} (h : s.feedWithin? n = some f) :
    s.feed = f := by
  induction n generalizing s f with
  | zero => cases h
  | succ n ih =>
    rw [feedWithin?] at h
    split at h
    · next read =>
      obtain ⟨after, given, rfl⟩ := Option.map_eq_some_iff.mp h
      rw [feed_event read, ih given]
    · next ended =>
      cases h
      exact feed_ended ended
    · next failed =>
      cases h
      exact feed_failed failed

/-- What holds of a feed can be computed from as many steps as it takes. -/
theorem of_feedWithin? {α : Type} {n : Nat} {s : Script} {g : Feed → α} {x : α}
    (h : (s.feedWithin? n).map g = some x) : g s.feed = x := by
  obtain ⟨f, read, rfl⟩ := Option.map_eq_some_iff.mp h
  rw [feed_of_feedWithin? read]

theorem events_of_feedWithin? {n : Nat} {s : Script} {events : List Event}
    (h : (s.feedWithin? n).map (fun f => (f.failure, f.events)) = some (none, events)) :
    s.events = .ok events :=
  events_eq_ok_iff.mpr (Prod.mk.inj (of_feedWithin? h))

end Script

end ScriptedInput

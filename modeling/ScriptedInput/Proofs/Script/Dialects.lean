import ScriptedInput.Proofs.Commands.ReadBack
import ScriptedInput.Proofs.Recording.FirstLine
import ScriptedInput.Proofs.Script.Opening

/-! The two dialects apart. A text that gives a command starts, after white space, with the first byte
of a JSON value, which starts no line of a recording; and it is not taken for a recording, since that
byte is neither `#` nor `N`. -/
namespace ScriptedInput

namespace Json

def startsValue (b : UInt8) : Bool :=
  (digitOf? b).isSome || b = 34 || b = 45 || b = 91 || b = 123 || b = 110 || b = 116 || b = 102

private theorem begin_refused (stack : List Frame) {b : UInt8} (h : startsValue b = false) :
    Machine.begin stack b = .fault .expectedValue := by
  simp only [startsValue, Bool.or_eq_false_iff, decide_eq_false_iff_not, Option.isSome_eq_false_iff,
    Option.isNone_iff_eq_none] at h
  simp [Machine.begin, h]

def ValueLeads (bytes : List UInt8) : Prop :=
  ∃ spaces b post, bytes = spaces ++ b :: post ∧ BlankBytes spaces ∧ startsValue b

/-- Where a value can be read, its first byte leads. -/
private theorem valueLeads_of_pullFrom {failure : Option IoError} {p : Position} {bytes : List UInt8}
    {v : Value} {rest : Cursor} (h : pullFrom failure .start p bytes = .value v rest) :
    ValueLeads bytes := by
  induction bytes generalizing p with
  | nil =>
    unfold pullFrom at h
    split at h <;> simp [Machine.start, Machine.last] at h
  | cons b bs ih =>
    by_cases space : isSpace b
    · have skipped : Machine.start.step b = .next .start := by
        simp only [Machine.start, Machine.step, space, if_true]
      rw [pullFrom, skipped] at h
      obtain ⟨spaces, c, post, rfl, blank, starts⟩ := ih h
      exact ⟨b :: spaces, c, post, rfl, List.forall_mem_cons.mpr ⟨space, blank⟩, starts⟩
    · cases starts : startsValue b with
      | true => exact ⟨[], b, bs, rfl, by simp [BlankBytes], starts⟩
      | false =>
        have refused : Machine.start.step b = .fault .expectedValue := by
          simp only [Machine.start, Machine.step, space, Bool.false_eq_true, if_false,
            begin_refused [] starts]
        rw [pullFrom, refused] at h
        cases h

/-- What starts a value starts no line of a recording. -/
private theorem foreign_of_startsValue {b : UInt8} (h : startsValue b) : Foreign b := by
  have numbers : 48 ≤ b.toNat ∧ b.toNat ≤ 57 ∨ b.toNat ∈ [34, 45, 91, 123, 110, 116, 102] := by
    simp only [startsValue, digitOf?, Bool.or_eq_true, decide_eq_true_eq, Option.isSome_ite] at h
    rcases h with ((((((⟨low, high⟩ | rfl) | rfl) | rfl) | rfl) | rfl) | rfl) | rfl
    · exact .inl ⟨UInt8.le_iff_toNat_le.mp low, UInt8.le_iff_toNat_le.mp high⟩
    all_goals exact .inr (by decide)
  simp only [List.mem_cons, List.not_mem_nil, or_false] at numbers
  refine ⟨by omega, fun c same => ?_⟩
  have apart : ∀ d ∈ '#' :: Header.tags, c ≠ d := by
    simp only [Header.tags, List.forall_mem_cons]
    refine ⟨?_, ?_, ?_, ?_, ?_, ?_, ?_, ?_, ?_, by simp⟩
    all_goals
      rintro rfl
      simp only [Char.reduceToNat] at same
      omega
  have shown : Text.isBlank c = false := by
    rw [Bool.eq_false_iff]
    intro blank
    simp only [Text.isBlank, same, Bool.or_eq_true, Bool.and_eq_true, decide_eq_true_eq,
      beq_iff_eq] at blank
    omega
  have untagged : c ∉ Header.tags := fun member => apart c (List.mem_cons_of_mem _ member) rfl
  exact ⟨apart '#' List.mem_cons_self, untagged, shown⟩

end Json

namespace Source
variable {s : Source}

def Yields (s : Source) (d : Dialect) : Prop := (s.feed (some d)).events ≠ []

private theorem yields_of_events {d : Dialect} {events : List Event} (given : events ≠ [])
    (read : (Script.ofSource d s).events = .ok events) : s.Yields d := by
  rw [Yields, feed, (Script.events_eq_ok_iff.mp read).2]
  exact given

/-- What gives a command starts as a JSON value does. -/
private theorem valueLeads_of_yields (h : s.Yields .json) : Json.ValueLeads s.bytes := by
  have ready : (CommandStream.ofSource s).Ready := ⟨rfl, rfl⟩
  by_contra none
  have empty := ready.feed_none fun v rest pulled => none (Json.valueLeads_of_pullFrom pulled)
  exact h (by simp only [feed, Script.ofSource, Feed.events, empty, List.map_nil])

private theorem not_yields_evemu_of_refuses (h : Recording.Refuses s.failure s.rawLines) :
    ¬ s.Yields .evemu := by
  obtain ⟨e, refused⟩ := h 0
  have failed : (Script.ofSource .evemu s).next =
      (.failed e, .recording (Recording.ofSource s).next.2) := Prod.ext refused rfl
  intro yields
  exact yields (by rw [feed, Script.feed_failed failed]; rfl)

/-- What starts as a JSON value does is no recording. -/
private theorem not_yields_evemu (h : Json.ValueLeads s.bytes) : ¬ s.Yields .evemu := by
  obtain ⟨spaces, b, post, bytes, blank, starts⟩ := h
  exact not_yields_evemu_of_refuses
    (Recording.refuses_foreign bytes blank (Json.foreign_of_startsValue starts))

/-- White space gives nothing in either dialect. -/
theorem not_yields_of_blank (blank : BlankBytes s.bytes) (d : Dialect) : ¬ s.Yields d := by
  cases d with
  | evemu => exact not_yields_evemu_of_refuses (Recording.refuses_blank (s.blank_rawLines blank))
  | json =>
    intro yields
    obtain ⟨spaces, b, post, bytes, -, starts⟩ := valueLeads_of_yields yields
    have space : Json.isSpace b := by
      apply blank b
      rw [bytes]
      exact List.mem_append_right _ List.mem_cons_self
    rcases Json.isSpace_cases space with rfl | rfl | rfl | rfl <;> exact absurd starts (by decide)

/-- What starts as a JSON value does is not taken for a recording. -/
private theorem announced_json (h : Json.ValueLeads s.bytes) :
    s.decisive?.isSome ∧ s.announced = .json := by
  obtain ⟨spaces, b, post, bytes, blank, starts⟩ := h
  have commands {x : UInt8} (hx : Json.isSpace x ∨ Json.startsValue x) :
      Dialect.ofFirst (some x) = .json := by
    unfold Dialect.ofFirst
    split
    · next h => exact absurd (Option.some.inj h ▸ hx) (by decide)
    · next h => exact absurd (Option.some.inj h ▸ hx) (by decide)
    · rfl
  have other : isLineSeparator b = false := by
    by_contra separator
    simp only [isLineSeparator, Bool.not_eq_false, Bool.or_eq_true, decide_eq_true_eq] at separator
    rcases separator with rfl | rfl <;> exact absurd starts (by decide)
  have last : (b :: post).find? (!isLineSeparator ·) = some b :=
    List.find?_cons_of_pos (by simp [other])
  rw [announced, decisive?, bytes, List.find?_append, last]
  cases hf : spaces.find? (!isLineSeparator ·) with
  | none => exact ⟨rfl, commands (.inr starts)⟩
  | some x => exact ⟨rfl, commands (.inl (blank x (List.mem_of_find?_eq_some hf)))⟩

/-- Only separators come before the byte that decides; without one there is nothing else. -/
theorem blank_of_decisive? (h : s.decisive? = none) : BlankBytes s.bytes := by
  intro b hb
  have separator : isLineSeparator b := by simpa using List.find?_eq_none.mp h b hb
  simp only [isLineSeparator, Bool.or_eq_true, decide_eq_true_eq] at separator
  rcases separator with rfl | rfl <;> decide

end Source

theorem Dialect.ofFirst_eq (b : UInt8) :
    ofFirst (some b) = if b = 35 ∨ b = 78 then .evemu else .json := by
  unfold ofFirst
  split
  · next h =>
    obtain rfl := Option.some.inj h
    rfl
  · next h =>
    obtain rfl := Option.some.inj h
    rfl
  · next sign letter => rw [if_neg (by rintro (rfl | rfl) <;> simp_all)]

/-- The dialects never overlap, and no script of commands goes astray. A source that gives commands
gives no recording, however it ends; it is taken for what it is, and so opening it gives the same. -/
theorem commands_never_recording {s : Source} (h : s.Yields .json) :
    ¬ s.Yields .evemu ∧ (∃ t, s.sniff = .ok (.json, t)) ∧ s.feed none = s.feed (some .json) := by
  have leads := Source.valueLeads_of_yields h
  obtain ⟨seen, dialect⟩ := Source.announced_json leads
  refine ⟨Source.not_yields_evemu leads, ?_, ?_⟩
  · rcases s.sniff_cases with ⟨e, -, unseen, -⟩ | ⟨-, t, found, -, -⟩
    · simp [unseen] at seen
    · exact ⟨t, dialect ▸ found⟩
  · rw [Source.feed_opened (.inl seen), dialect]

def oneDelay : Source := ⟨[Text.bytesOf (Event.value ⟨4, .delay 20⟩).text], none⟩

theorem oneDelay_commands : oneDelay.Yields .json ∧ ¬ oneDelay.Yields .evemu ∧
    (∃ t, oneDelay.sniff = .ok (.json, t)) ∧ oneDelay.feed none = oneDelay.feed (some .json) := by
  have tellable : ∀ e ∈ [(⟨4, .delay 20⟩ : Event)], e.Tellable :=
    List.forall_mem_singleton.mpr (by decide : (20 : UInt64).toNat ≤ 0x7fffffffffffffff)
  have ready : (CommandStream.ofSource oneDelay).Ready := ⟨rfl, rfl⟩
  obtain ⟨given, -⟩ := ready.feed_commands tellable rfl (by
    simp [CommandStream.ofSource, oneDelay, Source.bytes])
  have yields : oneDelay.Yields .json := by
    rw [Source.Yields, Source.feed, Script.ofSource, given]
    simp
  exact ⟨yields, commands_never_recording yields⟩

/-- A recording is recognised if its first byte that is no line separator is `#` or `N`, and then
opening it gives what reading it as a recording does. Any other recording is taken for commands, and
opening it gives no event at all. -/
theorem recording_recognised_by_first {s : Source} (h : s.Yields .evemu) :
    ∃ b t, s.decisive? = some b ∧
      if b = 35 ∨ b = 78 then s.sniff = .ok (.evemu, t) ∧ s.feed none = s.feed (some .evemu)
      else s.sniff = .ok (.json, t) ∧ (s.feed none).events = [] := by
  cases first : s.decisive? with
  | none => exact absurd h (Source.not_yields_of_blank (Source.blank_of_decisive? first) .evemu)
  | some b =>
    have opened : s.feed none = s.feed s.announced := Source.feed_opened (.inl (by simp [first]))
    have dialect : s.announced = if b = 35 ∨ b = 78 then .evemu else .json := by
      rw [Source.announced, first, Dialect.ofFirst_eq]
    rcases s.sniff_cases with ⟨e, -, unseen, -⟩ | ⟨-, t, found, -, -⟩
    · simp [unseen] at first
    refine ⟨b, t, rfl, ?_⟩
    split
    · next starts =>
      rw [if_pos starts] at dialect
      exact ⟨dialect ▸ found, dialect ▸ opened⟩
    · next starts =>
      rw [if_neg starts] at dialect
      refine ⟨dialect ▸ found, ?_⟩
      rw [opened, dialect]
      by_contra given
      exact Source.not_yields_evemu (Source.valueLeads_of_yields given) h

def nameFirst : Source :=
  ⟨[[13], Text.encode "\nN: kbd\nI: 0003 0001 0002 0000\n"], none⟩

theorem nameFirst_recognised : nameFirst.Yields .evemu ∧ ∃ b t, nameFirst.decisive? = some b ∧
    if b = 35 ∨ b = 78 then
      nameFirst.sniff = .ok (.evemu, t) ∧ nameFirst.feed none = nameFirst.feed (some .evemu)
    else nameFirst.sniff = .ok (.json, t) ∧ (nameFirst.feed none).events = [] := by
  have read : (Script.ofSource .evemu nameFirst).events =
      .ok [⟨1, .register { name := "kbd", vendor := 1, product := 2 }⟩] :=
    Script.events_of_feedWithin? (n := 2) (by decide +kernel)
  have yields : nameFirst.Yields .evemu := Source.yields_of_events (by simp) read
  exact ⟨yields, recording_recognised_by_first yields⟩

/-- The header lines of a recording may come in any order; here the name is not the first. -/
def idsFirst : Source := ⟨[Text.encode "I: 0003 0001 0002 0000\nN: kbd\n"], none⟩

/-- Not every recording is recognised. -/
theorem recording_unrecognised : ¬ ∀ s : Source, s.Yields .evemu →
    (∃ t, s.sniff = .ok (.evemu, t)) ∧ (s.feed none).events = (s.feed (some .evemu)).events := by
  intro recognised
  have read : (Script.ofSource .evemu idsFirst).events =
      .ok [⟨1, .register { name := "kbd", vendor := 1, product := 2 }⟩] :=
    Script.events_of_feedWithin? (n := 2) (by decide +kernel)
  have yields : idsFirst.Yields .evemu := Source.yields_of_events (by simp) read
  obtain ⟨⟨t, found⟩, -⟩ := recognised idsFirst yields
  have taken : idsFirst.sniff = .ok (.json, ⟨[] :: idsFirst.buffers, none⟩) := by decide +kernel
  rw [taken] at found
  cases found

end ScriptedInput

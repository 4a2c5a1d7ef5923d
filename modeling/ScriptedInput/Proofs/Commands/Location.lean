import ScriptedInput.Proofs.Commands.Grouping

/-! Where a faulty command is reported. The report names the command by how many events were given before
it, and by where the text of the value ends that holds it: its own text if it stands alone, else the
whole array. -/
namespace ScriptedInput

open Json (Value Cursor Position OwnText isSpace)

namespace CommandStream

/-- Commands that are at fault are so from the first one on that is. -/
private theorem exists_of_tell {vs : List Value} {events : List Event} {f : CommandFault}
    (h : tell vs = (events, some f)) :
    ∃ given bad unread, vs = given ++ bad :: unread ∧
      List.Forall₂ (fun v e => Event.ofValue v = .ok e) given events ∧ Event.ofValue bad = .error f := by
  induction vs generalizing events with
  | nil => cases h
  | cons v vs ih =>
    rw [tell] at h
    split at h
    · next read =>
      cases h
      exact ⟨[], v, vs, rfl, .nil, read⟩
    · next e read =>
      obtain ⟨rfl, later⟩ := Prod.mk.inj h
      obtain ⟨given, bad, unread, rfl, told, fault⟩ := ih (Prod.ext rfl later)
      exact ⟨v :: given, bad, unread, rfl, .cons read told, fault⟩

private theorem not_isScalar_of_tell {v : Value} {events : List Event}
    (h : tell v.commands = (events, none)) : ¬ v.IsScalar := by
  intro scalar
  obtain ⟨f, told⟩ := tell_scalar scalar
  rw [h] at told
  cases told

/-- What a report is about that is made after these events: a faulty command, and the value of the stream
that it stands in, whose text ends where the report says. -/
inductive Blames (c : Cursor) (index : Nat) (events : List Event) (offset : Nat) (f : CommandFault) :
    Value → Value → Prop
  | intro {before text after : List UInt8} {earlier told : List Event} {value bad : Value}
    {given unread : List Value}
    (parts : c.bytes = before ++ text ++ after)
    (earlier_told :
      (Script.commands (underway none ⟨c.position, before⟩ index)).events = .ok earlier)
    (own : OwnText value text) (ends : offset = c.position.offset + (before ++ text).length)
    (commands : value.commands = given ++ bad :: unread)
    (told_here : List.Forall₂ (fun v e => Event.ofValue v = .ok e) given told)
    (all : events = earlier ++ told) (fault : Event.ofValue bad = .error f) :
    Blames c index events offset f value bad

section Blames
variable {failure : Option IoError} {c rest : Cursor} {v : Value} {index : Nat} {events : List Event}

/-- A value with a fault is blamed. -/
private theorem blames_of_pull {f : CommandFault} (pulled : Json.pull failure c = .value v rest)
    (told : tell v.commands = (events, some f)) :
    ∃ bad, Blames c index events rest.position.offset f v bad := by
  obtain ⟨spaces, text, parts, blank, own, position⟩ := Json.ownText_of_pull pulled
  obtain ⟨given, bad, unread, commands, here, fault⟩ := exists_of_tell told
  have silent : (Script.commands (underway none ⟨c.position, spaces⟩ index)).events = .ok [] := by
    rw [Script.events_eq_ok_iff, feed_underway, Json.pull_spaces blank]
    exact ⟨rfl, rfl⟩
  refine ⟨bad, .intro parts silent own ?_ commands here rfl fault⟩
  rw [position, Position.offset_along]

/-- What is blamed in the rest is blamed in the whole. -/
private theorem Blames.after {told : List Event} {offset : Nat} {f : CommandFault} {value bad : Value}
    (h : Blames rest (index + told.length) events offset f value bad)
    (pulled : Json.pull failure c = .value v rest) (here : tell v.commands = (told, none)) :
    Blames c index (told ++ events) offset f value bad := by
  obtain @⟨before, text, behind, earlier, given_here, _, _, given, unread, parts, earlier_told, own,
    ends, commands, told_here, rfl, fault⟩ := h
  obtain ⟨read, split, spells, position⟩ := Json.Machine.spells_of_pullFrom pulled
  -- The value is neither a number nor a word, so it ends there even if less follows it.
  have again : Json.pull none ⟨c.position, read ++ before⟩ = .value v ⟨rest.position, before⟩ := by
    rw [position]
    exact Json.Machine.pullFrom_of_spells spells trivial (not_isScalar_of_tell here) none c.position
      before
  have first := feed_value index again
  rw [here] at first
  refine @Blames.intro c index _ offset f (read ++ before) text behind (told ++ earlier) given_here
    value bad given unread ?_ ?_ own ?_ commands told_here (List.append_assoc _ _ _).symm fault
  · rw [split, parts, List.append_assoc, List.append_assoc, List.append_assoc]
  · obtain ⟨ended, events⟩ := Script.events_eq_ok_iff.mp earlier_told
    rw [Script.events_eq_ok_iff, first.failure_eq, first.events_eq]
    exact ⟨ended, congrArg (told ++ ·) events⟩
  · rw [ends, position, Position.offset_along]
    simp only [List.length_append]
    omega

/-- Every report on a faulty command is made after as many events as it says, and blames a command. -/
private theorem blames_of_failure {i offset : Nat} {fault : ScriptFault}
    (h : (Script.commands (underway failure c index)).feed.failure =
      some (.malformed (.entry i offset) fault)) :
    let events := (Script.commands (underway failure c index)).feed.events
    i = index + events.length ∧
      ∃ f value bad, fault = .command f ∧ Blames c index events offset f value bad := by
  induction hn : c.bytes.length using Nat.strongRecOn generalizing c index with
  | _ n ih =>
    cases pulled : Json.pull failure c with
    | finished | failed | fault | unfinished =>
      rw [feed_underway, pulled] at h
      simp at h
    | value v rest =>
      have given := feed_value index pulled
      rw [given.failure_eq] at h
      rw [given.events_eq]
      rcases told : tell v.commands with ⟨events, _ | f⟩
      · rw [told] at h
        obtain ⟨count, f, value, bad, known, blames⟩ := ih _ (hn ▸ Json.length_lt_of_pull pulled) h rfl
        refine ⟨?_, f, value, bad, known, blames.after pulled told⟩
        rw [count, List.length_append]
        exact Nat.add_assoc _ _ _
      · rw [told] at h
        obtain ⟨⟨rfl, rfl⟩, rfl⟩ := by simpa [afterTold] using h
        obtain ⟨bad, blames⟩ := blames_of_pull pulled told
        have all : events ++ (afterTold failure rest index (events, some f)).events = events :=
          List.append_nil events
        rw [all]
        exact ⟨rfl, f, v, bad, rfl, blames⟩

end Blames

end CommandStream

open CommandStream in
/-- A report on a faulty command tells how many events were given before it, and how many bytes there are
up to the end of the value of the stream which the command stands in: the command itself, or an array
whose earlier commands gave the last of these events. -/
theorem faulty_command_located {s : Source} {index offset : Nat} {fault : ScriptFault}
    (reported : (Script.ofSource .json s).feed.failure =
      some (.malformed (.entry index offset) fault)) :
    let events := (Script.ofSource .json s).feed.events
    index = events.length ∧ ∃ f value bad, fault = .command f ∧
      Blames { bytes := s.bytes } 0 events offset f value bad ∧
      ((∀ items, value ≠ .array items) → bad = value) := by
  have failed : (Script.commands (underway s.failure { bytes := s.bytes } 0)).feed.failure =
      some (.malformed (.entry index offset) fault) := reported
  obtain ⟨count, f, value, bad, known, blames⟩ := blames_of_failure failed
  refine ⟨count.trans (Nat.zero_add _), f, value, bad, known, blames, fun single => ?_⟩
  obtain ⟨-, -, -, -, commands, -, -, -⟩ := blames
  have alone : value.commands = [value] := by
    cases value with
    | array items => exact absurd rfl (single items)
    | _ => rfl
  have member : bad ∈ value.commands := by
    rw [commands]
    simp
  rwa [alone, List.mem_singleton] at member

private theorem together_reported : (Script.ofSource .json together).feed.failure =
    some (.malformed (.entry 1 54) (.command (.missing (.field .command)))) := by
  have space : BlankBytes [32] := List.forall_mem_singleton.mpr rfl
  let p := Position.along {} ([32] ++ 91 :: ([] ++ [93]))
  let q := p.along ([] ++ 91 :: bothItems)
  have empty : Json.pull none { bytes := together.bytes } =
      .value (.array []) ⟨p, [] ++ 91 :: bothItems ++ []⟩ := by
    rw [together_bytes]
    exact Json.pull_empty none {} space .nil
  have both : Json.pull none ⟨p, [] ++ 91 :: bothItems ++ []⟩ =
      .value (.array [.object delayed, .object commandless]) ⟨q, []⟩ :=
    Json.pull_array none p .nil bothItems_array
  have told : CommandStream.tell [.object delayed, .object commandless] =
      ([⟨1, .delay 5⟩], some (.missing (.field .command))) := by decide +kernel
  have report := (CommandStream.feed_value 0 both).failure_eq
  rw [Value.commands, told] at report
  have offset : q.offset = 54 := by decide +kernel
  rw [CommandStream.afterTold, offset] at report
  exact (CommandStream.feed_value 0 empty).failure_eq.trans report

theorem together_located :
    (Script.ofSource .json together).feed.failure =
      some (.malformed (.entry 1 54) (.command (.missing (.field .command)))) ∧
    1 = (Script.ofSource .json together).feed.events.length ∧
    ∃ f value bad, ScriptFault.command (.missing (.field .command)) = .command f ∧
      CommandStream.Blames { bytes := together.bytes } 0 (Script.ofSource .json together).feed.events
        54 f value bad ∧
      ((∀ items, value ≠ .array items) → bad = value) :=
  ⟨together_reported, faulty_command_located together_reported⟩

def readAlone? (bytes : List UInt8) : Option Value :=
  match Json.pull none { bytes } with
  | .value v ⟨_, []⟩ => some v
  | _ => none

private theorem readAlone?_of_ownText {v : Value} {text : List UInt8} (h : OwnText v text) :
    readAlone? text = some v := by
  rw [readAlone?, Json.pull, Json.Machine.pullFrom_of_spells_end h.spells]

def bracketed : Source := ⟨[Text.encode "[\x7b\"id\":1\x7d]"], none⟩

private theorem bracketed_reported : (Script.ofSource .json bracketed).feed.failure =
    some (.malformed (.entry 0 10) (.command (.missing (.field .command)))) := by
  have pulled : Json.pull none { bytes := bracketed.bytes } =
      .value (.array [.object [("id", .int 1)]]) ⟨⟨10, 1, 10⟩, []⟩ := rfl
  have given := CommandStream.feed_value 0 pulled
  exact given.failure_eq

/-- Reports do not point at the end of a faulty command's own text where the command stands in an
array. -/
theorem element_not_located : ¬ ∀ (s : Source) (index offset : Nat) (f : CommandFault),
    (Script.ofSource .json s).feed.failure = some (.malformed (.entry index offset) (.command f)) →
    ∃ before text after bad, s.bytes = before ++ text ++ after ∧ OwnText bad text ∧
      offset = (before ++ text).length ∧ Event.ofValue bad = .error f := by
  intro located
  obtain ⟨before, text, after, bad, parts, own, ends, fault⟩ :=
    located bracketed 0 10 _ bracketed_reported
  have nothing : after = [] := by
    have all : bracketed.bytes.length = 10 := by decide +kernel
    rw [parts, List.length_append] at all
    exact List.length_eq_zero_iff.mp (by omega)
  have suffix : bracketed.bytes.drop before.length = text := by
    rw [parts, nothing, List.append_nil, List.drop_left]
  have short : before.length < 11 := by
    rw [List.length_append] at ends
    omega
  -- Of all that the script ends with, only the whole array is the text of a value.
  have others : ∀ n < 11, (readAlone? (bracketed.bytes.drop n)).all
      (Event.ofValue · ≠ .error (.missing (.field .command))) := by decide +kernel
  have other := others before.length short
  rw [suffix, readAlone?_of_ownText own] at other
  exact of_decide_eq_true other fault

end ScriptedInput

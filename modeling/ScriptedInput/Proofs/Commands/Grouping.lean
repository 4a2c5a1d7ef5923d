import ScriptedInput.Proofs.Commands.Pieces
import ScriptedInput.Proofs.Json.Inside
import ScriptedInput.Proofs.Json.ReadBack
import ScriptedInput.Proofs.Script.Discipline

/-! Ways of writing the same commands. Objects can stand one by one or be gathered into arrays; what a
stream of them gives depends on the objects only. -/
namespace ScriptedInput

open Json (Value Members Position Cursor Machine isSpace)

/-- The text of an object, from its first brace to its last, in which no more than 100 arrays and objects
are open at once. -/
structure ObjectText (members : Members) (text : List UInt8) : Prop where
  brace : text.head? = some 123
  spells : Machine.start.Spells (.object members) text
  shallow : Machine.start.nesting text ≤ 100

/-- Objects are written so by the printer. -/
private theorem objectText_text {members : Members} (plain : (Value.object members).Plain Json.depthLimit)
    (shallow : Machine.start.nesting (Text.bytesOf (Value.object members).text) ≤ 100) :
    ObjectText members (Text.bytesOf (Value.object members).text) := by
  obtain ⟨q, pulled⟩ := Json.pull_text plain none {} []
  obtain ⟨text, all, spells, -⟩ := Machine.spells_of_pullFrom pulled
  obtain rfl : Text.bytesOf (Value.object members).text = text := by simpa using all
  exact ⟨by rw [Machine.bytesOf_object]; rfl, spells, shallow⟩

/-- The rest of an array of at least one object, after its opening bracket or a comma. -/
inductive ArrayText : List Members → List UInt8 → Prop
  | last {members : Members} {before text after : List UInt8} (blank : BlankBytes before)
    (object : ObjectText members text) (blank' : BlankBytes after) :
    ArrayText [members] (before ++ text ++ after ++ [93])
  | more {members : Members} {objects : List Members} {before text after rest : List UInt8}
    (blank : BlankBytes before) (object : ObjectText members text) (blank' : BlankBytes after)
    (others : ArrayText objects rest) :
    ArrayText (members :: objects) (before ++ text ++ after ++ 44 :: rest)

/-- Ways of writing objects as a stream of values: each by itself or some in an array, with empty arrays
and whitespace between them. -/
inductive Grouping : List Members → List UInt8 → Prop
  | nothing {spaces : List UInt8} (blank : BlankBytes spaces) : Grouping [] spaces
  | bare {members : Members} {objects : List Members} {before text rest : List UInt8}
    (blank : BlankBytes before) (object : ObjectText members text) (others : Grouping objects rest) :
    Grouping (members :: objects) (before ++ text ++ rest)
  | empty {objects : List Members} {before inside rest : List UInt8} (blank : BlankBytes before)
    (blank' : BlankBytes inside) (others : Grouping objects rest) :
    Grouping objects (before ++ 91 :: (inside ++ [93]) ++ rest)
  | gathered {gathered objects : List Members} {before text rest : List UInt8}
    (blank : BlankBytes before) (array : ArrayText gathered text) (others : Grouping objects rest) :
    Grouping (gathered ++ objects) (before ++ 91 :: text ++ rest)

namespace Json.Machine

/-- An object as an item of an array of the stream. -/
private theorem after_object {members : Members} {text : List UInt8} (h : ObjectText members text)
    (items : List Value) :
    (Machine.mk (.item items) []).after text = some ⟨.afterItem (.object members :: items), []⟩ := by
  obtain ⟨brace, spells, shallow⟩ := h
  cases text with
  | nil => cases brace
  | cons b text =>
    obtain rfl : b = 123 := Option.some.inj brace
    have opens : start.step 123 = .next ⟨.key [], []⟩ := rfl
    have opens' : (Machine.mk (.item items) []).step 123 =
        .next (Machine.inside ⟨.key [], []⟩ (.item items)) := rfl
    cases spells with
    | next step later =>
      rw [opens] at step
      cases step
      rw [after_cons opens']
      have rest := nesting_le_of_step opens text
      have room : 100 + 1 < depthLimit := by decide
      exact later.inside Nat.one_pos (by omega) (.item items)
    | closed step =>
      rw [opens] at step
      cases step

private theorem item_silent (items : List Value) (b : UInt8) (space : isSpace b) :
    (Machine.mk (.item items) []).step b = .next ⟨.item items, []⟩ := if_pos space

private theorem afterItem_silent (items : List Value) (b : UInt8) (space : isSpace b) :
    (Machine.mk (.afterItem items) []).step b = .next ⟨.afterItem items, []⟩ := if_pos space

/-- An object with white space around it, as an item of an array of the stream. -/
private theorem after_padded {members : Members} {before text after : List UInt8}
    (blank : BlankBytes before)
    (object : ObjectText members text) (blank' : BlankBytes after) (items : List Value) :
    (Machine.mk (.item items) []).after (before ++ text ++ after) =
      some ⟨.afterItem (.object members :: items), []⟩ := by
  rw [List.append_assoc, after_append (after_blank (item_silent items) blank),
    after_append (after_object object items)]
  exact after_blank (afterItem_silent _) blank'

/-- The text of an array is read as the objects in it. -/
private theorem spells_array {objects : List Members} {text : List UInt8} (h : ArrayText objects text)
    (items : List Value) :
    (Machine.mk (.item items) []).Spells (.array (items.reverse ++ objects.map .object)) text := by
  induction h generalizing items with
  | @last members before text after blank object blank' =>
    refine .append (after_padded blank object blank' items) (.closed ?_)
    simp [step, afterItem, isSpace, close]
  | @more members objects before text after rest blank object blank' others ih =>
    have comma : (Machine.mk (.afterItem (.object members :: items)) []).step 44 =
        .next ⟨.item (.object members :: items), []⟩ := rfl
    have later := ih (.object members :: items)
    rw [List.reverse_cons, List.append_assoc, List.singleton_append] at later
    exact .append (after_padded blank object blank' items) (.next comma later)

end Json.Machine

namespace Json
variable (failure : Option IoError) (p : Position) {before text rest : List UInt8}
  (blank : BlankBytes before)
include blank

private theorem pull_of_spells {v : Value} (nested : ¬ v.IsScalar)
    (spells : Machine.start.Spells v text) :
    pull failure ⟨p, before ++ text ++ rest⟩ = .value v ⟨p.along (before ++ text), rest⟩ :=
  Machine.pullFrom_of_spells (.append (Machine.after_blank Machine.start_silent blank) spells) trivial
    nested failure p rest

private theorem pull_object {members : Members} (object : ObjectText members text) :
    pull failure ⟨p, before ++ text ++ rest⟩ =
      .value (.object members) ⟨p.along (before ++ text), rest⟩ :=
  pull_of_spells failure p blank id object.spells

theorem pull_array {objects : List Members} (array : ArrayText objects text) :
    pull failure ⟨p, before ++ 91 :: text ++ rest⟩ =
      .value (.array (objects.map .object)) ⟨p.along (before ++ 91 :: text), rest⟩ :=
  pull_of_spells failure p blank id (.next rfl (Machine.spells_array array []))

theorem pull_empty {inside : List UInt8} (blank' : BlankBytes inside) :
    pull failure ⟨p, before ++ 91 :: (inside ++ [93]) ++ rest⟩ =
      .value (.array []) ⟨p.along (before ++ 91 :: (inside ++ [93])), rest⟩ := by
  have spells : (Machine.mk (.item []) []).Spells (.array []) (inside ++ [93]) :=
    .append (Machine.after_blank (Machine.item_silent []) blank') (.closed rfl)
  exact pull_of_spells failure p blank id (.next rfl spells)

end Json
namespace CommandStream

private theorem tell_append (vs ws : List Value) :
    tell (vs ++ ws) =
      match tell vs with
      | (events, none) => (events ++ (tell ws).1, (tell ws).2)
      | (events, some f) => (events, some f) := by
  induction vs with
  | nil => rfl
  | cons v vs ih =>
    rw [List.cons_append, tell, tell]
    cases Event.ofValue v with
    | error f => rfl
    | ok e =>
      dsimp only
      rw [ih]
      rcases tell vs with ⟨events, _ | f⟩ <;> rfl

/-- What a stream gives that has given so many commands: these events, and a report of the fault after
them if there is one. -/
structure Tells (index : Nat) (told : List Event × Option CommandFault) (f : Feed) : Prop where
  events_eq : f.events = told.1
  sound : told.2 = none → f.failure = none
  faulty : ∀ fault, told.2 = some fault → ∃ offset,
    f.failure = some (.malformed (.entry (index + told.1.length) offset) (.command fault))

/-- A value is read, and then what its commands leave to be told. -/
private theorem Tells.value {c rest : Cursor} {v : Value} {ws : List Value}
    (pulled : Json.pull none c = .value v rest)
    (later : ∀ index, Tells index (tell ws) (Script.commands (underway none rest index)).feed)
    (index : Nat) :
    Tells index (tell (v.commands ++ ws)) (Script.commands (underway none c index)).feed := by
  have given := feed_value index pulled
  rw [tell_append]
  generalize tell v.commands = told at given ⊢
  rcases told with ⟨events, _ | f⟩
  · obtain ⟨events_eq, sound, faulty⟩ := later (index + events.length)
    refine ⟨given.events_eq.trans (congrArg (events ++ ·) events_eq), fun ok => ?_, fun f fault => ?_⟩
    · exact given.failure_eq.trans (sound ok)
    · obtain ⟨offset, report⟩ := faulty f fault
      refine ⟨offset, ?_⟩
      rw [List.length_append, ← Nat.add_assoc]
      exact given.failure_eq.trans report
  · refine ⟨given.events_eq.trans (List.append_nil events), fun ok => ?_, fun f fault => ?_⟩
    · cases ok
    · cases fault
      exact ⟨_, given.failure_eq⟩

/-- What a stream of objects tells does not depend on how they are written. -/
private theorem tells_grouping {objects : List Members} {bytes : List UInt8} (h : Grouping objects bytes)
    (p : Position) (index : Nat) :
    Tells index (tell (objects.map .object))
      (Script.commands (underway none ⟨p, bytes⟩ index)).feed := by
  induction h generalizing p index with
  | nothing blank =>
    rw [feed_underway, Json.pull_spaces blank]
    exact ⟨rfl, fun _ => rfl, fun _ fault => by cases fault⟩
  | bare blank object _ ih =>
    exact Tells.value (Json.pull_object none p blank object) (ih _) index
  | empty blank blank' _ ih =>
    exact Tells.value (Json.pull_empty none p blank blank') (ih _) index
  | gathered blank array _ ih =>
    rw [List.map_append]
    exact Tells.value (Json.pull_array none p blank array) (ih _) index

end CommandStream

/-- Two ends of a stream of commands: either it just ends, or the same command is reported for the same
fault, wherever its text ends. -/
inductive SameEnd : Option ParseError → Option ParseError → Prop
  | ended : SameEnd none none
  | faulty (index offset offset' : Nat) (f : CommandFault) :
    SameEnd (some (.malformed (.entry index offset) (.command f)))
      (some (.malformed (.entry index offset') (.command f)))

private theorem CommandStream.Tells.sameEnd {index : Nat} {told : List Event × Option CommandFault}
    {f g : Feed} (hf : Tells index told f) (hg : Tells index told g) : SameEnd f.failure g.failure := by
  obtain ⟨events, _ | fault⟩ := told
  · rw [hf.sound rfl, hg.sound rfl]
    exact .ended
  · obtain ⟨offset, report⟩ := hf.faulty fault rfl
    obtain ⟨offset', report'⟩ := hg.faulty fault rfl
    rw [report, report']
    exact .faulty _ offset offset' fault

/-- How commands are grouped makes no difference. Two scripts that write the same objects, one by one or
in arrays, give the same events and then end in the same way, and nothing is given after that. -/
theorem grouping_makes_no_difference {objects : List Members} {s t : Source} (whole : s.failure = none)
    (whole' : t.failure = none) (written : Grouping objects s.bytes)
    (written' : Grouping objects t.bytes) :
    let f := (Script.ofSource .json s).feed
    let g := (Script.ofSource .json t).feed
    f.events = g.events ∧ SameEnd f.failure g.failure ∧
      (Script.ofSource .json s).EndsAt f.events.length ∧
      (Script.ofSource .json t).EndsAt g.events.length := by
  have ends (u : Source) :
      (Script.ofSource .json u).EndsAt (Script.ofSource .json u).feed.events.length := by
    rw [Feed.events, List.length_map]
    exact Script.endsAt_feed _
  have told {u : Source} (whole : u.failure = none) (written : Grouping objects u.bytes) :
      CommandStream.Tells 0 (CommandStream.tell (objects.map .object))
        (Script.ofSource .json u).feed := by
    have start : CommandStream.ofSource u = CommandStream.underway none { bytes := u.bytes } 0 := by
      rw [CommandStream.ofSource, whole]
      rfl
    rw [Script.ofSource, start]
    exact CommandStream.tells_grouping written {} 0
  have first := told whole written
  have second := told whole' written'
  exact ⟨first.events_eq.trans second.events_eq.symm, first.sameEnd second, ends s, ends t⟩

section TwoWays

def delayed : Members := [("command", .string "delay"), ("duration", .int 5), ("id", .int 1)]

def commandless : Members := [("id", .int 1)]

def textOf (members : Members) : List UInt8 := Text.bytesOf (Value.object members).text

def oneByOne : Source := ⟨[textOf delayed, textOf commandless], none⟩

def together : Source :=
  ⟨[[32, 91, 93, 91], textOf delayed, [44, 10], textOf commandless, [93]], none⟩

private theorem delayed_text : ObjectText delayed (textOf delayed) := by
  refine objectText_text (.object (by decide +kernel) fun m hm => ?_) (by decide +kernel)
  simp only [delayed, List.mem_cons, List.not_mem_nil, or_false] at hm
  rcases hm with rfl | rfl | rfl
  · exact .string "delay"
  · exact .int (by decide) (by decide)
  · exact .int (by decide) (by decide)

private theorem commandless_text : ObjectText commandless (textOf commandless) := by
  refine objectText_text (.object (List.pairwise_singleton _ _) fun m hm => ?_) (by decide +kernel)
  rw [List.mem_singleton.mp hm]
  exact .int (by decide) (by decide)

private theorem oneByOne_grouping : Grouping [delayed, commandless] oneByOne.bytes := by
  have written : Grouping [delayed, commandless] _ :=
    .bare .nil delayed_text (.bare .nil commandless_text (.nothing .nil))
  simpa [oneByOne, Source.bytes] using written

def bothItems : List UInt8 := textOf delayed ++ [44, 10] ++ textOf commandless ++ [93]

theorem bothItems_array : ArrayText [delayed, commandless] bothItems := by
  have written : ArrayText [delayed, commandless] _ :=
    .more .nil delayed_text .nil
      (.last (List.forall_mem_singleton.mpr (rfl : isSpace 10)) commandless_text .nil)
  simpa [bothItems] using written

theorem together_bytes :
    together.bytes = [32] ++ 91 :: ([] ++ [93]) ++ ([] ++ 91 :: bothItems ++ []) := by
  simp [together, Source.bytes, bothItems]

private theorem together_grouping : Grouping [delayed, commandless] together.bytes := by
  have space : BlankBytes [32] := List.forall_mem_singleton.mpr rfl
  rw [together_bytes]
  exact .empty space .nil (.gathered .nil bothItems_array (.nothing .nil))

theorem together_as_oneByOne :
    Grouping [delayed, commandless] oneByOne.bytes ∧ Grouping [delayed, commandless] together.bytes ∧
    (Script.ofSource .json oneByOne).feed.events = (Script.ofSource .json together).feed.events ∧
    SameEnd (Script.ofSource .json oneByOne).feed.failure
      (Script.ofSource .json together).feed.failure ∧
    (Script.ofSource .json oneByOne).EndsAt (Script.ofSource .json oneByOne).feed.events.length ∧
    (Script.ofSource .json together).EndsAt (Script.ofSource .json together).feed.events.length :=
  ⟨oneByOne_grouping, together_grouping,
    grouping_makes_no_difference rfl rfl oneByOne_grouping together_grouping⟩

end TwoWays
end ScriptedInput

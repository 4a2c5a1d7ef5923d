import ScriptedInput.Proofs.Recording.Feed
import ScriptedInput.Proofs.Recording.FirstLine
import ScriptedInput.Proofs.Recording.HeaderEntries

/-! What a recording gives, told from the texts of its lines. How lines end, blanks at their ends and
comments behind their fields do not matter. -/
namespace ScriptedInput

private theorem Text.trim_append_blanks {blanks : List Char} (hb : ∀ c ∈ blanks, isBlank c)
    (cs : List Char) : trim (cs ++ blanks) = trim cs := by
  have atEnd (cs : List Char) : trimEnd (cs ++ blanks) = trimEnd cs := by
    rw [trimEnd, List.reverse_append, List.dropWhile_append_of_pos (by simpa using hb), trimEnd]
  rw [trim, trimStart, List.dropWhile_append]
  split
  · next all =>
    rw [List.dropWhile_eq_nil_iff.mpr hb, trim, trimStart, List.isEmpty_iff.mp all]
  · rw [atEnd, trim, trimStart]

private theorem words_blanks {blanks : List Char} (hb : ∀ c ∈ blanks, Text.isBlank c) :
    words blanks = [] := by
  induction blanks with
  | nil => rfl
  | cons c blanks ih =>
    obtain ⟨blank, later⟩ := List.forall_mem_cons.mp hb
    rw [words_cons_blank blank, ih later]

/-- Blanks at the end of a text make no word. -/
private theorem words_append_blanks {blanks : List Char} (hb : ∀ c ∈ blanks, Text.isBlank c)
    (cs : List Char) : words (cs ++ blanks) = words cs := by
  induction cs with
  | nil => exact words_blanks hb
  | cons c cs ih =>
    cases shown : Text.isBlank c with
    | true => rw [List.cons_append, words_cons_blank shown, words_cons_blank shown, ih]
    | false =>
      cases cs with
      | nil =>
        have apart : ∀ d ∈ blanks.head?, Text.isBlank d := fun d hd => hb d (List.mem_of_mem_head? hd)
        have single (more : List Char) (blank : ∀ d ∈ more.head?, Text.isBlank d) :
            words ([c] ++ more) = [c] :: words more :=
          words_word_append (by simp) (by simpa using shown) blank
        rw [single blanks apart, words_blanks hb]
        exact (single [] (by simp)).symm
      | cons d cs =>
        cases shown' : Text.isBlank d with
        | true =>
          rw [List.cons_append, List.cons_append, words_cons_cons_blank shown shown', ← List.cons_append,
            ih, words_cons_cons_blank shown shown']
        | false =>
          obtain ⟨word, rest, inner, outer⟩ := words_cons_cons shown shown' cs
          obtain ⟨word', rest', inner', outer'⟩ := words_cons_cons shown shown' (cs ++ blanks)
          rw [List.cons_append, inner', inner, List.cons.injEq] at ih
          rw [List.cons_append, List.cons_append, outer', outer, ih.1, ih.2]

theorem beforeComment_append_comment (body comment : List Char) :
    beforeComment (body ++ '#' :: comment) = beforeComment body := by
  induction body with
  | nil => simp [beforeComment]
  | cons c body ih =>
    rw [beforeComment, beforeComment] at ih
    rw [beforeComment, beforeComment, List.cons_append, List.takeWhile_cons, List.takeWhile_cons, ih]

/-- Blanks at the end of a line are in no field. -/
private theorem words_line_append_blanks {blanks : List Char} (hb : ∀ c ∈ blanks, Text.isBlank c)
    (body : List Char) : words (beforeComment (body ++ blanks)) = words (beforeComment body) := by
  by_cases comment : '#' ∈ body
  · obtain ⟨front, later, rfl⟩ := List.append_of_mem comment
    rw [List.append_assoc, List.cons_append, beforeComment_append_comment, beforeComment_append_comment]
  · have none : ∀ c ∈ body, (c ≠ '#' : Bool) := fun c hc =>
      decide_eq_true fun same => comment (same ▸ hc)
    have blank : ∀ c ∈ blanks, (c ≠ '#' : Bool) := fun c hc =>
      decide_eq_true fun same => absurd (hb c hc) (same ▸ by decide)
    rw [beforeComment, beforeComment, List.takeWhile_append_of_pos none,
      List.takeWhile_eq_self_iff.mpr none, List.takeWhile_eq_self_iff.mpr blank, words_append_blanks hb]

def TellsEvent (text : List Char) (e : TimedEvent) : Prop := Line.Tells ⟨0, text⟩ e

structure LinesAgree (l l' : List Char) : Prop where
  entry : ∀ e, Header.Brings l e ↔ Header.Brings l' e
  event : ∀ e, TellsEvent l e ↔ TellsEvent l' e

theorem LinesAgree.refl (l : List Char) : LinesAgree l l := ⟨fun _ => .rfl, fun _ => .rfl⟩

theorem LinesAgree.symm {l l' : List Char} (h : LinesAgree l l') : LinesAgree l' l :=
  ⟨fun e => (h.entry e).symm, fun e => (h.event e).symm⟩

theorem LinesAgree.trans {l l' l'' : List Char} (h : LinesAgree l l') (h' : LinesAgree l' l'') :
    LinesAgree l l'' :=
  ⟨fun e => (h.entry e).trans (h'.entry e), fun e => (h.event e).trans (h'.event e)⟩

section Fields
variable {tag : Char} {body body' : List Char}

/-- A header line tells what its fields tell, and its name if it is a name line. -/
private theorem Header.Brings.of_fields {e : Header.Entry} (h : Header.Brings (tag :: ':' :: body) e)
    (fields : words (beforeComment body') = words (beforeComment body))
    (name : tag = 'N' → Text.trim body' = Text.trim body) : Header.Brings (tag :: ':' :: body') e := by
  cases h with
  | name named =>
    rw [← name rfl] at named ⊢
    exact .name named
  | ids four hb hv hp hn => exact .ids (fields.trans four) hb hv hp hn
  | properties written => exact .properties (fields ▸ written)
  | mask begins first written => exact .mask (fields.trans begins) first written
  | axis begins first written => exact .axis (fields.trans begins) first written
  | state ignored => exact .state ignored

private theorem TellsEvent.of_fields {e : TimedEvent} (h : TellsEvent (tag :: ':' :: body) e)
    (fields : words (beforeComment body') = words (beforeComment body)) :
    TellsEvent (tag :: ':' :: body') e := by
  obtain ⟨_, time, type, code, value, text, four, written⟩ := h
  obtain ⟨rfl, same⟩ := List.cons.inj text
  obtain ⟨-, rfl⟩ := List.cons.inj same
  exact ⟨body', time, type, code, value, rfl, fields.trans four, written⟩

/-- Lines of one kind with the same fields tell the same. -/
theorem linesAgree_of_fields (fields : words (beforeComment body') = words (beforeComment body))
    (name : tag = 'N' → Text.trim body' = Text.trim body) :
    LinesAgree (tag :: ':' :: body) (tag :: ':' :: body') where
  entry _ := ⟨fun h => h.of_fields fields name, fun h =>
    h.of_fields fields.symm fun named => (name named).symm⟩
  event _ := ⟨fun h => h.of_fields fields, fun h => h.of_fields fields.symm⟩

end Fields

private theorem Header.Brings.exists_tag {l : List Char} {e : Header.Entry} (h : Header.Brings l e) :
    ∃ tag ∈ ['N', 'I', 'P', 'B', 'A', 'L', 'S'], ∃ body, l = tag :: ':' :: body := by
  cases h with
  | name | ids | properties | mask | axis => exact ⟨_, by decide, _, rfl⟩
  | @state tag body ignored => exact ⟨tag, by rcases ignored with rfl | rfl <;> decide, body, rfl⟩

private theorem TellsEvent.exists_body {l : List Char} {e : TimedEvent} (h : TellsEvent l e) :
    ∃ body, l = 'E' :: ':' :: body := by
  obtain ⟨body, _, _, _, _, text, -⟩ := h
  exact ⟨body, text⟩

/-- Texts without a tag tell nothing. -/
private theorem linesAgree_of_untagged {l l' : List Char} (h : ∀ tag body, l ≠ tag :: ':' :: body)
    (h' : ∀ tag body, l' ≠ tag :: ':' :: body) : LinesAgree l l' := by
  have no_entry {l : List Char} (h : ∀ tag body, l ≠ tag :: ':' :: body) (e) : ¬ Header.Brings l e := by
    intro brings
    obtain ⟨tag, -, body, text⟩ := brings.exists_tag
    exact h tag body text
  have no_event {l : List Char} (h : ∀ tag body, l ≠ tag :: ':' :: body) (e) : ¬ TellsEvent l e := by
    intro tells
    obtain ⟨body, text⟩ := tells.exists_body
    exact h 'E' body text
  exact ⟨fun e => iff_of_false (no_entry h e) (no_entry h' e),
    fun e => iff_of_false (no_event h e) (no_event h' e)⟩

/-- Carriage returns at the end of a line tell nothing. -/
theorem linesAgree_append_returns {returns : List Char} (only : ∀ c ∈ returns, c = '\r')
    (l : List Char) : LinesAgree l (l ++ returns) := by
  have blank : ∀ c ∈ returns, Text.isBlank c := fun c hc => only c hc ▸ by decide
  have colon : ':' ∉ returns := fun found => absurd (only ':' found) (by decide)
  match l with
  | [] =>
    refine linesAgree_of_untagged (by simp) fun tag body text => colon ?_
    rw [← List.nil_append returns, text]
    simp
  | [_] =>
    refine linesAgree_of_untagged (by simp) fun tag body text => colon ?_
    have later : returns = ':' :: body := (List.cons.inj text).2
    rw [later]
    exact List.mem_cons_self
  | tag :: c :: body =>
    by_cases other : c = ':'
    · subst other
      exact linesAgree_of_fields (words_line_append_blanks blank body) fun _ =>
        Text.trim_append_blanks blank body
    · refine linesAgree_of_untagged ?_ ?_ <;>
      · intro tag body text
        exact other (List.cons.inj (List.cons.inj text).2).1

namespace Lines

theorem counts_append_returns {returns : List Char} (only : ∀ c ∈ returns, c = '\r') (l : List Char) :
    counts (l ++ returns) = counts l := by
  have blank : returns.all Text.isBlank := List.all_eq_true.mpr fun c hc => only c hc ▸ by decide
  cases l with
  | nil => simp [counts, blank]
  | cons c l => simp [counts, blank]

/-- A line that starts with a tag counts. -/
theorem counts_of_tag {tag : Char} (known : tag ∈ Header.tags) (cs : List Char) :
    counts (tag :: cs) := by
  have each : Header.tags.all fun tag => !Text.isBlank tag && tag != '#' := by decide
  have shown : Text.isBlank tag = false ∧ tag ≠ '#' := by
    simpa using List.all_eq_true.mp each tag known
  simp [counts, shown]

end Lines

namespace Recording
/-- What lines give behind a header that has been read so far, blank lines and comments left out: the
registration for the header lines, and the frames of the event lines behind them. -/
def GivesFrom (h : Header) (texts : List (List Char)) (events : List Event) : Prop :=
  ∃ header told after r es, texts = header ++ told ∧ Header.Reads h header after ∧
    after.registration = .ok r ∧
    List.Forall₂ TellsEvent told es ∧ events = ⟨deviceId, .register r⟩ :: replay none (frames es)

abbrev NoEvent (l : List Char) : Prop := ¬ ['E', ':'] <+: l

private theorem not_tellsEvent {l : List Char} (h : NoEvent l) (e : TimedEvent) : ¬ TellsEvent l e := by
  intro tells
  obtain ⟨body, rfl⟩ := tells.exists_body
  exact h ⟨body, rfl⟩

namespace GivesFrom
variable {h mid : Header} {front rest : List (List Char)} {l : List Char} {events : List Event}

/-- Header lines may go before. -/
theorem after (gives : GivesFrom mid rest events) (reads : Header.Reads h front mid) :
    GivesFrom h (front ++ rest) events := by
  obtain ⟨header, told, after, r, es, rfl, more, ends⟩ := gives
  exact ⟨front ++ header, told, after, r, es, (List.append_assoc ..).symm, reads.append more, ends⟩

/-- A line that is no event line belongs to the header, and so do the lines before it. -/
theorem split (gives : GivesFrom h (front ++ l :: rest) events) (noEvent : NoEvent l) :
    ∃ mid e, Header.Reads h front mid ∧ Header.Brings l e ∧ GivesFrom (e.addTo mid) rest events := by
  obtain ⟨header, told, after, r, es, parts, reads, registered, tells, rfl⟩ := gives
  have untold : l ∉ told := by
    intro member
    obtain ⟨i, small, rfl⟩ := List.mem_iff_getElem.mp member
    have event := tells.get small (tells.length_eq ▸ small)
    exact not_tellsEvent noEvent _ event
  rcases List.append_eq_append_iff.mp parts with ⟨more, rfl, behind⟩ | ⟨more, -, rfl⟩
  · cases more with
    | nil =>
      rw [List.nil_append] at behind
      exact absurd (behind ▸ List.mem_cons_self) untold
    | cons l' more =>
      obtain ⟨rfl, rfl⟩ := List.cons.inj behind
      obtain ⟨mid, first, reads⟩ := reads.split
      cases reads with
      | cons takes later =>
        obtain ⟨e, brings, rfl⟩ := Header.takes_iff.mp takes
        exact ⟨mid, e, first, brings, more, told, after, r, es, rfl, later, registered, tells, rfl⟩
  · exact absurd (List.mem_append_right more List.mem_cons_self) untold

/-- Lines before the first event line belong to the header. -/
theorem split_header (gives : GivesFrom h (front ++ rest) events) (noEvents : ∀ l ∈ front, NoEvent l) :
    ∃ mid, Header.Reads h front mid ∧ GivesFrom mid rest events := by
  induction front generalizing h with
  | nil => exact ⟨h, .nil h, gives⟩
  | cons l front ih =>
    obtain ⟨first, later⟩ := List.forall_mem_cons.mp noEvents
    have alone : GivesFrom h ([] ++ l :: (front ++ rest)) events := gives
    obtain ⟨mid, e, reads, brings, gives⟩ := alone.split first
    cases reads
    obtain ⟨mid, reads, gives⟩ := ih gives later
    exact ⟨mid, .cons (Header.takes_iff.mpr ⟨e, brings, rfl⟩) reads, gives⟩

end GivesFrom

section Agree
variable {texts texts' : List (List Char)}

private theorem reads_of_agree {h after : Header} (agree : List.Forall₂ LinesAgree texts' texts)
    (reads : Header.Reads h texts after) : Header.Reads h texts' after := by
  induction agree generalizing h with
  | nil => exact reads
  | cons first _ ih =>
    cases reads with
    | cons takes later =>
      obtain ⟨e, brings, rfl⟩ := Header.takes_iff.mp takes
      exact .cons (Header.takes_iff.mpr ⟨e, (first.entry e).mpr brings, rfl⟩) (ih later)

private theorem tells_of_agree {es : List TimedEvent} (agree : List.Forall₂ LinesAgree texts' texts)
    (tells : List.Forall₂ TellsEvent texts es) : List.Forall₂ TellsEvent texts' es := by
  induction agree generalizing es with
  | nil => exact tells
  | cons first _ ih =>
    cases tells with
    | cons event later => exact .cons ((first.event _).mpr event) (ih later)

/-- Recordings whose lines tell the same one by one give the same. -/
theorem gives_of_agree {events : List Event} (agree : List.Forall₂ LinesAgree texts' texts)
    (gives : GivesFrom {} texts events) : GivesFrom {} texts' events := by
  obtain ⟨header, told, h, r, es, rfl, reads, registered, tells, rfl⟩ := gives
  have inHeader := List.forall₂_take_append texts' header told agree
  have inTold := List.forall₂_drop_append texts' header told agree
  exact ⟨_, _, h, r, es, (List.take_append_drop ..).symm, reads_of_agree inHeader reads, registered,
    tells_of_agree inTold tells, rfl⟩

end Agree

private theorem tellOf_iff {lines : List Line} {es : List TimedEvent} :
    TellOf lines es ↔ List.Forall₂ TellsEvent (lines.map (·.text)) es := by
  rw [List.forall₂_map_left_iff]
  exact Iff.rfl

private theorem readHeader_of_tellOf {lines : List Line} {es : List TimedEvent} (tells : TellOf lines es)
    {h : Header} {r : Registration} (registered : h.registration = .ok r) :
    readHeader none h lines = .ok (r, lines) := by
  cases tells with
  | nil => rw [readHeader, registered]
  | cons first => exact Header.readHeader_event first registered none _

/-- The events of a recording are told by the texts of its lines. -/
theorem events_eq_ok_iff_gives {s : Source} {events : List Event}
    (whole : (Lines.ofSource s).failure = none) :
    (Script.ofSource .evemu s).events = .ok events ↔
      GivesFrom {} ((Lines.ofSource s).lines.map (·.text)) events := by
  constructor
  · intro h
    obtain ⟨-, r, rest, es, tells, read⟩ := readHeader_of_events h
    obtain ⟨front, after, parts, reads, registered, -, -⟩ := Header.exists_reads read
    have given := events_of_readHeader whole tells read
    rw [h] at given
    refine ⟨front.map (·.text), rest.map (·.text), after, r, es, by rw [parts, List.map_append], reads,
      registered, tellOf_iff.mp tells, Except.ok.inj given⟩
  · rintro ⟨header, told, h, r, es, texts, reads, registered, tells, rfl⟩
    obtain ⟨front, rest, parts, rfl, rfl⟩ := List.map_eq_append_iff.mp texts
    have tells := tellOf_iff.mpr tells
    refine events_of_readHeader whole tells ?_
    rw [parts, reads.readHeader none rfl, readHeader_of_tellOf tells registered]

end Recording
end ScriptedInput

import ScriptedInput.Proofs.Recording.CutLines
import ScriptedInput.Proofs.Recording.LineTexts

/-! Recordings laid out in another way: header lines in another order, lines that do not count, masks in
other pieces, comments behind fields, and other ends of lines. They give the same events. -/
namespace ScriptedInput

/-- Bytes that write these lines. A line feed ends a line, perhaps with a carriage return before it, and
the last line may lack its end. -/
inductive WrittenLines : List (List Char) → List UInt8 → Prop
  | nil : WrittenLines [] []
  | last {l : List Char} (whole : '\n' ∉ l) (some : l ≠ []) : WrittenLines [l] (Text.bytesOf l)
  | feed {l : List Char} {ls : List (List Char)} {bytes : List UInt8} (whole : '\n' ∉ l)
    (more : WrittenLines ls bytes) : WrittenLines (l :: ls) (Text.bytesOf l ++ 10 :: bytes)
  | returnFeed {l : List Char} {ls : List (List Char)} {bytes : List UInt8} (whole : '\n' ∉ l)
    (more : WrittenLines ls bytes) : WrittenLines (l :: ls) (Text.bytesOf l ++ 13 :: 10 :: bytes)

def allLines (bytes : List UInt8) : List (List UInt8) :=
  let (lines, left) := splitLines bytes
  if left.isEmpty then lines else lines ++ [left]

private theorem Source.rawLines_eq_allLines {s : Source} (whole : s.failure = none) :
    s.rawLines = allLines s.bytes := by
  simp only [rawLines, allLines, whole, Option.isSome_none, Bool.or_false]

private theorem allLines_append_feed {bs : List UInt8} (h : 10 ∉ bs) (rest : List UInt8) :
    allLines (bs ++ 10 :: rest) = bs :: allLines rest := by
  rw [allLines, splitLines_append_feed h, allLines]
  dsimp only
  split <;> rfl

private theorem splitLines_unended {bs : List UInt8} (h : 10 ∉ bs) : splitLines bs = ([], bs) := by
  induction bs with
  | nil => rfl
  | cons b bs ih =>
    have other : b ≠ 10 := fun hb => h (hb ▸ List.mem_cons_self)
    rw [splitLines, ih fun hbs => h (List.mem_cons_of_mem b hbs)]
    simp [other]

def LineBytes (l : List Char) (raw : List UInt8) : Prop :=
  ∃ returns, (∀ c ∈ returns, c = '\r') ∧ raw = Text.bytesOf (l ++ returns)

private theorem lineBytes_self (l : List Char) : LineBytes l (Text.bytesOf l) := ⟨[], by simp, by simp⟩

private theorem lineBytes_return (l : List Char) : LineBytes l (Text.bytesOf l ++ [13]) :=
  ⟨['\r'], by simp, (Text.bytesOf_append l ['\r']).symm⟩

/-- Lines are read back from the bytes that write them. -/
private theorem WrittenLines.allLines {ls : List (List Char)} {bytes : List UInt8}
    (h : WrittenLines ls bytes) : List.Forall₂ LineBytes ls (allLines bytes) := by
  induction h with
  | nil => exact .nil
  | @last l whole some =>
    have bytes : (Text.bytesOf l).isEmpty = false := by
      obtain ⟨c, cs, rfl⟩ := List.exists_cons_of_ne_nil some
      simp [Text.bytesOf_cons]
    rw [ScriptedInput.allLines, splitLines_unended (notMem_bytesOf whole)]
    simp only [bytes, Bool.false_eq_true, if_false, List.nil_append]
    exact .cons (lineBytes_self l) .nil
  | @feed l ls bytes whole more ih =>
    rw [allLines_append_feed (notMem_bytesOf whole)]
    exact .cons (lineBytes_self l) ih
  | @returnFeed l ls bytes whole more ih =>
    have whole : 10 ∉ Text.bytesOf l ++ [13] := by simp [notMem_bytesOf whole]
    rw [List.append_cons, allLines_append_feed whole]
    exact .cons (lineBytes_return l) ih

namespace Lines

/-- The texts of lines whose bytes are these. Carriage returns at their ends are lost. -/
private theorem number_lineBytes {ls : List (List Char)} {raws : List (List UInt8)}
    (h : List.Forall₂ LineBytes ls raws) (n : Nat) :
    (number none n raws).failure = none ∧ List.Forall₂ LinesAgree
      (ls.filter counts) ((number none n raws).lines.map (·.text)) := by
  induction h generalizing n with
  | nil => exact ⟨rfl, .nil⟩
  | @cons l raw ls raws first _ ih =>
    obtain ⟨returns, only, rfl⟩ := first
    obtain ⟨failure, texts⟩ := ih (n + 1)
    obtain ⟨returns', parts, only'⟩ := exists_withoutReturns (l ++ returns)
    have same := counts_append_returns only l
    have agree := linesAgree_append_returns only l
    have same' := counts_append_returns only' (withoutReturns (l ++ returns))
    have agree' := linesAgree_append_returns only' (withoutReturns (l ++ returns))
    rw [← parts] at same' agree'
    simp only [number, Text.decode?_bytesOf, String.toList_ofList]
    by_cases shown : counts l
    · rw [if_pos (same'.symm.trans (same.trans shown)), List.filter_cons_of_pos shown]
      exact ⟨failure, .cons (agree.trans agree'.symm) texts⟩
    · rw [if_neg (by rwa [← same', same]), List.filter_cons_of_neg shown]
      exact ⟨failure, texts⟩

end Lines

namespace Recording
open Header (Part partOf)

/-- The events of a recording are told by the lines that its bytes write. -/
private theorem events_eq_ok_iff_of_written {s : Source} {ls : List (List Char)} {events : List Event}
    (written : WrittenLines ls s.bytes) (whole : s.failure = none) :
    (Script.ofSource .evemu s).events = .ok events ↔ GivesFrom {} (ls.filter Lines.counts) events := by
  obtain ⟨failure, agree⟩ := Lines.number_lineBytes written.allLines 0
  have read : Lines.ofSource s = Lines.number none 0 (allLines s.bytes) := by
    rw [Lines.ofSource, whole, Source.rawLines_eq_allLines whole]
  rw [← read] at failure agree
  rw [events_eq_ok_iff_gives failure]
  exact ⟨gives_of_agree agree, gives_of_agree (agree.flip.imp fun _ _ same => same.symm)⟩

abbrev fieldTexts (body : List Char) : List (List Char) := words (beforeComment body)

inductive Relaid : List (List Char) → List (List Char) → Prop
  /-- Header lines in another order. Those about one part of the header keep theirs. -/
  | reorder {header header' : List (List Char)} (rest : List (List Char)) (perm : header.Perm header')
    (noEvents : ∀ l ∈ header, NoEvent l)
    (order : ∀ p, header.filter (partOf · = some p) = header'.filter (partOf · = some p)) :
    Relaid (header ++ rest) (header' ++ rest)
  /-- A comment or a blank line more. -/
  | insert {l : List Char} (front rest : List (List Char))
    (skipped : l.head? = some '#' ∨ ∀ c ∈ l, Text.isBlank c) :
    Relaid (front ++ rest) (front ++ l :: rest)
  | remove {l : List Char} (front rest : List (List Char))
    (skipped : l.head? = some '#' ∨ ∀ c ∈ l, Text.isBlank c) :
    Relaid (front ++ l :: rest) (front ++ rest)
  /-- A line more with the state of lights or switches, before the first event line. -/
  | insertState {tag : Char} {front : List (List Char)} (body : List Char) (rest : List (List Char))
    (state : tag = 'L' ∨ tag = 'S') (noEvents : ∀ l ∈ front, NoEvent l) :
    Relaid (front ++ rest) (front ++ (tag :: ':' :: body) :: rest)
  | removeState {tag : Char} {front : List (List Char)} (body : List Char) (rest : List (List Char))
    (state : tag = 'L' ∨ tag = 'S') (noEvents : ∀ l ∈ front, NoEvent l) :
    Relaid (front ++ (tag :: ':' :: body) :: rest) (front ++ rest)
  /-- The bytes of a property line on several lines. -/
  | splitProperties {body : List Char} {bodies : List (List Char)} (front rest : List (List Char))
    (some : bodies ≠ []) (fields : fieldTexts body = bodies.flatMap fieldTexts) :
    Relaid (front ++ ('P' :: ':' :: body) :: rest) (front ++ bodies.map ('P' :: ':' :: ·) ++ rest)
  /-- The bytes of a mask line on several lines with the same event type. -/
  | splitMask {body type : List Char} {bodies : List (List Char)} {pieces : List (List (List Char))}
    (front rest : List (List Char)) (some : bodies ≠ [])
    (fields : fieldTexts body = type :: pieces.flatten)
    (each : List.Forall₂ (fun b piece => ∃ word, fieldTexts b = word :: piece ∧
      Text.Numeral.unsigned? 16 word = Text.Numeral.unsigned? 16 type) bodies pieces) :
    Relaid (front ++ ('B' :: ':' :: body) :: rest) (front ++ bodies.map ('B' :: ':' :: ·) ++ rest)
  /-- A comment behind the fields of a line. -/
  | comment {tag : Char} (body text : List Char) (front rest : List (List Char))
    (fields : tag ∈ ['I', 'P', 'B', 'A', 'E']) :
    Relaid (front ++ (tag :: ':' :: body) :: rest)
      (front ++ (tag :: ':' :: (body ++ '#' :: text)) :: rest)

section Preserved
variable {ls ls' : List (List Char)} {events : List Event}

private theorem not_counts_of_skipped {l : List Char}
    (skipped : l.head? = some '#' ∨ ∀ c ∈ l, Text.isBlank c) : ¬ Lines.counts l := by
  rcases skipped with comment | blank
  · simp [Lines.counts, comment]
  · simp [Lines.counts, List.all_eq_true.mpr blank]

private theorem filter_counts_skipped {l : List Char}
    (skipped : l.head? = some '#' ∨ ∀ c ∈ l, Text.isBlank c) (front rest : List (List Char)) :
    (front ++ l :: rest).filter Lines.counts = (front ++ rest).filter Lines.counts := by
  rw [List.filter_append, List.filter_cons_of_neg (not_counts_of_skipped skipped), List.filter_append]

private theorem noEvents_filter (noEvents : ∀ l ∈ ls, NoEvent l) :
    ∀ l ∈ ls.filter Lines.counts, NoEvent l := fun l hl => noEvents l (List.mem_of_mem_filter hl)

private theorem takes_state {tag : Char} (state : tag = 'L' ∨ tag = 'S') (h : Header) (body : List Char) :
    h.Takes (tag :: ':' :: body) h := Header.takes_iff.mpr ⟨.state, .state state, rfl⟩

private theorem mem_tags_state {tag : Char} (state : tag = 'L' ∨ tag = 'S') : tag ∈ Header.tags := by
  rcases state with rfl | rfl <;> decide

private theorem exists_of_writeBytes_append {ws more : List (List Char)} {bytes : List UInt8}
    (written : WriteBytes (ws ++ more) bytes) :
    ∃ front later, bytes = front ++ later ∧ WriteBytes ws front ∧ WriteBytes more later :=
  ⟨_, _, (List.take_append_drop ..).symm, (List.forall₂_take_append _ _ _ written.flip).flip,
    (List.forall₂_drop_append _ _ _ written.flip).flip⟩

/-- A property line on several lines adds the same bytes. -/
private theorem reads_splitProperties {bodies : List (List Char)} {bytes : List UInt8}
    (written : WriteBytes (bodies.flatMap fieldTexts) bytes) (h : Header) :
    Header.Reads h (bodies.map ('P' :: ':' :: ·)) ((Header.Entry.properties bytes).addTo h) := by
  induction bodies generalizing bytes h with
  | nil =>
    cases written
    rw [Header.Entry.addTo, List.append_nil]
    exact .nil h
  | cons b bodies ih =>
    obtain ⟨front, later, rfl, here, behind⟩ := exists_of_writeBytes_append written
    have more := ih behind ((Header.Entry.properties front).addTo h)
    rw [Header.Entry.addTo, Header.Entry.addTo, List.append_assoc] at more
    exact .cons (Header.takes_iff.mpr ⟨_, .properties here, rfl⟩) more

section Mask
variable {bodies : List (List Char)} {pieces : List (List (List Char))} {type : UInt16}
  {bytes : List UInt8}

/-- Mask lines with one event type add their bytes one after the other. -/
private theorem reads_maskPieces
    (each : List.Forall₂ (fun b piece => ∃ word, fieldTexts b = word :: piece ∧
      Text.Numeral.unsigned? 16 word = some type.toNat) bodies pieces)
    (written : WriteBytes pieces.flatten bytes) (h : Header) (items : List UInt8) :
    Header.Reads ((Header.Entry.mask type items).addTo h) (bodies.map ('B' :: ':' :: ·))
      ((Header.Entry.mask type (items ++ bytes)).addTo h) := by
  induction each generalizing items bytes with
  | nil =>
    cases written
    rw [List.append_nil]
    exact .nil _
  | cons first _ ih =>
    obtain ⟨word, fields, number⟩ := first
    obtain ⟨front, later, rfl, here, behind⟩ := exists_of_writeBytes_append written
    have more := ih behind (items ++ front)
    rw [List.append_assoc] at more
    refine .cons (Header.takes_iff.mpr ⟨_, .mask fields number here, ?_⟩) more
    simp only [Header.Entry.addTo, CodeMap.extend_extend]

private theorem reads_splitMask (some : bodies ≠ [])
    (each : List.Forall₂ (fun b piece => ∃ word, fieldTexts b = word :: piece ∧
      Text.Numeral.unsigned? 16 word = .some type.toNat) bodies pieces)
    (written : WriteBytes pieces.flatten bytes) (h : Header) :
    Header.Reads h (bodies.map ('B' :: ':' :: ·)) ((Header.Entry.mask type bytes).addTo h) := by
  cases each with
  | nil => exact absurd rfl some
  | cons first later =>
    obtain ⟨word, fields, number⟩ := first
    obtain ⟨front, more, rfl, here, behind⟩ := exists_of_writeBytes_append written
    exact .cons (Header.takes_iff.mpr ⟨_, .mask fields number here, rfl⟩)
      (reads_maskPieces later behind h front)

end Mask

private theorem filter_counts_map_tag {tag : Char} (known : tag ∈ Header.tags)
    (bodies : List (List Char)) :
    (bodies.map (tag :: ':' :: ·)).filter Lines.counts = bodies.map (tag :: ':' :: ·) :=
  List.filter_eq_self.mpr (List.forall_mem_map.mpr fun _ _ => Lines.counts_of_tag known _)

private theorem noEvent_of_tag {tag : Char} (other : 'E' ≠ tag) (cs : List Char) : NoEvent (tag :: cs) :=
  fun event => other (List.cons_prefix_cons.mp event).1

/-- A header line may be replaced by lines that add the same. -/
private theorem gives_replaced {front rest : List (List Char)} {tag : Char} {body : List Char}
    (bodies : List (List Char)) (known : tag ∈ Header.tags) (other : 'E' ≠ tag)
    (gives : GivesFrom {} ((front ++ (tag :: ':' :: body) :: rest).filter Lines.counts) events)
    (same : ∀ e, Header.Brings (tag :: ':' :: body) e → ∀ h,
      Header.Reads h (bodies.map (tag :: ':' :: ·)) (e.addTo h)) :
    GivesFrom {} ((front ++ bodies.map (tag :: ':' :: ·) ++ rest).filter Lines.counts) events := by
  rw [List.filter_append, List.filter_cons_of_pos (Lines.counts_of_tag known _)] at gives
  obtain ⟨mid, e, reads, brings, gives⟩ := gives.split (noEvent_of_tag other _)
  rw [List.append_assoc, List.filter_append, List.filter_append, filter_counts_map_tag known]
  exact (gives.after (same e brings mid)).after reads

/-- A recording gives the same in another layout. -/
private theorem Relaid.gives (relaid : Relaid ls ls')
    (gives : GivesFrom {} (ls.filter Lines.counts) events) :
    GivesFrom {} (ls'.filter Lines.counts) events := by
  cases relaid with
  | @reorder header header' rest perm noEvents order =>
    rw [List.filter_append] at gives ⊢
    obtain ⟨mid, reads, gives⟩ := gives.split_header (noEvents_filter noEvents)
    refine gives.after (reads.reorder (perm.filter _) fun p => ?_)
    have swap (ls : List (List Char)) : (ls.filter Lines.counts).filter (partOf · = some p) =
        (ls.filter (partOf · = some p)).filter Lines.counts := by
      simp only [List.filter_filter, Bool.and_comm]
    rw [swap, swap, order p]
  | insert front rest skipped => rwa [filter_counts_skipped skipped]
  | remove front rest skipped => rwa [filter_counts_skipped skipped] at gives
  | @insertState tag front body rest state noEvents =>
    rw [List.filter_append] at gives
    rw [List.filter_append, List.filter_cons_of_pos (Lines.counts_of_tag (mem_tags_state state) _)]
    obtain ⟨mid, reads, gives⟩ := gives.split_header (noEvents_filter noEvents)
    have one : Header.Reads mid [tag :: ':' :: body] mid := .cons (takes_state state mid body) (.nil mid)
    exact (gives.after one).after reads
  | @removeState tag front body rest state noEvents =>
    have other : 'E' ≠ tag := by rcases state with rfl | rfl <;> decide
    have left := gives_replaced [] (mem_tags_state state) other gives fun e brings h => by
      have takes : h.Takes (tag :: ':' :: body) (e.addTo h) := Header.takes_iff.mpr ⟨e, brings, rfl⟩
      rw [takes.unique (takes_state state h body)]
      exact .nil h
    rwa [List.map_nil, List.append_nil] at left
  | splitProperties front rest some fields =>
    refine gives_replaced _ (by decide) (by decide) gives fun e brings h => ?_
    cases brings with
    | properties written => exact reads_splitProperties (fields ▸ written) h
    | state ignored => exact absurd ignored (by decide)
  | splitMask front rest some fields each =>
    refine gives_replaced _ (by decide) (by decide) gives fun e brings h => ?_
    cases brings with
    | mask begins first written =>
      obtain ⟨rfl, rfl⟩ := List.cons.inj (begins.symm.trans fields)
      refine reads_splitMask some (each.imp fun b piece => ?_) written h
      rintro ⟨word, texts, same⟩
      exact ⟨word, texts, same.trans first⟩
    | state ignored => exact absurd ignored (by decide)
  | @comment tag body text front rest fields =>
    have known : tag ∈ Header.tags := by
      have each : ['I', 'P', 'B', 'A', 'E'] ⊆ Header.tags := by decide
      exact each fields
    have agree : LinesAgree (tag :: ':' :: (body ++ '#' :: text)) (tag :: ':' :: body) := by
      refine (linesAgree_of_fields ?_ ?_).symm
      · rw [beforeComment_append_comment]
      · rintro rfl
        exact absurd fields (by decide)
    have same (ls : List (List Char)) : List.Forall₂ LinesAgree ls ls :=
      List.forall₂_same.mpr fun l _ => .refl l
    rw [List.filter_append, List.filter_cons_of_pos (Lines.counts_of_tag known _)] at gives ⊢
    exact gives_of_agree (List.rel_append (same _) (.cons agree (same _))) gives

end Preserved

end Recording

private theorem Lines.decodes_of_number {failure : Option IoError} {n : Nat} {raws : List (List UInt8)}
    (h : (number failure n raws).failure = none) :
    failure = none ∧ ∀ raw ∈ raws, ∃ s, Text.decode? raw = some s := by
  induction raws generalizing n with
  | nil => exact ⟨h, by simp⟩
  | cons raw raws ih =>
    rw [number] at h
    split at h
    · cases h
    · next s decoded =>
      have later : (number failure (n + 1) raws).failure = none := by
        dsimp only at h
        split at h <;> exact h
      obtain ⟨none, more⟩ := ih later
      exact ⟨none, List.forall_mem_cons.mpr ⟨⟨s, decoded⟩, more⟩⟩

/-- Bytes whose lines are all text are written by some lines. -/
private theorem exists_writtenLines {bytes : List UInt8}
    (h : ∀ raw ∈ allLines bytes, ∃ s, Text.decode? raw = some s) : ∃ ls, WrittenLines ls bytes := by
  have whole {raw : List UInt8} {s : String} (decoded : Text.decode? raw = some s) (none : 10 ∉ raw) :
      '\n' ∉ s.toList := by
    intro feed
    refine none (Text.bytesOf_of_decode? decoded ▸ ?_)
    exact List.mem_flatMap.mpr ⟨'\n', feed, by decide⟩
  induction hn : bytes.length using Nat.strongRecOn generalizing bytes with
  | _ n ih =>
    by_cases feed : 10 ∈ bytes
    · obtain ⟨front, rest, rfl, first⟩ := List.eq_append_cons_of_mem feed
      rw [allLines_append_feed first] at h
      obtain ⟨⟨s, decoded⟩, later⟩ := List.forall_mem_cons.mp h
      have fewer : rest.length < n := by
        rw [← hn, List.length_append, List.length_cons]
        omega
      obtain ⟨ls, more⟩ := ih _ fewer later rfl
      rw [← Text.bytesOf_of_decode? decoded]
      exact ⟨_, .feed (whole decoded first) more⟩
    · cases bytes with
      | nil => exact ⟨[], .nil⟩
      | cons b bytes =>
        have only : b :: bytes ∈ allLines (b :: bytes) := by
          rw [allLines, splitLines_unended feed]
          exact List.mem_singleton_self _
        obtain ⟨s, decoded⟩ := h _ only
        have same := Text.bytesOf_of_decode? decoded
        have some : s.toList ≠ [] := fun empty => by simp [empty] at same
        rw [← same]
        exact ⟨_, .last (whole decoded feed) some⟩

/-- The layout of a recording does not matter. One that can be read to its end consists of lines of text.
Laid out in another way, step by step, and written with any ends of lines, these give the same events. -/
theorem events_of_relaid {s : Source} {events : List Event}
    (h : (Script.ofSource .evemu s).events = .ok events) :
    (∃ ls, WrittenLines ls s.bytes) ∧
      ∀ ls ls', WrittenLines ls s.bytes → Relation.ReflTransGen Recording.Relaid ls ls' →
        ∀ t : Source, WrittenLines ls' t.bytes → t.failure = none →
          (Script.ofSource .evemu t).events = .ok events := by
  obtain ⟨read, -⟩ := Recording.readHeader_of_events h
  obtain ⟨whole, decoded⟩ := Lines.decodes_of_number read
  refine ⟨exists_writtenLines (Source.rawLines_eq_allLines whole ▸ decoded), ?_⟩
  intro ls ls' written relaid
  have gives : Recording.GivesFrom {} (ls'.filter Lines.counts) events := by
    induction relaid with
    | refl => exact (Recording.events_eq_ok_iff_of_written written whole).mp h
    | tail _ step ih => exact step.gives ih
  intro t written' whole'
  exact (Recording.events_eq_ok_iff_of_written written' whole').mpr gives

def tidy : Source := ⟨[Text.encode "N: k\nI: 3 1 2 0\nE: 0.000000 0 0 0\n"], none⟩

def untidy : Source := ⟨[Text.encode "I: 3 1 2 0# ids\r\nN: k\n\nE: 0.000000 0 0 0"], none⟩

theorem untidy_like_tidy : ∃ events, (Script.ofSource .evemu tidy).events = .ok events ∧
    (Script.ofSource .evemu untidy).events = .ok events := by
  have read : (Script.ofSource .evemu tidy).events =
      .ok [⟨1, .register { name := "k", vendor := 1, product := 2 }⟩, ⟨1, .inject [⟨0, 0, 0⟩]⟩] := by
    exact Script.events_of_feedWithin? (n := 3) (by decide +kernel)
  let name := "N: k".toList
  let ids := "I: 3 1 2 0".toList
  let commented := "I: 3 1 2 0# ids".toList
  let event := "E: 0.000000 0 0 0".toList
  have written : WrittenLines [name, ids, event] tidy.bytes := by
    have bytes : tidy.bytes = Text.bytesOf name ++ 10 :: (Text.bytesOf ids ++ 10 ::
        (Text.bytesOf event ++ 10 :: [])) := by decide +kernel
    rw [bytes]
    exact .feed (by decide) (.feed (by decide) (.feed (by decide) .nil))
  have written' : WrittenLines [commented, name, [], event] untidy.bytes := by
    have bytes : untidy.bytes = Text.bytesOf commented ++ 13 :: 10 :: (Text.bytesOf name ++ 10 ::
        (Text.bytesOf [] ++ 10 :: Text.bytesOf event)) := by decide +kernel
    rw [bytes]
    exact .returnFeed (by decide) (.feed (by decide) (.feed (by decide) (.last (by decide) (by decide))))
  have swapped : Recording.Relaid [name, ids, event] [ids, name, event] := by
    refine @Recording.Relaid.reorder [name, ids] [ids, name] [event] (.swap ..) ?_ ?_
    · decide
    · intro p
      cases p <;> rfl
  have behind : Recording.Relaid [ids, name, event] [commented, name, event] :=
    @Recording.Relaid.comment 'I' " 3 1 2 0".toList " ids".toList [] [name, event] (by decide)
  have spaced : Recording.Relaid [commented, name, event] [commented, name, [], event] :=
    .insert [commented, name] [event] (.inr (by simp))
  have relaid := ((Relation.ReflTransGen.single swapped).tail behind).tail spaced
  exact ⟨_, read, (events_of_relaid read).2 _ _ written relaid untidy written' rfl⟩

end ScriptedInput

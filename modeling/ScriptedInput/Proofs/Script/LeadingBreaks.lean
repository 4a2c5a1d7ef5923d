import ScriptedInput.Proofs.Recording.TextLines
import ScriptedInput.Proofs.Script.Alike
import ScriptedInput.Proofs.Script.Dialects

/-! Line breaks before a script. They say nothing about its dialect, and commands are read as
without them. In a recording, only line feeds break lines: with a carriage return right before it,
the first line of a recording is none of its header. -/
namespace ScriptedInput

def Breaks (bs : List UInt8) : Prop := ∀ b ∈ bs, isLineSeparator b

private theorem Breaks.blank {bs : List UInt8} (h : Breaks bs) : BlankBytes bs := by
  intro b hb
  have separator := h b hb
  simp only [isLineSeparator, Bool.or_eq_true, decide_eq_true_eq] at separator
  rcases separator with rfl | rfl <;> decide

/-- Lines that are empty but for carriage returns. -/
inductive EmptyLines : List UInt8 → Prop where
  | nil : EmptyLines []
  | line (returns : Nat) {bs : List UInt8} (later : EmptyLines bs) :
    EmptyLines (.replicate returns 13 ++ 10 :: bs)

private theorem EmptyLines.append {bs cs : List UInt8} (h : EmptyLines bs) (h' : EmptyLines cs) :
    EmptyLines (bs ++ cs) := by
  induction h with
  | nil => exact h'
  | line returns _ ih =>
    rw [List.append_assoc, List.cons_append]
    exact .line returns ih

private theorem EmptyLines.getLast? {bs : List UInt8} (h : EmptyLines bs) : bs.getLast? ≠ some 13 := by
  induction h with
  | nil => simp
  | @line returns bs _ ih =>
    rw [List.getLast?_append, List.getLast?_cons]
    cases hb : bs.getLast? with
    | none => simp
    | some b => simpa [hb] using ih

/-- Line separators are empty lines, and then carriage returns. -/
private theorem Breaks.exists_emptyLines {bs : List UInt8} (h : Breaks bs) :
    ∃ lines returns, EmptyLines lines ∧ bs = lines ++ .replicate returns 13 := by
  induction bs with
  | nil => exact ⟨[], 0, .nil, rfl⟩
  | cons b bs ih =>
    obtain ⟨separator, later⟩ := List.forall_mem_cons.mp h
    obtain ⟨lines, returns, empty, rfl⟩ := ih later
    simp only [isLineSeparator, Bool.or_eq_true, decide_eq_true_eq] at separator
    rcases separator with rfl | rfl
    · exact ⟨10 :: lines, returns, .line 0 empty, rfl⟩
    · cases empty with
      | nil => exact ⟨[], returns + 1, .nil, rfl⟩
      | line more empty => exact ⟨_, returns, .line (more + 1) empty, rfl⟩

/-- White space can be decoded. -/
private theorem BlankBytes.exists_chars {raw : List UInt8} (blank : BlankBytes raw) :
    ∃ cs, Text.bytesOf cs = raw := by
  induction raw with
  | nil => exact ⟨[], rfl⟩
  | cons b raw ih =>
    obtain ⟨space, later⟩ := List.forall_mem_cons.mp blank
    obtain ⟨cs, rfl⟩ := ih later
    refine ⟨Char.ofNat b.toNat :: cs, ?_⟩
    rw [Text.bytesOf_cons]
    rcases Json.isSpace_cases space with rfl | rfl | rfl | rfl <;> rfl

namespace Lines

/-- A blank line changes nothing but the numbers of the lines after it. -/
private theorem number_blank (failure : Option IoError) (n : Nat) {raw : List UInt8}
    (blank : BlankBytes raw)
    (raws : List (List UInt8)) : number failure n (raw :: raws) = number failure (n + 1) raws := by
  obtain ⟨cs, rfl⟩ := blank.exists_chars
  have spaces : Lines.counts (withoutReturns cs) = false := not_counts (jsonSpaces_of_bytesOf blank)
  rw [number, Text.decode?_bytesOf]
  simp only [String.toList_ofList, spaces, Bool.false_eq_true, if_false]

private theorem number_emptyLines {s t : Source} {front : List UInt8} (empty : EmptyLines front)
    (bytes : t.bytes = front ++ s.bytes) (failure : t.failure = s.failure) (n : Nat) :
    ∃ m, number t.failure n t.rawLines = number s.failure m s.rawLines := by
  induction empty generalizing t n with
  | nil =>
    refine ⟨n, ?_⟩
    rw [failure, Source.rawLines, Source.rawLines, bytes, failure]
    rfl
  | @line returns bs later ih =>
    let u : Source := ⟨[bs ++ s.bytes], s.failure⟩
    have rest : u.bytes = bs ++ s.bytes := List.append_nil _
    have whole : (10 : UInt8) ∉ List.replicate returns (13 : UInt8) := by simp
    have lines : t.rawLines = .replicate returns 13 :: u.rawLines := by
      rw [Source.rawLines, Source.rawLines, bytes, rest, List.append_assoc, List.cons_append,
        splitLines_append_feed whole, failure]
      dsimp only
      split
      · rfl
      · rfl
    obtain ⟨m, same⟩ := ih rest rfl (n + 1)
    have blank : BlankBytes (.replicate returns 13) := by
      intro b hb
      rw [List.eq_of_mem_replicate hb]
      rfl
    exact ⟨m, by rw [lines, number_blank _ _ blank, failure, same]⟩

/-- Empty lines before a recording do not count. -/
private theorem ofSource_alike {s t : Source} {front : List UInt8} (empty : EmptyLines front)
    (bytes : t.bytes = front ++ s.bytes) (failure : t.failure = s.failure) :
    (ofSource t).Alike (ofSource s) := by
  obtain ⟨m, same⟩ := number_emptyLines empty bytes failure 0
  rw [ofSource, same]
  exact number_alike s.failure m 0 s.rawLines

end Lines

/-- Bytes without line feeds come at the start of the first line, wherever that ends. -/
private theorem splitLines_append {front : List UInt8} (h : 10 ∉ front) (post : List UInt8) :
    splitLines (front ++ post) = match splitLines post with
      | ([], left) => ([], front ++ left)
      | (line :: lines, left) => ((front ++ line) :: lines, left) := by
  induction front with
  | nil =>
    rw [List.nil_append]
    rcases splitLines post with ⟨_ | ⟨line, lines⟩, left⟩ <;> rfl
  | cons b front ih =>
    have other : b ≠ 10 := fun hb => h (hb ▸ List.mem_cons_self)
    rw [List.cons_append, splitLines, ih fun hf => h (List.mem_cons_of_mem b hf)]
    rcases splitLines post with ⟨_ | ⟨line, lines⟩, left⟩ <;> simp [other]

namespace Recording

/-- White space before the first line of a header keeps it from being one. -/
private theorem refuses_indented {failure : Option IoError} {first : UInt8} {spaces tail : List UInt8}
    (blank : BlankBytes (first :: spaces)) {b : UInt8} (small : b.toNat < 128)
    (shown : ∀ c : Char, c.toNat = b.toNat → Text.isBlank c = false) (raws : List (List UInt8)) :
    Refuses failure ((first :: spaces ++ b :: tail) :: raws) := by
  obtain ⟨space, blank⟩ := List.forall_mem_cons.mp blank
  cases hd : Text.decode? (first :: spaces ++ b :: tail) with
  | none => exact refuses_undecodable hd
  | some s =>
    obtain ⟨x, xs, chars, same, bytes⟩ :=
      Text.cons_of_bytesOf (Text.bytesOf_of_decode? hd) (toNat_lt_of_isSpace space)
    obtain ⟨front, c, rest, rfl, number, all⟩ := chars_of_bytesOf blank small bytes
    have spaced : ∀ y ∈ x :: front, y ∈ jsonSpaces :=
      List.forall_mem_cons.mpr ⟨mem_jsonSpaces same space, all⟩
    exact refuses_line hd chars spaced (shown c number) nofun

private theorem refuses_source {s : Source} {first : UInt8} {spaces post : List UInt8} {b : UInt8}
    (bytes : s.bytes = first :: spaces ++ b :: post) (blank : BlankBytes (first :: spaces))
    (whole : 10 ∉ first :: spaces) (feed : b ≠ 10) (small : b.toNat < 128)
    (shown : ∀ c : Char, c.toNat = b.toNat → Text.isBlank c = false) :
    Refuses s.failure s.rawLines := by
  have unbroken : 10 ∉ first :: spaces ++ [b] := by
    rw [List.mem_append, List.mem_singleton, not_or]
    exact ⟨whole, fun h => feed h.symm⟩
  have none : Refuses s.failure [] := refuses_blank (by simp)
  have line (tail : List UInt8) (raws : List (List UInt8)) :
      Refuses s.failure ((first :: spaces ++ b :: tail) :: raws) :=
    refuses_indented blank small shown raws
  rw [Source.rawLines, bytes, List.append_cons, splitLines_append unbroken]
  rcases splitLines post with ⟨_ | ⟨rest, lines⟩, left⟩
  · dsimp only
    split
    · exact none
    · simpa using line left []
  · dsimp only
    split
    · simpa using line rest lines
    · simpa using line rest (lines ++ [left])

end Recording

namespace CommandStream

/-- Line separators before a stream of commands do not count. -/
private theorem feed_breaks {s t : Source} {p : List UInt8} (breaks : Breaks p)
    (bytes : t.bytes = p ++ s.bytes) (failure : t.failure = s.failure) :
    (Script.ofSource .json t).feed.Alike (Script.ofSource .json s).feed := by
  have skipped (q : Json.Position) : ∃ q', Json.pullFrom s.failure .start q (p ++ s.bytes) =
      Json.pullFrom s.failure .start q' s.bytes := by
    have blank := breaks.blank
    clear bytes breaks
    induction p generalizing q with
    | nil => exact ⟨q, rfl⟩
    | cons b p ih =>
      obtain ⟨space, blank⟩ := List.forall_mem_cons.mp blank
      have passed : Json.Machine.start.step b = .next .start := by
        simp only [Json.Machine.start, Json.Machine.step, space, if_true]
      rw [List.cons_append, Json.pullFrom, passed]
      exact ih _ blank
  obtain ⟨q, pulled⟩ := skipped {}
  let moved : CommandStream := { cursor := ⟨q, s.bytes⟩, failure := s.failure }
  have ready : (ofSource t).Ready := ⟨rfl, rfl⟩
  have ready' : moved.Ready := ⟨rfl, rfl⟩
  have same : (Script.commands (ofSource t)).feed = (Script.commands moved).feed := by
    rw [ready.feed_eq, ready'.feed_eq, Json.pull, Json.pull]
    simp only [ofSource, bytes, failure, moved, pulled]
  rw [Script.ofSource, same]
  exact feed_alike ⟨rfl, rfl, rfl, rfl⟩

end CommandStream

/-- A source that hands out line separators and then the bytes of another one. -/
structure Source.AfterBreaks (p : List UInt8) (s t : Source) : Prop where
  breaks : Breaks p
  bytes : t.bytes = p ++ s.bytes
  failure : t.failure = s.failure

namespace Source.AfterBreaks
variable {p : List UInt8} {s t : Source}

private theorem decisive? (h : AfterBreaks p s t) : t.decisive? = s.decisive? := by
  have none : p.find? (!isLineSeparator ·) = none := by
    rw [List.find?_eq_none]
    intro b hb
    simp [h.breaks b hb]
  rw [Source.decisive?, h.bytes, List.find?_append, none, Option.none_or, Source.decisive?]

private theorem announced (h : AfterBreaks p s t) : t.announced = s.announced := by
  rw [Source.announced, h.decisive?, Source.announced]

/-- Opening fails alike, and finds the same dialect. -/
private theorem sniffed (h : AfterBreaks p s t) : t.sniff.map Prod.fst = s.sniff.map Prod.fst := by
  rcases s.sniff_cases with ⟨e, failure, unseen, refused⟩ | ⟨seen, u, found, -, -⟩ <;>
    rcases t.sniff_cases with ⟨e', failure', unseen', refused'⟩ | ⟨seen', u', found', -, -⟩
  · obtain rfl : e' = e := by simpa [h.failure, failure] using failure'.symm
    rw [refused, refused']
  · simp [h.decisive?, h.failure, failure, unseen] at seen'
  · simp [← h.decisive?, ← h.failure, failure', unseen'] at seen
  · rw [found, found', h.announced]
    rfl

/-- A source that can be opened is read as in the dialect that it announces without the separators.
-/
private theorem feed_none (h : AfterBreaks p s t)
    (read : (t.feed (some s.announced)).Alike (s.feed (some s.announced))) :
    (t.feed none).Alike (s.feed none) := by
  by_cases seen : s.decisive?.isSome ∨ s.failure = none
  · have seen' : t.decisive?.isSome ∨ t.failure = none := by rwa [h.decisive?, h.failure]
    rw [feed_opened seen, feed_opened seen', h.announced]
    exact read
  · simp only [not_or, Bool.not_eq_true, Option.isSome_eq_false_iff, Option.isNone_iff_eq_none,
      ← ne_eq, Option.ne_none_iff_exists'] at seen
    obtain ⟨unseen, e, failure⟩ := seen
    rw [feed_refused unseen failure, feed_refused (h.decisive? ▸ unseen) (h.failure ▸ failure)]
    exact .refl _

/-- Of a recording, what comes before the byte that decides, and that byte. -/
private theorem starts_of_announced {s : Source} (h : s.announced = .evemu) :
    ∃ front b post, s.decisive? = some b ∧ s.bytes = front ++ b :: post ∧ Breaks front ∧
      s.bytes.takeWhile isLineSeparator = front ∧ (b = 35 ∨ b = 78) := by
  rw [Source.announced] at h
  cases first : s.decisive? with
  | none => simp [first, Dialect.ofFirst] at h
  | some b =>
    rw [first, Dialect.ofFirst_eq] at h
    have starts : b = 35 ∨ b = 78 := by
      by_contra other
      simp [other] at h
    obtain ⟨last, front, post, bytes, separators⟩ := List.find?_eq_some_iff_append.mp first
    have breaks : Breaks front := fun c hc => by simpa using separators c hc
    refine ⟨front, b, post, rfl, bytes, breaks, ?_, starts⟩
    rw [bytes, List.takeWhile_append_of_pos breaks, List.takeWhile_cons_of_neg (by simpa using last),
      List.append_nil]

/-- Empty lines before a recording, or more of them, do not count. -/
private theorem feed_emptyLines {front front' : List UInt8} {u : Source} (empty : EmptyLines front)
    (empty' : EmptyLines front') (bytes : s.bytes = front ++ u.bytes)
    (bytes' : t.bytes = front' ++ u.bytes) (failure : s.failure = u.failure)
    (failure' : t.failure = u.failure) :
    (t.feed (some .evemu)).Alike (s.feed (some .evemu)) := by
  have alike : (Recording.ofSource s).feed.Alike (Recording.ofSource u).feed :=
    Recording.feed_alike (Lines.ofSource_alike empty bytes failure)
  have alike' : (Recording.ofSource t).feed.Alike (Recording.ofSource u).feed :=
    Recording.feed_alike (Lines.ofSource_alike empty' bytes' failure')
  exact alike'.trans alike.symm

/-- A carriage return right before the first line of a recording spoils it. -/
private theorem feed_spoiled {front spaces post : List UInt8} {b : UInt8} (empty : EmptyLines front)
    (bytes : t.bytes = front ++ (13 :: spaces ++ b :: post)) (returns : ∀ c ∈ spaces, c = 13)
    (starts : b = 35 ∨ b = 78) :
    (t.feed (some .evemu)).events = [] ∧ (t.feed (some .evemu)).failure.isSome := by
  let u : Source := ⟨[13 :: spaces ++ b :: post], t.failure⟩
  have rest : u.bytes = 13 :: spaces ++ b :: post := List.append_nil _
  have only : ∀ c ∈ 13 :: spaces, c = 13 := List.forall_mem_cons.mpr ⟨rfl, returns⟩
  have blank : BlankBytes (13 :: spaces) := fun c hc => only c hc ▸ rfl
  have whole : 10 ∉ 13 :: spaces := fun h => absurd (only 10 h) (by decide)
  have shown : ∀ c : Char, c.toNat = b.toNat → Text.isBlank c = false := by
    have known {c d : Char} (hd : c.toNat = d.toNat) : c = d := Char.ext (UInt32.toNat_inj.mp hd)
    intro c same
    rcases starts with rfl | rfl
    · exact known (d := '#') same ▸ by decide
    · exact known (d := 'N') same ▸ by decide
  have refuses : Recording.Refuses u.failure u.rawLines :=
    Recording.refuses_source rest blank whole (by rcases starts with rfl | rfl <;> decide)
      (by rcases starts with rfl | rfl <;> decide) shown
  obtain ⟨e, refused⟩ := refuses 0
  have none : (Recording.ofSource u).feed = ⟨[], some e⟩ :=
    Recording.feed_failed (r := Recording.ofSource u) (Prod.ext refused rfl)
  have alike : (Recording.ofSource t).feed.Alike (Recording.ofSource u).feed :=
    Recording.feed_alike (Lines.ofSource_alike empty (rest ▸ bytes) rfl)
  rw [none] at alike
  obtain ⟨events, cause⟩ := alike
  have failed := congrArg Option.isSome cause
  simp only [Option.isSome_map, Option.isSome_some] at failed
  exact ⟨events, failed⟩

end Source.AfterBreaks

/-- Line separators before a script. The dialect stays the same, or the failure to tell it. The
script gives the same events and ends for the same cause, except for a recording that begins without
any line feed, behind separators that end with a carriage return: its first line is not recognised,
and it gives no event. -/
theorem leading_breaks {p : List UInt8} {s t : Source} (h : Source.AfterBreaks p s t) :
    t.sniff.map Prod.fst = s.sniff.map Prod.fst ∧
      if s.announced = .evemu ∧ p.getLast? = some 13 ∧ 10 ∉ s.bytes.takeWhile isLineSeparator then
        (t.feed none).events = [] ∧ (t.feed none).failure.isSome
      else (t.feed none).Alike (s.feed none) := by
  refine ⟨h.sniffed, ?_⟩
  cases dialect : s.announced with
  | json =>
    simp only [reduceCtorEq, false_and, if_false]
    exact h.feed_none (dialect ▸ CommandStream.feed_breaks h.breaks h.bytes h.failure)
  | evemu =>
    obtain ⟨front, b, post, first, bytes, breaks, taken, starts⟩ :=
      Source.AfterBreaks.starts_of_announced dialect
    obtain ⟨lines, returns, empty, hp⟩ := h.breaks.exists_emptyLines
    obtain ⟨lines', returns', empty', rfl⟩ := breaks.exists_emptyLines
    rw [taken]
    cases empty' with
    | line more later =>
      -- Behind a line feed of its own, the recording is read as it was.
      let u : Source := ⟨[.replicate returns' 13 ++ b :: post], s.failure⟩
      have rest : u.bytes = .replicate returns' 13 ++ b :: post := List.append_nil _
      have bytes' := h.bytes
      rw [hp, bytes] at bytes'
      rw [if_neg (by simp)]
      apply h.feed_none
      rw [dialect]
      refine Source.AfterBreaks.feed_emptyLines (u := u) (.line more later)
        (empty.append (.line (returns + more) later)) ?_ ?_ rfl h.failure
      · rw [bytes, rest, List.append_assoc]
      · rw [bytes', rest, ← List.replicate_append_replicate]
        simp only [List.append_assoc, List.cons_append]
    | nil =>
      cases returns with
      | zero =>
        rw [List.replicate_zero, List.append_nil] at hp
        rw [if_neg (fun spoiled => empty.getLast? (hp ▸ spoiled.2.1))]
        apply h.feed_none
        rw [dialect]
        exact Source.AfterBreaks.feed_emptyLines .nil empty rfl (hp ▸ h.bytes) rfl h.failure
      | succ n =>
        have bytes' : t.bytes = lines ++
            (13 :: (.replicate n 13 ++ .replicate returns' 13) ++ b :: post) := by
          rw [h.bytes, hp, bytes, List.replicate_succ]
          simp only [List.append_assoc, List.cons_append, List.nil_append]
        have only : ∀ c ∈ List.replicate n (13 : UInt8) ++ .replicate returns' 13, c = 13 := by
          simp +contextual
        have last : p.getLast? = some 13 := by
          rw [hp]
          simp [List.replicate_succ']
        have seen : t.decisive?.isSome := by rw [h.decisive?, first]; rfl
        rw [if_pos ⟨rfl, last, by simp⟩, Source.feed_opened (.inl seen), h.announced, dialect]
        exact Source.AfterBreaks.feed_spoiled empty bytes' only starts

def unbroken : Source := ⟨[Text.encode "N: kbd\nI: 0003 0001 0002 0000\n"], none⟩

def returned : Source := ⟨[13] :: unbroken.buffers, none⟩

private theorem returned_after : Source.AfterBreaks [13] unbroken returned :=
  ⟨List.forall_mem_singleton.mpr rfl, rfl, rfl⟩

theorem returned_spoiled : Source.AfterBreaks [13] unbroken returned ∧
    returned.sniff.map Prod.fst = unbroken.sniff.map Prod.fst ∧
    (returned.feed none).events = [] ∧ (returned.feed none).failure.isSome := by
  obtain ⟨sniffed, read⟩ := leading_breaks returned_after
  rw [if_pos ⟨by decide +kernel, rfl, by decide +kernel⟩] at read
  exact ⟨returned_after, sniffed, read⟩

/-- Not every line break before a recording goes unnoticed. -/
theorem breaks_not_transparent : ¬ ∀ (p : List UInt8) (s t : Source), Source.AfterBreaks p s t →
    t.sniff.map Prod.fst = s.sniff.map Prod.fst ∧ (t.feed none).Alike (s.feed none) := by
  intro transparent
  obtain ⟨-, events, -⟩ := transparent [13] unbroken returned returned_after
  have announced : unbroken.announced = .evemu := by decide +kernel
  have given : (unbroken.feed none).events =
      [⟨1, .register { name := "kbd", vendor := 1, product := 2 }⟩] := by
    rw [Source.feed_opened (.inr rfl), announced]
    exact Script.of_feedWithin? (n := 2) (by decide +kernel)
  have nothing : (returned.feed none).events = [] := by
    rw [Source.feed_opened (.inr rfl), returned_after.announced, announced]
    exact Script.of_feedWithin? (n := 1) (by decide +kernel)
  rw [given, nothing] at events
  cases events

end ScriptedInput

import ScriptedInput.Proofs.CodeMap
import ScriptedInput.Proofs.Json.Tokens

/-! Values are read back: the compact text of a value, at the start of a stream or inside arrays and
objects, is read as that value. -/
namespace ScriptedInput.Json

open Text (bytesOf)

/-- Values whose text can be read: whole numbers of 64 bits, each key of an object once and in
ascending order, and arrays and objects that nest no deeper than given. -/
inductive Value.Plain : Nat → Value → Prop where
  | null {depth : Nat} : Plain depth .null
  | bool {depth : Nat} (b : Bool) : Plain depth (.bool b)
  | int {depth : Nat} {n : Int} (low : -0x8000000000000000 ≤ n) (high : n < 0x10000000000000000) :
    Plain depth (.int n)
  | string {depth : Nat} (s : String) : Plain depth (.string s)
  | array {depth : Nat} {items : List Value} (plain : ∀ v ∈ items, Plain depth v) :
    Plain (depth + 1) (.array items)
  | object {depth : Nat} {members : Members} (ascending : members.Pairwise (fun a b => a.1 < b.1))
    (plain : ∀ m ∈ members, Plain depth m.2) : Plain (depth + 1) (.object members)

namespace Machine

def Opened (frames : List Frame) (m : Machine) : Prop :=
  ∀ b, isSpace b = false → b ≠ 93 → m.step b = begin frames b

private theorem opened_item (items : List Value) (stack : List Frame) :
    Opened (.item items :: stack) ⟨.item items, stack⟩ := by
  intro b hs hb
  simp [step, hs, hb]

theorem opened_member (members : Members) (key : String) (stack : List Frame) :
    Opened (.member members key :: stack) ⟨.member members key, stack⟩ := by
  intro b hs _
  simp [step, hs]

def Resumes (m : Machine) (v : Value) (frame : Frame) (stack : List Frame) : Prop :=
  ∀ b, IsCloser b → m.step b = (resume v frame stack).step b

/-- The text of the value is read as the value, inside arrays and objects that leave room for it. -/
def ReadsBack (depth : Nat) (v : Value) : Prop :=
  ∀ frame stack m, stack.length + 1 + depth ≤ depthLimit → Opened (frame :: stack) m →
    ∃ n, m.after (bytesOf v.text) = some n ∧ Resumes n v frame stack

private theorem Opened.after {frames : List Frame} {m n : Machine} (h : Opened frames m) {b : UInt8}
    (hs : isSpace b = false) (hb : b ≠ 93) (begins : begin frames b = .next n) (bs : List UInt8) :
    m.after (b :: bs) = n.after bs :=
  after_cons ((h b hs hb).trans begins) bs

private theorem readsBack_null (depth : Nat) : ReadsBack depth .null := by
  intro frame stack m _ h
  refine ⟨resume .null frame stack, ?_, fun _ _ => rfl⟩
  exact h.after (b := 110) rfl (by decide) rfl [117, 108, 108]

private theorem readsBack_bool (depth : Nat) (b : Bool) : ReadsBack depth (.bool b) := by
  intro frame stack m _ h
  refine ⟨resume (.bool b) frame stack, ?_, fun _ _ => rfl⟩
  cases b with
  | false => exact h.after (b := 102) rfl (by decide) rfl [97, 108, 115, 101]
  | true => exact h.after (b := 116) rfl (by decide) rfl [114, 117, 101]

private theorem bytesOf_stringText (s : String) :
    bytesOf (stringText s) = 34 :: (bytesOf (s.toList.flatMap stringChar) ++ [34]) := by
  rw [stringText, List.cons_append, Text.bytesOf_cons, Text.bytesOf_append]
  rfl

/-- After the opening quote, the text of a string is read up to the closing one. -/
private theorem after_stringText {role : StringRole} {stack : List Frame} {s : String} {n : Machine}
    (quote : (within role stack (bytesOf s.toList)).step 34 = .next n) (rest : List UInt8) :
    (Machine.mk (.string role .plain []) stack).after
      (bytesOf (s.toList.flatMap stringChar) ++ 34 :: rest) = n.after rest :=
  (after_append (after_stringChars role stack s.toList []) _).trans (after_cons quote rest)

private theorem readsBack_string (depth : Nat) (s : String) : ReadsBack depth (.string s) := by
  intro frame stack m _ h
  refine ⟨resume (.string s) frame stack, ?_, fun _ _ => rfl⟩
  rw [Value.text, bytesOf_stringText, h.after rfl (by decide) rfl]
  exact after_stringText (step_quote .value (frame :: stack) s) []

open NumberSoFar (firstDigit)

private theorem isSpace_digitByte {d : Nat} (h : d < 10) : isSpace (digitByte d) = false := by
  have all : ∀ d < 10, isSpace (digitByte d) = false := by decide
  exact all d h

private theorem digitByte_ne {d : Nat} (h : d < 10) : digitByte d ≠ 93 := by
  have all : ∀ d < 10, digitByte d ≠ 93 := by decide
  exact all d h

theorem Opened.step_digit {frames : List Frame} {m : Machine} (h : Opened frames m) {d : Nat}
    (hd : d < 10) : m.step (digitByte d) = .next ⟨.number (firstDigit false d), frames⟩ := by
  rw [h _ (isSpace_digitByte hd) (digitByte_ne hd), begin, digitOf?_digitByte hd]

theorem step_sign_digit (stack : List Frame) {d : Nat} (hd : d < 10) :
    (Machine.mk (.number { negative := true, phase := .sign }) stack).step (digitByte d) =
      .next ⟨.number (firstDigit true d), stack⟩ := by
  simp only [step, numberStep, NumberSoFar.step, digitOf?_digitByte hd]

private theorem readsBack_int (depth : Nat) {n : Int} (low : -0x8000000000000000 ≤ n)
    (high : n < 0x10000000000000000) : ReadsBack depth (.int n) := by
  intro frame stack m _ h
  cases n with
  | ofNat n =>
    refine ⟨_, after_toDigits (fun d hd => h.step_digit hd) (n := n) ?_,
      fun b hb => step_closer (ending_positive n) frame stack hb⟩
    exact Int.ofNat_lt.mp high
  | negSucc n =>
    have fits : n + 1 ≤ 0x8000000000000000 := by omega
    have sign : bytesOf (Value.int (.negSucc n)).text =
        45 :: bytesOf (Nat.toDigits 10 (n + 1)) := rfl
    refine ⟨⟨.number (firstDigit true (n + 1)), frame :: stack⟩, ?_,
      fun b hb => step_closer (ending_negative n.succ_pos fits) frame stack hb⟩
    rw [sign, h.after rfl (by decide) rfl]
    exact after_toDigits (fun d hd => step_sign_digit _ hd) (Nat.lt_of_le_of_lt fits (by decide))

/-- The items of an array are read one after the other. -/
private theorem after_itemTexts {depth : Nat} {items : List Value}
    (reads : ∀ v ∈ items, ReadsBack depth v) (read : List Value) (stack : List Frame)
    (room : stack.length + 1 + depth ≤ depthLimit) (some : items = [] → read = []) :
    ∃ n, (Machine.mk (.item read) stack).after (bytesOf (Value.itemTexts items)) = .some n ∧
      n.step 93 = close (.array (read.reverse ++ items)) stack := by
  induction items generalizing read with
  | nil =>
    obtain rfl := some rfl
    exact ⟨_, rfl, rfl⟩
  | cons v items ih =>
    obtain ⟨first, rest⟩ := List.forall_mem_cons.mp reads
    obtain ⟨n, hn, resumes⟩ := first (.item read) stack _ room (opened_item read stack)
    cases items with
    | nil =>
      refine ⟨n, by rw [Value.itemTexts, hn], ?_⟩
      rw [resumes 93 (.inr (.inl rfl))]
      simp [resume, step, afterItem, isSpace]
    | cons w items =>
      obtain ⟨l, hl, ends⟩ := ih rest (v :: read) (by simp)
      have comma : n.step 44 = .next ⟨.item (v :: read), stack⟩ := resumes 44 (.inl rfl)
      refine ⟨l, ?_, by simpa using ends⟩
      rw [Value.itemTexts, Text.bytesOf_append, after_append hn, Text.bytesOf_cons]
      exact (after_cons comma _).trans hl

private theorem readsBack_array {depth : Nat} {items : List Value}
    (reads : ∀ v ∈ items, ReadsBack depth v) : ReadsBack (depth + 1) (.array items) := by
  intro frame stack m room h
  obtain ⟨n, hn, ends⟩ := after_itemTexts reads [] (frame :: stack)
    (by simpa [Nat.add_assoc, Nat.add_comm] using room) (fun _ => rfl)
  have bytes : bytesOf (Value.array items).text = 91 :: (bytesOf (Value.itemTexts items) ++ [93]) := by
    rw [Value.text, List.cons_append, Text.bytesOf_cons, Text.bytesOf_append]
    rfl
  have opens : begin (frame :: stack) 91 = .next ⟨.item [], frame :: stack⟩ :=
    if_pos (by simp only [List.length_cons]; omega)
  refine ⟨resume (.array items) frame stack, ?_, fun _ _ => rfl⟩
  rw [bytes, h.after rfl (by decide) opens, after_append hn, after, ends]
  rfl

/-- The members of an object are read one after the other, each after those with lesser keys. -/
private theorem after_memberTexts {depth : Nat} {members : Members}
    (reads : ∀ m ∈ members, ReadsBack depth m.2) (read : Members) (stack : List Frame)
    (room : stack.length + 1 + depth ≤ depthLimit)
    (ascending : (read ++ members).Pairwise (fun a b => a.1 < b.1))
    (some : members = [] → read = []) :
    ∃ n, (Machine.mk (.key read) stack).after (bytesOf (Value.memberTexts members)) = .some n ∧
      n.step 125 = close (.object (read ++ members)) stack := by
  induction members generalizing read with
  | nil =>
    obtain rfl := some rfl
    exact ⟨_, rfl, rfl⟩
  | cons member members ih =>
    obtain ⟨key, v⟩ := member
    obtain ⟨first, rest⟩ := List.forall_mem_cons.mp reads
    obtain ⟨n, hn, resumes⟩ := first (.member read key) stack _ room (opened_member read key stack)
    have below : ∀ e ∈ read, e.1 < key := fun e he =>
      (List.pairwise_append.mp ascending).2.2 e he _ List.mem_cons_self
    have put : insertAscending key v read = read ++ [(key, v)] :=
      insertAscending_of_lt (fun _ _ h => String.lt_asymm h) below v
    have resumed : resume v (.member read key) stack =
        ⟨.afterMember (read ++ [(key, v)]), stack⟩ := by rw [resume, put]
    -- Up to the value: the opening quote, the key with its closing quote, and the colon.
    have upTo (tail : List Char) :
        (Machine.mk (.key read) stack).after (bytesOf (stringText key ++ ':' :: v.text ++ tail)) =
          n.after (bytesOf tail) := by
      have quote : (Machine.mk (.key read) stack).step 34 =
          .next ⟨.string (.key read) .plain [], stack⟩ := rfl
      have colon : (Machine.mk (.afterKey read key) stack).step 58 =
          .next ⟨.member read key, stack⟩ := rfl
      rw [Text.bytesOf_append, Text.bytesOf_append, bytesOf_stringText, List.cons_append,
        List.cons_append, after_cons quote, List.append_assoc, List.append_assoc,
        List.singleton_append, after_stringText (step_quote (.key read) stack key)]
      exact (after_cons colon _).trans (after_append hn _)
    cases members with
    | nil =>
      refine ⟨n, ?_, ?_⟩
      · have whole := upTo []
        rw [List.append_nil] at whole
        exact whole
      · rw [resumes 125 (.inr (.inr rfl)), resumed]
        rfl
    | cons next members =>
      obtain ⟨l, hl, ends⟩ := ih rest (read ++ [(key, v)])
        (by simpa using ascending) (by simp)
      have comma : n.step 44 = .next ⟨.key (read ++ [(key, v)]), stack⟩ := by
        rw [resumes 44 (.inl rfl), resumed]
        rfl
      refine ⟨l, ?_, by simpa using ends⟩
      rw [Value.memberTexts, upTo]
      exact (after_cons comma _).trans hl

theorem bytesOf_object (members : Members) : bytesOf (Value.object members).text =
    123 :: (bytesOf (Value.memberTexts members) ++ [125]) := by
  rw [Value.text, List.cons_append, Text.bytesOf_cons, Text.bytesOf_append]
  rfl

private theorem readsBack_object {depth : Nat} {members : Members}
    (ascending : members.Pairwise (fun a b => a.1 < b.1))
    (reads : ∀ m ∈ members, ReadsBack depth m.2) : ReadsBack (depth + 1) (.object members) := by
  intro frame stack m room h
  obtain ⟨n, hn, ends⟩ := after_memberTexts reads [] (frame :: stack)
    (by simpa [Nat.add_assoc, Nat.add_comm] using room) (by simpa using ascending) (fun _ => rfl)
  have opens : begin (frame :: stack) 123 = .next ⟨.key [], frame :: stack⟩ :=
    if_pos (by simp only [List.length_cons]; omega)
  refine ⟨resume (.object members) frame stack, ?_, fun _ _ => rfl⟩
  rw [bytesOf_object, h.after rfl (by decide) opens, after_append hn, after, ends]
  rfl

/-- All plain values are read back. -/
private theorem readsBack_of_plain {depth : Nat} {v : Value} (h : v.Plain depth) : ReadsBack depth v := by
  induction h with
  | null => exact readsBack_null _
  | bool b => exact readsBack_bool _ b
  | int low high => exact readsBack_int _ low high
  | string s => exact readsBack_string _ s
  | array _ ih => exact readsBack_array ih
  | object ascending _ ih => exact readsBack_object ascending ih

end Machine

/-- The text of an object at the start of a stream is its next value, and what follows is left. -/
theorem pull_text {members : Members} (h : (Value.object members).Plain depthLimit)
    (failure : Option IoError) (p : Position) (rest : List UInt8) :
    ∃ q, pull failure ⟨p, bytesOf (Value.object members).text ++ rest⟩ =
      .value (.object members) ⟨q, rest⟩ := by
  obtain _ | _ | _ | _ | _ | ⟨ascending, plain⟩ := h
  obtain ⟨n, hn, ends⟩ := Machine.after_memberTexts
    (fun m hm => Machine.readsBack_of_plain (plain m hm)) [] [] (by decide) (by simpa using ascending)
    (fun _ => rfl)
  have begun : Machine.start.after (123 :: bytesOf (Value.memberTexts members)) = some n :=
    (Machine.after_cons rfl _).trans hn
  obtain ⟨q, hq⟩ := Machine.pullFrom_after begun failure p (125 :: rest)
  have bytes : bytesOf (Value.object members).text ++ rest =
      123 :: bytesOf (Value.memberTexts members) ++ 125 :: rest := by
    rw [Machine.bytesOf_object, List.cons_append, List.append_assoc, List.singleton_append]
    rfl
  rw [List.nil_append] at ends
  exact ⟨q.advance 125, by rw [pull, bytes, hq, pullFrom, ends]; rfl⟩

end ScriptedInput.Json

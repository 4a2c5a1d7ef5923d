import ScriptedInput.Json.NumberReader
import ScriptedInput.Text.Utf8
import ScriptedInput.IoError

/-! Reading a stream of JSON values byte by byte. The reader is a machine with a stack of the arrays
and objects that are open; each byte moves it on, ends a value, or is at fault. -/
namespace ScriptedInput.Json

def isSpace (b : UInt8) : Bool := b = 32 || b = 9 || b = 10 || b = 13

abbrev Members := List (String × Value)

/-- An open array or object around the value being read. Items are kept newest first. -/
inductive Frame where
  | item (items : List Value)
  | member (members : Members) (key : String)
  deriving Repr

inductive StringRole where
  | value
  | key (members : Members)
  deriving Repr

inductive StringPhase where
  | plain
  /-- After a backslash. -/
  | escape
  /-- Within the four digits of an escape, newest first; `lead` is the first half of a pair. -/
  | hex (lead : Option Nat) (digits : List UInt8)
  /-- After the first half of a pair, where a backslash has to follow. -/
  | pairBackslash (lead : Nat)
  /-- After that backslash, where a `u` has to follow. -/
  | pairMark (lead : Nat)
  deriving Repr

inductive Mode where
  /-- Between two values of the stream. -/
  | ready
  /-- Before an item. Only before the first may the array end instead. -/
  | item (items : List Value)
  | afterItem (items : List Value)
  /-- Before a key. Only before the first may the object end instead. -/
  | key (members : Members)
  | afterKey (members : Members) (key : String)
  | member (members : Members) (key : String)
  | afterMember (members : Members)
  /-- Within a string whose bytes so far are `read`, newest first. -/
  | string (role : StringRole) (phase : StringPhase) (read : List UInt8)
  | number (n : NumberSoFar)
  /-- Within one of the three words; `left` has still to come. -/
  | word (left : List UInt8) (v : Value)
  /-- After a word that is a value of the stream, before what sets it apart from the next. -/
  | settled (v : Value)
  deriving Repr

structure Machine where
  mode : Mode
  stack : List Frame
  deriving Repr

def Machine.start : Machine := ⟨.ready, []⟩

inductive Step where
  | next (m : Machine)
  /-- A value of the stream ends with the byte. -/
  | value (v : Value)
  /-- A value of the stream ended before the byte, which belongs to what follows. -/
  | before (v : Value)
  /-- The byte so many places before this one is at fault; mostly it is this one. -/
  | fault (f : Fault) (back : Nat := 0)

/-- Arrays and objects nest this deep at most. -/
def depthLimit : Nat := 127

/-- The bytes that may follow a number or a word of the stream. -/
def isDelimiter (b : UInt8) : Bool :=
  isSpace b || b = 34 || b = 91 || b = 93 || b = 123 || b = 125 || b = 44 || b = 58

namespace Machine

def resume (v : Value) : Frame → List Frame → Machine
  | .item items, stack => ⟨.afterItem (v :: items), stack⟩
  | .member members key, stack => ⟨.afterMember (insertAscending key v members), stack⟩

def close (v : Value) : List Frame → Step
  | [] => .value v
  | frame :: stack => .next (resume v frame stack)

def openNested (stack : List Frame) (mode : Mode) : Step :=
  if stack.length < depthLimit then .next ⟨mode, stack⟩ else .fault .tooDeep

def begin (stack : List Frame) (b : UInt8) : Step :=
  match digitOf? b with
  | some d => .next ⟨.number (.firstDigit false d), stack⟩
  | none =>
    if b = 34 then .next ⟨.string .value .plain [], stack⟩
    else if b = 45 then .next ⟨.number { negative := true, phase := .sign }, stack⟩
    else if b = 91 then openNested stack (.item [])
    else if b = 123 then openNested stack (.key [])
    else if b = 110 then .next ⟨.word [117, 108, 108] .null, stack⟩
    else if b = 116 then .next ⟨.word [114, 117, 101] (.bool true), stack⟩
    else if b = 102 then .next ⟨.word [97, 108, 115, 101] (.bool false), stack⟩
    else .fault .expectedValue

def afterItem (items : List Value) (stack : List Frame) (b : UInt8) : Step :=
  if isSpace b then .next ⟨.afterItem items, stack⟩
  else if b = 44 then .next ⟨.item items, stack⟩
  else if b = 93 then close (.array items.reverse) stack
  else .fault .expectedCommaOrBracket

def afterMember (members : Members) (stack : List Frame) (b : UInt8) : Step :=
  if isSpace b then .next ⟨.afterMember members, stack⟩
  else if b = 44 then .next ⟨.key members, stack⟩
  else if b = 125 then close (.object members) stack
  else .fault .expectedCommaOrBrace

def afterNumber (v : Value) (stack : List Frame) (b : UInt8) : Step :=
  match stack with
  | [] => if isDelimiter b then .before v else .fault .trailingCharacters
  | .item items :: stack => afterItem (v :: items) stack b
  | .member members key :: stack => afterMember (insertAscending key v members) stack b

def hexDigit? (b : UInt8) : Option Nat :=
  if 48 ≤ b ∧ b ≤ 57 then some (b.toNat - 48)
  else if 97 ≤ b ∧ b ≤ 102 then some (b.toNat - 87)
  else if 65 ≤ b ∧ b ≤ 70 then some (b.toNat - 55)
  else none

def hexValue? : List UInt8 → Option Nat
  | [] => some 0
  | b :: rest => do return (← hexValue? rest) * 16 + (← hexDigit? b)

def escaped? (b : UInt8) : Option UInt8 :=
  if b = 34 ∨ b = 92 ∨ b = 47 then some b
  else if b = 98 then some 8
  else if b = 102 then some 12
  else if b = 110 then some 10
  else if b = 114 then some 13
  else if b = 116 then some 9
  else none

def appendCodePoint (read : List UInt8) (n : Nat) : List UInt8 :=
  (String.utf8EncodeChar (Char.ofNat n)).reverse ++ read

/-- The end of an escape of four digits. Two escapes that are the halves of a pair are one code
point; a half alone is none. -/
def escapeEnd (role : StringRole) (lead : Option Nat) (read : List UInt8) (stack : List Frame)
    (n : Nat) : Step :=
  match lead with
  | none =>
    if 0xdc00 ≤ n ∧ n ≤ 0xdfff then .fault .loneSurrogate
    else if 0xd800 ≤ n ∧ n ≤ 0xdbff then .next ⟨.string role (.pairBackslash n) read, stack⟩
    else .next ⟨.string role .plain (appendCodePoint read n), stack⟩
  | some high =>
    if 0xdc00 ≤ n ∧ n ≤ 0xdfff then
      let point := (high - 0xd800) * 1024 + (n - 0xdc00) + 0x10000
      .next ⟨.string role .plain (appendCodePoint read point), stack⟩
    else .fault .loneSurrogate

/-- The closing quote of a string. What is not UTF-8 is at fault where it starts. -/
def stringEnd (role : StringRole) (read : List UInt8) (stack : List Frame) : Step :=
  match Text.decode? read.reverse, role with
  | none, _ => .fault .invalidCodePoint (read.length - Text.decodableLength read.reverse)
  | some s, .value => close (.string s) stack
  | some s, .key members => .next ⟨.afterKey members s, stack⟩

def stringStep (role : StringRole) (phase : StringPhase) (read : List UInt8) (stack : List Frame)
    (b : UInt8) : Step :=
  let within := fun phase read => Step.next ⟨.string role phase read, stack⟩
  match phase with
  | .plain =>
    if b = 34 then stringEnd role read stack
    else if b = 92 then within .escape read
    else if b < 32 then .fault .controlCharacter
    else within .plain (b :: read)
  | .escape =>
    if b = 117 then within (.hex none []) read
    else match escaped? b with
      | some c => within .plain (c :: read)
      | none => .fault .invalidEscape
  | .hex lead digits =>
    if digits.length < 3 then within (.hex lead (b :: digits)) read
    else match hexValue? (b :: digits) with
      | some n => escapeEnd role lead read stack n
      | none => .fault .invalidEscape
  | .pairBackslash high => if b = 92 then within (.pairMark high) read else .fault .unfinishedPair
  | .pairMark high => if b = 117 then within (.hex (some high) []) read else .fault .unfinishedPair

def numberStep (n : NumberSoFar) (stack : List Frame) (b : UInt8) : Step :=
  match n.step b with
  | .more n => .next ⟨.number n, stack⟩
  | .fault f => .fault f
  | .ended =>
    match n.ending with
    | .number v => afterNumber (.number v) stack b
    | .outOfRange => .fault .numberOutOfRange
    | .unfinished => .fault .invalidNumber

def step (m : Machine) (b : UInt8) : Step :=
  match m.mode with
  | .ready => if isSpace b then .next m else begin m.stack b
  | .item items =>
    if isSpace b then .next m
    else if b = 93 then
      if items.isEmpty then close (.array []) m.stack else .fault .trailingComma
    else begin (.item items :: m.stack) b
  | .afterItem items => afterItem items m.stack b
  | .key members =>
    if isSpace b then .next m
    else if b = 125 then
      if members.isEmpty then close (.object []) m.stack else .fault .trailingComma
    else if b = 34 then .next ⟨.string (.key members) .plain [], m.stack⟩
    else .fault .keyNotString
  | .afterKey members key =>
    if isSpace b then .next m
    else if b = 58 then .next ⟨.member members key, m.stack⟩
    else .fault .expectedColon
  | .member members key =>
    if isSpace b then .next m else begin (.member members key :: m.stack) b
  | .afterMember members => afterMember members m.stack b
  | .string role phase read => stringStep role phase read m.stack b
  | .number n => numberStep n m.stack b
  | .word [] _ => .fault .expectedIdent
  | .word (c :: left) v =>
    if b ≠ c then .fault .expectedIdent
    else if ¬ left.isEmpty then .next ⟨.word left v, m.stack⟩
    else match m.stack with
      | [] => .next ⟨.settled v, []⟩
      | frame :: stack => .next (resume v frame stack)
  | .settled v => if isDelimiter b then .before v else .fault .trailingCharacters

inductive Last where
  /-- No value had begun. -/
  | nothing
  | value (v : Value)
  | fault (f : Fault)
  | unfinished (u : Unfinished)

def innermost : List Frame → Option Unfinished
  | [] => none
  | .item _ :: _ => some .list
  | .member _ _ :: _ => some .object

def last (m : Machine) : Last :=
  match m.mode with
  | .ready => .nothing
  | .item items => .unfinished (if items.isEmpty then .list else .value)
  | .afterItem _ => .unfinished .list
  | .key members => .unfinished (if members.isEmpty then .object else .value)
  | .afterKey _ _ => .unfinished .object
  | .member _ _ => .unfinished .value
  | .afterMember _ => .unfinished .object
  | .string _ _ _ => .unfinished .string
  | .word _ _ => .unfinished .value
  | .settled v => .value v
  | .number n =>
    match n.ending with
    | .unfinished => .unfinished .value
    | .outOfRange => .fault .numberOutOfRange
    | .number v => match innermost m.stack with
      | none => .value (.number v)
      | some u => .unfinished u

end Machine

/-- How far reading has come: bytes read, and the line and column of the last of them. -/
structure Position where
  offset : Nat := 0
  row : Nat := 1
  column : Nat := 0
  deriving DecidableEq, Repr

/-- The position after one more byte. A line break is the end of its line. -/
def Position.advance (p : Position) (b : UInt8) : Position :=
  if b = 10 then ⟨p.offset + 1, p.row + 1, 0⟩ else ⟨p.offset + 1, p.row, p.column + 1⟩

/-- The position so many bytes before, on the same line. -/
def Position.retreat (p : Position) (n : Nat) : Position :=
  ⟨p.offset - n, p.row, p.column - n⟩

structure Cursor where
  position : Position := {}
  bytes : List UInt8
  deriving DecidableEq, Repr

inductive Pulled where
  | value (v : Value) (rest : Cursor)
  | finished
  | fault (f : Fault) (position : Position)
  | unfinished (u : Unfinished)
  | failed (e : IoError)

def pullFrom (failure : Option IoError) : Machine → Position → List UInt8 → Pulled
  | m, p, [] =>
    match failure with
    | some e => .failed e
    | none => match m.last with
      | .nothing => .finished
      | .value v => .value v ⟨p, []⟩
      | .fault f => .fault f p
      | .unfinished u => .unfinished u
  | m, p, b :: bs =>
    match m.step b with
    | .next m => pullFrom failure m (p.advance b) bs
    | .value v => .value v ⟨p.advance b, bs⟩
    | .before v => .value v ⟨p, b :: bs⟩
    | .fault f back => .fault f ((p.advance b).retreat back)

def pull (failure : Option IoError) (c : Cursor) : Pulled :=
  pullFrom failure .start c.position c.bytes

/-- What is left after a value is no longer than what it was read from. -/
private theorem length_le_of_pullFrom {failure : Option IoError} {m : Machine} {p : Position}
    {bytes : List UInt8} {v : Value} {rest : Cursor}
    (h : pullFrom failure m p bytes = .value v rest) : rest.bytes.length ≤ bytes.length := by
  induction bytes generalizing m p with
  | nil =>
    unfold pullFrom at h
    split at h
    · simp at h
    · split at h <;> simp at h
      simp [← h.2]
  | cons b bs ih =>
    unfold pullFrom at h
    split at h
    · exact Nat.le_succ_of_le (ih h)
    · simp at h; simp [← h.2]
    · simp at h; simp [← h.2]
    · simp at h

/-- A value takes at least one byte. -/
theorem length_lt_of_pull {failure : Option IoError} {c rest : Cursor} {v : Value}
    (h : pull failure c = .value v rest) : rest.bytes.length < c.bytes.length := by
  unfold pull at h
  cases hb : c.bytes with
  | nil =>
    rw [hb] at h
    unfold pullFrom at h
    split at h <;> simp [Machine.start, Machine.last] at h
  | cons b bs =>
    rw [hb] at h
    unfold pullFrom at h
    split at h
    · exact Nat.lt_succ_of_le (length_le_of_pullFrom h)
    · simp at h; simp [← h.2]
    · next hs =>
      simp only [Machine.start, Machine.step, Machine.begin] at hs
      split at hs
      · simp at hs
      · split at hs
        · simp at hs
        · (repeat' split at hs) <;> simp [Machine.openNested, depthLimit] at hs
    · simp at h

end ScriptedInput.Json

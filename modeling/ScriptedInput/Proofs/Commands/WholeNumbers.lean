import ScriptedInput.Proofs.Commands.NumberRange
import ScriptedInput.Proofs.Json.WholeNumber

/-! Whole numbers of any size in the places of a command: which are accepted, and what becomes of them.
-/
namespace ScriptedInput

open Json (Value OwnText TextHole wholeNumber wholeText)

private theorem Event.ofValue_eq_ok_iff {v : Value} {e : Event} :
    Event.ofValue v = .ok e ↔ ∃ d, Draft.ofValue v = .ok d ∧ d.Means e := by
  simp only [Event.ofValue, bind_eq_ok_iff, Draft.event_eq_ok_iff]

private theorem Draft.Means.eq {d : Draft} {e f : Event} (h : d.Means e) (h' : d.Means f) : e = f :=
  Except.ok.inj ((Draft.event_eq_ok_iff.mpr h).symm.trans (Draft.event_eq_ok_iff.mpr h'))

private theorem Scalar.ofValue_int_eq_ok_iff {n : Int} {s : Scalar} :
    Scalar.ofValue (.int n) = .ok s ↔ Scalar.inWord n ∧ s = .int n := by
  by_cases h : Scalar.inWord n <;> simp [Value.int, Scalar.ofValue, h, eq_comm]

namespace Slot.Hole
variable {slot : Slot} {command : Value → Value} {v₀ : Value} {e₀ : Event}

/-- Only whole numbers that are kept exactly, and fit 64 bits with a sign, are accepted. -/
private theorem exact_of_accepted (hole : slot.Hole command) (valid : Event.ofValue (command v₀) = .ok e₀)
    {front back : List UInt8} (text : TextHole command front back) {negative : Bool} {m : Nat}
    {w : Value} {e : Event} (own : OwnText w (front ++ wholeText negative m ++ back))
    (accepted : Event.ofValue w = .ok e) :
    w = command (.int (wholeNumber negative m)) ∧ Scalar.inWord (wholeNumber negative m) ∧
      ¬ (negative ∧ m = 0) := by
  obtain ⟨d₀, shape₀, -⟩ := Event.ofValue_eq_ok_iff.mp valid
  obtain ⟨vary, -, all⟩ := hole.varies shape₀
  obtain ⟨d, shape, -⟩ := Event.ofValue_eq_ok_iff.mp accepted
  obtain ⟨v, rfl, ⟨rfl, nonzero⟩ | ⟨x, rfl⟩⟩ := text.of_whole own
  · obtain ⟨s, scalar, -⟩ := map_eq_ok_iff.mp ((all (.int _)).symm.trans shape)
    exact ⟨rfl, (Scalar.ofValue_int_eq_ok_iff.mp scalar).1, nonzero⟩
  · rw [all (.float x)] at shape
    cases shape

/-- The drafts of a command, by the whole numbers in a place of it. -/
private theorem exists_means (hole : slot.Hole command) (valid : Event.ofValue (command v₀) = .ok e₀) :
    ∃ d vary, slot.Varies d vary ∧ d.Means e₀ ∧ ∀ n, Scalar.inWord n →
      Draft.ofValue (command (.int n)) = .ok (vary (.int n)) ∧
      ∀ e, Event.ofValue (command (.int n)) = .ok e ↔ (vary (.int n)).Means e := by
  obtain ⟨d, shape, means⟩ := Event.ofValue_eq_ok_iff.mp valid
  obtain ⟨vary, varies, all⟩ := hole.varies shape
  refine ⟨d, vary, varies, means, fun n fits => ?_⟩
  have shape : Draft.ofValue (command (.int n)) = .ok (vary (.int n)) := by
    rw [Value.int, all]
    exact map_eq_ok_iff.mpr ⟨_, Scalar.ofValue_int_eq_ok_iff.mpr ⟨fits, rfl⟩, rfl⟩
  exact ⟨shape, fun e => by rw [Event.ofValue, shape]; exact Draft.event_eq_ok_iff⟩

end Slot.Hole

/-- Other numbers do not change which command it is. -/
private theorem Slot.Varies.same_command {slot : Slot} {d : Draft} {vary : Scalar → Draft} {e f : Event}
    (h : slot.Varies d vary) (means : d.Means e) {s : Scalar} (varied : (vary s).Means f) :
    f.command = e.command := by
  obtain ⟨name, told, named⟩ := means.command
  obtain ⟨name', told', named'⟩ := varied.command
  rw [h.command_eq, told] at told'
  cases told'
  exact Option.some.inj (named'.symm.trans named)

/-- In any place of a command that is accepted with some value there, a whole number is accepted exactly
if it fits 64 bits with a sign, is not written as zero with a minus sign and, where the command uses it,
is of the place's type. The event then carries it; a number for other commands leaves no trace. -/
theorem whole_numbers_accepted {slot : Slot} {command : Value → Value} (hole : slot.Hole command)
    {front back : List UInt8} (text : TextHole command front back) {v₀ : Value} {e₀ : Event}
    (valid : Event.ofValue (command v₀) = .ok e₀) (negative : Bool) (m : Nat) :
    ((∃ w e, OwnText w (front ++ wholeText negative m ++ back) ∧ Event.ofValue w = .ok e) ↔
      Scalar.inWord (wholeNumber negative m) ∧ ¬ (negative ∧ m = 0) ∧
        (slot.UsedBy e₀.command → slot.type.Holds (wholeNumber negative m))) ∧
    ∀ w e, OwnText w (front ++ wholeText negative m ++ back) → Event.ofValue w = .ok e →
      (slot.UsedBy e₀.command → slot.Carries w e (wholeNumber negative m)) ∧
      (¬ slot.UsedBy e₀.command → e = e₀) := by
  obtain ⟨d, vary, varies, means₀, all⟩ := hole.exists_means valid
  have carried {w : Value} {e : Event} (own : OwnText w (front ++ wholeText negative m ++ back))
      (accepted : Event.ofValue w = .ok e) (used : slot.UsedBy e₀.command) :
      slot.Carries w e (wholeNumber negative m) := by
    obtain ⟨rfl, fits, -⟩ := hole.exact_of_accepted valid text own accepted
    have means := ((all _ fits).2 e).mp accepted
    exact varies.carries means (varies.same_command means₀ means ▸ used) (all _ fits).1
  refine ⟨⟨?_, ?_⟩, fun w e own accepted => ⟨carried own accepted, fun idle => ?_⟩⟩
  · rintro ⟨w, e, own, accepted⟩
    obtain ⟨-, fits, nonzero⟩ := hole.exact_of_accepted valid text own accepted
    exact ⟨fits, nonzero, fun used => (carried own accepted used).holds⟩
  · rintro ⟨fits, nonzero, holds⟩
    have bounds : -0x8000000000000000 ≤ wholeNumber negative m ∧
        wholeNumber negative m < 0x8000000000000000 := by simpa [Scalar.inWord] using fits
    have own := text.ownText_whole bounds.1 (Int.lt_trans bounds.2 (by decide)) nonzero
    obtain ⟨e, means⟩ := varies.accepts means₀ holds
    exact ⟨_, e, own, ((all _ fits).2 e).mpr means⟩
  · obtain ⟨rfl, fits, -⟩ := hole.exact_of_accepted valid text own accepted
    exact (((all _ fits).2 e).mp accepted).eq (varies.unused means₀ idle _)

def delaying (duration : Value) : Value := .object [
  ("command", .string "delay"), ("duration", duration), ("id", .int 1)]

def delayFront : List UInt8 := Text.encode "\x7b\"command\": \"delay\", \"duration\": "

def delayBack : List UInt8 := Text.encode ", \"id\": 1\x7d"

private theorem hole_delaying : (Slot.field .duration).Hole delaying :=
  .field (.mk (by decide) [("command", .string "delay")] [("id", .int 1)])

private theorem textHole_delaying : TextHole delaying delayFront delayBack := by
  have begun : Json.Machine.start.after delayFront =
      some ⟨.member [("command", .string "delay")] "duration", []⟩ := by
    rfl
  refine .mk (by decide) begun (Json.Machine.opened_member _ _ []) fun v => ?_
  have more : (Json.Machine.resume v (.member [("command", .string "delay")] "duration") []).after
      (Text.encode ", \"id\": 1") = some ⟨.number (.firstDigit false 1),
        [.member [("command", .string "delay"), ("duration", v)] "id"]⟩ := by
    rfl
  have parts : delayBack = Text.encode ", \"id\": 1" ++ [125] := by decide +kernel
  rw [parts]
  exact .append more (.closed rfl)

/-- The longest time that a script can give. -/
theorem longest_accepted : (Slot.field .duration).Hole delaying ∧
    TextHole delaying delayFront delayBack ∧ Event.ofValue (delaying (.int 5)) = .ok ⟨1, .delay 5⟩ ∧
    ∃ w e, OwnText w (delayFront ++ wholeText false 0x7fffffffffffffff ++ delayBack) ∧
      Event.ofValue w = .ok e := by
  have valid : Event.ofValue (delaying (.int 5)) = .ok ⟨1, .delay 5⟩ := by decide +kernel
  refine ⟨hole_delaying, textHole_delaying, valid, ?_⟩
  exact (whole_numbers_accepted hole_delaying textHole_delaying valid false 0x7fffffffffffffff).1.mpr
    ⟨by decide, by decide, fun _ => by decide⟩

def delayingPad (vendor : Value) : Value := .object [
  ("command", .string "delay"), ("duration", .int 5), ("id", .int 1), ("vid", vendor)]

def listingTwice (value : Value) : Value := .object [
  ("abs_info", .array [
    .object [("code", .int 3), ("info", .object [("value", value)])],
    .object [("code", .int 3), ("info", .object [("value", .int 2)])]]),
  ("command", .string "register"), ("id", .int 1), ("name", .string "pad"), ("pid", .int 2),
  ("vid", .int 1)]

def listedTwice : Registration := {
  name := "pad", vendor := 1, product := 2, axes := .ofList [(3, { value := 2 })] }

/-- Not all whole numbers of a place's type are accepted there: longer durations are not, nor is zero
with a minus sign. A number that the command does not use need not be of the type; and an axis that is
listed again is not carried. -/
theorem accepted_not_by_type :
    (NumberType.uint64.Holds (wholeNumber false 0x8000000000000000) ∧
      ¬ ∃ w e, OwnText w (delayFront ++ wholeText false 0x8000000000000000 ++ delayBack) ∧
        Event.ofValue w = .ok e) ∧
    (NumberType.uint64.Holds (wholeNumber true 0) ∧
      ¬ ∃ w e, OwnText w (delayFront ++ wholeText true 0 ++ delayBack) ∧ Event.ofValue w = .ok e) ∧
    (¬ NumberType.uint16.Holds 70000 ∧
      Event.ofValue (delayingPad (.int 70000)) = .ok ⟨1, .delay 5⟩) ∧
    ∃ e, Event.ofValue (listingTwice (.int 1)) = .ok e ∧
      Event.ofValue (listingTwice (.int 9)) = .ok e := by
  have valid : Event.ofValue (delaying (.int 5)) = .ok ⟨1, .delay 5⟩ := by decide +kernel
  refine ⟨⟨by decide, ?_⟩, ⟨by decide, ?_⟩, ⟨by decide, by decide +kernel⟩, ?_⟩
  · rintro ⟨w, e, own, accepted⟩
    exact absurd (hole_delaying.exact_of_accepted valid textHole_delaying own accepted).2.1 (by decide)
  · rintro ⟨w, e, own, accepted⟩
    exact absurd (hole_delaying.exact_of_accepted valid textHole_delaying own accepted).2.2 (by decide)
  · exact ⟨⟨1, .register listedTwice⟩, by decide +kernel, by decide +kernel⟩

end ScriptedInput

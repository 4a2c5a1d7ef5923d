import ScriptedInput.Event
import ScriptedInput.Script.ParseError
import ScriptedInput.Script.Warning

/-! The answers of a script that is asked for its next event. -/
namespace ScriptedInput

structure Delivery where
  warnings : List Warning := []
  event : Event
  deriving DecidableEq, Repr

inductive Outcome where
  | event (d : Delivery)
  | ended
  | failed (e : ParseError)
  deriving DecidableEq, Repr

structure Feed where
  deliveries : List Delivery
  failure : Option ParseError
  deriving DecidableEq, Repr

def Feed.events (f : Feed) : List Event := f.deliveries.map (·.event)

end ScriptedInput

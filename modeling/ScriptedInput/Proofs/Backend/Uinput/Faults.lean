import ScriptedInput.Proofs.Backend.Uinput.Requests

/-! Which requests fail. A node has for each use of a request whether it fails and with which error
number; what was logged so far tells which use of it comes next. -/
namespace ScriptedInput.Uinput
open Act

def Effect.request? : Effect → Option Request
  | .request r _ _ => some r
  | .wrote _ | .writeFailed _ | .report _ | .destroyFailed _ _ => none

/-- What writing leaves is no request, nor an answer to one. -/
theorem unserved_of_writing {e : Effect} (h : IsWriting e) : e.request? = none ∧ ¬ IsService e := by
  cases e with
  | wrote | writeFailed => exact ⟨rfl, id⟩
  | request | report | destroyFailed => exact h.elim

def uses (log : List Effect) (r : Request) : Nat := (log.filterMap Effect.request?).count r

private theorem uses_concat (past : List Effect) (e : Effect) (r : Request) :
    uses (past ++ [e]) r = uses past r + if e.request? = some r then 1 else 0 := by
  rw [uses, List.filterMap_append, List.count_append, uses]
  cases he : e.request? with
  | none => simp [he]
  | some q => simp [he, List.count_singleton]

/-- The error number with which the next use of a request fails, after what was logged. -/
def Node.fault (n : Node) (past : List Effect) (r : Request) : Option Nat :=
  n.faults r (n.used r + uses past r)

/-- What is another request, or none, does not count as a use. -/
theorem Node.fault_concat (n : Node) (past : List Effect) {e : Effect} {r : Request}
    (other : e.request? ≠ some r) : n.fault (past ++ [e]) r = n.fault past r := by
  rw [Node.fault, Node.fault, uses_concat, if_neg other, Nat.add_zero]

def Node.Foretells (n : Node) (log : List Effect) : Prop :=
  ∀ before r argument errno after, log = before ++ .request r argument errno :: after →
    errno = n.fault before r

private theorem Node.Foretells.concat {n : Node} {past : List Effect} {e : Effect} (h : n.Foretells past)
    (last : ∀ r argument errno, e = .request r argument errno → errno = n.fault past r) :
    n.Foretells (past ++ [e]) := by
  intro before r argument errno after split
  rcases List.eq_nil_or_concat after with rfl | ⟨between, final, rfl⟩
  · obtain ⟨rfl, same⟩ := List.append_inj' split rfl
    exact last r argument errno (List.singleton_inj.mp same)
  · rw [List.concat_eq_append, ← List.cons_append, ← List.append_assoc] at split
    exact h before r argument errno between (List.append_inj' split rfl).1

structure Node.Tracks (n : Node) (past : List Effect) (m : Node) : Prop where
  faults : m.faults = n.faults
  used : ∀ r, m.used r = n.used r + uses past r
  foretold : n.Foretells past

namespace Node.Tracks
variable {n m : Node} {past : List Effect}

theorem start (n : Node) : n.Tracks [] n :=
  ⟨rfl, fun _ => rfl, fun before _ _ _ _ split => absurd split.symm (by simp)⟩

/-- The next use of a request is the one that the log leads to. -/
theorem fault (h : n.Tracks past m) (r : Request) : m.faults r (m.used r) = n.fault past r := by
  rw [h.faults, h.used, Node.fault]

/-- What is no request does not matter, nor does what becomes of reads, writes and effects. -/
theorem other (h : n.Tracks past m) {e : Effect} (none : e.request? = none) :
    n.Tracks (past ++ [e]) m where
  faults := h.faults
  used r := by rw [h.used, uses_concat, none]; rfl
  foretold := h.foretold.concat fun r argument errno request => by rw [request] at none; cases none

theorem request (h : n.Tracks past m) (r : Request) (argument : Argument) :
    n.Tracks (past ++ [.request r argument (n.fault past r)])
      ((Node.request r argument).run m).state where
  faults := h.faults
  used q := by
    have now : ((Node.request r argument).run m).state.used q =
        if q = r then m.used r + 1 else m.used q := rfl
    rw [now, uses_concat, Effect.request?]
    by_cases own : q = r
    · rw [own, if_pos rfl, if_pos rfl, h.used, Nat.add_assoc]
    · rw [if_neg own, if_neg (fun same => own (Option.some.inj same).symm), h.used, Nat.add_zero]
  foretold := h.foretold.concat fun q a errno same => by cases same; rfl

end Node.Tracks

private theorem Node.request_keeps (n : Node) (r : Request) (argument : Argument) :
    (Node.request r argument).Keeps n.Tracks := by
  intro past m h
  have := h.request r argument
  rwa [← h.fault] at this

theorem Node.requestAll_keeps (n : Node) (rs : List (Request × Argument)) :
    (Node.requestAll rs).Keeps n.Tracks := by
  induction rs with
  | nil => exact .pure _
  | cons q rs ih =>
    refine .bind (n.request_keeps q.1 q.2) ?_
    rintro (e | _)
    · exact .pure _
    · exact ih

end ScriptedInput.Uinput

/-! Actions: what changes a state, gives an answer, and leaves entries in a log. -/
namespace ScriptedInput

/-- What an action leaves behind. The log is oldest first. -/
structure Done (σ ε α : Type) where
  answer : α
  state : σ
  log : List ε

/-- An action on a state of type `σ` with log entries of type `ε`. -/
def Act (σ ε α : Type) : Type := σ → Done σ ε α

namespace Act
variable {σ τ ε δ α β : Type}

def andThen (x : Act σ ε α) (f : α → Act σ ε β) : Act σ ε β := fun s =>
  let first := x s
  let second := f first.answer first.state
  ⟨second.answer, second.state, first.log ++ second.log⟩

instance : Monad (Act σ ε) where
  pure a := fun s => ⟨a, s, []⟩
  bind := andThen

def run (x : Act σ ε α) (s : σ) : Done σ ε α := x s

def log (e : ε) : Act σ ε Unit := fun s => ⟨(), s, [e]⟩

def logAll (es : List ε) : Act σ ε Unit := fun s => ⟨(), s, es⟩

def get : Act σ ε σ := fun s => ⟨s, s, []⟩

def set (s : σ) : Act σ ε Unit := fun _ => ⟨(), s, []⟩

def modify (f : σ → σ) : Act σ ε Unit := fun s => ⟨(), f s, []⟩

def onPart (part : τ → σ) (replace : τ → σ → τ) (x : Act σ ε α) : Act τ ε α := fun t =>
  let done := x (part t)
  ⟨done.answer, replace t done.state, done.log⟩

def within (f : ε → δ) (x : Act σ ε α) : Act σ δ α := fun s =>
  let done := x s
  ⟨done.answer, done.state, done.log.map f⟩

@[simp] theorem run_pure (a : α) (s : σ) : (pure a : Act σ ε α).run s = ⟨a, s, []⟩ := rfl

@[simp] theorem run_bind (x : Act σ ε α) (f : α → Act σ ε β) (s : σ) :
    (x >>= f).run s =
      ⟨((f (x.run s).answer).run (x.run s).state).answer,
        ((f (x.run s).answer).run (x.run s).state).state,
        (x.run s).log ++ ((f (x.run s).answer).run (x.run s).state).log⟩ := rfl

@[simp] theorem run_log (e : ε) (s : σ) : (Act.log e : Act σ ε Unit).run s = ⟨(), s, [e]⟩ := rfl

@[simp] theorem run_logAll (es : List ε) (s : σ) :
    (Act.logAll es : Act σ ε Unit).run s = ⟨(), s, es⟩ := rfl

@[simp] theorem run_get (s : σ) : (Act.get : Act σ ε σ).run s = ⟨s, s, []⟩ := rfl

@[simp] theorem run_set (s t : σ) : (Act.set t : Act σ ε Unit).run s = ⟨(), t, []⟩ := rfl

@[simp] theorem run_modify (f : σ → σ) (s : σ) :
    (Act.modify f : Act σ ε Unit).run s = ⟨(), f s, []⟩ := rfl

@[simp] theorem run_onPart (part : τ → σ) (replace : τ → σ → τ) (x : Act σ ε α) (t : τ) :
    (x.onPart part replace).run t =
      ⟨(x.run (part t)).answer, replace t (x.run (part t)).state, (x.run (part t)).log⟩ := rfl

@[simp] theorem run_within (f : ε → δ) (x : Act σ ε α) (s : σ) :
    (x.within f).run s = ⟨(x.run s).answer, (x.run s).state, (x.run s).log.map f⟩ := rfl

theorem within_bind (f : ε → δ) (x : Act σ ε α) (y : α → Act σ ε β) :
    (x >>= y).within f = x.within f >>= fun a => (y a).within f := by
  funext s
  exact congrArg (Done.mk _ _) List.map_append

end Act
end ScriptedInput

import ScriptedInput.Act

/-! Conditions on all that was logged so far and on the state, carried from before an action to after
it. A condition that every step of a program keeps is kept by the whole program. -/
namespace ScriptedInput.Act
variable {σ τ ε δ α β : Type}

/-- After any past and from any state with `P`, the action leads to an answer, a past that has the
action's own entries at its end, and a state with `Q`. -/
def Ensures (P : List ε → σ → Prop) (x : Act σ ε α) (Q : α → List ε → σ → Prop) : Prop :=
  ∀ past s, P past s → Q (x.run s).answer (past ++ (x.run s).log) (x.run s).state

/-- A condition that holds after an action whenever it held before, whatever the answer. -/
def Keeps (I : List ε → σ → Prop) (x : Act σ ε α) : Prop := x.Ensures I (fun _ => I)

variable {P : List ε → σ → Prop} {R : α → List ε → σ → Prop} {Q : β → List ε → σ → Prop}
  {I : List ε → σ → Prop}

theorem Ensures.bind {x : Act σ ε α} {f : α → Act σ ε β} (hx : x.Ensures P R)
    (hf : ∀ a, (f a).Ensures (R a) Q) : (x >>= f).Ensures P Q := by
  intro past s h
  have first := hx past s h
  have second := hf _ _ _ first
  simpa only [run_bind, List.append_assoc] using second

theorem Ensures.pure {b : β} (h : ∀ past s, P past s → Q b past s) :
    (Pure.pure b : Act σ ε β).Ensures P Q := by
  intro past s hp
  simpa only [run_pure, List.append_nil] using h past s hp

theorem Ensures.mono {P' : List ε → σ → Prop} {Q' : β → List ε → σ → Prop} {x : Act σ ε β}
    (hx : x.Ensures P Q) (hp : ∀ past s, P' past s → P past s)
    (hq : ∀ b past s, Q b past s → Q' b past s) : x.Ensures P' Q' :=
  fun past s h => hq _ _ _ (hx past s (hp past s h))

theorem Ensures.log {e : ε} {Q : Unit → List ε → σ → Prop}
    (h : ∀ past s, P past s → Q () (past ++ [e]) s) : (Act.log e).Ensures P Q := h

theorem Keeps.bind {x : Act σ ε α} {f : α → Act σ ε β} (hx : x.Keeps I) (hf : ∀ a, (f a).Keeps I) :
    (x >>= f).Keeps I := Ensures.bind hx hf

theorem Keeps.pure (b : β) : (Pure.pure b : Act σ ε β).Keeps I := Ensures.pure (fun _ _ h => h)

theorem Keeps.logAll {es : List ε} (h : ∀ past s, ∀ e ∈ es, I past s → I (past ++ [e]) s) :
    (Act.logAll es : Act σ ε Unit).Keeps I := by
  intro past s hi
  rw [run_logAll]
  induction es generalizing past with
  | nil => simpa using hi
  | cons e es ih =>
    rw [← List.singleton_append, ← List.append_assoc]
    have he := h past s e List.mem_cons_self hi
    exact ih (fun past s e' h' => h past s e' (List.mem_cons_of_mem _ h')) _ he

/-- All entries that an action leaves are such, whatever state it starts from. -/
def Only (p : ε → Prop) (x : Act σ ε α) : Prop := ∀ s, ∀ e ∈ (x.run s).log, p e

namespace Only
variable {p q : ε → Prop} {x : Act σ ε α}

theorem bind {f : α → Act σ ε β} (first : x.Only p) (second : ∀ a, (f a).Only p) :
    (x >>= f).Only p :=
  fun s => List.forall_mem_append.mpr ⟨first s, second _ _⟩

theorem pure (a : α) : (Pure.pure a : Act σ ε α).Only p := fun _ _ h => nomatch h

theorem get : (Act.get : Act σ ε σ).Only p := fun _ _ h => nomatch h

theorem modify (f : σ → σ) : (Act.modify f : Act σ ε Unit).Only p := fun _ _ h => nomatch h

theorem log {e : ε} (h : p e) : (Act.log e : Act σ ε Unit).Only p :=
  fun _ => List.forall_mem_singleton.mpr h

/-- Entries of which each tells nothing tell nothing together. -/
theorem flatMap_eq_nil {f : ε → List δ} (only : x.Only p) (silent : ∀ e, p e → f e = []) (s : σ) :
    (x.run s).log.flatMap f = [] :=
  List.flatMap_eq_nil_iff.mpr fun e he => silent e (only s e he)

end Only

end ScriptedInput.Act

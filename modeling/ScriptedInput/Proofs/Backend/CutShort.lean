import ScriptedInput.Proofs.Backend.Recorder

/-! One program on a recorder that may fail and on one that never does. Both go on alike until a call
fails, and there the first one is cut short. -/
namespace ScriptedInput

/-- The error that a failed call ends a run with. A close that fails ends none. -/
def Call.replayError? : Call → BackendError → Option ReplayError
  | .create id _, e => some (.creation id e)
  | .inject id _, e => some (.injection id .inject e)
  | .delay id _, e => some (.injection id .delay e)
  | .idle id, e => some (.injection id .delay e)
  | .sync id _, e => some (.injection id .sync e)
  | .close _, _ => none

namespace Recorder
variable {σ α β : Type}

def Flawless (log : List (Entry Record)) : Prop := ∀ c ∈ effects log, c.failure = none

@[simp] theorem flawless_nil : Flawless [] := by simp [Flawless]

@[simp] theorem flawless_append {xs ys : List (Entry Record)} :
    Flawless (xs ++ ys) ↔ Flawless xs ∧ Flawless ys := by
  simp [Flawless, or_imp, forall_and]

/-- An outcome ends with a failed call, the first one, where another goes on. Its answer tells of the
call as `F` says. -/
def CutAt (F : α → Call → BackendError → Prop) (cut whole : Done σ (Entry Record) α) : Prop :=
  ∃ before call e h h' rest, cut.log = before ++ [.effect ⟨h, call, some e⟩] ∧
    whole.log = before ++ .effect ⟨h', call, none⟩ :: rest ∧ Flawless before ∧ F cut.answer call e

theorem not_cutAt_self {F : α → Call → BackendError → Prop} {done : Done σ (Entry Record) α} :
    ¬ CutAt F done done := by
  rintro ⟨before, call, e, h, h', rest, hlog, hlog', -, -⟩
  rw [hlog] at hlog'
  cases List.append_cancel_left hlog'

/-- After any past and from any state with `P`, two actions go on alike, without failures and to an
answer, a past and a state with `Q`, or the first one is cut short. -/
def CutShort (P : List (Entry Record) → σ → Prop) (x y : Act σ (Entry Record) α)
    (Q : α → List (Entry Record) → σ → Prop) (F : α → Call → BackendError → Prop) : Prop :=
  ∀ past s, P past s →
    (x.run s = y.run s ∧ Flawless (x.run s).log ∧
        Q (x.run s).answer (past ++ (x.run s).log) (x.run s).state) ∨
      CutAt F (x.run s) (y.run s)

namespace CutShort
variable {P : List (Entry Record) → σ → Prop} {R : α → List (Entry Record) → σ → Prop}
  {Q : β → List (Entry Record) → σ → Prop} {F : α → Call → BackendError → Prop}
  {G : β → Call → BackendError → Prop}

theorem pure {b : β} (h : ∀ past s, P past s → Q b past s) :
    CutShort P (Pure.pure b : Act σ (Entry Record) β) (Pure.pure b) Q G :=
  fun past s hp => .inl ⟨rfl, flawless_nil, by simpa using h past s hp⟩

private theorem log {e : Entry Record} (he : e.effect? = none) {Q : Unit → List (Entry Record) → σ → Prop}
    {G : Unit → Call → BackendError → Prop} (h : ∀ past s, P past s → Q () (past ++ [e]) s) :
    CutShort P (Act.log e) (Act.log e) Q G :=
  fun past s hp => .inl ⟨rfl, by simp [Flawless, effects, he], h past s hp⟩

/-- What comes after an action that was cut short leaves nothing in the log. -/
theorem bind {x y : Act σ (Entry Record) α} {f g : α → Act σ (Entry Record) β}
    (hx : CutShort P x y R F) (hf : ∀ a, CutShort (R a) (f a) (g a) Q G)
    (hstop : ∀ a call e, F a call e → ∀ s, ((f a).run s).log = [] ∧ G ((f a).run s).answer call e) :
    CutShort P (x >>= f) (y >>= g) Q G := by
  intro past s hs
  rw [Act.run_bind, Act.run_bind]
  rcases hx past s hs with ⟨he, hclean, hr⟩ | ⟨before, call, e, h, h', rest, hlog, hlog', hclean, hF⟩
  · rw [← he]
    rcases hf _ _ _ hr with ⟨he', hclean', hq⟩ | ⟨before, call, e, h, h', rest, hlog, hlog', hclean', hG⟩
    · rw [he'] at hclean' hq ⊢
      rw [List.append_assoc] at hq
      exact .inl ⟨rfl, flawless_append.mpr ⟨hclean, hclean'⟩, hq⟩
    · refine .inr ⟨(x.run s).log ++ before, call, e, h, h', rest, ?_, ?_, ?_, hG⟩
      · rw [hlog, List.append_assoc]
      · rw [hlog', List.append_assoc]
      · exact flawless_append.mpr ⟨hclean, hclean'⟩
  · obtain ⟨hquiet, hG⟩ := hstop _ _ _ hF (x.run s).state
    refine .inr ⟨before, call, e, h, h', rest ++ ((g (y.run s).answer).run (y.run s).state).log,
      ?_, ?_, hclean, hG⟩
    · simp only [hquiet, hlog, List.append_nil]
    · simp only [hlog', List.append_assoc, List.cons_append]

/-- A condition that the first action keeps holds where the two go on alike. -/
theorem keeping {x y : Act σ (Entry Record) α} (hx : CutShort P x y R F) (hk : x.Keeps P) :
    CutShort P x y (fun a past s => R a past s ∧ P past s) F := by
  intro past s hs
  rcases hx past s hs with ⟨he, hclean, hr⟩ | hcut
  · exact .inl ⟨he, hclean, hr, hk past s hs⟩
  · exact .inr hcut

end CutShort

def FailedCall {α : Type} (call : Call) (a : Except BackendError α) (c : Call) (e : BackendError) : Prop :=
  a = .error e ∧ c = call

def Reported {α : Type} (a : Except ReplayError α) (c : Call) (e : BackendError) : Prop :=
  ∃ error, c.replayError? e = some error ∧ a = .error error

def Anything (_past : List (Entry Record)) (_s : σ) : Prop := True

section Device
variable (plan : FailurePlan) {d : Device Handle}

private theorem note_cutShort (h : Handle) (call : Call) :
    CutShort Anything ((note plan h call).within Entry.effect)
      ((note neverFails h call).within Entry.effect) (fun a _ _ => a = .ok ()) (FailedCall call) := by
  intro past s _
  rw [Act.run_within, Act.run_within, run_note, run_note]
  cases hp : plan call.kind (s.counts call.kind) with
  | none => exact .inl ⟨rfl, by simp [Flawless], rfl⟩
  | some e => exact .inr ⟨[], call, e, _, _, [], rfl, rfl, flawless_nil, rfl, rfl⟩

private theorem waitSlices_cutShort (h : Handle) (n : Nat) :
    CutShort Anything (Device.waitSlices (recorder plan) h n)
      (Device.waitSlices (recorder neverFails) h n) (fun a _ _ => ∃ last, a = .ok last)
      (FailedCall (.idle h.id)) := by
  induction n using Device.waitSlices_induction with
  | short n hn =>
    rw [Device.waitSlices_of_le hn, Device.waitSlices_of_le hn]
    exact .pure fun _ _ _ => ⟨n, rfl⟩
  | long n hn ih =>
    rw [Device.waitSlices_of_lt hn, Device.waitSlices_of_lt hn]
    refine .bind (R := fun _ => Anything) (F := fun _ _ _ => False) (.log rfl fun _ _ _ => trivial)
      (fun _ => ?_) (fun _ _ _ hF => hF.elim)
    refine .bind (note_cutShort plan h _) ?_ ?_
    · rintro (e | _)
      · exact fun _ _ ha => by cases ha
      · exact fun past s _ => ih past s trivial
    · rintro _ _ e ⟨rfl, rfl⟩ s
      exact ⟨rfl, rfl, rfl⟩

private theorem command_cutShort (ho : d.state = .opened) (command : Command) (call : Call)
    (hc : ∀ e, call.replayError? e = some (.injection d.id command e)) :
    CutShort Anything (d.command command (note plan d.handle call))
      (d.command command (note neverFails d.handle call)) (fun a _ _ => a = .ok ()) Reported := by
  unfold Device.command
  simp only [ho]
  refine .bind (note_cutShort plan d.handle call) ?_ ?_
  · rintro (e | _)
    · exact fun _ _ ha => by cases ha
    · exact .pure fun _ _ _ => rfl
  · rintro _ _ e ⟨rfl, rfl⟩ s
    exact ⟨rfl, _, hc e, rfl⟩

private theorem delay_cutShort (ho : d.state = .opened) (hid : d.handle.id = d.id) (millis : UInt64) :
    CutShort Anything (d.delay (recorder plan) millis) (d.delay (recorder neverFails) millis)
      (fun a _ _ => a.1 = .ok ()) (fun a => Reported a.1) := by
  simp only [Device.delay, ho]
  refine .bind (waitSlices_cutShort plan d.handle _) ?_ ?_
  · rintro (e | _)
    · exact fun _ _ ⟨_, ha⟩ => by cases ha
    · refine .bind (R := fun _ => Anything) (F := fun _ _ _ => False)
        (.log rfl fun _ _ _ => trivial) (fun _ => ?_) (fun _ _ _ hF => hF.elim)
      refine .bind (note_cutShort plan d.handle _) ?_ ?_
      · rintro (e | _)
        · exact fun _ _ ha => by cases ha
        · exact .pure fun _ _ _ => rfl
      · rintro _ _ e ⟨rfl, rfl⟩ s
        exact ⟨rfl, .injection d.id .delay e, by rw [← hid]; rfl, rfl⟩
  · rintro _ _ e ⟨rfl, rfl⟩ s
    exact ⟨rfl, .injection d.id .delay e, by rw [← hid]; rfl, rfl⟩

/-- An open device carries a command out alike on both, or is cut short in it. -/
theorem perform_cutShort (ho : d.state = .opened) (hid : d.handle.id = d.id) {action : Action}
    {task : Device.Task} (ht : action.task? = some task) :
    CutShort Anything (d.perform (recorder plan) task) (d.perform (recorder neverFails) task)
      (fun a _ _ => a.1 = .ok ()) (fun a => Reported a.1) := by
  cases action with
  | register r => cases ht
  | inject events =>
    cases ht
    exact .bind (command_cutShort plan ho .inject (.inject d.handle.id events) fun e => by
      rw [← hid]; rfl) (fun _ => .pure fun _ _ h => h) (fun _ _ _ hF _ => ⟨rfl, hF⟩)
  | sync token =>
    cases ht
    exact .bind (command_cutShort plan ho .sync (.sync d.handle.id token) fun e => by
      rw [← hid]; rfl) (fun _ => .pure fun _ _ h => h) (fun _ _ _ hF _ => ⟨rfl, hF⟩)
  | delay millis => cases ht; exact delay_cutShort plan ho hid millis

end Device
end Recorder
end ScriptedInput

import ScriptedInput.Proofs.Backend.Trace.ReadBack
import ScriptedInput.Proofs.Backend.Trace.Room

/-! A sink that fills up. What a session writes to it is the start of what the same session writes to
a sink without limit, although from the first line that does not fit the two sessions may do different
things; and a run fails just if it is one of its own lines that does not fit, not one that its devices
are closed with. -/
namespace ScriptedInput.Trace
open Roomy (room unlimited)

variable {α : Type}

private theorem run_write_fits {line : List UInt8} {n : Nat} (fits : line.length ≤ n) (flushes : Nat) :
    (write line).run { room := some n, flushes } =
      ⟨.ok (), { room := some (n - line.length), flushes := flushes + 1 }, [line]⟩ := by
  simp [write, Sink.accepts, List.take_of_length_le fits]

private theorem run_write_over {line : List UInt8} {n : Nat} (more : n < line.length) (flushes : Nat) :
    (write line).run { room := some n, flushes } =
      ⟨.error (.os "trace" (.custom "sink full")), { room := some 0, flushes }, [line.take n]⟩ := by
  simp [write, Sink.accepts, more, Nat.min_eq_left (Nat.le_of_lt more)]

/-- A line that does not fit fills the sink and is a failure. -/
private theorem write_truncates (line : List UInt8) :
    Truncates Failed ((write line).within Entry.effect) := by
  rintro n ⟨_, flushes, _⟩ ⟨rfl, rfl⟩
  have whole : (write line).run (unlimited { room := some n, flushes }) = _ :=
    run_write_unlimited line flushes
  rw [Act.run_within, Act.run_within, whole]
  rcases Nat.lt_or_ge n line.length with more | fits
  · rw [run_write_over more]
    exact .full (.intro _) ⟨rfl, rfl⟩ (by simp [written]) (by simpa [written] using more)
  · rw [run_write_fits fits]
    exact .fits _ rfl rfl rfl ⟨rfl, rfl⟩ (by simpa [written] using Nat.add_sub_of_le fits)

private theorem emit_truncates (c : Call) : Truncates Failed ((emit c).within Entry.effect) := by
  rw [emit]
  cases c.json? with
  | none => exact .pure _
  | some v => exact write_truncates v.line

section Devices
variable (d : Device DeviceId)

private theorem create_truncates (id : DeviceId) (r : Registration) :
    Truncates Failed (Device.create tracer id r) := by
  have called : Truncates Failed ((tracer.create id r).within Entry.effect) := by
    rw [tracer, Act.within_bind]
    exact .bind_ok (emit_truncates _) (fun _ => .pure _) (fun _ => rfl) fun _ => .intro _
  exact .bind_ok called (fun _ => .pure _) (fun _ => rfl) fun _ => .intro _

private theorem command_truncates (c : Command) (call : Call) :
    Truncates Failed (d.command c (emit call)) := by
  unfold Device.command
  cases d.state with
  | closed => exact .pure _
  | opened =>
    exact .bind_ok (emit_truncates call) (fun _ => .pure _) (fun _ => rfl) fun _ => .intro _

private theorem waitSlices_truncates (id : DeviceId) (n : Nat) :
    Truncates Failed (Device.waitSlices tracer id n) := by
  induction n using Device.waitSlices_induction with
  | short n hn =>
    rw [Device.waitSlices_of_le hn]
    exact .pure _
  | long n hn ih =>
    rw [Device.waitSlices_of_lt hn]
    refine .fitting_bind (.log rfl) fun _ => ?_
    exact .bind_ok (emit_truncates (.idle id)) (fun _ => ih) (fun _ => rfl) fun _ => .intro _

private theorem delay_truncates (millis : UInt64) :
    Truncates (fun a => Failed a.1) (d.delay tracer millis) := by
  unfold Device.delay
  cases d.state with
  | closed => exact .pure _
  | opened =>
    refine .bind_ok (waitSlices_truncates d.handle _) (fun _ => ?_) (fun _ => rfl) fun _ => .intro _
    refine .fitting_bind (.log rfl) fun _ => ?_
    exact .bind_ok (emit_truncates (.delay d.handle millis)) (fun _ => .pure _) (fun _ => rfl)
      fun _ => .intro _

/-- A close that fails is no failure of what asked for it. -/
private theorem close_truncates : Truncates (fun _ => True) (d.close tracer) := by
  unfold Device.close
  cases d.state with
  | closed => exact .pure _
  | opened =>
    have called : Truncates (fun _ => True) ((tracer.close d.handle).within Entry.effect) := by
      rw [tracer, Act.within_bind]
      exact .any_bind (emit_truncates _) fun _ => .pure _
    refine .any_bind called ?_
    rintro ⟨e | _, handle⟩
    · exact .fitting_bind (.log rfl) fun _ => .pure _
    · exact .fitting_bind (.pure _) fun _ => .pure _

private theorem closeEach_truncates (ds : List (Device DeviceId)) :
    Truncates (fun _ => True) (Registry.closeEach tracer ds) := by
  induction ds with
  | nil => exact .pure _
  | cons d ds ih => exact .any_bind (close_truncates d) fun _ => .any_bind ih fun _ => .pure _

end Devices

section Sessions

abbrev Doing (α : Type) : Type := Tracing (Session Sink DeviceId) α

private theorem onBackend_truncates {F : α → Prop} {x : Tracing Sink α} (h : Truncates F x) :
    Truncates F (Session.onBackend x : Doing α) := by
  intro n s left
  cases h n s.backend left with
  | fits m answer state log left length =>
    exact .fits m answer (congrArg (Session.mk s.registry) state) log left length
  | full answer left bytes more => exact .full answer left bytes more

private theorem modifyRegistry_truncates {F : Unit → Prop} (g : Registry DeviceId → Registry DeviceId) :
    Truncates F (Session.modifyRegistry g : Doing Unit) :=
  fun n _ left => .fits n rfl rfl rfl left (Nat.zero_add n)

/-- What is done next may depend on the registry, in which there is no difference. -/
private theorem truncated_get {F : α → Prop} {f : Session Sink DeviceId → Doing α} {n : Nat}
    {s : Session Sink DeviceId} (same : f (unlimited s) = f s)
    (next : Truncated F n ((f s).run s) ((f s).run (unlimited s))) :
    Truncated F n ((Act.get >>= f).run s) ((Act.get >>= f).run (unlimited s)) := by
  have got (t : Session Sink DeviceId) : (Act.get >>= f).run t = (f t).run t := rfl
  rw [got, got, same]
  exact next

/-- Creating a device fails if its line does not fit. If the number is taken, it may also be the line
that the new device is closed with, which is no failure. -/
private theorem session_create_truncated {n : Nat} {s : Session Sink DeviceId} (left : room n s)
    (id : DeviceId) (r : Registration) :
    Truncated (fun a => s.registry.get? id = none → Failed a) n
      ((Session.create tracer id r).run s) ((Session.create tracer id r).run (unlimited s)) := by
  have device := onBackend_truncates (create_truncates id r) n s left
  unfold Session.create
  refine Truncates.bind_ok_at device (fun d m made left => ?_) (fun _ => rfl) fun e _ => .intro e
  simp only [Session.onBackend, Act.run_onPart] at made left ⊢
  have same : d.id = id := Device.id_of_create made
  generalize ((Device.create tracer id r).run s.backend).state = t at left ⊢
  refine truncated_get rfl ?_
  cases inserted : s.registry.insert? d with
  | some registry =>
    have registered : Truncates (fun a => s.registry.get? id = none → Failed a) (do
        Session.modifyRegistry fun _ => registry
        return .ok () : Doing (Except ReplayError Unit)) :=
      .fitting_bind (modifyRegistry_truncates _) fun _ => .pure _
    exact registered m _ left
  | none =>
    have taken : s.registry.get? id ≠ none := fun new => by
      rw [Registry.insert?, Registry.contains_eq, same, new] at inserted
      cases inserted
    have returned : Truncates (fun _ => True) (do
        Act.log (.warning (.alreadyRegistered id))
        let _ ← Session.onBackend (d.close tracer)
        return .ok () : Doing (Except ReplayError Unit)) :=
      .fitting_bind (.log rfl) fun _ =>
        .any_bind (onBackend_truncates (close_truncates d)) fun _ => .pure _
    exact returned.mono (fun _ _ new => absurd new taken) m _ left

private theorem session_create_truncates (id : DeviceId) (r : Registration) :
    Truncates (fun _ => True) (Session.create tracer id r) :=
  fun _ _ left => (session_create_truncated left id r).mono fun _ _ => trivial

private theorem process_truncates (e : Event) : Truncates Failed (Session.process tracer e) := by
  intro n s left
  refine truncated_get rfl ?_
  cases found : s.registry.get? e.id with
  | none =>
    cases e.action with
    | register r =>
      have created : Truncated Failed n ((Session.create tracer e.id r).run s)
          ((Session.create tracer e.id r).run (unlimited s)) :=
        (session_create_truncated left e.id r).mono fun _ failed => failed found
      exact created
    | inject | delay | sync => exact Truncates.fitting_bind (.log rfl) (fun _ => .pure _) n s left
  | some d =>
    cases e.action with
    | register r => exact Truncates.fitting_bind (.log rfl) (fun _ => .pure _) n s left
    | inject events =>
      have sent : Truncates Failed (Session.onBackend (d.inject tracer events) : Doing _) :=
        onBackend_truncates (command_truncates d .inject (.inject d.handle events))
      exact sent n s left
    | sync token =>
      have sent : Truncates Failed (Session.onBackend (d.sync tracer token) : Doing _) :=
        onBackend_truncates (command_truncates d .sync (.sync d.handle token))
      exact sent n s left
    | delay millis =>
      have waited := onBackend_truncates (delay_truncates d millis)
      refine waited.bind ?_ ?_ n s left
      · rintro ⟨answer, d⟩
        exact .fitting_bind (modifyRegistry_truncates _) fun _ => .pure _
      · rintro ⟨answer, d⟩ failed t
        exact failed

private theorem processAll_truncates (failure : Option ParseError) (ds : List Delivery) :
    Truncates Failed (Session.processAll tracer failure ds) := by
  induction ds with
  | nil => exact .pure _
  | cons d ds ih =>
    have silent : effects (d.warnings.map .warning : List (Entry (List UInt8))) = [] := by
      simp [effects, Entry.effect?]
    refine .fitting_bind (.logAll silent) fun _ => ?_
    exact .bind_ok (process_truncates d.event) (fun _ => ih) (fun _ => rfl) fun _ => .intro _

private theorem shutdown_truncates : Truncates (fun _ => True) (Session.shutdown tracer) := by
  intro n s left
  refine truncated_get rfl ?_
  have closed : Truncates (fun _ => True) (s.registry.closeAll tracer) :=
    .any_bind (closeEach_truncates _) fun _ => .pure _
  exact (onBackend_truncates closed).any_bind (fun _ => modifyRegistry_truncates _) n s left

private theorem perform_truncates (request : Session.Request) :
    Truncates (fun _ => True) (Session.perform tracer request) := by
  cases request with
  | run f =>
    refine .any_bind (processAll_truncates f.failure f.deliveries) fun _ => ?_
    exact .any_bind shutdown_truncates fun _ => .pure _
  | process e => exact (process_truncates e).mono fun _ _ => trivial
  | register e =>
    obtain ⟨id, action⟩ := e
    cases action with
    | register r => exact session_create_truncates id r
    | inject | delay | sync => exact .pure _
  | shutdown => exact .any_bind shutdown_truncates fun _ => .pure _

private theorem performAll_truncates (requests : List Session.Request) :
    Truncates (fun _ => True) (Session.performAll tracer requests) := by
  induction requests with
  | nil => exact .pure _
  | cons request requests ih =>
    exact .any_bind (perform_truncates request) fun _ => .any_bind ih fun _ => .pure _

private theorem lifetime_truncates (requests : List Session.Request) :
    Truncates (fun _ => True) (Session.lifetime tracer requests) :=
  .any_bind (performAll_truncates requests) fun _ =>
    .any_bind shutdown_truncates fun _ => .pure _

end Sessions

def closes (line : List UInt8) : Bool :=
  match line? line with
  | some (c, _) => c.kind = .close
  | none => false

private theorem closes_of_mem_told {c : Call} {line : List UInt8} (h : line ∈ told c) :
    closes line = decide (c.kind = .close) := by
  obtain ⟨v, json, rfl⟩ : ∃ v, c.json? = some v ∧ v.line = line := by simpa [told] using h
  have read := line?_line json []
  rw [List.append_nil] at read
  rw [closes, read]

/-- The lines that are left when those of close calls are taken out. -/
private theorem filter_told (calls : List Call) :
    (calls.flatMap told).filter (fun line => !closes line) =
      (calls.filter (·.kind ≠ .close)).flatMap told := by
  induction calls with
  | nil => rfl
  | cons c calls ih =>
    rw [List.flatMap_cons, List.filter_append, ih, List.filter_cons]
    have own : (told c).filter (fun line => !closes line) =
        (told c).filter (fun _ => c.kind ≠ .close) :=
      List.filter_congr fun line hl => by simp [closes_of_mem_told hl]
    rw [own]
    by_cases close : c.kind = .close <;> simp [close]

open Recorder in
/-- What a run writes before it closes its devices: all lines but those of close calls. -/
private theorem effects_processAll (ds : List Delivery) :
    let work := (Session.processAll tracer none ds).run { backend := {} }
    let whole := (Session.runFeed tracer ⟨ds, none⟩).run { backend := {} }
    work.answer = .ok () ∧
      effects work.log = (effects whole.log).filter (fun line => !closes line) := by
  intro work whole
  have any : Feed.Fits (fun _ => True) ⟨ds, none⟩ := fun _ _ _ _ => trivial
  have endless : Sink.Unlimited {} := ⟨rfl, rfl⟩
  obtain ⟨answer, lines⟩ := compliant.leaves_due (compliant.simulation.processAll none any) endless
  obtain ⟨-, allLines⟩ := compliant.runFeed any endless
  obtain ⟨sweep, log, -, noClose, onlyClose, -⟩ := runFeed_parts neverFails ⟨ds, none⟩
  rw [List.flatMap_singleton'] at lines allLines
  refine ⟨answer.trans (processAll_never none ds underway_new), ?_⟩
  rw [lines, allLines, filter_told, log, calls_append, List.filter_append]
  have kept : (calls _).filter (·.kind ≠ .close) = calls _ :=
    List.filter_eq_self.mpr fun c hc => by simpa using kind_of_mem_calls noClose hc
  have left : (calls sweep).filter (·.kind ≠ .close) = [] :=
    List.filter_eq_nil_iff.mpr fun c hc => by simpa using kind_of_mem_calls onlyClose hc
  rw [kept, left, List.append_nil]

open Recorder in
/-- A full sink only truncates the trace. What a session writes to a sink with limited room, whatever
it does once the sink is full, is the start of what it writes to a sink without limit; and a run of a
script that is read to its end succeeds just if there is room for all lines but those that its
devices are closed with. -/
theorem full_sink_truncates (limit : Nat) (requests : List Session.Request) (ds : List Delivery) :
    (let cut := (Session.lifetime tracer requests).run { backend := { room := some limit } }
      let whole := (Session.lifetime tracer requests).run { backend := {} }
      (effects cut.log).flatten = (effects whole.log).flatten.take limit) ∧
    (let cut := (Session.runFeed tracer ⟨ds, none⟩).run { backend := { room := some limit } }
      let whole := (Session.runFeed tracer ⟨ds, none⟩).run { backend := {} }
      cut.answer = .ok () ↔
        ((effects whole.log).filter fun line => !closes line).flatten.length ≤ limit) := by
  have left : room limit ({ backend := { room := some limit } } : Session Sink DeviceId) :=
    ⟨rfl, rfl⟩
  constructor
  · intro cut whole
    cases lifetime_truncates requests limit _ left with
    | fits m _ _ log _ length =>
      have enough : (written cut.log).length ≤ limit := Nat.le.intro length
      have same : whole.log = cut.log := log
      rw [same]
      exact (List.take_of_length_le enough).symm
    | full _ _ bytes _ => exact bytes
  · intro cut whole
    obtain ⟨done, lines⟩ := effects_processAll ds
    have ends : cut.answer = ((Session.processAll tracer none ds).run
      { backend := { room := some limit } }).answer := rfl
    have truncated : Truncated Failed limit
        ((Session.processAll tracer none ds).run { backend := { room := some limit } })
        ((Session.processAll tracer none ds).run { backend := {} }) :=
      processAll_truncates none ds limit _ left
    rw [ends, ← lines]
    generalize (Session.processAll tracer none ds).run { backend := {} } = work at done truncated ⊢
    cases truncated with
    | fits m answer _ log _ length =>
      rw [← answer, log]
      exact iff_of_true done (Nat.le.intro length)
    | full failed _ _ more =>
      refine iff_of_false (fun success => ?_) (Nat.not_le.mpr more)
      rw [success] at failed
      cases failed

end ScriptedInput.Trace

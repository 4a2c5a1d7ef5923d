import ScriptedInput.Proofs.Backend.Uinput.Faults
import ScriptedInput.Proofs.Commands.Fields
import ScriptedInput.Proofs.Text.Utf8

/-! The program of requests that creates a device. Creation goes through it in order, up to the first
request that fails; a port that cannot be handed on ends it before the device is named and made. -/
namespace ScriptedInput.Uinput

/-- The requests for the capabilities of a device, in the order of its configuration, and for its
axes, in ascending order of their codes. -/
def properties (r : Registration) : List (Request × Argument) :=
  (r.configuration.flatMap fun entry =>
    entry.codes.map fun code => (.setBit entry.setter, .code code)) ++
  r.axes.entries.map fun axis => (.absSetup, .axis axis.1 axis.2)

/-- A name in 80 bytes, of which the last is zero whatever the name. -/
def paddedName (name : String) : List UInt8 :=
  let bytes := Text.encode name
  let kept := min 79 bytes.length
  bytes.take kept ++ List.replicate (80 - kept) 0

def program (r : Registration) : List (Request × Argument) :=
  properties r ++ (r.port.toList.map fun port => (.setPhys, .path (Text.encode port))) ++ [
    (.devSetup, .setup {
      bus := r.bus.raw, vendor := r.vendor, product := r.product, version := r.version,
      name := paddedName r.name, ffEffectsMax := r.ffEffectsMax }),
    (.devCreate, .none)]

structure Issued where
  request : Request
  argument : Argument
  errno : Option Nat

namespace Issued

def effect (q : Issued) : Effect := .request q.request q.argument q.errno

def asked (q : Issued) : Request × Argument := (q.request, q.argument)

end Issued

private theorem nameField_eq (name : String) : nameField name = paddedName name := by
  have kept : ((Text.encode name).take 79).length = min 79 (Text.encode name).length :=
    List.length_take
  rw [nameField, paddedName, nameSize, kept, ← List.take_eq_take_min]

private theorem program_eq (r : Registration) : capabilityRequests r ++ axisRequests r ++
    (portRequests r ++ setupRequests r) = program r := by
  have port : portRequests r = r.port.toList.map fun port => (.setPhys, .path (Text.encode port)) := by
    unfold portRequests
    cases r.port <;> rfl
  rw [program, ← List.append_assoc, port, setupRequests, Setup.ofRegistration, nameField_eq]
  rfl

/-- The byte zero of a text is a character of its own. -/
private theorem zero_mem_encode (s : String) : 0 ∈ Text.encode s ↔ s.toList.any (·.toNat = 0) := by
  simp only [Text.encode, List.mem_flatMap, List.any_eq_true, decide_eq_true_eq]
  refine exists_congr fun c => and_congr_right fun _ => ⟨fun zero => ?_, fun zero => ?_⟩
  · rcases Text.toNat_of_mem_utf8EncodeChar zero with same | large
    · exact same.symm
    · exact absurd large (by decide)
  · rw [Text.utf8EncodeChar_of_lt (zero ▸ by decide), zero]
    exact List.mem_singleton_self _

/-- Requests after others are made if none of these fails. -/
private theorem Node.requestAll_append (rs qs : List (Request × Argument)) :
    Node.requestAll (rs ++ qs) = (do
      match ← Node.requestAll rs with
      | .error e => return .error e
      | .ok () => Node.requestAll qs) := by
  induction rs with
  | nil => rfl
  | cons q rs ih =>
    rw [List.cons_append, Node.requestAll, Node.requestAll, ih]
    funext n
    change Act.run _ n = Act.run _ n
    simp only [Act.run_bind]
    cases ((Node.request q.1 q.2).run n).answer with
    | error e => simp only [Act.run_pure, List.append_nil]
    | ok => simp only [Act.run_bind, List.append_assoc]

def intended (r : Registration) : List (Request × Argument) :=
  if portHasNul r then properties r else program r

private theorem intended_starts_program (r : Registration) : intended r <+: program r := by
  unfold intended
  split
  · rw [program, List.append_assoc]
    exact List.prefix_append _ _
  · exact List.prefix_refl _

/-- A creation that ends early leaves requests out. -/
private theorem intended_eq_program_iff (r : Registration) :
    intended r = program r ↔ portHasNul r = false := by
  unfold intended
  split
  · next nul =>
    have shorter : (properties r).length < (program r).length := by
      simp only [program, List.length_append, List.length_cons]
      omega
    exact ⟨fun same => absurd (congrArg List.length same) (Nat.ne_of_lt shorter), by simp [nul]⟩
  · next nul => exact ⟨fun _ => Bool.not_eq_true _ ▸ nul, fun _ => rfl⟩

private theorem portHasNul_iff (r : Registration) :
    portHasNul r ↔ ∃ port, r.port = some port ∧ 0 ∈ Text.encode port := by
  unfold portHasNul
  cases r.port with
  | none => simp
  | some port => simp [zero_mem_encode]

def given (id : DeviceId) (r : Registration) : Except BackendError Handle :=
  if portHasNul r then .error (.rejected (.nulInPort (r.port.getD "")))
  else .ok { id, forceFeedback := 0 < r.ffEffectsMax }

private theorem given_eq_ok {id : DeviceId} {r : Registration} {h : Handle} (made : given id r = .ok h) :
    portHasNul r = false := by
  unfold given at made
  split at made
  · cases made
  · next nul => exact Bool.not_eq_true _ ▸ nul

private theorem run_create {node : Node} (opens : node.openFailure = none) (id : DeviceId)
    (r : Registration) :
    let made := (Node.requestAll (intended r)).run node
    (create id r).run node = ⟨made.answer.bind fun _ => given id r, made.state, made.log⟩ := by
  intro made
  simp only [create, Act.run_bind, Act.run_get, opens, List.nil_append]
  cases nul : portHasNul r with
  | true =>
    have all : intended r = capabilityRequests r ++ axisRequests r := if_pos nul
    simp only [made, all, given, nul, if_true]
    cases ((Node.requestAll (capabilityRequests r ++ axisRequests r)).run node).answer with
    | error e => simp [Except.bind]
    | ok => simp [Except.bind]
  | false =>
    have all : intended r =
        capabilityRequests r ++ axisRequests r ++ (portRequests r ++ setupRequests r) := by
      rw [intended, nul, program_eq]
      rfl
    simp only [made, all, given, nul, Bool.false_eq_true, if_false,
      Node.requestAll_append _ (_ ++ setupRequests r), Act.run_bind]
    cases ((Node.requestAll (capabilityRequests r ++ axisRequests r)).run node).answer with
    | error e => simp [Except.bind]
    | ok =>
      simp only [Act.run_bind]
      cases ((Node.requestAll (portRequests r ++ setupRequests r)).run
        ((Node.requestAll (capabilityRequests r ++ axisRequests r)).run node).state).answer with
      | error e => simp [Except.bind]
      | ok => simp [Except.bind]

/-- A handle that was given out is that of a new device. -/
theorem handle_of_create {id : DeviceId} {r : Registration} {node : Node} {h : Handle}
    (made : ((create id r).run node).answer = .ok h) :
    h = { id, forceFeedback := 0 < r.ffEffectsMax } := by
  cases opens : node.openFailure with
  | some errno => simp [create, opens] at made
  | none =>
    rw [run_create opens] at made
    obtain ⟨-, -, made⟩ := bind_eq_ok_iff.mp made
    unfold given at made
    split at made
    · cases made
    · exact (Except.ok.inj made).symm

/-- How going through requests ends: with an answer of its own after the last of them, or with the
failure of the first that fails. -/
inductive Ended (rs : List (Request × Argument)) (answer : Except BackendError Handle) :
    List Issued → Except BackendError Handle → Prop where
  | whole {issued : List Issued} (asked : issued.map Issued.asked = rs)
    (ok : ∀ q ∈ issued, q.errno = none) : Ended rs answer issued answer
  | stopped {before : List Issued} {last : Issued} {errno : Nat}
    (asked : (before ++ [last]).map Issued.asked <+: rs) (ok : ∀ q ∈ before, q.errno = none)
    (failed : last.errno = some errno) :
    Ended rs answer (before ++ [last]) (.error (.os last.request.name (.os errno)))

namespace Ended
variable {rs : List (Request × Argument)} {answer given : Except BackendError Handle}
  {issued : List Issued}

private theorem starts (h : Ended rs given issued answer) : issued.map Issued.asked <+: rs := by
  cases h with
  | whole asked => exact asked ▸ List.prefix_refl _
  | stopped asked => exact asked

private theorem finished (h : Ended rs given issued answer) (ok : ∀ q ∈ issued, q.errno = none) :
    issued.map Issued.asked = rs ∧ answer = given := by
  cases h with
  | whole asked => exact ⟨asked, rfl⟩
  | @stopped before last _ _ _ failed =>
    rw [ok last (List.mem_append_right before (List.mem_singleton_self last))] at failed
    cases failed

/-- What succeeds went through all requests without a failure. -/
private theorem succeeded {k : Handle} (h : Ended rs given issued answer) (made : answer = .ok k) :
    issued.map Issued.asked = rs ∧ (∀ q ∈ issued, q.errno = none) ∧ given = .ok k := by
  cases h with
  | whole asked ok => exact ⟨asked, ok, made⟩
  | stopped => cases made

/-- The request that fails is the last. -/
private theorem failing {q : Issued} {errno : Nat} (h : Ended rs given issued answer) (issue : q ∈ issued)
    (failed : q.errno = some errno) :
    issued.getLast? = some q ∧ answer = .error (.os q.request.name (.os errno)) := by
  cases h with
  | whole _ ok => cases (ok q issue).symm.trans failed
  | @stopped before last n _ ok broken =>
    rcases List.mem_append.mp issue with early | own
    · cases (ok q early).symm.trans failed
    · obtain rfl := List.mem_singleton.mp own
      obtain rfl := Option.some.inj (broken.symm.trans failed)
      exact ⟨List.getLast?_concat, rfl⟩

end Ended

private theorem create_ended {node : Node} (opens : node.openFailure = none) (id : DeviceId)
    (r : Registration) :
    let done := (create id r).run node
    ∃ issued : List Issued, done.log = issued.map Issued.effect ∧
      Ended (intended r) (given id r) issued done.answer := by
  intro done
  have run : done = _ := run_create opens id r
  let succeeded (q : Request × Argument) : Issued := ⟨q.1, q.2, none⟩
  have asked (rs : List (Request × Argument)) : (rs.map succeeded).map Issued.asked = rs := by
    rw [List.map_map]
    exact List.map_id' rs
  have all (rs : List (Request × Argument)) : ∀ q ∈ rs.map succeeded, q.errno = none :=
    List.forall_mem_map.mpr fun _ _ => rfl
  rcases Node.requestAll_cases (intended r) node with
    ⟨answer, log⟩ | ⟨before, last, errno, after, answer, split, log⟩
  · refine ⟨(intended r).map succeeded, ?_, ?_⟩
    · rw [run, log, List.map_map]
      rfl
    · rw [run, answer]
      exact .whole (asked _) (all _)
  · refine ⟨before.map succeeded ++ [⟨last.1, last.2, some errno⟩], ?_, ?_⟩
    · rw [run, log, List.map_append, List.map_map]
      rfl
    · rw [run, answer]
      refine .stopped ?_ (all before) rfl
      rw [List.map_append, asked, split]
      exact (List.prefix_append_right_inj before).mpr ⟨after, rfl⟩

/-- Each setter has a number of its own. -/
private theorem setBit_number_injective {s s' : Setter}
    (same : (Request.setBit s).number = (Request.setBit s').number) : s = s' := by
  have number (s : Setter) : (Request.setBit s).number = 0x40045500 + s.controlCode := by
    cases s <;> rfl
  rw [number, number, Nat.add_right_inj] at same
  have codes := s.ofControlCode?_controlCode
  rw [same, s'.ofControlCode?_controlCode] at codes
  exact (Option.some.inj codes).symm

/-- Creation follows a fixed program of requests and stops at the first that fails, whatever the node
has fail. The requests that are issued are the first of the program, and each fails or not as the
node has it. The device is created if and only if the whole program was issued without a failure. A
request that fails is the last, and the error names it. A port with a zero byte lets no request
through but those for capabilities and axes, and if none of these fails it is what the creation is
refused for; otherwise the program goes on as long as no request fails. -/
theorem creation_follows_program {node : Node} (opens : node.openFailure = none) (id : DeviceId)
    (r : Registration) :
    let done := (create id r).run node
    ∃ issued : List Issued, done.log = issued.map Issued.effect ∧
      node.Foretells done.log ∧
      issued.map Issued.asked <+: program r ∧
      ((∃ h, done.answer = .ok h) ↔
        issued.map Issued.asked = program r ∧ ∀ q ∈ issued, q.errno = none) ∧
      (∀ q ∈ issued, ∀ errno, q.errno = some errno →
        issued.getLast? = some q ∧ done.answer = .error (.os q.request.name (.os errno))) ∧
      (∀ port, r.port = some port → 0 ∈ Text.encode port →
        issued.map Issued.asked <+: properties r ∧
        ((∀ q ∈ issued, q.errno = none) → issued.map Issued.asked = properties r ∧
          done.answer = .error (.rejected (.nulInPort port)))) ∧
      ((∀ port, r.port = some port → 0 ∉ Text.encode port) →
        (∀ q ∈ issued, q.errno = none) → issued.map Issued.asked = program r) ∧
      ∀ s s' : Setter, (Request.setBit s).number = (Request.setBit s').number → s = s' := by
  intro done
  obtain ⟨issued, log, ended⟩ := create_ended opens id r
  have foretold : node.Foretells done.log := by
    have tracked := node.requestAll_keeps (intended r) [] node (.start node)
    rw [show done = _ from run_create opens id r]
    exact tracked.foretold
  refine ⟨issued, log, foretold, ended.starts.trans (intended_starts_program r), ⟨?_, ?_⟩,
    fun q issue errno failed => ended.failing issue failed, ?_, ?_,
    fun _ _ => setBit_number_injective⟩
  · rintro ⟨h, made⟩
    obtain ⟨asked, ok, made⟩ := ended.succeeded made
    exact ⟨asked.trans ((intended_eq_program_iff r).mpr (given_eq_ok made)), ok⟩
  · rintro ⟨whole, ok⟩
    obtain ⟨asked, answer⟩ := ended.finished ok
    have nul := (intended_eq_program_iff r).mp (asked.symm.trans whole)
    exact ⟨_, answer.trans (if_neg (by simp [nul]))⟩
  · intro port named zero
    have nul : portHasNul r := (portHasNul_iff r).mpr ⟨port, named, zero⟩
    have short : intended r = properties r := if_pos nul
    refine ⟨short ▸ ended.starts, fun ok => ?_⟩
    obtain ⟨asked, answer⟩ := ended.finished ok
    refine ⟨short ▸ asked, answer.trans ?_⟩
    rw [given, if_pos nul, named, Option.getD_some]
  · intro nowhere ok
    have nul : portHasNul r = false := by
      rw [← Bool.not_eq_true, portHasNul_iff]
      exact fun ⟨port, named, zero⟩ => nowhere port named zero
    exact (ended.finished ok).1.trans ((intended_eq_program_iff r).mpr nul)

def stick : Registration where
  name := String.ofList ('S' :: List.replicate 40 'ß')
  vendor := 1
  product := 2
  configuration := [⟨.evBit, [3]⟩, ⟨.absBit, [0, 1]⟩]
  axes := .ofList [(1, { maximum := 255 }), (0, { minimum := -1 })]
  port := some "usb"

def oneAxis : Node where
  faults r n := if r = .absSetup ∧ n = 1 then some 22 else none

theorem stick_stopped : oneAxis.openFailure = none ∧
    ∃ issued : List Issued, ((create 1 stick).run oneAxis).log = issued.map Issued.effect ∧
      issued.map Issued.asked <+: program stick ∧ issued.length = 5 ∧
      ⟨.absSetup, .axis 1 { maximum := 255 }, some 22⟩ ∈ issued ∧
      ((create 1 stick).run oneAxis).answer = .error (.os "UI_ABS_SETUP" (.os 22)) := by
  have opens : oneAxis.openFailure = none := rfl
  obtain ⟨issued, log, -, cut, -, failing, -⟩ := creation_follows_program opens 1 stick
  have told : ((create 1 stick).run oneAxis).log = [
      .request (.setBit .evBit) (.code 3) none, .request (.setBit .absBit) (.code 0) none,
      .request (.setBit .absBit) (.code 1) none, .request .absSetup (.axis 0 { minimum := -1 }) none,
      .request .absSetup (.axis 1 { maximum := 255 }) (some 22)] := by decide
  have refused : (⟨.absSetup, .axis 1 { maximum := 255 }, some 22⟩ : Issued).effect ∈
      issued.map Issued.effect := by
    rw [← log, told]
    simp [Issued.effect]
  obtain ⟨⟨r, argument, errno⟩, member, same⟩ := List.mem_map.mp refused
  cases same
  refine ⟨opens, issued, log, cut, ?_, member, (failing _ member 22 rfl).2⟩
  rw [← List.length_map Issued.effect, ← log, told]
  rfl

end ScriptedInput.Uinput

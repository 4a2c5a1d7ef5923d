import ScriptedInput.Proofs.Backend.Trace.Fields
import ScriptedInput.Proofs.Session.Compliance

/-! Traces are read back: the lines that a session writes to a sink that takes everything give the
calls that were made, one line for each. -/
namespace ScriptedInput
open Json (Value)
open Json.Value (Plain plain_nat plain_int32 plain_uint16 plain_uint32)

variable {depth : Nat}

private theorem RawEvent.plain_json (e : RawEvent) : Plain (depth + 1) e.json :=
  .ofMembers (by simp [plain_uint16, plain_int32])

private theorem ConfigEntry.plain_json (e : ConfigEntry) : Plain (depth + 2) e.json := by
  have codes : Plain (depth + 1) (.array (e.codes.map fun c => .int c.toNat)) :=
    .array (List.forall_mem_map.mpr fun c _ => plain_uint16 c)
  exact .ofMembers (by simp [codes, Plain.string])

private theorem Bus.plain_json (b : Bus) : Plain (depth + 1) b.json := by
  cases b with
  | other raw => exact .ofMembers (by simp [plain_uint16])
  | usb | bluetooth | virtual => exact .string _

private theorem Registration.plain_json (r : Registration) : Plain (depth + 4) r.json := by
  have configuration : Plain (depth + 3) (.array (r.configuration.map (·.json))) :=
    .array (List.forall_mem_map.mpr fun e _ => e.plain_json)
  have axes :
      Plain (depth + 3) (.ofMembers (r.axes.entries.map fun e => (toString e.1, e.2.json))) :=
    .ofMembers (List.forall_mem_map.mpr fun e _ => e.2.plain_json)
  cases hp : r.port <;>
    exact .ofMembers (by
      simp [hp, configuration, axes, r.bus.plain_json, plain_uint16, plain_uint32, Plain.null,
        Plain.string])

/-- Calls are written as plain objects. -/
theorem Call.plain_json {c : Call} {v : Value} (h : c.json? = some v) :
    ∃ members, v = .object members ∧ Plain (depth + 5) (.object members) := by
  cases c with
  | create id r =>
    cases h
    have registration : Plain (depth + 4) r.json := r.plain_json
    exact ⟨_, rfl, .ofMembers (by simp [registration, plain_int32, Plain.string])⟩
  | inject id events =>
    cases h
    have events : Plain (depth + 4) (.array (events.map (·.json))) :=
      .array (List.forall_mem_map.mpr fun e _ => e.plain_json)
    exact ⟨_, rfl, .ofMembers (by simp [events, plain_int32, Plain.string])⟩
  | delay id millis =>
    cases h
    have millis : Plain (depth + 4) (.int millis.toNat) := plain_nat millis.toNat_lt
    exact ⟨_, rfl, .ofMembers (by simp [millis, plain_int32, Plain.string])⟩
  | idle id => cases h
  | sync id token =>
    cases h
    exact ⟨_, rfl, .ofMembers (by simp [plain_int32, Plain.string])⟩
  | close id =>
    cases h
    exact ⟨_, rfl, .ofMembers (by simp [plain_int32, Plain.string])⟩

theorem Call.json?_eq_none_iff {c : Call} : c.json? = none ↔ c.kind = .idle := by
  cases c <;> simp [json?, kind]

namespace Trace

def line? (bytes : List UInt8) : Option (Call × List UInt8) :=
  match Json.pull none { bytes } with
  | .value v ⟨_, 10 :: rest⟩ => (Call.ofJson? v).map fun c => (c, rest)
  | _ => none

private theorem length_lt_of_line? {bytes rest : List UInt8} {c : Call}
    (h : line? bytes = some (c, rest)) : rest.length < bytes.length := by
  unfold line? at h
  split at h
  · next v p left pulled =>
    have shorter := Json.length_lt_of_pull pulled
    obtain ⟨_, _, same⟩ := Option.map_eq_some_iff.mp h
    obtain ⟨-, rfl⟩ := Prod.mk.inj same
    exact Nat.lt_of_succ_lt shorter
  · cases h

def read? (bytes : List UInt8) : Option (List Call) :=
  if bytes.isEmpty then some []
  else match _ : line? bytes with
    | none => none
    | some (c, rest) => (read? rest).map (c :: ·)
termination_by bytes.length
decreasing_by exact length_lt_of_line? ‹_›

def told (c : Call) : List (List UInt8) := (c.json?.map (·.line)).toList

theorem line?_line {c : Call} {v : Value} (h : c.json? = some v) (rest : List UInt8) :
    line? (v.line ++ rest) = some (c, rest) := by
  obtain ⟨members, rfl, plain⟩ := Call.plain_json h
  obtain ⟨q, pulled⟩ := Json.pull_text plain none {} (10 :: rest)
  have bytes : (Value.object members).line ++ rest =
      Text.bytesOf (Value.object members).text ++ 10 :: rest := by
    rw [Value.line, Value.compact, Text.encode_ofList, List.append_assoc, List.singleton_append]
  rw [line?, bytes, pulled]
  simp only [Call.ofJson?_json h, Option.map_some]

private theorem read?_line {c : Call} {v : Value} (h : c.json? = some v) (rest : List UInt8) :
    read? (v.line ++ rest) = (read? rest).map (c :: ·) := by
  have more : ¬ (v.line ++ rest).isEmpty := by simp [Value.line]
  rw [read?, if_neg more]
  split
  · next none => rw [line?_line h] at none; cases none
  · next c' rest' found =>
    rw [line?_line h] at found
    cases found
    rfl

/-- The lines of calls tell these calls in order, apart from those made during a wait. -/
theorem read?_told (calls : List Call) :
    read? (calls.flatMap told).flatten = some (calls.filter (·.kind ≠ .idle)) := by
  induction calls with
  | nil => simp [read?]
  | cons c calls ih =>
    rw [List.flatMap_cons, List.flatten_append]
    cases hv : c.json? with
    | none =>
      have idle := Call.json?_eq_none_iff.mp hv
      simpa [told, hv, idle] using ih
    | some v =>
      have traced : c.kind ≠ .idle := by
        rw [Ne, ← Call.json?_eq_none_iff, hv]
        simp
      have line : (told c).flatten = v.line := by simp [told, hv]
      rw [line, read?_line hv, ih, List.filter_cons_of_pos (by simpa using traced), Option.map_some]

def Sink.Unlimited (s : Sink) : Prop := s.room = none ∧ s.flushFailure = none

theorem run_write_unlimited (line : List UInt8) (flushes : Nat) :
    (write line).run { flushes } = ⟨.ok (), { flushes := flushes + 1 }, [line]⟩ := by
  simp [write, Sink.accepts]

private theorem write_leaves (line : List UInt8) :
    (write line).Leaves (fun l => [l]) Sink.Unlimited (· = .ok ()) [line] := by
  rintro ⟨_, flushes, _⟩ ⟨rfl, rfl⟩
  rw [run_write_unlimited]
  exact ⟨rfl, ⟨rfl, rfl⟩, rfl⟩

theorem emit_leaves (c : Call) :
    (emit c).Leaves (fun l => [l]) Sink.Unlimited (· = .ok ()) (told c) := by
  rw [emit, told]
  cases c.json? with
  | none => exact .pure rfl
  | some v => exact write_leaves v.line

/-- Into a sink that takes everything, each call writes its line. -/
theorem compliant : tracer.Compliant Sink.Unlimited (fun _ => True) (fun id h => h = id)
    (fun l => [l]) told where
  create id _ := .bind_silent (emit_leaves (.create id _)) (by
    rintro _ rfl
    exact .pure ⟨id, rfl, rfl⟩)
  inject own events := own ▸ emit_leaves (.inject _ events)
  delay own millis := own ▸ emit_leaves (.delay _ millis)
  idle own := own ▸ emit_leaves (.idle _)
  sync own token := own ▸ emit_leaves (.sync _ token)
  close own := .bind_silent (own ▸ emit_leaves (.close _)) fun _ answer => .pure answer

end Trace
end ScriptedInput

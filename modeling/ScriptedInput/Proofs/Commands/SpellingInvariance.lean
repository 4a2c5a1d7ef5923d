import ScriptedInput.Proofs.Commands.Respelling

/-! The meaning of a command does not depend on how its numbers are spelled. Each record of a command is
read alike from respelled values, and records that are alike mean the same. -/
namespace ScriptedInput

open Json (Value)

structure ConfigDraft.Alike (d e : ConfigDraft) : Prop where
  type : Option.Rel Scalar.Alike d.type e.type
  data : List.Forall₂ Scalar.Alike d.data e.data

namespace ConfigDraft
variable {d e : ConfigDraft}

private theorem Alike.refl (d : ConfigDraft) : d.Alike d :=
  ⟨optional_refl Scalar.Alike.refl _, forall₂_refl Scalar.Alike.refl _⟩

private theorem Alike.set (h : d.Alike e) (key : String) {v w : Value}
    (respelled : (NumberLayout.configMember key).Respelled v w) :
    Agree Alike (d.set key v) (e.set key w) := by
  unfold NumberLayout.configMember at respelled
  unfold ConfigDraft.set
  split_ifs at respelled ⊢
  · exact (Scalar.reads.optional v w respelled).bind fun s t type => .ok { h with type }
  · exact (Scalar.reads.list .refl v w respelled).bind fun ss ts data => .ok { h with data }
  · exact .ok h

private theorem reads : Reads .configEntry Alike ofValue := by
  rintro v w (rfl | ⟨ms, ns, rfl, rfl, members⟩ | ⟨vs, ws, rfl, rfl, items⟩)
  · exact .refl Alike.refl _
  · exact reads_members Alike.set (.refl {}) members
  · cases items with
    | done => exact .error _ _
    | next type later =>
      have front := (Alike.refl {}).set "type" type
      cases later with
      | done => exact front
      | next data later =>
        cases later with
        | past rest =>
          refine front.bind fun d e h => (h.set "data" data).bind fun d e h => ?_
          split_ifs
          · exact .ok h
          · exact .error _ _

private theorem Alike.entry (h : d.Alike e) : Agree Eq d.entry e.entry := by
  refine (required_agree h.type _).bind fun s t type => ?_
  refine (Agree.of_eq (type.resolve _)).bind_eq fun number => ?_
  split
  · exact .error _ _
  · exact (Agree.mapM_eq h.data fun s t data => .of_eq (data.uint16 _)).bind_eq fun codes => .ok rfl

end ConfigDraft

namespace AxisInfoDraft
variable {d e : AxisInfoDraft}

def get (d : AxisInfoDraft) : AxisField → Option Scalar
  | .value => d.value
  | .minimum => d.minimum
  | .maximum => d.maximum
  | .fuzz => d.fuzz
  | .flat => d.flat
  | .resolution => d.resolution

theorem get_put (d : AxisInfoDraft) (f g : AxisField) (s : Option Scalar) :
    (d.put f s).get g = if f = g then s else d.get g := by
  cases f <;> cases g <;> rfl

def Alike (d e : AxisInfoDraft) : Prop := ∀ f, Option.Rel Scalar.Alike (d.get f) (e.get f)

private theorem Alike.refl (d : AxisInfoDraft) : d.Alike d := fun _ => optional_refl Scalar.Alike.refl _

private theorem Alike.set (h : d.Alike e) (f : AxisField) {v w : Value}
    (respelled : NumberLayout.number.Respelled v w) : Agree Alike (d.set f v) (e.set f w) := by
  refine (Scalar.reads.optional v w respelled).bind fun s t number => .ok fun g => ?_
  rw [get_put, get_put]
  split_ifs
  · exact number
  · exact h g

private theorem reads : Reads .axisInfo Alike ofValue := by
  rintro v w (rfl | ⟨ms, ns, rfl, rfl, members⟩ | ⟨vs, ws, rfl, rfl, items⟩)
  · exact .refl Alike.refl _
  · refine Agree.foldlM members (fun d e h m n ⟨key, respelled⟩ => ?_) (.refl {})
    rw [← key]
    split
    · next f found =>
      have label : f.label = m.1 := by simpa using List.find?_some found
      have number : m.1 ∈ NumberLayout.axisNumbers :=
        label ▸ List.mem_map_of_mem (List.mem_of_find?_eq_some found)
      rw [NumberLayout.axisNumber, if_pos number] at respelled
      exact h.set f respelled
    · exact .ok h
  · have numbers := items.zip
    refine (Agree.foldlM numbers (fun d e h a b ⟨field, respelled⟩ => ?_) (Alike.refl {})).bind
      fun d e h => ?_
    · have number : a.1.label ∈ NumberLayout.axisNumbers := by
        cases a.1 <;> decide
      rw [NumberLayout.axisNumber, if_pos number] at respelled
      exact field ▸ h.set a.1 respelled
    · rw [items.length_eq]
      split_ifs
      · exact .error _ _
      · exact .error _ _
      · exact .ok h

private theorem Alike.info (h : d.Alike e) : Agree Eq d.info e.info := by
  have number (f : AxisField) : Agree Eq (orDefault (d.get f) 0 (·.int32 (.axis f)))
      (orDefault (e.get f) 0 (·.int32 (.axis f))) :=
    orDefault_agree (h f) 0 fun s t alike => alike.int32 _
  refine (number .value).bind_eq fun value => ?_
  refine (number .minimum).bind_eq fun minimum => ?_
  refine (number .maximum).bind_eq fun maximum => ?_
  refine (number .fuzz).bind_eq fun fuzz => ?_
  refine (number .flat).bind_eq fun flat => ?_
  exact (number .resolution).bind_eq fun resolution => .ok rfl

end AxisInfoDraft

structure AxisDraft.Alike (d e : AxisDraft) : Prop where
  code : Option.Rel Scalar.Alike d.code e.code
  info : Option.Rel AxisInfoDraft.Alike d.info e.info

namespace AxisDraft
variable {d e : AxisDraft}

private theorem Alike.refl (d : AxisDraft) : d.Alike d :=
  ⟨optional_refl Scalar.Alike.refl _, optional_refl AxisInfoDraft.Alike.refl _⟩

private theorem Alike.set (h : d.Alike e) (key : String) {v w : Value}
    (respelled : (NumberLayout.axisMember key).Respelled v w) :
    Agree Alike (d.set key v) (e.set key w) := by
  unfold NumberLayout.axisMember at respelled
  unfold AxisDraft.set
  split_ifs at respelled ⊢
  · exact (Scalar.reads.optional v w respelled).bind fun s t code => .ok { h with code }
  · exact (AxisInfoDraft.reads.optional v w respelled).bind fun a b info => .ok { h with info }
  · exact .ok h

private theorem reads : Reads .axisEntry Alike ofValue := by
  rintro v w (rfl | ⟨ms, ns, rfl, rfl, members⟩ | ⟨vs, ws, rfl, rfl, items⟩)
  · exact .refl Alike.refl _
  · exact reads_members Alike.set (.refl {}) members
  · cases items with
    | done => exact .error _ _
    | next code later =>
      have front := (Alike.refl {}).set "code" code
      cases later with
      | done => exact front.bind fun _ _ _ => .error _ _
      | next info later =>
        cases later with
        | past rest =>
          refine front.bind fun d e h => (h.set "info" info).bind fun d e h => ?_
          split_ifs
          · exact .ok h
          · exact .error _ _

private theorem Alike.axis (h : d.Alike e) : Agree Eq d.axis e.axis := by
  refine (required_agree h.code _).bind fun s t code => ?_
  refine (Agree.of_eq (code.uint16 _)).bind_eq fun number => ?_
  exact (required_agree h.info _).bind fun a b info => info.info.bind_eq fun info => .ok rfl

end AxisDraft

private theorem triples_eq {ss ts : List Scalar} (h : List.Forall₂ Scalar.Alike ss ts) :
    triples ss = triples ts := by
  induction ss using triples.induct generalizing ts with
  | case1 type code value rest ih =>
    obtain _ | ⟨ht, _ | ⟨hc, _ | ⟨hv, hr⟩⟩⟩ := h
    rw [triples, triples, ht.uint16, hc.uint16, hv.int32, ih hr]
  | case2 ss few =>
    obtain _ | ⟨ht, _ | ⟨hc, _ | ⟨hv, hr⟩⟩⟩ := h
    · rfl
    · rfl
    · rfl
    · exact absurd rfl (few _ _ _ _)

private theorem rawEvents_eq {ss ts : List Scalar} (h : List.Forall₂ Scalar.Alike ss ts) :
    rawEvents ss = rawEvents ts := by
  rw [rawEvents, rawEvents, h.length_eq, triples_eq h]

structure Draft.Alike (d e : Draft) : Prop where
  id : Option.Rel Scalar.Alike d.id e.id
  command : d.command = e.command
  name : d.name = e.name
  vid : Option.Rel Scalar.Alike d.vid e.vid
  pid : Option.Rel Scalar.Alike d.pid e.pid
  version : Option.Rel Scalar.Alike d.version e.version
  bus : Option.Rel Scalar.Alike d.bus e.bus
  configuration : Option.Rel (List.Forall₂ ConfigDraft.Alike) d.configuration e.configuration
  ffEffectsMax : Option.Rel Scalar.Alike d.ffEffectsMax e.ffEffectsMax
  absInfo : Option.Rel (List.Forall₂ AxisDraft.Alike) d.absInfo e.absInfo
  port : d.port = e.port
  events : Option.Rel (List.Forall₂ Scalar.Alike) d.events e.events
  duration : Option.Rel Scalar.Alike d.duration e.duration
  syncToken : d.syncToken = e.syncToken

namespace Draft
variable {d e : Draft}

private theorem Alike.refl (d : Draft) : d.Alike d :=
  have number := optional_refl Scalar.Alike.refl
  { id := number _, command := rfl, name := rfl, vid := number _, pid := number _,
    version := number _, bus := number _,
    configuration := optional_refl (forall₂_refl ConfigDraft.Alike.refl) _,
    ffEffectsMax := number _, absInfo := optional_refl (forall₂_refl AxisDraft.Alike.refl) _,
    port := rfl, events := optional_refl (forall₂_refl Scalar.Alike.refl) _, duration := number _,
    syncToken := rfl }

private theorem Alike.set (h : d.Alike e) (f : Field) {v w : Value}
    (respelled : (NumberLayout.ofField f).Respelled v w) : Agree Alike (d.set f v) (e.set f w) := by
  have number := Scalar.reads.optional v w
  have text := reads_fixed (optional string) v w
  cases f with
  | id => exact (number respelled).bind fun s t id => .ok { h with id }
  | command => exact (text respelled).bind fun s t command => .ok { h with command := command ▸ rfl }
  | name => exact (text respelled).bind fun s t name => .ok { h with name := name ▸ rfl }
  | vid => exact (number respelled).bind fun s t vid => .ok { h with vid }
  | pid => exact (number respelled).bind fun s t pid => .ok { h with pid }
  | version => exact (number respelled).bind fun s t version => .ok { h with version }
  | bus => exact (number respelled).bind fun s t bus => .ok { h with bus }
  | configuration =>
    exact ((ConfigDraft.reads.list .refl).optional v w respelled).bind fun s t configuration =>
      .ok { h with configuration }
  | ffEffectsMax => exact (number respelled).bind fun s t ffEffectsMax => .ok { h with ffEffectsMax }
  | absInfo =>
    exact ((AxisDraft.reads.list .refl).optional v w respelled).bind fun s t absInfo =>
      .ok { h with absInfo }
  | port => exact (text respelled).bind fun s t port => .ok { h with port := port ▸ rfl }
  | events =>
    exact ((Scalar.reads.list .refl).optional v w respelled).bind fun s t events =>
      .ok { h with events }
  | duration => exact (number respelled).bind fun s t duration => .ok { h with duration }
  | syncToken =>
    exact (text respelled).bind fun s t syncToken => .ok { h with syncToken := syncToken ▸ rfl }

private theorem Alike.addMembers (h : d.Alike e) {ms ns : List (String × Value)}
    (members : List.Forall₂
      (fun m n => m.1 = n.1 ∧ (NumberLayout.commandMember m.1).Respelled m.2 n.2) ms ns)
    (seen : List Field) : Agree Alike (addMembers seen d ms) (addMembers seen e ns) := by
  induction members generalizing seen d e with
  | nil => exact .ok h
  | @cons m n ms ns first _ ih =>
    obtain ⟨key, v⟩ := m
    obtain ⟨key', w⟩ := n
    obtain ⟨rfl, respelled⟩ : key = key' ∧ (NumberLayout.commandMember key).Respelled v w := first
    -- With the same key both members are passed over, refused as given before, or read.
    rw [Draft.addMembers, Draft.addMembers]
    rw [NumberLayout.commandMember] at respelled
    cases field : Field.ofKey? key with
    | none => exact ih h seen
    | some f =>
      rw [field] at respelled
      dsimp only
      split_ifs
      · exact .error _ _
      · exact (h.set f respelled).bind fun d e h => ih h (f :: seen)

private theorem reads : Reads .command Alike ofValue := by
  rintro v w (rfl | ⟨ms, ns, rfl, rfl, members⟩ | ⟨vs, ws, rfl, rfl, items⟩)
  · exact .refl Alike.refl _
  · exact (Alike.refl {}).addMembers members []
  · cases items with
    | past => exact .error _ _

private theorem Alike.registration (h : d.Alike e) : Agree Eq d.registration e.registration := by
  rw [Draft.registration, Draft.registration, h.name, h.port]
  refine (Agree.of_eq rfl).bind_eq fun name => ?_
  refine (required_agree h.vid _).bind fun s t vid => ?_
  refine (Agree.of_eq (vid.uint16 _)).bind_eq fun vendor => ?_
  refine (required_agree h.pid _).bind fun s t pid => ?_
  refine (Agree.of_eq (pid.uint16 _)).bind_eq fun product => ?_
  refine (orDefault_agree h.version 0 fun s t alike => alike.uint16 _).bind_eq fun version => ?_
  refine (orDefault_agree h.bus .usb fun s t alike => alike.bus).bind_eq fun bus => ?_
  have entries := Agree.mapM_eq (getD_nil_related h.configuration) fun _ _ alike => alike.entry
  refine entries.bind_eq fun configuration => ?_
  refine (orDefault_agree h.ffEffectsMax 0 fun s t alike => alike.uint32 _).bind_eq fun count => ?_
  have axes := Agree.mapM_eq (getD_nil_related h.absInfo) fun _ _ alike => alike.axis
  exact axes.bind_eq fun axes => .ok rfl

private theorem Alike.action (h : d.Alike e) (command : Command) :
    Agree Eq (d.action command) (e.action command) := by
  cases command with
  | register => exact h.registration.bind_eq fun registration => .ok rfl
  | inject =>
    refine (required_agree h.events _).bind fun ss ts events => ?_
    exact (Agree.of_eq (rawEvents_eq events)).bind_eq fun events => .ok rfl
  | delay =>
    refine (required_agree h.duration _).bind fun s t duration => ?_
    exact (Agree.of_eq (duration.uint64 _)).bind_eq fun millis => .ok rfl
  | sync =>
    rw [Draft.action, Draft.action, h.syncToken]
    exact .of_eq rfl

private theorem Alike.event (h : d.Alike e) : Agree Eq d.event e.event := by
  refine (required_agree h.id _).bind fun s t id => ?_
  refine (Agree.of_eq (id.int32 _)).bind_eq fun id => ?_
  rw [h.command]
  refine (Agree.of_eq rfl).bind_eq fun name => ?_
  split
  · exact .error _ _
  · exact (h.action _).bind_eq fun action => .ok rfl

end Draft

/-- How the numbers of a command are spelled makes no difference to whether it is accepted, nor to the
event that it means. -/
theorem spelling_makes_no_difference {v w : Value} (h : NumberLayout.command.Respelled v w) (e : Event) :
    Event.ofValue v = .ok e ↔ Event.ofValue w = .ok e :=
  ((Draft.reads v w h).bind fun _ _ alike => alike.event).eq_ok_iff e

def pad : Event := ⟨-7, .register {
  name := "pad", vendor := 3, product := 0xabcd, bus := .bluetooth,
  configuration := [⟨.absBit, [1]⟩], axes := .ofList [(1, { minimum := -5, maximum := 255 })] }⟩

def inDigits : Value := .object [
  ("abs_info", .array [.object [
    ("code", .int 1), ("info", .array [.int 0, .int (-5), .int 255, .int 0, .int 0, .int 0])]]),
  ("bus", .int 5), ("command", .string "register"),
  ("configuration", .array [.array [.int 103, .array [.int 1]]]), ("id", .int (-7)),
  ("name", .string "pad"), ("pid", .int 0xabcd), ("vendorId", .int 3)]

def inWords : Value := .object [
  ("abs_info", .array [.object [
    ("code", .string "ABS_Y"),
    ("info", .array [.int 0, .string "-0x05", .int 255, .int 0, .int 0, .int 0])]]),
  ("bus", .string "BUS_BLUETOOTH\n"), ("command", .string "register"),
  ("configuration", .array [.array [.string "0X67", .array [.string "ABS_Y"]]]),
  ("id", .string "-007"), ("name", .string "pad"), ("pid", .string "0xaBcD"),
  ("vendorId", .string " 3 ")]

private theorem inWords_respelled : NumberLayout.command.Respelled inDigits inWords := by
  have number {n : Int} {s : String} (small : n.natAbs < 2 ^ 63) (before cs after : List Char)
      (parts : s.toList = before ++ cs ++ after) (blank : (before ++ after).all Text.isBlank)
      (wording : Scalar.Wording n cs) : NumberLayout.number.Respelled (.int n) (.string s) :=
    have blanks := List.forall_mem_append.mp (List.all_eq_true.mp blank)
    .inr ⟨n, small, .number, .text parts blanks.1 wording blanks.2⟩
  have member {key : String} (f : Field) (spelled : Field.ofKey? key = some f) {v w : Value}
      (h : (NumberLayout.ofField f).Respelled v w) :
      (NumberLayout.commandMember key).Respelled v w := by
    rw [NumberLayout.commandMember, spelled]
    exact h
  have code : NumberLayout.number.Respelled (.int 1) (.string "ABS_Y") :=
    number (by decide) [] "ABS_Y".toList [] rfl rfl
      (@Scalar.Wording.named "ABS_Y" 1 (by decide +kernel))
  have minimum : NumberLayout.number.Respelled (.int (-5)) (.string "-0x05") :=
    number (by decide) [] "-0x05".toList [] rfl rfl (@Scalar.Wording.negative 5 _
      (@Scalar.Magnitude.hexadecimal 'x' ['0', '5'] 2 5 (.inl rfl) rfl))
  have bus : NumberLayout.number.Respelled (.int 5) (.string "BUS_BLUETOOTH\n") :=
    number (by decide) [] "BUS_BLUETOOTH".toList ['\n'] rfl rfl
      (@Scalar.Wording.named _ 5 (by decide +kernel))
  have setter : NumberLayout.number.Respelled (.int 103) (.string "0X67") :=
    number (by decide) [] "0X67".toList [] rfl rfl (@Scalar.Wording.plain 103 _
      (@Scalar.Magnitude.hexadecimal 'X' ['6', '7'] 0 103 (.inr rfl) rfl))
  have id : NumberLayout.number.Respelled (.int (-7)) (.string "-007") :=
    number (by decide) [] "-007".toList [] rfl rfl (@Scalar.Wording.negative 7 _ (.decimal 3 7))
  have pid : NumberLayout.number.Respelled (.int 0xabcd) (.string "0xaBcD") :=
    number (by decide) [] "0xaBcD".toList [] rfl rfl (@Scalar.Wording.plain 0xabcd _
      (@Scalar.Magnitude.hexadecimal 'x' ['a', 'B', 'c', 'D'] 0 0xabcd (.inl rfl) rfl))
  have vid : NumberLayout.number.Respelled (.int 3) (.string " 3 ") :=
    number (by decide) [' '] ['3'] [' '] rfl rfl (@Scalar.Wording.plain 3 _ (.decimal 0 3))
  have same {l : NumberLayout} {v : Value} : l.Respelled v v := .refl l v
  have info : NumberLayout.axisInfo.Respelled
      (.array [.int 0, .int (-5), .int 255, .int 0, .int 0, .int 0])
      (.array [.int 0, .string "-0x05", .int 255, .int 0, .int 0, .int 0]) :=
    .inr (.inr ⟨_, _, rfl, rfl, .next same (.next minimum (.next same (.next same (.next same
      (.next same (.past []))))))⟩)
  refine .inr (.inl ⟨_, _, rfl, rfl, ?_⟩)
  refine .cons ⟨rfl, member .absInfo (by decide) (.inr ⟨_, _, rfl, rfl, .cons ?axis .nil⟩)⟩ ?_
  case axis => exact .inr (.inl ⟨_, _, rfl, rfl, .cons ⟨rfl, code⟩ (.cons ⟨rfl, info⟩ .nil)⟩)
  refine .cons ⟨rfl, member .bus (by decide) bus⟩ (.cons ⟨rfl, same⟩ ?_)
  refine .cons ⟨rfl, member .configuration (by decide) (.inr ⟨_, _, rfl, rfl, .cons ?entry .nil⟩)⟩ ?_
  case entry =>
    exact .inr (.inr ⟨_, _, rfl, rfl,
      .next setter (.next (.inr ⟨_, _, rfl, rfl, .cons code .nil⟩) (.past []))⟩)
  refine .cons ⟨rfl, member .id (by decide) id⟩ (.cons ⟨rfl, same⟩ ?_)
  exact .cons ⟨rfl, member .pid (by decide) pid⟩ (.cons ⟨rfl, member .vid (by decide) vid⟩ .nil)

theorem inWords_accepted : NumberLayout.command.Respelled inDigits inWords ∧
    Event.ofValue inDigits = .ok pad ∧ Event.ofValue inWords = .ok pad := by
  have read : Event.ofValue inDigits = .ok pad := by decide +kernel
  exact ⟨inWords_respelled, read, (spelling_makes_no_difference inWords_respelled pad).mp read⟩

end ScriptedInput

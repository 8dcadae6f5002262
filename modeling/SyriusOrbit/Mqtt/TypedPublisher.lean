import SyriusOrbit.Json.Prune
import SyriusOrbit.Vda5050.Message

/-!
# Publishing messages

`TypedPublisher::Publish` and its pruning of top-level members.  The loop that erases while iterating is a filter
(`pruneTopLevelFields_obj`), and decoding what was published gives the message back up to top-level optional arrays
that are present and empty (`decode_payload`).  On the wire every mandatory member is there except for a list that
is empty (`find?_payload_eq_none_iff`).
-/

namespace SyriusOrbit.Mqtt

open JsonFormat Vda5050

/-- `it.value().is_null()` or `it.value().is_array() && it.value().empty()`. -/
def isPruned : Json → Bool
  | .null => true
  | .arr xs => xs.isEmpty
  | _ => false

/-- The loop of `pruneTopLevelFields` with the iterator between the members already kept and those to come. -/
def pruneLoop (kept : Members) : Members → Members
  | [] => kept
  | m :: rest =>
    -- erasing leaves the iterator at the member after the erased one
    if isPruned m.2 then pruneLoop kept rest
    else pruneLoop (kept ++ [m]) rest

def pruneTopLevelFields : Json → Json
  | .obj ms => .obj (pruneLoop [] ms)
  | j => j

private theorem pruneLoop_eq_filter (kept ms : Members) :
    pruneLoop kept ms = kept ++ ms.filter fun m => !isPruned m.2 := by
  induction ms generalizing kept with
  | nil => simp [pruneLoop]
  | cons m ms ih =>
    rw [pruneLoop]
    split
    · next h => rw [ih, List.filter_cons, if_neg (by simp [h])]
    · next h => rw [ih, List.filter_cons, if_pos (by simp [h]), List.append_assoc, List.singleton_append]

theorem pruneTopLevelFields_obj (ms : Members) :
    pruneTopLevelFields (.obj ms) = .obj (ms.filter fun m => !isPruned m.2) := by
  rw [pruneTopLevelFields, pruneLoop_eq_filter, List.nil_append]

section

variable [JsonLibrary] {α : Type} [JsonCodec α]

/-- What is handed to `MqttPublisher::Publish`. -/
structure Outgoing where
  topic : String
  payload : String
  qos : Int
  retain : Bool
  deriving DecidableEq

/-- `TypedPublisher::Publish` up to the call of `MqttPublisher::Publish`. -/
def outgoing (topic : String) (value : α) (qos : Int) (retain : Bool) : Option Outgoing :=
  if topic.isEmpty then none
  else some ⟨topic, JsonLibrary.dump (pruneTopLevelFields (toJson value)), qos, retain⟩

/-- `TypedPublisher::Publish`. -/
def publish (publisher : Outgoing → Bool) (topic : String) (value : α) (qos : Int) (retain : Bool) : Bool :=
  match outgoing topic value qos retain with
  | none => false
  | some out => publisher out

end

/-! ### Which values are pruned -/

/-- No value of the type is encoded as null or as an empty array. -/
class NeverPruned (α : Type) [JsonCodec α] : Prop where
  isPruned_toJson (a : α) : isPruned (toJson a) = false

export NeverPruned (isPruned_toJson)

instance : NeverPruned String := ⟨fun _ => rfl⟩

instance : NeverPruned Bool := ⟨fun _ => rfl⟩

instance : NeverPruned Float := ⟨fun _ => rfl⟩

instance [JsonLibrary] : NeverPruned Int64 := ⟨fun _ => rfl⟩

instance {E : Type} [DecidableEq E] [JsonEnum E] : NeverPruned E := ⟨fun _ => rfl⟩

instance {σ : Type} [JsonRecord σ] : NeverPruned σ := ⟨fun _ => rfl⟩

section

variable {α : Type} [JsonCodec α]

private theorem isPruned_toJson_list (as : List α) : isPruned (toJson as) = as.isEmpty := by
  cases as <;> rfl

private theorem unlessOmitted_of_neverPruned [NeverPruned α] (dflt a : α) : unlessOmitted isPruned dflt a = a := by
  simp [unlessOmitted, isPruned_toJson]

private theorem unlessOmitted_list {dflt : List α} (h : dflt = []) (as : List α) :
    unlessOmitted isPruned dflt as = as := by
  cases as <;> simp [unlessOmitted, isPruned_toJson_list, h]

private theorem unlessOmitted_option [NeverPruned α] {dflt : Option α} (h : dflt = none) (o : Option α) :
    unlessOmitted isPruned dflt o = o := by
  subst h
  cases o with
  | none => simp [unlessOmitted]
  | some a =>
    have h : isPruned (toJson (some a)) = false := isPruned_toJson a
    simp [unlessOmitted, h]

/-- A list that is present and empty becomes absent. -/
def absentIfEmpty : Option (List α) → Option (List α)
  | some [] => none
  | o => o

private theorem unlessOmitted_optionList {dflt : Option (List α)} (h : dflt = none) (o : Option (List α)) :
    unlessOmitted isPruned dflt o = absentIfEmpty o := by
  subst h
  match o with
  | none => simp [unlessOmitted, absentIfEmpty]
  | some [] => rfl
  | some (a :: as) => rfl

end

variable [JsonLibrary]

/-- The message with absent optionals in the place of top-level optional arrays that are empty. -/
def withoutEmptyArrays : {t : MessageType} → t.Message → t.Message
  | .state, (m : State) =>
    { m with
      maps := absentIfEmpty m.maps
      zoneSets := absentIfEmpty m.zoneSets
      loads := absentIfEmpty m.loads
      zoneRequests := absentIfEmpty m.zoneRequests
      edgeRequests := absentIfEmpty m.edgeRequests
      zoneActionStates := absentIfEmpty m.zoneActionStates
      information := absentIfEmpty m.information }
  | .order, m => m
  | .instantActions, m => m
  | .responses, m => m
  | .zoneSet, m => m
  | .visualization, m => m
  | .connection, m => m
  | .factsheet, m => m

private theorem apply_omitted {t : MessageType} (m : t.Message) :
    JsonRecord.record.apply (JsonRecord.record.omitted isPruned default m) = withoutEmptyArrays m := by
  -- the discharger evaluates the default of a member
  cases t <;>
  simp (disch := refine id ?_; with_unfolding_all rfl) only [JsonRecord.record, Record.omitted, Record.apply,
    unlessOmitted_of_neverPruned, unlessOmitted_list, unlessOmitted_option, unlessOmitted_optionList] <;>
  rfl

/-- The defaults of the members that can be left out are left out. -/
private theorem omitsDefaults_record (t : MessageType) :
    (JsonRecord.record (σ := t.Message)).OmitsDefaults isPruned default := by
  cases t <;> repeat' first
    | exact trivial
    | refine And.intro ?_ ?_
    | exact fun a hp => absurd ((isPruned_toJson _).symm.trans hp) Bool.false_ne_true
    | exact fun _ _ => rfl

/-- The message without them is written as it was before. -/
theorem pruneTopLevelFields_withoutEmptyArrays {t : MessageType} (m : t.Message) :
    pruneTopLevelFields (toJson (withoutEmptyArrays m)) = pruneTopLevelFields (toJson m) := by
  rw [toJson_eq_members, toJson_eq_members, pruneTopLevelFields_obj, pruneTopLevelFields_obj, ← apply_omitted,
    filter_members_omitted (omitsDefaults_record t)]

/-! ### What arrives -/

private theorem find?_pruneTopLevelFields {t : MessageType} (m : t.Message) (key : String) :
    (pruneTopLevelFields (toJson m)).find? key = ((toJson m).find? key).filter fun v => !isPruned v := by
  rw [toJson_eq_members, pruneTopLevelFields_obj]
  exact lookup_filter_members isPruned m key

theorem fromJson_pruneTopLevelFields {t : MessageType} (m : t.Message) :
    fromJson (pruneTopLevelFields (toJson m)) = .ok (withoutEmptyArrays m) := by
  rw [toJson_eq_members, pruneTopLevelFields_obj, fromJson_filter, apply_omitted]

/-- A published message is decoded to itself, except that a top-level optional array that is present and empty
becomes absent.  Top-level members are dropped only if they are null or an empty array, and the others arrive as
they were encoded. -/
theorem decode_payload {t : MessageType} (m : t.Message) (topic : String) (qos : Int) (retain : Bool)
    {out : Outgoing} (hout : outgoing topic m qos retain = some out)
    (hparse : ParsesBack (pruneTopLevelFields (toJson m))) :
    decode out.payload = .ok (withoutEmptyArrays m) ∧
      ∀ key, (pruneTopLevelFields (toJson m)).find? key = ((toJson m).find? key).filter fun v => !isPruned v := by
  refine ⟨?_, find?_pruneTopLevelFields m⟩
  have hpayload : out.payload = JsonLibrary.dump (pruneTopLevelFields (toJson m)) := by
    unfold outgoing at hout
    split at hout
    · cases hout
    · cases hout
      rfl
  rw [hpayload, decode_dump hparse, fromJson_pruneTopLevelFields]

/-- A robot that carries nothing picks something up while it is paused. -/
def pausedState : State where
  headerId := 7
  timestamp := "2026-01-01T00:00:05Z"
  version := "3.0.0"
  manufacturer := "acme"
  serialNumber := "7"
  maps := some [⟨"hall", "1", none, .enabled⟩]
  zoneSets := none
  orderId := "o1"
  orderUpdateId := 0
  lastNodeId := "n1"
  lastNodeSequenceId := 2
  nodeStates := []
  edgeStates := []
  plannedPath := none
  intermediatePath := none
  mobileRobotPosition := none
  velocity := none
  loads := some []
  driving := false
  paused := some true
  newBaseRequest := none
  zoneRequests := none
  edgeRequests := none
  distanceSinceLastNode := none
  actionStates := [⟨"a1", some "pick", none, .paused, none⟩]
  instantActionStates := []
  zoneActionStates := none
  powerSupply := ⟨80.5, none, none, none, true, none⟩
  operatingMode := .automatic
  errors := []
  information := none
  safetyState := ⟨.none, false⟩

/-- The text in which the message is published. -/
def pausedText : String :=
  "\x7b\"actionStates\":[\x7b\"actionDescriptor\":null,\"actionId\":\"a1\",\"actionResult\":null," ++
    "\"actionStatus\":\"PAUSED\",\"actionType\":\"pick\"\x7d],\"driving\":false,\"headerId\":7," ++
    "\"lastNodeId\":\"n1\",\"lastNodeSequenceId\":2,\"manufacturer\":\"acme\"," ++
    "\"maps\":[\x7b\"mapDescriptor\":null,\"mapId\":\"hall\",\"mapStatus\":\"ENABLED\",\"mapVersion\":\"1\"\x7d]," ++
    "\"operatingMode\":\"AUTOMATIC\",\"orderId\":\"o1\",\"orderUpdateId\":0,\"paused\":true," ++
    "\"powerSupply\":\x7b\"batteryCurrent\":null,\"batteryHealth\":null,\"batteryVoltage\":null," ++
    "\"charging\":true,\"range\":null,\"stateOfCharge\":80.5\x7d," ++
    "\"safetyState\":\x7b\"activeEmergencyStop\":\"NONE\",\"fieldViolation\":false\x7d,\"serialNumber\":\"7\"," ++
    "\"timestamp\":\"2026-01-01T00:00:05Z\",\"version\":\"3.0.0\"\x7d"

def pausedJson : Json :=
  .obj [("headerId", .int 7), ("timestamp", .str "2026-01-01T00:00:05Z"), ("version", .str "3.0.0"),
    ("manufacturer", .str "acme"), ("serialNumber", .str "7"),
    ("maps", .arr [.obj [("mapId", .str "hall"), ("mapVersion", .str "1"), ("mapDescriptor", .null),
      ("mapStatus", .str "ENABLED")]]),
    ("orderId", .str "o1"), ("orderUpdateId", .int 0), ("lastNodeId", .str "n1"), ("lastNodeSequenceId", .int 2),
    ("driving", .bool false), ("paused", .bool true),
    ("actionStates", .arr [.obj [("actionId", .str "a1"), ("actionType", .str "pick"), ("actionDescriptor", .null),
      ("actionStatus", .str "PAUSED"), ("actionResult", .null)]]),
    ("powerSupply", .obj [("stateOfCharge", .float 80.5), ("batteryVoltage", .null), ("batteryCurrent", .null),
      ("batteryHealth", .null), ("charging", .bool true), ("range", .null)]),
    ("operatingMode", .str "AUTOMATIC"),
    ("safetyState", .obj [("activeEmergencyStop", .str "NONE"), ("fieldViolation", .bool false)])]

omit [JsonLibrary] in
private theorem pruned_pausedState :
    letI := JsonLibrary.ofText pausedText pausedJson
    pruneTopLevelFields (toJson pausedState) = pausedJson := by rfl

omit [JsonLibrary] in
/-- The empty lists are left out; those that are mandatory come back, and the loads do not. -/
theorem decode_payload_paused :
    letI := JsonLibrary.ofText pausedText pausedJson
    decode pausedText = .ok { pausedState with loads := none } ∧
      ∀ key, (pruneTopLevelFields (toJson pausedState)).find? key =
        ((toJson pausedState).find? key).filter fun v => !isPruned v := by
  let lib := JsonLibrary.ofText pausedText pausedJson
  have hparse : ParsesBack (pruneTopLevelFields (toJson pausedState)) := by
    rw [pruned_pausedState]
    exact parsesBack_ofText pausedText pausedJson
  have hout : outgoing "uagv/v3/acme/7/state" pausedState 0 false =
      some ⟨"uagv/v3/acme/7/state", pausedText, 0, false⟩ := rfl
  obtain ⟨hdecode, hmembers⟩ := decode_payload (t := .state) pausedState "uagv/v3/acme/7/state" 0 false hout hparse
  exact ⟨hdecode, hmembers⟩

/-! ### Mandatory members -/

/-- A pruned value of the type is an absent optional or an empty list. -/
class WireField (α : Type) [JsonCodec α] : Prop where
  eq_empty_of_isPruned (a : α) (ho : (schema α).isOptional = false) (h : isPruned (toJson a) = true) :
    (schema α).isVector = true ∧ toJson a = .arr []

instance (priority := low) {α : Type} [JsonCodec α] [NeverPruned α] : WireField α where
  eq_empty_of_isPruned a _ h := by simp [isPruned_toJson] at h

instance {α : Type} [JsonCodec α] : WireField (Option α) where
  eq_empty_of_isPruned _ ho _ := by simp [schema, Schema.isOptional] at ho

instance {α : Type} [JsonCodec α] : WireField (List α) where
  eq_empty_of_isPruned as _ h := by
    rw [isPruned_toJson_list, List.isEmpty_iff] at h
    subst h
    exact ⟨rfl, rfl⟩

/-- Every member of the record is of such a type. -/
def AllWireFields {σ τ : Type} : Record σ τ → Prop
  | .make _ => True
  | @Record.member _ α _ _ _ rest _ _ => AllWireFields rest ∧ WireField α

omit [JsonLibrary] in
private theorem exists_member_of_field {σ τ : Type} {r : Record σ τ} (hr : AllWireFields r) (a : σ) {key : String}
    {s : Schema} (hs : (key, s) ∈ r.fields) :
    ∃ v, (key, v) ∈ r.encode (r.values a) ∧
      (s.isOptional = false → isPruned v = true → s.isVector = true ∧ v = .arr []) := by
  induction r with
  | make f => simp [Record.fields] at hs
  | @member α _ _ _ rest key' get ih =>
    rw [Record.fields, List.mem_append, List.mem_singleton] at hs
    rcases hs with hs | hs
    · obtain ⟨v, hv, hprune⟩ := ih hr.1 hs
      exact ⟨v, List.mem_append_left _ hv, hprune⟩
    · cases hs
      have hwire : WireField α := hr.2
      refine ⟨toJson (get a), ?_, hwire.eq_empty_of_isPruned (get a)⟩
      exact List.mem_append_right _ (List.mem_singleton_self _)

private theorem allWireFields_record (t : MessageType) : AllWireFields (JsonRecord.record (σ := t.Message)) := by
  cases t <;> repeat' first | exact trivial | infer_instance | refine And.intro ?_ ?_

/-- A member that is not optional is missing on the wire if and only if it is a list and the list is empty. -/
theorem find?_payload_eq_none_iff {t : MessageType} (m : t.Message) {key : String} {s : Schema}
    (hs : (key, s) ∈ (schema t.Message).fields) (ho : s.isOptional = false) :
    (pruneTopLevelFields (toJson m)).find? key = none ↔
      s.isVector = true ∧ (toJson m).find? key = some (.arr []) := by
  obtain ⟨v, hv, hprune⟩ := exists_member_of_field (allWireFields_record t) m hs
  have hfind : (toJson m).find? key = some v := lookup_eq_some_of_mem (members_keys_nodup m) hv
  rw [find?_pruneTopLevelFields, hfind]
  constructor
  · intro h
    have hp : isPruned v = true := by simpa [Option.filter] using h
    obtain ⟨hvector, rfl⟩ := hprune ho hp
    exact ⟨hvector, rfl⟩
  · rintro ⟨-, h⟩
    cases h
    rfl

omit [JsonLibrary] in
theorem find?_payload_nodes :
    letI := JsonLibrary.ofText "null" .null
    (pruneTopLevelFields (toJson (default : Order))).find? "nodes" = none ↔
      (schema (List Node)).isVector = true ∧ (toJson (default : Order)).find? "nodes" = some (.arr []) :=
  letI := JsonLibrary.ofText "null" .null
  find?_payload_eq_none_iff (t := .order) default
    (by simp [schema, Schema.fields, JsonRecord.record, Record.fields]) rfl

omit [JsonLibrary] in
/-- An empty list of responses is not on the wire. -/
theorem not_forall_mandatory_on_wire :
    ¬ ∀ [JsonLibrary] (t : MessageType) (m : t.Message) (key : String) (s : Schema),
      (key, s) ∈ (schema t.Message).fields → s.isOptional = false →
        (pruneTopLevelFields (toJson m)).find? key ≠ none := by
  intro h
  let lib : JsonLibrary := .ofText "null" .null
  have hfield : ("responses", schema (List Response)) ∈ (schema Responses).fields := by
    simp [schema, Schema.fields, JsonRecord.record, Record.fields]
  exact h .responses default "responses" (schema (List Response)) hfield rfl rfl

end SyriusOrbit.Mqtt

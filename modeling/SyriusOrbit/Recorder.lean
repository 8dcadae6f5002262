import SyriusOrbit.Vda5050.Message
import SyriusOrbit.Db.Events
import SyriusOrbit.Mqtt.Topic
import SyriusOrbit.Feed.Newest
import SyriusOrbit.Sql.Cells
import Mathlib.Data.List.Induction

/-!
# Recording messages

What the listeners of `Vda5050EventRecorder` insert into the event log: one event for a message, except for instant
actions and responses, where it is one for each element of the list, all with the whole message as payload.  Each
recorded payload is decoded to the recorded message (`decode_recorded`).
-/

namespace SyriusOrbit

open JsonFormat Vda5050 Mqtt Db

/-- `context.manufacturer + "." + context.serialNumber`. -/
def robotId (context : VDA5050TopicContext) : String := context.manufacturer ++ "." ++ context.serialNumber

/-- The topic levels that name a robot. -/
def Mqtt.VDA5050TopicContext.identity (context : VDA5050TopicContext) : String × String :=
  (context.manufacturer, context.serialNumber)

def Db.Vda5050Event.identity (e : Vda5050Event) : String × String := (e.manufacturer, e.serialNumber)

/-- The event that `Vda5050EventRecorder::insertEvent` builds; its id and time of receipt are set on insertion. -/
def insertEvent (topic itemId : String) (context : VDA5050TopicContext) (direction : String) (headerId : Int64)
    (version timestamp payload : String) : Vda5050Event where
  id := 0
  topic := topic
  itemId := itemId
  receivedAt := ""
  manufacturer := context.manufacturer
  serialNumber := context.serialNumber
  robotId := robotId context
  direction := direction
  headerId := some headerId
  headerVersion := some version
  headerTimestamp := some timestamp
  payload := payload

variable [JsonLibrary]

/-- `nlohmann::json(msg).dump()`. -/
def payloadOf {t : MessageType} (m : t.Message) : String := JsonLibrary.dump (json m)

/-- The events a listener of `attach` or `attachCloud` inserts for a message. -/
def recordedEvents (context : VDA5050TopicContext) : (t : MessageType) → t.Message → List Vda5050Event
  | .state, (m : State) =>
    [insertEvent "state" (robotId context) context "uplink" m.headerId m.version m.timestamp
      (payloadOf (t := .state) m)]
  | .visualization, (m : Visualization) =>
    [insertEvent "visualization" (robotId context) context "uplink" m.headerId m.version m.timestamp
      (payloadOf (t := .visualization) m)]
  | .connection, (m : Connection) =>
    [insertEvent "connection" (robotId context) context "uplink" m.headerId m.version m.timestamp
      (payloadOf (t := .connection) m)]
  | .factsheet, (m : FactSheet) =>
    [insertEvent "factsheet" (robotId context) context "uplink" m.headerId m.version m.timestamp
      (payloadOf (t := .factsheet) m)]
  | .order, (m : Vda5050.Order) =>
    [insertEvent "order" m.orderId context "downlink" m.headerId m.version m.timestamp
      (payloadOf (t := .order) m)]
  | .instantActions, (m : InstantActions) =>
    m.actions.map fun action =>
      insertEvent "instantActions" action.actionId context "downlink" m.headerId m.version m.timestamp
        (payloadOf (t := .instantActions) m)
  | .responses, (m : Responses) =>
    m.responses.map fun response =>
      insertEvent "responses" response.requestId context "downlink" m.headerId m.version m.timestamp
        (payloadOf (t := .responses) m)
  | .zoneSet, (m : ZoneSetMessage) =>
    [insertEvent "zoneSet" m.zoneSet.zoneSetId context "downlink" m.headerId m.version m.timestamp
      (payloadOf (t := .zoneSet) m)]

/-- The topic under which the messages of a type are recorded. -/
def recordedTopic : MessageType → String
  | .state => "state"
  | .visualization => "visualization"
  | .connection => "connection"
  | .factsheet => "factsheet"
  | .order => "order"
  | .instantActions => "instantActions"
  | .responses => "responses"
  | .zoneSet => "zoneSet"

omit [JsonLibrary] in
theorem recordedTopic_injective : Function.Injective recordedTopic := by
  intro t t' h
  cases t <;> cases t' <;> first | rfl | simp [recordedTopic] at h

theorem topic_of_mem_recordedEvents {context : VDA5050TopicContext} {t : MessageType} {m : t.Message}
    {e : Vda5050Event} (he : e ∈ recordedEvents context t m) :
    e.topic = recordedTopic t ∧ e.robotId = robotId context := by
  cases t with
  | instantActions =>
    obtain ⟨action, -, rfl⟩ := List.mem_map.1 he
    exact ⟨rfl, rfl⟩
  | responses =>
    obtain ⟨response, -, rfl⟩ := List.mem_map.1 he
    exact ⟨rfl, rfl⟩
  | _ =>
    rw [List.mem_singleton.1 he]
    exact ⟨rfl, rfl⟩

private theorem payload_of_mem_recordedEvents {context : VDA5050TopicContext} {t : MessageType} {m : t.Message}
    {e : Vda5050Event} (he : e ∈ recordedEvents context t m) : e.payload = payloadOf m := by
  cases t with
  | instantActions =>
    obtain ⟨action, -, rfl⟩ := List.mem_map.1 he
    rfl
  | responses =>
    obtain ⟨response, -, rfl⟩ := List.mem_map.1 he
    rfl
  | _ =>
    rw [List.mem_singleton.1 he]
    rfl

/-- Objects are written in braces. -/
def DumpsObjects : Prop := ∀ ms, Sql.Bracketed (JsonLibrary.dump (.obj ms))

/-- What is recorded is the text of an object. -/
theorem bracketed_of_mem_recordedEvents (hdump : DumpsObjects) {context : VDA5050TopicContext} {t : MessageType}
    {m : t.Message} {e : Vda5050Event} (he : e ∈ recordedEvents context t m) : Sql.Bracketed e.payload := by
  rw [payload_of_mem_recordedEvents he]
  cases t <;> exact hdump _

theorem content_of_mem_recordedEvents {context : VDA5050TopicContext} {t : MessageType} {m : t.Message}
    {e : Vda5050Event} (he : e ∈ recordedEvents context t m) : e.content = e := by
  cases t with
  | instantActions =>
    obtain ⟨action, -, rfl⟩ := List.mem_map.1 he
    rfl
  | responses =>
    obtain ⟨response, -, rfl⟩ := List.mem_map.1 he
    rfl
  | _ =>
    rw [List.mem_singleton.1 he]
    rfl

theorem decode_of_mem_recordedEvents {context : VDA5050TopicContext} {t : MessageType} {m : t.Message}
    (hparse : ParsesBack (json m)) {e : Vda5050Event} (he : e ∈ recordedEvents context t m) :
    decode e.payload = .ok m := by
  rw [payload_of_mem_recordedEvents he, payloadOf, decode_dump hparse]
  exact fromJson_json m

/-- Encoding a message and decoding it gives the message back, and so every event recorded for it is decoded to
it. -/
theorem decode_recorded (context : VDA5050TopicContext) (t : MessageType) (m : t.Message) :
    fromJson (json m) = .ok m ∧
      (ParsesBack (json m) → ∀ e ∈ recordedEvents context t m, decode e.payload = .ok m) := by
  refine ⟨fromJson_json m, ?_⟩
  intro hparse e he
  rw [payload_of_mem_recordedEvents he, payloadOf, decode_dump hparse]
  exact fromJson_json m

omit [JsonLibrary] in
theorem decode_recorded_online :
    letI := JsonLibrary.ofTexts connectionTexts
    ∀ e ∈ recordedEvents ⟨"uagv", "v3", "acme", "7"⟩ .connection acmeOnline, decode e.payload = .ok acmeOnline :=
  letI := JsonLibrary.ofTexts connectionTexts
  (decode_recorded ⟨"uagv", "v3", "acme", "7"⟩ .connection acmeOnline).2 parsesBack_acme.1

/-! ### Recording into the log -/

/-- A message that a listener of the recorder is called with. -/
structure Dispatched where
  context : VDA5050TopicContext
  type : MessageType
  message : type.Message

/-- The robot `acme.7` goes online, and offline. -/
def wentOnline : Dispatched := ⟨⟨"uagv", "v3", "acme", "7"⟩, .connection, acmeOnline⟩

def wentOffline : Dispatched := ⟨⟨"uagv", "v3", "acme", "7"⟩, .connection, acmeOffline⟩

omit [JsonLibrary] in
theorem parsesBack_connections :
    letI := JsonLibrary.ofTexts connectionTexts
    ∀ d ∈ [wentOnline, wentOffline], ParsesBack (json d.message) := by
  let lib := JsonLibrary.ofTexts connectionTexts
  intro d hd
  simp only [List.mem_cons, List.not_mem_nil, or_false] at hd
  rcases hd with rfl | rfl
  · exact parsesBack_acme.1
  · exact parsesBack_acme.2

/-- The events that are inserted for it. -/
def Dispatched.events (d : Dispatched) : List Vda5050Event := recordedEvents d.context d.type d.message

/-- Inserts the events of a message, with `clock` the time at which an id is given out. -/
def record (clock : Nat → String) (log : EventLog) (d : Dispatched) : EventLog :=
  d.events.foldl (fun log e => log.insert (clock (log.lastId + 1)) e) log

/-- The log after a sequence of messages. -/
def recordAll (clock : Nat → String) (log : EventLog) (ds : List Dispatched) : EventLog :=
  ds.foldl (record clock) log

omit [JsonLibrary] in
private theorem mem_insertAll {clock : Nat → String} {es : List Vda5050Event} {log : EventLog} {e : Vda5050Event}
    (he : e ∈ (es.foldl (fun log e => log.insert (clock (log.lastId + 1)) e) log).events) :
    e ∈ log.events ∨ ∃ e₀ ∈ es, ∃ id now, e = { e₀ with id := id, receivedAt := now } := by
  induction es generalizing log with
  | nil => exact .inl he
  | cons e₀ es ih =>
    rcases ih he with he | ⟨e₁, he₁, id, now, rfl⟩
    · rcases List.mem_append.1 he with he | he
      · exact .inl he
      · exact .inr ⟨e₀, by simp, _, _, List.mem_singleton.1 he⟩
    · exact .inr ⟨e₁, by simp [he₁], id, now, rfl⟩

/-- The event was inserted for the message. -/
def RecordedFor (d : Dispatched) (e : Vda5050Event) : Prop :=
  ∃ e₀ ∈ d.events, ∃ id now, e = { e₀ with id := id, receivedAt := now }

/-- An event of the log was there before or was recorded for one of the messages. -/
theorem mem_recordAll {clock : Nat → String} {ds : List Dispatched} {log : EventLog} {e : Vda5050Event}
    (he : e ∈ (recordAll clock log ds).events) : e ∈ log.events ∨ ∃ d ∈ ds, RecordedFor d e := by
  induction ds generalizing log with
  | nil => exact .inl he
  | cons d ds ih =>
    rcases ih he with he | ⟨d', hd', h⟩
    · rcases mem_insertAll he with he | h
      · exact .inl he
      · exact .inr ⟨d, by simp, h⟩
    · exact .inr ⟨d', by simp [hd'], h⟩

omit [JsonLibrary] in
private theorem map_content_insertAll (clock : Nat → String) (es : List Vda5050Event) (log : EventLog) :
    (es.foldl (fun log e => log.insert (clock (log.lastId + 1)) e) log).events.map Vda5050Event.content =
      log.events.map Vda5050Event.content ++ es.map Vda5050Event.content := by
  induction es generalizing log with
  | nil => simp
  | cons e es ih =>
    have hinsert : (log.insert (clock (log.lastId + 1)) e).events.map Vda5050Event.content =
        log.events.map Vda5050Event.content ++ [e.content] := by
      unfold EventLog.insert
      rw [List.map_append]
      rfl
    rw [List.foldl_cons, ih, hinsert, List.map_cons, List.append_assoc]
    rfl

/-- The log holds the events of the messages in their order, and nothing else besides what it held before. -/
private theorem map_content_recordAll (clock : Nat → String) (ds : List Dispatched) (log : EventLog) :
    (recordAll clock log ds).events.map Vda5050Event.content =
      log.events.map Vda5050Event.content ++ ds.flatMap Dispatched.events := by
  induction ds generalizing log with
  | nil => simp [recordAll]
  | cons d ds ih =>
    have hevents : d.events.map Vda5050Event.content = d.events := by
      have hid : ∀ e ∈ d.events, e.content = id e := fun e he => content_of_mem_recordedEvents he
      rw [List.map_congr_left hid, List.map_id]
    have hrecord : (record clock log d).events.map Vda5050Event.content =
        log.events.map Vda5050Event.content ++ d.events := by
      rw [record, map_content_insertAll, hevents]
    have hcons : recordAll clock log (d :: ds) = recordAll clock (record clock log d) ds := rfl
    rw [hcons, ih, hrecord, List.flatMap_cons, List.append_assoc]

/-- Each event that is inserted for a message is in the log. -/
theorem exists_recordedFor (clock : Nat → String) {ds : List Dispatched} {d : Dispatched} (hd : d ∈ ds)
    {e₀ : Vda5050Event} (he₀ : e₀ ∈ d.events) (log : EventLog) :
    ∃ e ∈ (recordAll clock log ds).events, e.content = e₀ ∧ RecordedFor d e := by
  have hmem : e₀ ∈ (recordAll clock log ds).events.map Vda5050Event.content := by
    rw [map_content_recordAll]
    exact List.mem_append_right _ (List.mem_flatMap.2 ⟨d, hd, he₀⟩)
  obtain ⟨e, he, rfl⟩ := List.mem_map.1 hmem
  exact ⟨e, he, rfl, e.content, he₀, e.id, e.receivedAt, rfl⟩

/-- An event recorded for a message has its topic and its robot, and decodes to it. -/
theorem decode_of_recordedFor {d : Dispatched} (hparse : ParsesBack (json d.message)) {e : Vda5050Event}
    (he : RecordedFor d e) :
    e.topic = recordedTopic d.type ∧ e.robotId = robotId d.context ∧ decode e.payload = .ok d.message := by
  obtain ⟨e₀, he₀, id, now, rfl⟩ := he
  obtain ⟨htopic, hrobot⟩ := topic_of_mem_recordedEvents he₀
  refine ⟨htopic, hrobot, ?_⟩
  rw [payload_of_mem_recordedEvents he₀, payloadOf, decode_dump hparse]
  exact fromJson_json d.message

/-- Every event of a recorded log decodes to the message it was recorded for. -/
theorem decode_of_mem_recordAll {clock : Nat → String} {ds : List Dispatched}
    (hparse : ∀ d ∈ ds, ParsesBack (json d.message)) {e : Vda5050Event}
    (he : e ∈ (recordAll clock .empty ds).events) :
    ∃ d ∈ ds, e.topic = recordedTopic d.type ∧ decode e.payload = .ok d.message := by
  rcases mem_recordAll he with he | ⟨d, hd, he⟩
  · exact absurd he List.not_mem_nil
  · obtain ⟨htopic, -, hdecode⟩ := decode_of_recordedFor (hparse d hd) he
    exact ⟨d, hd, htopic, hdecode⟩

/-! ### The newest event of a recorded log -/

omit [JsonLibrary] in
private theorem newest_insertAll (clock : Nat → String) (es : List Vda5050Event) (log : EventLog)
    (topic item : String) :
    ((∀ e ∈ es, ¬(e.topic = topic ∧ e.itemId = item)) ∧
      (es.foldl (fun log e => log.insert (clock (log.lastId + 1)) e) log).newest topic item =
        log.newest topic item) ∨
    ∃ e₀ ∈ es, (e₀.topic = topic ∧ e₀.itemId = item) ∧ ∃ id now,
      (es.foldl (fun log e => log.insert (clock (log.lastId + 1)) e) log).newest topic item =
        some { e₀ with id := id, receivedAt := now } := by
  induction es using List.reverseRecOn with
  | nil => exact .inl ⟨by simp, rfl⟩
  | append_singleton es e ih =>
    rw [List.foldl_append, List.foldl_cons, List.foldl_nil, EventLog.newest_insert]
    by_cases hkey : e.topic = topic ∧ e.itemId = item
    · exact .inr ⟨e, by simp, hkey, _, _, if_pos hkey⟩
    · rw [if_neg hkey]
      rcases ih with ⟨hnone, h⟩ | ⟨e₀, he₀, hkey₀, id, now, h⟩
      · refine .inl ⟨?_, h⟩
        intro e' he'
        rcases List.mem_append.1 he' with he' | he'
        · exact hnone e' he'
        · rwa [List.mem_singleton.1 he']
      · exact .inr ⟨e₀, List.mem_append_left _ he₀, hkey₀, id, now, h⟩

/-- Recording a message replaces the newest event of its items and of no others. -/
private theorem newest_record (clock : Nat → String) (log : EventLog) (d : Dispatched) (topic item : String) :
    ((∀ e ∈ d.events, ¬(e.topic = topic ∧ e.itemId = item)) ∧
      (record clock log d).newest topic item = log.newest topic item) ∨
    ((∃ e ∈ d.events, e.topic = topic ∧ e.itemId = item) ∧
      ∃ e, RecordedFor d e ∧ (record clock log d).newest topic item = some e) := by
  rcases newest_insertAll clock d.events log topic item with h | ⟨e₀, he₀, hkey, id, now, h⟩
  · exact .inl h
  · exact .inr ⟨⟨e₀, he₀, hkey⟩, _, ⟨e₀, he₀, id, now, rfl⟩, h⟩

/-- If `items` lists, for each message, the items that are recorded for it under a topic, then the newest event of an
item was recorded for the newest message with the item. -/
theorem newest_recordAll {γ : Type} {topic : String} {items : Dispatched → List (String × γ)}
    (hitems : ∀ d k, (∃ e ∈ d.events, e.topic = topic ∧ e.itemId = k) ↔ ∃ v, Feed.lastValue k (items d) = some v)
    (clock : Nat → String) (ds : List Dispatched) (k : String) :
    (∀ d, Feed.newest items ds k = some d → ∃ e, (recordAll clock .empty ds).newest topic k = some e ∧
      RecordedFor d e) ∧
    ∀ e, (recordAll clock .empty ds).newest topic k = some e → ∃ d, Feed.newest items ds k = some d ∧
      RecordedFor d e := by
  induction ds using List.reverseRecOn with
  | nil => exact ⟨fun d hd => by simp [Feed.newest] at hd, fun e he => by cases he⟩
  | append_singleton ds d ih =>
    have hstep : recordAll clock .empty (ds ++ [d]) = record clock (recordAll clock .empty ds) d := by
      rw [recordAll, List.foldl_append]
      rfl
    rw [hstep, Feed.newest_append]
    rcases newest_record clock (recordAll clock .empty ds) d topic k with ⟨hnone, h⟩ | ⟨hsome, e, he, h⟩
    · have hlast : ¬(Feed.lastValue k (items d)).isSome = true := by
        rw [Option.isSome_iff_exists, ← hitems]
        rintro ⟨e, he, hkey⟩
        exact hnone e he hkey
      rw [if_neg hlast, h]
      exact ih
    · rw [if_pos (Option.isSome_iff_exists.2 ((hitems d k).1 hsome)), h]
      exact ⟨fun d' hd' => ⟨e, rfl, Option.some.inj hd' ▸ he⟩, fun e' he' => ⟨d, rfl, Option.some.inj he' ▸ he⟩⟩

omit [JsonLibrary] in
private theorem events_insertAll (clock : Nat → String) (es : List Vda5050Event) (log : EventLog) :
    ∃ added, (es.foldl (fun log e => log.insert (clock (log.lastId + 1)) e) log).events = log.events ++ added ∧
      ∀ e ∈ added, ∃ e₀ ∈ es, ∃ id now, e = { e₀ with id := id, receivedAt := now } := by
  induction es generalizing log with
  | nil => exact ⟨[], by simp, by simp⟩
  | cons e₀ es ih =>
    obtain ⟨added, hevents, hadded⟩ := ih (log.insert (clock (log.lastId + 1)) e₀)
    refine ⟨{ e₀ with id := log.lastId + 1, receivedAt := clock (log.lastId + 1) } :: added, ?_, fun e he => ?_⟩
    · rw [List.foldl_cons, hevents]
      simp [EventLog.insert]
    · rcases List.mem_cons.1 he with rfl | he
      · exact ⟨e₀, List.mem_cons_self, _, _, rfl⟩
      · obtain ⟨e₁, he₁, id, now, rfl⟩ := hadded e he
        exact ⟨e₁, List.mem_cons_of_mem e₀ he₁, id, now, rfl⟩

/-- The newest event of an item the message has is newer than all events that were there before. -/
private theorem id_lt_of_newest_record {clock : Nat → String} {log : EventLog} {d : Dispatched} {topic k : String}
    {e₀ e e' : Vda5050Event} (he₀ : e₀ ∈ d.events) (hkey₀ : e₀.topic = topic ∧ e₀.itemId = k)
    (he : (record clock log d).newest topic k = some e) (hold : e' ∈ log.events) : e'.id < e.id := by
  obtain ⟨added, hevents, -⟩ := events_insertAll clock d.events log
  have hrecord : (record clock log d).events = log.events ++ added := hevents
  have hincreasing := (record clock log d).increasing
  rw [hrecord, List.pairwise_append] at hincreasing
  have hcontent := map_content_insertAll clock d.events log
  rw [hevents, List.map_append] at hcontent
  have hmem : e₀ ∈ added.map Vda5050Event.content := by
    rw [List.append_cancel_left hcontent, ← content_of_mem_recordedEvents he₀]
    exact List.mem_map_of_mem he₀
  obtain ⟨e₁, he₁, rfl⟩ := List.mem_map.1 hmem
  have hgroup : e₁ ∈ (record clock log d).group topic k := by
    rw [EventLog.mem_group, hrecord]
    exact ⟨List.mem_append_right _ he₁, hkey₀⟩
  calc e'.id < e₁.id := hincreasing.2.2 e' hold e₁ he₁
    _ ≤ e.id := EventLog.id_le_newest he hgroup

/-- An event that is not older than the newest event of an item was recorded for the same message, or for a message
without the item. -/
theorem recordedFor_of_newest_le {γ : Type} {topic : String} {items : Dispatched → List (String × γ)}
    (hitems : ∀ d k, (∃ e ∈ d.events, e.topic = topic ∧ e.itemId = k) ↔ ∃ v, Feed.lastValue k (items d) = some v)
    (clock : Nat → String) {ds : List Dispatched} {k : String} {e e' : Vda5050Event}
    (he : (recordAll clock .empty ds).newest topic k = some e) (he' : e' ∈ (recordAll clock .empty ds).events)
    (hid : e.id ≤ e'.id) :
    ∃ d ∈ ds, RecordedFor d e' ∧ (Feed.newest items ds k = some d ∨ Feed.lastValue k (items d) = none) := by
  induction ds using List.reverseRecOn generalizing e e' with
  | nil => cases he
  | append_singleton ds d ih =>
    have hstep : recordAll clock .empty (ds ++ [d]) = record clock (recordAll clock .empty ds) d := by
      rw [recordAll, List.foldl_append]
      rfl
    rw [hstep] at he he'
    obtain ⟨added, hevents, hadded⟩ := events_insertAll clock d.events (recordAll clock .empty ds)
    have hrecord : (record clock (recordAll clock .empty ds) d).events =
        (recordAll clock .empty ds).events ++ added := hevents
    rw [hrecord] at he'
    have hsome := hitems d k
    rcases newest_record clock (recordAll clock .empty ds) d topic k with ⟨hnone, h⟩ | ⟨⟨e₀, he₀, hkey₀⟩, -⟩
    · -- the message does not have the item
      have hlast : Feed.lastValue k (items d) = none := by
        rw [Option.eq_none_iff_forall_ne_some]
        intro v hv
        obtain ⟨e₀, he₀, hkey₀⟩ := hsome.2 ⟨v, hv⟩
        exact hnone e₀ he₀ hkey₀
      rw [h] at he
      rcases List.mem_append.1 he' with he' | he'
      · obtain ⟨d', hd', hfor, hnewest⟩ := ih he he' hid
        refine ⟨d', List.mem_append_left _ hd', hfor, ?_⟩
        rw [Feed.newest_append, hlast]
        simpa using hnewest
      · exact ⟨d, by simp, hadded e' he', .inr hlast⟩
    · have hnewest : Feed.newest items (ds ++ [d]) k = some d := by
        rw [Feed.newest_append, if_pos (Option.isSome_iff_exists.2 (hsome.1 ⟨e₀, he₀, hkey₀⟩))]
      rcases List.mem_append.1 he' with hold | hnew
      · have hlt := id_lt_of_newest_record he₀ hkey₀ he hold
        exact absurd hid (not_le.2 hlt)
      · exact ⟨d, by simp, hadded e' hnew, .inl hnewest⟩

end SyriusOrbit

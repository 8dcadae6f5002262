import SyriusOrbit.Projection.Collections
import SyriusOrbit.Feed.Blocks
import SyriusOrbit.Mqtt.EndPoint
import SyriusOrbit.Transition.System

/-!
# The audit trail

Two listener threads insert events into one table, each the events of its messages one after another.  Each thread
finds the rows of its messages in the order in which they were dispatched, and the messages can be read back from the
table if and only if none of them has an empty list (`auditTrail_iff`).
-/

namespace SyriusOrbit

open JsonFormat Vda5050 Mqtt Db Transition

/-! ### Messages and their rows -/

/-- The direction in which the messages of a side are recorded. -/
def Mqtt.Side.direction : Side → String
  | .localSide => "uplink"
  | .cloudSide => "downlink"

/-- The header of a message: its id, the version and the time. -/
def header : (t : MessageType) → t.Message → Int64 × String × String
  | .order, (m : Vda5050.Order) => (m.headerId, m.version, m.timestamp)
  | .instantActions, (m : InstantActions) => (m.headerId, m.version, m.timestamp)
  | .responses, (m : Responses) => (m.headerId, m.version, m.timestamp)
  | .zoneSet, (m : ZoneSetMessage) => (m.headerId, m.version, m.timestamp)
  | .state, (m : State) => (m.headerId, m.version, m.timestamp)
  | .visualization, (m : Visualization) => (m.headerId, m.version, m.timestamp)
  | .connection, (m : Connection) => (m.headerId, m.version, m.timestamp)
  | .factsheet, (m : FactSheet) => (m.headerId, m.version, m.timestamp)

namespace Dispatched

/-- The items of a message: the elements of a collection, or else the order, the zone set or the robot. -/
def items : Dispatched → List String
  | ⟨_, .order, (m : Vda5050.Order)⟩ => [m.orderId]
  | ⟨_, .instantActions, (m : InstantActions)⟩ => m.actions.map Action.actionId
  | ⟨_, .responses, (m : Responses)⟩ => m.responses.map Response.requestId
  | ⟨_, .zoneSet, (m : ZoneSetMessage)⟩ => [m.zoneSet.zoneSetId]
  | ⟨context, _, _⟩ => [robotId context]

/-- Instant actions and responses with an empty list. -/
def ListsNothing : Dispatched → Prop
  | ⟨_, .instantActions, (m : InstantActions)⟩ => m.actions = []
  | ⟨_, .responses, (m : Responses)⟩ => m.responses = []
  | _ => False

theorem listsNothing_iff (d : Dispatched) : d.ListsNothing ↔ d.items = [] := by
  obtain ⟨context, t, m⟩ := d
  cases t <;> simp [ListsNothing, items]

end Dispatched

variable [JsonLibrary]

/-- The row says what the message and its topic say, and its payload decodes to the message. -/
structure IsRowOf (d : Dispatched) (e : Vda5050Event) : Prop where
  payload : decode e.payload = .ok d.message
  topic : e.topic = recordedTopic d.type
  direction : ∀ side : Side, d.type ∈ side.types → e.direction = side.direction
  manufacturer : e.manufacturer = d.context.manufacturer
  serialNumber : e.serialNumber = d.context.serialNumber
  robotId : e.robotId = d.context.manufacturer ++ "." ++ d.context.serialNumber
  header : e.headerId = some (header d.type d.message).1 ∧
    e.headerVersion = some (header d.type d.message).2.1 ∧ e.headerTimestamp = some (header d.type d.message).2.2

/-- The event of a message for one of its items. -/
def Dispatched.event (side : Side) (d : Dispatched) (item : String) : Vda5050Event :=
  insertEvent (recordedTopic d.type) item d.context side.direction (header d.type d.message).1
    (header d.type d.message).2.1 (header d.type d.message).2.2 (payloadOf d.message)

/-- A message leaves one event for each of its items. -/
theorem Dispatched.events_eq {side : Side} {d : Dispatched} (h : d.type ∈ side.types) :
    d.events = d.items.map (d.event side) := by
  obtain ⟨context, t, m⟩ := d
  cases side with
  | localSide =>
    cases t with
    | state | visualization | connection | factsheet => rfl
    | order | instantActions | responses | zoneSet => simp [Side.types] at h
  | cloudSide =>
    cases t with
    | order | zoneSet => rfl
    | instantActions | responses =>
      rw [Dispatched.items, List.map_map]
      rfl
    | state | visualization | connection | factsheet => simp [Side.types] at h

/-! ### The listener threads -/

/-- The table, and for each listener thread the events of its current message that are not inserted yet and the
messages it has been called with. -/
structure Recording where
  log : EventLog := .empty
  pending : Side → List Vda5050Event := fun _ => []
  dispatched : Side → List Dispatched := fun _ => []

/-- A listener is called with a message, or inserts the next event. -/
inductive RecordingStep where
  | dispatch (side : Side) (d : Dispatched)
  | insert (side : Side) (now : String)

namespace Recording

/-- The threads take turns in any order; a thread is called with a message when it has inserted the last one. -/
def step (s : Recording) : RecordingStep → Option Recording
  | .dispatch side d =>
    if s.pending side = [] ∧ d.type ∈ side.types then
      some { s with
        pending := Function.update s.pending side d.events
        dispatched := Function.update s.dispatched side (s.dispatched side ++ [d]) }
    else none
  | .insert side now =>
    match s.pending side with
    | [] => none
    | e :: es => some { s with log := s.log.insert now e, pending := Function.update s.pending side es }

def system : System Recording RecordingStep := .ofStep {} step

/-- The rows of a side. -/
def rowsOf (s : Recording) (side : Side) : List Vda5050Event :=
  s.log.events.filter fun e => e.direction = side.direction

/-- What a thread has inserted and has still to insert are the events of its messages in their order. -/
structure Progress (s : Recording) : Prop where
  types : ∀ side, ∀ d ∈ s.dispatched side, d.type ∈ side.types
  rows : ∀ side, (s.rowsOf side).map Vda5050Event.content ++ s.pending side =
    (s.dispatched side).flatMap Dispatched.events
  known : ∀ e ∈ s.log.events, ∃ side : Side, e.direction = side.direction

omit [JsonLibrary] in
theorem direction_injective : Function.Injective Side.direction := by
  intro side side' h
  cases side <;> cases side' <;> first | rfl | simp [Side.direction] at h

theorem of_mem_events {side : Side} {d : Dispatched} (h : d.type ∈ side.types) {e : Vda5050Event}
    (he : e ∈ d.events) : e.direction = side.direction ∧ e.content = e := by
  rw [Dispatched.events_eq h] at he
  obtain ⟨k, -, rfl⟩ := List.mem_map.1 he
  exact ⟨rfl, rfl⟩

private theorem progress_dispatch {s : Recording} (hs : s.Progress) {side : Side} {d : Dispatched}
    (hidle : s.pending side = []) (htype : d.type ∈ side.types) :
    Progress { s with
      pending := Function.update s.pending side d.events
      dispatched := Function.update s.dispatched side (s.dispatched side ++ [d]) } where
  types side' d' hd' := by
    by_cases hside : side' = side
    · subst hside
      simp only [Function.update_self] at hd'
      rcases List.mem_append.1 hd' with hd' | hd'
      · exact hs.types side' d' hd'
      · rwa [List.mem_singleton.1 hd']
    · simp only [Function.update_of_ne hside] at hd'
      exact hs.types side' d' hd'
  rows side' := by
    have hrows := hs.rows side'
    by_cases hside : side' = side
    · subst hside
      rw [hidle, List.append_nil] at hrows
      simp only [Function.update_self, List.flatMap_append, List.flatMap_singleton, ← hrows]
      rfl
    · simp only [Function.update_of_ne hside]
      exact hrows
  known := hs.known

private theorem progress_insert {s : Recording} (hs : s.Progress) {side : Side} {now : String} {e : Vda5050Event}
    {es : List Vda5050Event} (hpending : s.pending side = e :: es) :
    Progress { s with log := s.log.insert now e, pending := Function.update s.pending side es } := by
  have hmem : e ∈ (s.dispatched side).flatMap Dispatched.events := by
    rw [← hs.rows side, hpending]
    exact List.mem_append_right _ List.mem_cons_self
  obtain ⟨d, hd, he⟩ := List.mem_flatMap.1 hmem
  obtain ⟨hdirection, hcontent⟩ := of_mem_events (hs.types side d hd) he
  refine ⟨hs.types, fun side' => ?_, fun e' he' => ?_⟩
  · have hrows := hs.rows side'
    unfold rowsOf EventLog.insert at *
    dsimp only
    rw [List.filter_append, List.map_append]
    by_cases hside : side' = side
    · subst hside
      rw [hpending] at hrows
      have hnew : ([{ e with id := s.log.lastId + 1, receivedAt := now }].filter
          fun e => e.direction = side'.direction).map Vda5050Event.content = [e] := by
        rw [← hcontent]
        simp [hdirection, Vda5050Event.content]
      rw [hnew, Function.update_self, List.append_assoc]
      exact hrows
    · have hne : e.direction ≠ side'.direction := by
        rw [hdirection]
        exact fun h => hside (direction_injective h).symm
      simpa [hne, Function.update_of_ne hside] using hrows
  · rcases List.mem_append.1 he' with he' | he'
    · exact hs.known e' he'
    · rw [List.mem_singleton.1 he']
      exact ⟨side, hdirection⟩

theorem progress_of_reachable {s : Recording} (h : system.Reachable s) : s.Progress := by
  refine h.invariant ?_ ?_
  · rintro s rfl
    exact ⟨fun _ _ hd => by simp at hd, fun _ => rfl, fun _ he => by cases he⟩
  · intro s a s' _ hs _ hstep
    cases a with
    | dispatch side d =>
      simp only [system, System.ofStep, step] at hstep
      split at hstep
      · next hcond =>
        cases hstep
        exact progress_dispatch hs hcond.1 hcond.2
      · cases hstep
    | insert side now =>
      simp only [system, System.ofStep, step] at hstep
      split at hstep
      · cases hstep
      · next hpending =>
        cases hstep
        exact progress_insert hs hpending

/-! ### Reading the messages back -/

/-- The number of rows a message leaves. -/
def rowCount (t : MessageType) (m : t.Message) : Nat := (Dispatched.mk default t m).items.length

/-- Reads the messages of a type, with the robots they belong to, from the rows of its topic. -/
def readBack (t : MessageType) (rows : List Vda5050Event) : List ((String × String) × t.Message) :=
  Feed.readBlocks (fun e => (decode (α := t.Message) e.payload).toOption.map fun m => (e.identity, m))
    (fun x => rowCount t x.2) 0 rows

omit [JsonLibrary] in
/-- The message with its robot, if it is of the type. -/
def ofType (t : MessageType) : Dispatched → Option ((String × String) × t.Message)
  | ⟨context, t', m⟩ => if h : t' = t then some (context.identity, h ▸ m) else none

/-- What the table says about the messages of a side: each has left a row; the rows are those of the messages' items,
one for each, in the order of the messages; and the messages are read back from the rows of their topics. -/
structure AuditTrail (side : Side) (s : Recording) : Prop where
  leaves : ∀ d ∈ s.dispatched side, ∃ e ∈ s.rowsOf side, IsRowOf d e
  rows : List.Forall₂ (fun x e => IsRowOf x.1 e ∧ e.itemId = x.2)
    ((s.dispatched side).flatMap fun d => d.items.map fun item => (d, item)) (s.rowsOf side)
  readBack : ∀ t ∈ side.types, readBack t (s.log.events.filter fun e => e.topic = recordedTopic t) =
    (s.dispatched side).filterMap (ofType t)

omit [JsonLibrary] in
theorem side_eq_of_mem_types {side side' : Side} {t : MessageType} (h : t ∈ side.types) (h' : t ∈ side'.types) :
    side = side' := by
  cases side <;> cases side' <;> first | rfl | (cases t <;> simp [Side.types] at h h')

theorem isRowOf_of_content {side : Side} {d : Dispatched} (htype : d.type ∈ side.types)
    (hparse : ParsesBack (json d.message)) {e : Vda5050Event} {item : String} (h : e.content = d.event side item) :
    IsRowOf d e ∧ e.itemId = item := by
  have hpayload : e.payload = payloadOf d.message := congrArg Vda5050Event.payload h
  refine ⟨⟨?_, congrArg Vda5050Event.topic h, fun side' htype' => ?_, congrArg Vda5050Event.manufacturer h,
    congrArg Vda5050Event.serialNumber h, congrArg Vda5050Event.robotId h, congrArg Vda5050Event.headerId h,
    congrArg Vda5050Event.headerVersion h, congrArg Vda5050Event.headerTimestamp h⟩,
    congrArg Vda5050Event.itemId h⟩
  · rw [hpayload, payloadOf, decode_dump hparse]
    exact fromJson_json d.message
  · rw [side_eq_of_mem_types htype' htype]
    exact congrArg Vda5050Event.direction h

/-- The rows of a thread that has inserted its last message. -/
private theorem forall₂_rows {s : Recording} (hs : s.Progress) {side : Side} (hidle : s.pending side = [])
    (hparse : ∀ d ∈ s.dispatched side, ParsesBack (json d.message)) :
    List.Forall₂ (fun x e => IsRowOf x.1 e ∧ e.itemId = x.2)
      ((s.dispatched side).flatMap fun d => d.items.map fun item => (d, item)) (s.rowsOf side) := by
  have hrows := hs.rows side
  rw [hidle, List.append_nil] at hrows
  have hevents : (s.rowsOf side).map Vda5050Event.content =
      ((s.dispatched side).flatMap fun d => d.items.map fun item => (d, item)).map fun x => x.1.event side x.2 := by
    rw [hrows, List.map_flatMap]
    refine List.flatMap_congr fun d hd => ?_
    rw [Dispatched.events_eq (hs.types side d hd), List.map_map]
    rfl
  have hcontent : List.Forall₂ (fun x e => e.content = x.1.event side x.2)
      ((s.dispatched side).flatMap fun d => d.items.map fun item => (d, item)) (s.rowsOf side) := by
    have heq := List.forall₂_eq_eq_eq ▸ hevents.symm
    rw [List.forall₂_map_left_iff, List.forall₂_map_right_iff] at heq
    exact heq.imp fun _ _ h => h.symm
  refine Feed.forall₂_imp_of_mem hcontent fun x hx e h => ?_
  obtain ⟨d, hd, hx⟩ := List.mem_flatMap.1 hx
  obtain ⟨item, -, rfl⟩ := List.mem_map.1 hx
  exact isRowOf_of_content (hs.types side d hd) (hparse d hd) h

private theorem exists_dispatched_of_row {s : Recording} (hs : s.Progress) {side : Side} {e : Vda5050Event}
    (he : e ∈ s.rowsOf side) : ∃ d ∈ s.dispatched side, e.content ∈ d.events := by
  have hmem : e.content ∈ (s.dispatched side).flatMap Dispatched.events := by
    rw [← hs.rows side]
    exact List.mem_append_left _ (List.mem_map_of_mem he)
  exact List.mem_flatMap.1 hmem

/-- The rows of a topic belong to the side that subscribes to it. -/
private theorem filter_topic {s : Recording} (hs : s.Progress) {side : Side} {t : MessageType} (ht : t ∈ side.types) :
    (s.log.events.filter fun e => e.topic = recordedTopic t) =
      (s.rowsOf side).filter fun e => e.topic = recordedTopic t := by
  rw [rowsOf, List.filter_filter]
  refine List.filter_congr fun e he => ?_
  by_cases htopic : e.topic = recordedTopic t
  · obtain ⟨side', hdirection⟩ := hs.known e he
    have hrow : e ∈ s.rowsOf side' := List.mem_filter.2 ⟨he, decide_eq_true hdirection⟩
    obtain ⟨d, hd, hevent⟩ := exists_dispatched_of_row hs hrow
    have htype : recordedTopic d.type = recordedTopic t := (topic_of_mem_recordedEvents hevent).1.symm.trans htopic
    have hside : side' = side := by
      refine side_eq_of_mem_types (hs.types side' d hd) ?_
      rw [recordedTopic_injective htype]
      exact ht
    simp [htopic, hdirection, hside]
  · simp [htopic]

/-- The rows that a message of the type leaves. -/
def block (t : MessageType) (x : (String × String) × t.Message) : List Vda5050Event :=
  recordedEvents ⟨"", "", x.1.1, x.1.2⟩ t x.2

private theorem block_identity (context : VDA5050TopicContext) (t : MessageType) (m : t.Message) :
    block t (context.identity, m) = Dispatched.events ⟨context, t, m⟩ := by
  cases t <;> rfl

/-- The events of a topic are those of the messages of its type. -/
private theorem filter_events (t : MessageType) (ds : List Dispatched) :
    ((ds.flatMap Dispatched.events).filter fun e => e.topic = recordedTopic t) =
      (ds.filterMap (ofType t)).flatMap (block t) := by
  induction ds with
  | nil => rfl
  | cons d ds ih =>
    obtain ⟨context, t', m⟩ := d
    have htopic : ∀ e ∈ Dispatched.events ⟨context, t', m⟩, e.topic = recordedTopic t' :=
      fun e he => (topic_of_mem_recordedEvents he).1
    rw [List.flatMap_cons, List.filter_append, ih, List.filterMap_cons]
    by_cases ht : t' = t
    · subst ht
      have hall := List.filter_eq_self.2 fun e he => decide_eq_true (htopic e he)
      have hself : ofType t' ⟨context, t', m⟩ = some (context.identity, m) := dif_pos rfl
      rw [hall, hself, List.flatMap_cons, block_identity]
    · have hnone : ofType t ⟨context, t', m⟩ = none := dif_neg ht
      have hnil : (Dispatched.events ⟨context, t', m⟩).filter (fun e => e.topic = recordedTopic t) = [] := by
        rw [List.filter_eq_nil_iff]
        intro e he heq
        rw [decide_eq_true_iff, htopic e he] at heq
        exact ht (recordedTopic_injective heq)
      rw [hnone, hnil, List.nil_append]

theorem readBack_of_listsSomething {s : Recording} (hs : s.Progress) {side : Side} (hidle : s.pending side = [])
    (hparse : ∀ d ∈ s.dispatched side, ParsesBack (json d.message))
    (h : ∀ d ∈ s.dispatched side, ¬ d.ListsNothing) {t : MessageType} (ht : t ∈ side.types) :
    readBack t (s.log.events.filter fun e => e.topic = recordedTopic t) =
      (s.dispatched side).filterMap (ofType t) := by
  have hrows := hs.rows side
  rw [hidle, List.append_nil] at hrows
  have hblocks : ((s.rowsOf side).filter fun e => e.topic = recordedTopic t).map Vda5050Event.content =
      ((s.dispatched side).filterMap (ofType t)).flatMap (block t) := by
    rw [← filter_events, ← hrows, List.filter_map]
    rfl
  -- what is known of a message of the type
  have hmessage : ∀ x ∈ (s.dispatched side).filterMap (ofType t), ∃ context m,
      Dispatched.mk context t m ∈ s.dispatched side ∧ x = (context.identity, m) ∧
        block t x = Dispatched.events ⟨context, t, m⟩ := by
    intro x hx
    obtain ⟨⟨context, t', m⟩, hd, hx⟩ := List.mem_filterMap.1 hx
    have hx : (if h : t' = t then some (context.identity, h ▸ m) else none) = some x := hx
    split at hx
    · next heq =>
      subst heq
      obtain rfl := Option.some.inj hx
      exact ⟨context, m, hd, rfl, block_identity context t' m⟩
    · cases hx
  have hcontent : ∀ rows : List Vda5050Event, readBack t (rows.map Vda5050Event.content) = readBack t rows :=
    fun rows => Feed.readBlocks_map _ (fun _ => rfl) 0 rows
  rw [filter_topic hs ht, ← hcontent, hblocks]
  refine Feed.readBlocks_flatMap (fun x hx => ?_) (fun x hx => ?_) fun x hx e he => ?_
  · obtain ⟨context, m, hd, rfl, hblock⟩ := hmessage x hx
    rw [hblock, Dispatched.events_eq ht, ne_eq, List.map_eq_nil_iff, ← Dispatched.listsNothing_iff]
    exact h _ hd
  · obtain ⟨context, m, hd, rfl, hblock⟩ := hmessage x hx
    rw [hblock, Dispatched.events_eq ht, List.length_map, rowCount]
    cases t <;> rfl
  · obtain ⟨context, m, hd, rfl, hblock⟩ := hmessage x hx
    rw [hblock] at he
    have hdecode := decode_of_mem_recordedEvents (hparse _ hd) he
    rw [Dispatched.events_eq ht] at he
    obtain ⟨item, -, rfl⟩ := List.mem_map.1 he
    rw [hdecode]
    rfl

/-- After any run in which its inserts are done, a thread finds its messages in the table if and only if none of
them lists nothing. -/
theorem auditTrail_iff {s : Recording} (h : system.Reachable s) {side : Side} (hidle : s.pending side = [])
    (hparse : ∀ d ∈ s.dispatched side, ParsesBack (json d.message)) :
    AuditTrail side s ↔ ∀ d ∈ s.dispatched side, ¬ d.ListsNothing := by
  have hs := progress_of_reachable h
  constructor
  · intro htrail d hd hnothing
    obtain ⟨e, he, hrow⟩ := htrail.leaves d hd
    obtain ⟨d', hd', hevent⟩ := exists_dispatched_of_row hs he
    have htopic : recordedTopic d'.type = recordedTopic d.type :=
      (topic_of_mem_recordedEvents hevent).1.symm.trans hrow.topic
    have hdecode := decode_of_mem_recordedEvents (hparse d' hd') hevent
    obtain ⟨context, t, m⟩ := d
    obtain ⟨context', t', m'⟩ := d'
    obtain rfl := recordedTopic_injective htopic
    -- the row was left by a message that is the same up to its robot
    have hm : m' = m := Except.ok.inj (hdecode.symm.trans hrow.payload)
    subst hm
    have hnothing' : (Dispatched.mk context' t' m').ListsNothing := by
      cases t' <;> exact hnothing
    rw [Dispatched.events_eq (hs.types side _ hd'), (Dispatched.listsNothing_iff _).1 hnothing'] at hevent
    simp at hevent
  · intro hlists
    have hforall := forall₂_rows hs hidle hparse
    refine ⟨fun d hd => ?_, hforall, fun t ht => readBack_of_listsSomething hs hidle hparse hlists ht⟩
    have hitems : d.items ≠ [] := fun hnil => hlists d hd ((Dispatched.listsNothing_iff d).2 hnil)
    obtain ⟨item, hitem⟩ := List.exists_mem_of_ne_nil _ hitems
    have hmem : (d, item) ∈ (s.dispatched side).flatMap fun d => d.items.map fun item => (d, item) :=
      List.mem_flatMap.2 ⟨d, hd, List.mem_map_of_mem hitem⟩
    obtain ⟨e, he, hrow, -⟩ := Feed.exists_of_mem_forall₂ hforall hmem
    exact ⟨e, he, hrow⟩

/-! ### A message that lists nothing -/

/-- A message with two responses and one with a single response are recorded. -/
def queuedRun : List RecordingStep :=
  [.dispatch .cloudSide Projection.queued, .insert .cloudSide "2026-01-01T00:00:00Z",
    .insert .cloudSide "2026-01-01T00:00:01Z", .dispatch .cloudSide Projection.granted,
    .insert .cloudSide "2026-01-01T00:00:02Z"]

omit [JsonLibrary] in
theorem auditTrail_iff_queued :
    letI := JsonLibrary.ofTexts [Projection.queuedText, Projection.grantedText]
    ∃ s, replay step {} queuedRun = some s ∧
      (AuditTrail .cloudSide s ↔ ∀ d ∈ s.dispatched .cloudSide, ¬ d.ListsNothing) := by
  let lib := JsonLibrary.ofTexts [Projection.queuedText, Projection.grantedText]
  have hrun : ∃ s, replay step {} queuedRun = some s ∧ s.pending .cloudSide = [] ∧
      s.dispatched .cloudSide = [Projection.queued, Projection.granted] := ⟨_, rfl, rfl, rfl⟩
  obtain ⟨s, hs, hidle, hdispatched⟩ := hrun
  have hreach : system.Reachable s := reachable_of_replay (.init rfl) hs
  refine ⟨s, hs, auditTrail_iff hreach hidle fun d hd => ?_⟩
  rw [hdispatched] at hd
  exact Projection.parsesBack_overlap d hd

omit [JsonLibrary] in
/-- A message without responses leaves no row. -/
theorem not_auditTrail_of_no_responses :
    ¬ ∀ [JsonLibrary] (s : Recording), system.Reachable s → ∀ side : Side, s.pending side = [] →
      (∀ d ∈ s.dispatched side, ParsesBack (json d.message)) → AuditTrail side s := by
  intro h
  let lib := JsonLibrary.ofText
    ("\x7b\"headerId\":0,\"manufacturer\":\"\",\"responses\":[],\"serialNumber\":\"\"," ++
      "\"timestamp\":\"\",\"version\":\"\"\x7d")
    (.obj [("headerId", .int 0), ("timestamp", .str ""), ("version", .str ""), ("manufacturer", .str ""),
      ("serialNumber", .str ""), ("responses", .arr [])])
  let d : Dispatched := ⟨⟨"uagv", "v3", "acme", "7"⟩, .responses, (⟨0, "", "", "", "", []⟩ : Responses)⟩
  have hstep : ∃ s, step {} (.dispatch .cloudSide d) = some s ∧ s.pending .cloudSide = [] ∧
      s.dispatched .cloudSide = [d] ∧ s.log.events = [] := ⟨_, rfl, rfl, rfl, rfl⟩
  obtain ⟨s, hs, hidle, hdispatched, hlog⟩ := hstep
  have hreach : system.Reachable s := .step (.init rfl) (a := .dispatch .cloudSide d) trivial hs
  have htrail := h s hreach .cloudSide hidle fun d' hd' => by
    rw [hdispatched, List.mem_singleton] at hd'
    rw [hd']
    exact parsesBack_json_ofText _ _ (t := .responses) _ rfl
  obtain ⟨e, he, -⟩ := htrail.leaves d (by rw [hdispatched]; exact List.mem_singleton_self _)
  have hmem : e ∈ s.log.events := (List.mem_filter.1 he).1
  rw [hlog] at hmem
  exact List.not_mem_nil hmem

end Recording

end SyriusOrbit

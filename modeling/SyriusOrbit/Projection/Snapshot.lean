import SyriusOrbit.Projection.Projectors
import SyriusOrbit.Recorder

/-!
# Robots and orders after a cycle

What a cycle makes of a row of `robots` or `orders`: the columns of a topic come from the newest event of the topic
for the key, and columns without such an event stay (`cycle_projects_newest`).  Three projectors write to one row of
`robots`; `column_robots` reduces each column to the statements for the row, of which there is at most one for each
topic.
-/

namespace SyriusOrbit.Projection

open JsonFormat Vda5050 Db Sql

variable [JsonLibrary]

/-! ### The statements for one key -/

omit [JsonLibrary] in
/-- Where the statements of an event are for its item, those for a key come from the events of the item. -/
private theorem filter_flatMap_of_key {S : Type} {key : S → String} {stm : Vda5050Event → List S}
    {rows : List Vda5050Event} (h : ∀ e ∈ rows, ∀ s ∈ stm e, key s = e.itemId) (k : String) :
    (rows.flatMap stm).filter (fun s => decide (key s = k)) =
      (rows.filter fun e => decide (e.itemId = k)).flatMap stm := by
  induction rows with
  | nil => rfl
  | cons e rows ih =>
    rw [List.flatMap_cons, List.filter_append, ih fun e' he' => h e' (List.mem_cons_of_mem e he'), List.filter_cons]
    have hkey := h e (by simp)
    by_cases hk : e.itemId = k
    · rw [List.filter_eq_self.2 fun s hs => by simp [hkey s hs, hk]]
      simp [hk]
    · rw [List.filter_eq_nil_iff.2 fun s hs => by simp [hkey s hs, hk]]
      simp [hk]

omit [JsonLibrary] in
private theorem filter_statements_of_query {S : Type} {key : S → String} {stm : Vda5050Event → List S} {log : EventLog}
    {rowsOf : String → List Vda5050Event} (hq : IsQueryResult log rowsOf) {topic : String}
    (h : ∀ e ∈ log.events, e.topic = topic → ∀ s ∈ stm e, key s = e.itemId) (k : String) :
    ((rowsOf topic).flatMap stm).filter (fun s => decide (key s = k)) = (log.newest topic k).toList.flatMap stm := by
  rw [filter_flatMap_of_key, EventLog.filter_findLatestByTopic (hq topic)]
  intro e he s hs
  obtain ⟨hmem, htopic, -⟩ := EventLog.mem_of_newest (EventLog.mem_findLatestByTopic.1 ((hq topic).mem_iff.1 he))
  exact h e hmem htopic s hs

/-- The events of `connection`, `state` and `factsheet` are filed under the robot. -/
def SnapshotKeys (log : EventLog) : Prop :=
  ∀ e ∈ log.events, e.topic = ConnectionProjector.topic ∨ e.topic = StateProjector.topic ∨
    e.topic = FactsheetProjector.topic → e.itemId = e.robotId

/-- The events of `order` are filed under the order their payload decodes to. -/
def OrderKeys (log : EventLog) : Prop :=
  ∀ e ∈ log.events, e.topic = OrderProjector.topic → ∀ m : Vda5050.Order, decode e.payload = .ok m →
    e.itemId = m.orderId

/-- The recorder files events this way. -/
theorem snapshotKeys_recordAll (clock : Nat → String) (ds : List Dispatched) :
    SnapshotKeys (recordAll clock .empty ds) := by
  intro e he htopic
  rcases mem_recordAll he with he | ⟨⟨context, t, m⟩, -, e₀, he₀, id, now, rfl⟩
  · exact absurd he List.not_mem_nil
  · cases t with
    | state | visualization | connection | factsheet =>
      rw [List.mem_singleton.1 he₀]
      rfl
    | order | zoneSet =>
      rw [List.mem_singleton.1 he₀] at htopic
      simp [insertEvent, ConnectionProjector.topic, StateProjector.topic, FactsheetProjector.topic] at htopic
    | instantActions | responses =>
      obtain ⟨a, -, rfl⟩ := List.mem_map.1 he₀
      simp [insertEvent, ConnectionProjector.topic, StateProjector.topic, FactsheetProjector.topic] at htopic

theorem orderKeys_recordAll (clock : Nat → String) {ds : List Dispatched}
    (hparse : ∀ d ∈ ds, ParsesBack (json d.message)) : OrderKeys (recordAll clock .empty ds) := by
  intro e he htopic m hm
  rcases mem_recordAll he with he | ⟨⟨context, t, m'⟩, hd, e₀, he₀, id, now, rfl⟩
  · exact absurd he List.not_mem_nil
  · have hdecode : decode e₀.payload = .ok m' := decode_of_mem_recordedEvents (hparse _ hd) he₀
    have ht : recordedTopic t = "order" := (topic_of_mem_recordedEvents he₀).1.symm.trans htopic
    cases t with
    | order =>
      have hmm : m' = m := Except.ok.inj (hdecode.symm.trans hm)
      rw [List.mem_singleton.1 he₀, ← hmm]
      rfl
    | _ => simp [recordedTopic] at ht

/-- Each newest event of a topic that is decoded for robots and orders decodes. -/
structure NewestDecode (log : EventLog) : Prop where
  connection : ∀ k e, log.newest ConnectionProjector.topic k = some e →
    ∃ m : Connection, decode e.payload = .ok m
  state : ∀ k e, log.newest StateProjector.topic k = some e → ∃ m : State, decode e.payload = .ok m
  order : ∀ k e, log.newest OrderProjector.topic k = some e → ∃ m : Vda5050.Order, decode e.payload = .ok m

/-- The newest event of a recorded log for a message type decodes to a message of the type. -/
private theorem decode_newest_recordAll (clock : Nat → String) {ds : List Dispatched}
    (hparse : ∀ d ∈ ds, ParsesBack (json d.message)) {t : MessageType} {k : String} {e : Vda5050Event}
    (he : (recordAll clock .empty ds).newest (recordedTopic t) k = some e) :
    ∃ m : t.Message, decode e.payload = .ok m := by
  obtain ⟨hmem, htopic, -⟩ := EventLog.mem_of_newest he
  obtain ⟨⟨context, t', m⟩, -, htopic', hm⟩ := decode_of_mem_recordAll hparse hmem
  obtain rfl := recordedTopic_injective (htopic.symm.trans htopic')
  exact ⟨m, hm⟩

private theorem newestDecode_recordAll (clock : Nat → String) {ds : List Dispatched}
    (hparse : ∀ d ∈ ds, ParsesBack (json d.message)) : NewestDecode (recordAll clock .empty ds) where
  connection _ _ he := decode_newest_recordAll clock hparse (t := .connection) he
  state _ _ he := decode_newest_recordAll clock hparse (t := .state) he
  order _ _ he := decode_newest_recordAll clock hparse (t := .order) he

/-- The statements of a cycle for one robot. -/
def robotStatements (log : EventLog) (k : String) : List RobotsStatement :=
  (log.newest ConnectionProjector.topic k).toList.flatMap ConnectionProjector.statements ++
    (log.newest StateProjector.topic k).toList.flatMap StateProjector.statements ++
    (log.newest FactsheetProjector.topic k).toList.flatMap FactsheetProjector.statements

private theorem filter_robotsStatements {log : EventLog} {rowsOf : String → List Vda5050Event}
    (hq : IsQueryResult log rowsOf) (hkeys : SnapshotKeys log) (k : String) :
    (robotsStatements rowsOf).filter (fun s => decide (s.row.robotId = k)) = robotStatements log k := by
  rw [robotsStatements, List.filter_append, List.filter_append, robotStatements]
  congr 1
  congr 1
  · refine filter_statements_of_query hq (fun e he htopic s hs => ?_) k
    obtain ⟨m, rfl⟩ := ConnectionProjector.eq_of_mem_statements hs
    exact (hkeys e he (.inl htopic)).symm
  · refine filter_statements_of_query hq (fun e he htopic s hs => ?_) k
    obtain ⟨m, rfl⟩ := StateProjector.eq_of_mem_statements hs
    exact (hkeys e he (.inr (.inl htopic))).symm
  · refine filter_statements_of_query hq (fun e he htopic s hs => ?_) k
    rw [List.mem_singleton.1 hs, hkeys e he (.inr (.inr htopic))]
    rfl

private theorem filter_ordersStatements {log : EventLog} {rowsOf : String → List Vda5050Event}
    (hq : IsQueryResult log rowsOf) (hkeys : OrderKeys log) (k : String) :
    (ordersStatements rowsOf).filter (fun s => decide (s.row.orderId = k)) =
      (log.newest OrderProjector.topic k).toList.flatMap OrderProjector.statements := by
  refine filter_statements_of_query hq (fun e he htopic s hs => ?_) k
  obtain ⟨m, hm, rfl⟩ := OrderProjector.eq_of_mem_statements hs
  exact (hkeys e he htopic m hm).symm

/-! ### The rows -/

theorem cycle_robots (rowsOf : String → List Vda5050Event) (db : ReadModel) :
    (cycle rowsOf db).robots = db.robots.execAll ((robotsStatements rowsOf).map RobotsStatement.sql) := by
  rw [cycle_eq]
  rfl

theorem cycle_orders (rowsOf : String → List Vda5050Event) (db : ReadModel) :
    (cycle rowsOf db).orders = db.orders.execAll ((ordersStatements rowsOf).map OrdersStatement.sql) := by
  rw [cycle_eq]
  rfl

theorem cycle_instantActions (rowsOf : String → List Vda5050Event) (db : ReadModel) :
    (cycle rowsOf db).instantActions =
      db.instantActions.execAll ((instantActionsStatements rowsOf).map InstantActionsStatement.sql) := by
  rw [cycle_eq]
  rfl

theorem find?_cycle_robots {log : EventLog} {rowsOf : String → List Vda5050Event} (hq : IsQueryResult log rowsOf)
    (hkeys : SnapshotKeys log) (db : ReadModel) (k : String) :
    (cycle rowsOf db).robots.find? k =
      runRow (db.robots.find? k) ((robotStatements log k).map RobotsStatement.sql) := by
  rw [cycle_robots, Table.find?_execAll, List.filter_map, ← filter_robotsStatements hq hkeys]
  rfl

theorem find?_cycle_orders {log : EventLog} {rowsOf : String → List Vda5050Event} (hq : IsQueryResult log rowsOf)
    (hkeys : OrderKeys log) (db : ReadModel) (k : String) :
    (cycle rowsOf db).orders.find? k =
      runRow (db.orders.find? k)
        (((log.newest OrderProjector.topic k).toList.flatMap OrderProjector.statements).map OrdersStatement.sql) := by
  rw [cycle_orders, Table.find?_execAll, List.filter_map, ← filter_ordersStatements hq hkeys]
  rfl

/-! ### Columns of robots -/

omit [JsonLibrary] in
private theorem filterMap_flatMap_eq_nil {S γ : Type} (stm : Vda5050Event → List S) {f : S → Option γ}
    (h : ∀ e, ∀ s ∈ stm e, f s = none) (es : List Vda5050Event) : (es.flatMap stm).filterMap f = [] := by
  rw [List.filterMap_eq_nil_iff]
  intro s hs
  obtain ⟨e, -, hs⟩ := List.mem_flatMap.1 hs
  exact h e s hs

/-- A column holds the last value given to it by the statements for the robot. -/
theorem column_robots {γ : Type} {c : Robot → γ} {d : γ} {f : RobotsStatement → Option γ}
    (hw : ∀ s : RobotsStatement, s.sql.Writes c d (f s)) {log : EventLog} {rowsOf : String → List Vda5050Event}
    (hq : IsQueryResult log rowsOf) (hkeys : SnapshotKeys log) {db : ReadModel} {k : String} {r : Robot}
    (hr : (cycle rowsOf db).robots.find? k = some r) :
    c r = ((robotStatements log k).filterMap f).getLast?.getD (((db.robots.find? k).map c).getD d) := by
  rw [find?_cycle_robots hq hkeys] at hr
  exact column_runRow (fun s _ => hw s) hr

private theorem connectionState_statements (log : EventLog) (k : String) :
    (robotStatements log k).filterMap RobotsStatement.connectionState? =
      ((log.newest ConnectionProjector.topic k).toList.flatMap ConnectionProjector.statements).filterMap
        RobotsStatement.connectionState? := by
  rw [robotStatements, List.filterMap_append, List.filterMap_append,
    filterMap_flatMap_eq_nil FactsheetProjector.statements,
    filterMap_flatMap_eq_nil StateProjector.statements, List.append_nil, List.append_nil]
  · exact fun e s hs => (StateProjector.only_stateColumns hs).1
  · exact fun e s hs => (FactsheetProjector.only_factsheet hs).1

private theorem stateColumns_statements (log : EventLog) (k : String) :
    (robotStatements log k).filterMap RobotsStatement.stateColumns? =
      ((log.newest StateProjector.topic k).toList.flatMap StateProjector.statements).filterMap
        RobotsStatement.stateColumns? := by
  rw [robotStatements, List.filterMap_append, List.filterMap_append,
    filterMap_flatMap_eq_nil FactsheetProjector.statements,
    filterMap_flatMap_eq_nil ConnectionProjector.statements, List.append_nil, List.nil_append]
  · exact fun e s hs => (ConnectionProjector.only_connectionState hs).1
  · exact fun e s hs => (FactsheetProjector.only_factsheet hs).2

private theorem factsheet_statements (log : EventLog) (k : String) :
    (robotStatements log k).filterMap RobotsStatement.factsheet? =
      ((log.newest FactsheetProjector.topic k).toList.flatMap FactsheetProjector.statements).filterMap
        RobotsStatement.factsheet? := by
  rw [robotStatements, List.filterMap_append, List.filterMap_append,
    filterMap_flatMap_eq_nil StateProjector.statements,
    filterMap_flatMap_eq_nil ConnectionProjector.statements, List.nil_append, List.nil_append]
  · exact fun e s hs => (ConnectionProjector.only_connectionState hs).2
  · exact fun e s hs => (StateProjector.only_stateColumns hs).2

/-! ### The row of a robot -/

/-- What a cycle makes of the row of the robot `k`, from the newest events and the row `prior` there was. -/
structure RobotProjected (log : EventLog) (k : String) (prior after : Option Robot) : Prop where
  connection : ∀ e, log.newest ConnectionProjector.topic k = some e →
    ∃ (m : Connection) (r : Robot), decode e.payload = .ok m ∧ after = some r ∧
      r.connectionState = JsonEnum.name m.connectionState
  state : ∀ e, log.newest StateProjector.topic k = some e →
    ∃ (m : State) (r : Robot), decode e.payload = .ok m ∧ after = some r ∧
      r.operatingMode = some (JsonEnum.name m.operatingMode) ∧ r.driving = m.driving ∧
      r.paused = m.paused.getD false ∧ r.batteryLevel = realColumn m.powerSupply.stateOfCharge ∧
      r.charging = m.powerSupply.charging
  factsheet : ∀ e, log.newest FactsheetProjector.topic k = some e →
    ∃ r : Robot, after = some r ∧ r.factsheet = some e.payload
  noConnection : log.newest ConnectionProjector.topic k = none →
    ∀ r, after = some r → r.connectionState = (prior.map Robot.connectionState).getD "OFFLINE"
  noState : log.newest StateProjector.topic k = none →
    ∀ r, after = some r → r.stateColumns = (prior.map Robot.stateColumns).getD {}
  noFactsheet : log.newest FactsheetProjector.topic k = none →
    ∀ r, after = some r → r.factsheet = (prior.map Robot.factsheet).getD none
  noEvent : log.newest ConnectionProjector.topic k = none → log.newest StateProjector.topic k = none →
    log.newest FactsheetProjector.topic k = none → after = prior

/-- What a cycle makes of the row of the order `k`. -/
structure OrderProjected (log : EventLog) (k : String) (prior after : Option Db.Order) : Prop where
  order : ∀ e, log.newest OrderProjector.topic k = some e →
    ∃ (m : Vda5050.Order) (r : Db.Order), decode e.payload = .ok m ∧ after = some r ∧
      r.orderUpdateId = m.orderUpdateId ∧ r.orderDescription = nonEmpty (m.orderDescription.getD "") ∧
      r.assignedRobotId = e.robotId ∧ r.nodes = JsonLibrary.dump (toJson m.nodes).canon ∧
      r.edges = JsonLibrary.dump (toJson m.edges).canon
  noEvent : log.newest OrderProjector.topic k = none → after = prior

private theorem exists_row_of_statement {log : EventLog} {rowsOf : String → List Vda5050Event}
    (hq : IsQueryResult log rowsOf) (hkeys : SnapshotKeys log) (db : ReadModel) {k : String} {s : RobotsStatement}
    (hs : s ∈ robotStatements log k) : ∃ r, (cycle rowsOf db).robots.find? k = some r := by
  rw [find?_cycle_robots hq hkeys]
  refine Option.isSome_iff_exists.1 (isSome_runRow (.inr ?_))
  exact List.ne_nil_of_mem (List.mem_map_of_mem hs)

private theorem robotProjected_cycle {log : EventLog} {rowsOf : String → List Vda5050Event}
    (hq : IsQueryResult log rowsOf)
    (hkeys : SnapshotKeys log) (hdec : NewestDecode log) (db : ReadModel) (k : String) :
    RobotProjected log k (db.robots.find? k) ((cycle rowsOf db).robots.find? k) where
  connection := by
    intro e he
    obtain ⟨m, hm⟩ := hdec.connection k e he
    have hstm : (log.newest ConnectionProjector.topic k).toList.flatMap ConnectionProjector.statements =
        [.upsertConnection e.robotId e.manufacturer e.serialNumber (JsonEnum.name m.connectionState)
          e.receivedAt] := by
      simp [he, ConnectionProjector.statements, onDecoded_of_decode hm]
    obtain ⟨r, hr⟩ := exists_row_of_statement hq hkeys db (k := k)
      (List.mem_append_left _ (List.mem_append_left _ (by rw [hstm]; exact List.mem_singleton_self _)))
    have hc := column_robots RobotsStatement.writes_connectionState hq hkeys hr
    rw [connectionState_statements, hstm] at hc
    exact ⟨m, r, hm, hr, hc⟩
  state := by
    intro e he
    obtain ⟨m, hm⟩ := hdec.state k e he
    have hstm : (log.newest StateProjector.topic k).toList.flatMap StateProjector.statements =
        [.upsertState e.robotId e.manufacturer e.serialNumber (JsonEnum.name m.operatingMode) m.driving
          (m.paused.getD false) m.powerSupply.stateOfCharge m.powerSupply.charging e.receivedAt] := by
      simp [he, StateProjector.statements, onDecoded_of_decode hm]
    obtain ⟨r, hr⟩ := exists_row_of_statement hq hkeys db (k := k)
      (List.mem_append_left _ (List.mem_append_right _ (by rw [hstm]; exact List.mem_singleton_self _)))
    have hc := column_robots RobotsStatement.writes_stateColumns hq hkeys hr
    rw [stateColumns_statements, hstm] at hc
    have hcolumns : r.stateColumns = ⟨some (JsonEnum.name m.operatingMode), m.driving, m.paused.getD false,
      realColumn m.powerSupply.stateOfCharge, m.powerSupply.charging⟩ := hc
    simp only [Robot.stateColumns, StateColumns.mk.injEq] at hcolumns
    exact ⟨m, r, hm, hr, hcolumns⟩
  factsheet := by
    intro e he
    have hstm : (log.newest FactsheetProjector.topic k).toList.flatMap FactsheetProjector.statements =
        [.upsertFactsheet e.robotId e.manufacturer e.serialNumber e.payload e.receivedAt] := by
      simp [he, FactsheetProjector.statements]
    obtain ⟨r, hr⟩ := exists_row_of_statement hq hkeys db (k := k)
      (List.mem_append_right _ (by rw [hstm]; exact List.mem_singleton_self _))
    have hc := column_robots RobotsStatement.writes_factsheet hq hkeys hr
    rw [factsheet_statements, hstm] at hc
    exact ⟨r, hr, hc⟩
  noConnection := by
    intro hnone r hr
    have hc := column_robots RobotsStatement.writes_connectionState hq hkeys hr
    rwa [connectionState_statements, hnone] at hc
  noState := by
    intro hnone r hr
    have hc := column_robots RobotsStatement.writes_stateColumns hq hkeys hr
    rwa [stateColumns_statements, hnone] at hc
  noFactsheet := by
    intro hnone r hr
    have hc := column_robots RobotsStatement.writes_factsheet hq hkeys hr
    rwa [factsheet_statements, hnone] at hc
  noEvent := by
    intro hc hs hf
    rw [find?_cycle_robots hq hkeys, robotStatements, hc, hs, hf]
    rfl

private theorem orderProjected_cycle {log : EventLog} {rowsOf : String → List Vda5050Event}
    (hq : IsQueryResult log rowsOf)
    (hkeys : OrderKeys log) (hdec : NewestDecode log) (db : ReadModel) (k : String) :
    OrderProjected log k (db.orders.find? k) ((cycle rowsOf db).orders.find? k) where
  order := by
    intro e he
    obtain ⟨m, hm⟩ := hdec.order k e he
    have hrow := find?_cycle_orders hq hkeys db k
    simp only [he, Option.toList_some, List.flatMap_cons, List.flatMap_nil, OrderProjector.statements,
      onDecoded_of_decode hm, List.append_nil, List.map_cons, List.map_nil, runRow_cons, runRow_nil] at hrow
    refine ⟨m, _, hm, hrow, ?_⟩
    cases db.orders.find? k <;> exact ⟨rfl, rfl, rfl, rfl, rfl⟩
  noEvent := by
    intro hnone
    rw [find?_cycle_orders hq hkeys, hnone]
    rfl

/-- After a complete cycle the columns of robots and orders are those of the newest events, whatever the tables held
before and in whatever order the rows of the queries come; columns without an event stay. -/
theorem cycle_projects_newest {log : EventLog} {rowsOf : String → List Vda5050Event}
    (hq : IsQueryResult log rowsOf) (hsnapshot : SnapshotKeys log) (horder : OrderKeys log)
    (hdec : NewestDecode log) (db : ReadModel) :
    (∀ k, RobotProjected log k (db.robots.find? k) ((cycle rowsOf db).robots.find? k)) ∧
      ∀ k, OrderProjected log k (db.orders.find? k) ((cycle rowsOf db).orders.find? k) :=
  ⟨robotProjected_cycle hq hsnapshot hdec db, orderProjected_cycle hq horder hdec db⟩

omit [JsonLibrary] in
/-- A robot goes online and offline, with a cycle after each message. -/
theorem cycle_projects_newest_connection :
    letI := JsonLibrary.ofTexts connectionTexts
    let clock : Nat → String := fun _ => "2026-01-01T00:00:00Z"
    let db := cycle (recordAll clock .empty [wentOnline]).findLatestByTopic .empty
    let log := recordAll clock .empty [wentOnline, wentOffline]
    (∀ k, RobotProjected log k (db.robots.find? k) ((cycle log.findLatestByTopic db).robots.find? k)) ∧
      ∀ k, OrderProjected log k (db.orders.find? k) ((cycle log.findLatestByTopic db).orders.find? k) := by
  let lib := JsonLibrary.ofTexts connectionTexts
  exact cycle_projects_newest (fun _ => List.Perm.refl _) (snapshotKeys_recordAll _ _)
    (orderKeys_recordAll _ parsesBack_connections) (newestDecode_recordAll _ parsesBack_connections) _

end SyriusOrbit.Projection

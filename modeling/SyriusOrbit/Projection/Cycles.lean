import SyriusOrbit.Projection.Snapshot

/-!
# Failing events, repeated cycles and the columns of the management

A projector throws exactly where the payload does not decode, and then it has written nothing, so that a cycle is the
same without the events at which a projector throws (`cycles_without_failing`).  A cycle that is repeated without new
events changes nothing (`cycle_cycle`).  Over any number of cycles no row is lost, and the columns of the management
stay as they are (`untouched_cycles`).
-/

namespace SyriusOrbit.Projection

open JsonFormat Vda5050 Db Sql

variable [JsonLibrary]

/-- Cycles one after another, each with the rows of its queries. -/
def cycles (batches : List (String → List Vda5050Event)) (db : ReadModel) : ReadModel :=
  batches.foldl (fun db rowsOf => cycle rowsOf db) db

/-! ### Events that fail -/

omit [JsonLibrary] in
/-- Whether the projector throws at the event. -/
def Entry.throws (entry : Entry) (event : Vda5050Event) (db : ReadModel) : Bool :=
  match (runOn (entry.project event) db).1 with
  | .ok _ => false
  | .error _ => true

omit [JsonLibrary] in
/-- The type to which the payloads of a topic are decoded.  Factsheets are stored as they are. -/
def decodedType (topic : String) : Option MessageType :=
  if topic = ConnectionProjector.topic then some .connection
  else if topic = StateProjector.topic then some .state
  else if topic = OrderProjector.topic then some .order
  else if topic = InstantActionsProjector.topic then some .instantActions
  else if topic = ResponsesProjector.topic then some .responses
  else none

/-- The payload is JSON and decodes to the type of the topic. -/
def decodes (topic : String) (event : Vda5050Event) : Bool :=
  match decodedType topic with
  | none => true
  | some t => (decode (α := t.Message) event.payload).isOk

/-- The batches without the events that do not decode. -/
def decodable (rowsOf : String → List Vda5050Event) (topic : String) : List Vda5050Event :=
  (rowsOf topic).filter (decodes topic)

/-- A projector throws exactly where the payload does not decode, and then it has written nothing. -/
structure Entry.FailsClean (entry : Entry) : Prop where
  throws_iff : ∀ event db, entry.throws event db = true ↔ decodes entry.topic event = false
  unchanged : ∀ event db, decodes entry.topic event = false → (runOn (entry.project event) db).2 = db

private theorem failsClean_of_outcome {S : Type} {entry : Entry} {t : MessageType}
    {exec : ReadModel → List S → ReadModel} {stm : Vda5050Event → t.Message → List S}
    (htype : decodedType entry.topic = some t) (hnil : ∀ db, exec db [] = db)
    (h : ∀ event db, runOn (entry.project event) db =
      (outcome t.Message event, exec db (onDecoded event (stm event)))) : entry.FailsClean where
  throws_iff event db := by
    unfold Entry.throws decodes
    rw [h, htype]
    unfold outcome
    cases hdecode : decode (α := t.Message) event.payload with
    | ok m => simp [hdecode, Except.isOk, Except.toBool]
    | error e => simp [hdecode, Except.isOk, Except.toBool]
  unchanged event db := by
    unfold decodes
    rw [h, htype]
    unfold onDecoded
    cases hdecode : decode (α := t.Message) event.payload with
    | ok m => simp [hdecode, Except.isOk, Except.toBool]
    | error e => exact fun _ => hnil db

theorem failsClean_projectors : ∀ entry ∈ projectors, entry.FailsClean := by
  intro entry hentry
  simp only [projectors, List.mem_cons, List.not_mem_nil, or_false] at hentry
  rcases hentry with rfl | rfl | rfl | rfl | rfl | rfl
  · exact failsClean_of_outcome (t := .connection) rfl (fun _ => rfl) ConnectionProjector.runOn_project
  · exact failsClean_of_outcome (t := .state) rfl (fun _ => rfl) StateProjector.runOn_project
  · have hdecodes : ∀ event, decodes FactsheetProjector.topic event = true := fun _ => rfl
    refine ⟨fun event db => ?_, fun event db h => ?_⟩
    · have hthrows : Entry.throws ⟨FactsheetProjector.topic, FactsheetProjector.project⟩ event db = false := rfl
      rw [hdecodes event, hthrows]
      simp
    · rw [hdecodes event] at h
      cases h
  · exact failsClean_of_outcome (t := .order) rfl (fun _ => rfl) OrderProjector.runOn_project
  · exact failsClean_of_outcome (t := .instantActions) rfl (fun _ => rfl) InstantActionsProjector.runOn_project
  · exact failsClean_of_outcome (t := .responses) rfl (fun _ => rfl) ResponsesProjector.runOn_project

/-- The loop over the rows of a topic passes over the events at which the projector throws. -/
private theorem projectTopic_decodable {entry : Entry} (h : entry.FailsClean) (rowsOf : String → List Vda5050Event)
    (db : ReadModel) : projectTopic (decodable rowsOf) db entry = projectTopic rowsOf db entry := by
  unfold projectTopic decodable
  induction rowsOf entry.topic generalizing db with
  | nil => rfl
  | cons event rows ih =>
    rw [List.filter_cons, List.foldl_cons]
    cases hdecodes : decodes entry.topic event with
    | true =>
      rw [if_pos rfl, List.foldl_cons]
      exact ih _
    | false =>
      have hunchanged := h.unchanged event db hdecodes
      rw [if_neg (by simp), hunchanged]
      exact ih db

private theorem foldl_projectTopic_decodable (rowsOf : String → List Vda5050Event) {entries : List Entry}
    (h : ∀ entry ∈ entries, entry.FailsClean) (db : ReadModel) :
    entries.foldl (projectTopic (decodable rowsOf)) db = entries.foldl (projectTopic rowsOf) db := by
  induction entries generalizing db with
  | nil => rfl
  | cons entry entries ih =>
    have hentry := projectTopic_decodable (h entry List.mem_cons_self) rowsOf db
    rw [List.foldl_cons, List.foldl_cons, hentry]
    exact ih (fun e he => h e (List.mem_cons_of_mem entry he)) _

private theorem cycle_decodable (rowsOf : String → List Vda5050Event) (db : ReadModel) :
    cycle (decodable rowsOf) db = cycle rowsOf db :=
  foldl_projectTopic_decodable rowsOf failsClean_projectors db

private theorem cycles_decodable (batches : List (String → List Vda5050Event)) (db : ReadModel) :
    cycles (batches.map decodable) db = cycles batches db := by
  unfold cycles
  induction batches generalizing db with
  | nil => rfl
  | cons rowsOf batches ih =>
    rw [List.map_cons, List.foldl_cons, List.foldl_cons, cycle_decodable]
    exact ih _

/-- A projector throws exactly where the payload does not decode and has then written nothing, and each cycle leaves
the read model that it leaves without these events, whatever was there before. -/
theorem cycles_without_failing (batches : List (String → List Vda5050Event)) (db : ReadModel) :
    (∀ entry ∈ projectors, ∀ event db,
      (entry.throws event db = true ↔ decodes entry.topic event = false) ∧
      (entry.throws event db = true → (runOn (entry.project event) db).2 = db)) ∧
    cycles batches db = cycles (batches.map fun rowsOf topic => (rowsOf topic).filter (decodes topic)) db := by
  refine ⟨fun entry hentry event db => ?_, (cycles_decodable batches db).symm⟩
  have hclean := failsClean_projectors entry hentry
  refine ⟨hclean.throws_iff event db, fun hthrows => ?_⟩
  have hfails := (hclean.throws_iff event db).1 hthrows
  exact hclean.unchanged event db hfails

/-! ### Repeated cycles -/

/-- A cycle that is repeated with the same rows leaves the read model as it is. -/
theorem cycle_cycle (rowsOf : String → List Vda5050Event) (db : ReadModel) :
    cycle rowsOf (cycle rowsOf db) = cycle rowsOf db := by
  have hrobots := Table.execAll_execAll (RobotsStatement.overwrite (robotsStatements rowsOf)) db.robots
  have horders := Table.execAll_execAll (OrdersStatement.overwrite (ordersStatements rowsOf)) db.orders
  have hactions :=
    Table.execAll_execAll (InstantActionsStatement.overwrite (instantActionsStatements rowsOf)) db.instantActions
  rw [cycle_eq, cycle_eq]
  simp only [ReadModel.execRobots, ReadModel.execOrders, ReadModel.execInstantActions, hrobots, horders, hactions]

/-! ### What cycles leave alone -/

/-- A cycle that is run when the log has `seen` events, with the rows of its queries. -/
structure Pass (log : EventLog) where
  seen : Nat
  rowsOf : String → List Vda5050Event
  query : IsQueryResult (log.take seen) rowsOf

/-- The cycles, one after another. -/
def runPasses {log : EventLog} (passes : List (Pass log)) (db : ReadModel) : ReadModel :=
  cycles (passes.map Pass.rowsOf) db

/-- No robot, order or action is lost, the columns of the management stay as they are, and new rows have the keys
that the payloads and topics of the log give. -/
structure Untouched (log : EventLog) (db db' : ReadModel) : Prop where
  robots : db.robots.Extends Robot.management (fun k => ∃ e ∈ log.events, e.robotId = k) db'.robots
  orders : db.orders.Extends Db.Order.management
    (fun k => ∃ e ∈ log.events, ∃ m : Vda5050.Order, decode e.payload = .ok m ∧ m.orderId = k) db'.orders
  instantActions : db.instantActions.Extends InstantAction.management
    (fun k => ∃ e ∈ log.events,
      (∃ m : InstantActions, decode e.payload = .ok m ∧ ∃ action ∈ m.actions, action.actionId = k) ∨
      ∃ m : Responses, decode e.payload = .ok m ∧ ∃ response ∈ m.responses, response.requestId = k)
    db'.instantActions
  maps : db'.maps = db.maps

theorem Untouched.refl (log : EventLog) (db : ReadModel) : Untouched log db db :=
  ⟨.refl _ _ _, .refl _ _ _, .refl _ _ _, rfl⟩

theorem Untouched.trans {log : EventLog} {db db' db'' : ReadModel} (h : Untouched log db db')
    (h' : Untouched log db' db'') : Untouched log db db'' :=
  ⟨h.robots.trans h'.robots, h.orders.trans h'.orders, h.instantActions.trans h'.instantActions,
    h'.maps.trans h.maps⟩

omit [JsonLibrary] in
theorem Pass.mem_of_mem_rowsOf {log : EventLog} (pass : Pass log) {topic : String} {e : Vda5050Event}
    (he : e ∈ pass.rowsOf topic) : e ∈ log.events := by
  have hquery := (pass.query topic).mem_iff.1 he
  have hnewest := EventLog.mem_findLatestByTopic.1 hquery
  exact EventLog.mem_of_mem_take (EventLog.mem_of_newest hnewest).1

private theorem untouched_cycle {log : EventLog} (pass : Pass log) (db : ReadModel) :
    Untouched log db (cycle pass.rowsOf db) where
  robots := by
    rw [cycle_robots]
    refine .of_execAll (fun u hu r => ?_) (fun u hu => ?_) _
    · obtain ⟨s, hs, rfl⟩ := List.mem_map.1 hu
      exact RobotsStatement.management_set (ne_upsert_of_mem_robotsStatements hs) r
    · obtain ⟨s, hs, rfl⟩ := List.mem_map.1 hu
      obtain ⟨topic, e, he, hs⟩ := mem_robotsStatements.1 hs
      exact ⟨e, pass.mem_of_mem_rowsOf he, by cases hs <;> rfl⟩
  orders := by
    rw [cycle_orders]
    refine .of_execAll (fun u hu r => ?_) (fun u hu => ?_) _
    · obtain ⟨s, hs, rfl⟩ := List.mem_map.1 hu
      exact OrdersStatement.management_set (ne_upsert_of_mem_ordersStatements hs) r
    · obtain ⟨s, hs, rfl⟩ := List.mem_map.1 hu
      obtain ⟨e, he, m, hm, rfl⟩ := mem_ordersStatements.1 hs
      exact ⟨e, pass.mem_of_mem_rowsOf he, m, hm, rfl⟩
  instantActions := by
    rw [cycle_instantActions]
    refine .of_execAll (fun u hu r => ?_) (fun u hu => ?_) _
    · obtain ⟨s, hs, rfl⟩ := List.mem_map.1 hu
      exact InstantActionsStatement.management_set (ne_upsert_of_mem_instantActionsStatements hs) r
    · obtain ⟨s, hs, rfl⟩ := List.mem_map.1 hu
      obtain ⟨topic, e, he, hs⟩ := mem_instantActionsStatements.1 hs
      refine ⟨e, pass.mem_of_mem_rowsOf he, ?_⟩
      cases hs with
      | action m htopic hm action ha => exact .inl ⟨m, hm, action, ha, rfl⟩
      | response m htopic hm response hr => exact .inr ⟨m, hm, response, hr, rfl⟩
  maps := by
    rw [cycle_eq]
    rfl

/-- Whatever cycles are run at whatever prefixes of a log, the columns of the management, the keys of the rows and
the maps stay as they are, and rows are added only for robots, orders and actions of the log. -/
theorem untouched_cycles {log : EventLog} (passes : List (Pass log)) (db : ReadModel) :
    Untouched log db (runPasses passes db) := by
  unfold runPasses cycles
  induction passes generalizing db with
  | nil => exact .refl log db
  | cons pass passes ih =>
    rw [List.map_cons, List.foldl_cons]
    exact (untouched_cycle pass db).trans (ih _)

end SyriusOrbit.Projection

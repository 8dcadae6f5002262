import SyriusOrbit.Vda5050.Message
import SyriusOrbit.Db.Events
import SyriusOrbit.Db.ReadModel

/-!
# Projectors

The six projectors and the projection cycle.  A projector decodes the payload of an event and executes statements of
one repository; `statements` lists them, and each projector has one lemma that says it executes these and fails
exactly where the payload does not decode.  `cycle_eq` puts them together: a cycle executes, table by table, the
statements of all rows in their order.
-/

namespace SyriusOrbit.Db.ReadModel

theorem execRobots_append (db : ReadModel) (ss ss' : List RobotsStatement) :
    db.execRobots (ss ++ ss') = (db.execRobots ss).execRobots ss' := by
  simp [execRobots, Sql.Table.execAll_append]

theorem execOrders_append (db : ReadModel) (ss ss' : List OrdersStatement) :
    db.execOrders (ss ++ ss') = (db.execOrders ss).execOrders ss' := by
  simp [execOrders, Sql.Table.execAll_append]

theorem execInstantActions_append (db : ReadModel) (ss ss' : List InstantActionsStatement) :
    db.execInstantActions (ss ++ ss') = (db.execInstantActions ss).execInstantActions ss' := by
  simp [execInstantActions, Sql.Table.execAll_append]

end SyriusOrbit.Db.ReadModel

namespace SyriusOrbit.Projection

open JsonFormat Vda5050 Db

/-- Code that works on the read model and may throw. -/
abbrev ProjectM := ExceptT JsonError (StateM ReadModel)

/-- The outcome and the read model left behind, also when an exception was thrown. -/
def runOn {α : Type} (x : ProjectM α) (db : ReadModel) : Except JsonError α × ReadModel := x.run.run db

def execRobots (s : RobotsStatement) : ProjectM Unit := modify fun db => db.execRobots [s]

def execOrders (s : OrdersStatement) : ProjectM Unit := modify fun db => db.execOrders [s]

def execInstantActions (s : InstantActionsStatement) : ProjectM Unit := modify fun db => db.execInstantActions [s]

private theorem runOn_bind_of_ok {α β : Type} {x : ProjectM α} {f : α → ProjectM β} {db db' : ReadModel} {a : α}
    (h : runOn x db = (.ok a, db')) : runOn (x >>= f) db = runOn (f a) db' := by
  unfold runOn at *
  simp only [ExceptT.run_bind, StateT.run_bind]
  rw [h]
  rfl

private theorem runOn_for {γ : Type} {x : γ → ProjectM Unit} {g : ReadModel → γ → ReadModel}
    (h : ∀ a db, runOn (x a) db = (.ok (), g db a)) (as : List γ) (db : ReadModel) :
    runOn (do for a in as do x a) db = (.ok (), as.foldl g db) := by
  induction as generalizing db with
  | nil => rfl
  | cons a as ih =>
    rw [List.forIn_cons]
    simp only [bind_assoc, pure_bind]
    rw [runOn_bind_of_ok (h a db)]
    exact ih (g db a)

private theorem foldl_execInstantActions {γ : Type} (f : γ → InstantActionsStatement) (as : List γ) (db : ReadModel) :
    as.foldl (fun db a => db.execInstantActions [f a]) db = db.execInstantActions (as.map f) := by
  induction as generalizing db with
  | nil => rfl
  | cons a as ih =>
    rw [List.foldl_cons, ih, List.map_cons]
    exact (db.execInstantActions_append [f a] (as.map f)).symm

variable [JsonLibrary]

/-- `nlohmann::json::parse(event.payload).get<T>()`. -/
def decodePayload {α : Type} [JsonCodec α] (event : Vda5050Event) : ProjectM α :=
  MonadExcept.ofExcept (decode event.payload)

/-- What is listed for the decoded payload; nothing if it does not decode. -/
def onDecoded {α β : Type} [JsonCodec α] (event : Vda5050Event) (f : α → List β) : List β :=
  match decode event.payload with
  | .ok m => f m
  | .error _ => []

private theorem mem_onDecoded {α β : Type} [JsonCodec α] {event : Vda5050Event} {f : α → List β} {b : β} :
    b ∈ onDecoded event f ↔ ∃ m, decode event.payload = .ok m ∧ b ∈ f m := by
  unfold onDecoded
  cases decode (α := α) event.payload <;> simp

theorem onDecoded_of_decode {α β : Type} [JsonCodec α] {event : Vda5050Event} {f : α → List β} {m : α}
    (h : decode event.payload = .ok m) : onDecoded event f = f m := by
  simp [onDecoded, h]

/-- The outcome of code that fails only in decoding the payload. -/
def outcome (α : Type) [JsonCodec α] (event : Vda5050Event) : Except JsonError Unit :=
  match decode (α := α) event.payload with
  | .ok _ => .ok ()
  | .error e => .error e

private theorem runOn_decodePayload {α : Type} [JsonCodec α] (event : Vda5050Event) (f : α → ProjectM Unit)
    (db : ReadModel) :
    runOn (decodePayload event >>= f) db =
      match decode (α := α) event.payload with
      | .ok m => runOn (f m) db
      | .error e => (.error e, db) := by
  unfold decodePayload
  cases decode (α := α) event.payload <;> rfl

/-! ### The projectors -/

namespace ConnectionProjector

def topic : String := "connection"

def project (event : Vda5050Event) : ProjectM Unit := do
  let msg : Connection ← decodePayload event
  let connectionState := JsonEnum.name msg.connectionState
  execRobots (.upsertConnection event.robotId event.manufacturer event.serialNumber connectionState event.receivedAt)

def statements (event : Vda5050Event) : List RobotsStatement :=
  onDecoded event fun msg : Connection =>
    [.upsertConnection event.robotId event.manufacturer event.serialNumber (JsonEnum.name msg.connectionState)
      event.receivedAt]

theorem runOn_project (event : Vda5050Event) (db : ReadModel) :
    runOn (project event) db = (outcome Connection event, db.execRobots (statements event)) := by
  rw [project, runOn_decodePayload, statements, onDecoded, outcome]
  cases decode (α := Connection) event.payload <;> rfl

theorem eq_of_mem_statements {event : Vda5050Event} {s : RobotsStatement} (h : s ∈ statements event) :
    ∃ msg : Connection, s = .upsertConnection event.robotId event.manufacturer event.serialNumber
      (JsonEnum.name msg.connectionState) event.receivedAt := by
  obtain ⟨msg, -, h⟩ := mem_onDecoded.1 h
  exact ⟨msg, List.mem_singleton.1 h⟩

theorem only_connectionState {event : Vda5050Event} {s : RobotsStatement} (h : s ∈ statements event) :
    s.stateColumns? = none ∧ s.factsheet? = none := by
  obtain ⟨msg, rfl⟩ := eq_of_mem_statements h
  exact ⟨rfl, rfl⟩

end ConnectionProjector

namespace StateProjector

def topic : String := "state"

def project (event : Vda5050Event) : ProjectM Unit := do
  let msg : State ← decodePayload event
  let operatingMode := JsonEnum.name msg.operatingMode
  execRobots (.upsertState event.robotId event.manufacturer event.serialNumber operatingMode msg.driving
    (msg.paused.getD false) msg.powerSupply.stateOfCharge msg.powerSupply.charging event.receivedAt)

def statements (event : Vda5050Event) : List RobotsStatement :=
  onDecoded event fun msg : State =>
    [.upsertState event.robotId event.manufacturer event.serialNumber (JsonEnum.name msg.operatingMode) msg.driving
      (msg.paused.getD false) msg.powerSupply.stateOfCharge msg.powerSupply.charging event.receivedAt]

theorem runOn_project (event : Vda5050Event) (db : ReadModel) :
    runOn (project event) db = (outcome State event, db.execRobots (statements event)) := by
  rw [project, runOn_decodePayload, statements, onDecoded, outcome]
  cases decode (α := State) event.payload <;> rfl

theorem eq_of_mem_statements {event : Vda5050Event} {s : RobotsStatement} (h : s ∈ statements event) :
    ∃ msg : State, s = .upsertState event.robotId event.manufacturer event.serialNumber
      (JsonEnum.name msg.operatingMode) msg.driving (msg.paused.getD false) msg.powerSupply.stateOfCharge
      msg.powerSupply.charging event.receivedAt := by
  obtain ⟨msg, -, h⟩ := mem_onDecoded.1 h
  exact ⟨msg, List.mem_singleton.1 h⟩

theorem only_stateColumns {event : Vda5050Event} {s : RobotsStatement} (h : s ∈ statements event) :
    s.connectionState? = none ∧ s.factsheet? = none := by
  obtain ⟨msg, rfl⟩ := eq_of_mem_statements h
  exact ⟨rfl, rfl⟩

end StateProjector

namespace FactsheetProjector

def topic : String := "factsheet"

/-- The payload is stored as it is and not decoded. -/
def project (event : Vda5050Event) : ProjectM Unit :=
  execRobots (.upsertFactsheet event.robotId event.manufacturer event.serialNumber event.payload event.receivedAt)

def statements (event : Vda5050Event) : List RobotsStatement :=
  [.upsertFactsheet event.robotId event.manufacturer event.serialNumber event.payload event.receivedAt]

omit [JsonLibrary] in
theorem runOn_project (event : Vda5050Event) (db : ReadModel) :
    runOn (project event) db = (.ok (), db.execRobots (statements event)) := rfl

omit [JsonLibrary] in
theorem only_factsheet {event : Vda5050Event} {s : RobotsStatement} (h : s ∈ statements event) :
    s.connectionState? = none ∧ s.stateColumns? = none := by
  rw [List.mem_singleton.1 h]
  exact ⟨rfl, rfl⟩

end FactsheetProjector

namespace OrderProjector

def topic : String := "order"

def project (event : Vda5050Event) : ProjectM Unit := do
  let msg : Vda5050.Order ← decodePayload event
  execOrders (.upsertFromOrder msg.orderId event.robotId msg.orderUpdateId (msg.orderDescription.getD "")
    (JsonLibrary.dump (toJson msg.nodes).canon) (JsonLibrary.dump (toJson msg.edges).canon) event.receivedAt)

def statements (event : Vda5050Event) : List OrdersStatement :=
  onDecoded event fun msg : Vda5050.Order =>
    [.upsertFromOrder msg.orderId event.robotId msg.orderUpdateId (msg.orderDescription.getD "")
      (JsonLibrary.dump (toJson msg.nodes).canon) (JsonLibrary.dump (toJson msg.edges).canon) event.receivedAt]

theorem runOn_project (event : Vda5050Event) (db : ReadModel) :
    runOn (project event) db = (outcome Vda5050.Order event, db.execOrders (statements event)) := by
  rw [project, runOn_decodePayload, statements, onDecoded, outcome]
  cases decode (α := Vda5050.Order) event.payload <;> rfl

theorem eq_of_mem_statements {event : Vda5050Event} {s : OrdersStatement} (h : s ∈ statements event) :
    ∃ msg : Vda5050.Order, decode event.payload = .ok msg ∧
      s = .upsertFromOrder msg.orderId event.robotId msg.orderUpdateId (msg.orderDescription.getD "")
        (JsonLibrary.dump (toJson msg.nodes).canon) (JsonLibrary.dump (toJson msg.edges).canon) event.receivedAt := by
  obtain ⟨msg, hmsg, h⟩ := mem_onDecoded.1 h
  exact ⟨msg, hmsg, List.mem_singleton.1 h⟩

end OrderProjector

namespace InstantActionsProjector

/-- The events are recorded under the topic `instantActions`. -/
def topic : String := "instant_actions"

/-- The text of the parameters, empty if there are none. -/
def paramsJson (action : Action) : String :=
  match action.actionParameters with
  | some parameters => JsonLibrary.dump (toJson parameters).canon
  | none => ""

def upsertFromAction (event : Vda5050Event) (action : Action) : InstantActionsStatement :=
  .upsertFromAction action.actionId action.actionType (action.actionDescriptor.getD "")
    (JsonEnum.name action.blockingType) (paramsJson action) event.robotId event.receivedAt

def project (event : Vda5050Event) : ProjectM Unit := do
  let msg : InstantActions ← decodePayload event
  for action in msg.actions do
    execInstantActions (upsertFromAction event action)

def statements (event : Vda5050Event) : List InstantActionsStatement :=
  onDecoded event fun msg : InstantActions => msg.actions.map (upsertFromAction event)

theorem runOn_project (event : Vda5050Event) (db : ReadModel) :
    runOn (project event) db = (outcome InstantActions event, db.execInstantActions (statements event)) := by
  rw [project, runOn_decodePayload, statements, onDecoded, outcome]
  cases decode (α := InstantActions) event.payload with
  | error e => rfl
  | ok m =>
    rw [← foldl_execInstantActions]
    exact runOn_for (fun _ _ => rfl) m.actions db

theorem eq_of_mem_statements {event : Vda5050Event} {s : InstantActionsStatement} (h : s ∈ statements event) :
    ∃ action, s = upsertFromAction event action := by
  obtain ⟨msg, -, h⟩ := mem_onDecoded.1 h
  obtain ⟨action, -, rfl⟩ := List.mem_map.1 h
  exact ⟨action, rfl⟩

end InstantActionsProjector

namespace ResponsesProjector

def topic : String := "responses"

def upsertFromResponse (event : Vda5050Event) (response : Response) : InstantActionsStatement :=
  .upsertFromResponse response.requestId event.robotId (JsonEnum.name response.grantType) event.receivedAt

def project (event : Vda5050Event) : ProjectM Unit := do
  let msg : Responses ← decodePayload event
  for response in msg.responses do
    execInstantActions (upsertFromResponse event response)

def statements (event : Vda5050Event) : List InstantActionsStatement :=
  onDecoded event fun msg : Responses => msg.responses.map (upsertFromResponse event)

theorem runOn_project (event : Vda5050Event) (db : ReadModel) :
    runOn (project event) db = (outcome Responses event, db.execInstantActions (statements event)) := by
  rw [project, runOn_decodePayload, statements, onDecoded, outcome]
  cases decode (α := Responses) event.payload with
  | error e => rfl
  | ok m =>
    rw [← foldl_execInstantActions]
    exact runOn_for (fun _ _ => rfl) m.responses db

theorem eq_of_mem_statements {event : Vda5050Event} {s : InstantActionsStatement} (h : s ∈ statements event) :
    ∃ response, s = upsertFromResponse event response := by
  obtain ⟨msg, -, h⟩ := mem_onDecoded.1 h
  obtain ⟨response, -, rfl⟩ := List.mem_map.1 h
  exact ⟨response, rfl⟩

end ResponsesProjector

/-! ### The cycle -/

structure Entry where
  topic : String
  project : Vda5050Event → ProjectM Unit

/-- The table of `ProjectionEngine::run`. -/
def projectors : List Entry :=
  [⟨ConnectionProjector.topic, ConnectionProjector.project⟩,
    ⟨StateProjector.topic, StateProjector.project⟩,
    ⟨FactsheetProjector.topic, FactsheetProjector.project⟩,
    ⟨OrderProjector.topic, OrderProjector.project⟩,
    ⟨InstantActionsProjector.topic, InstantActionsProjector.project⟩,
    ⟨ResponsesProjector.topic, ResponsesProjector.project⟩]

/-- The loop over the rows of one topic.  An exception is logged, and the loop goes on with the next row. -/
def projectTopic (rowsOf : String → List Vda5050Event) (db : ReadModel) (entry : Entry) : ReadModel :=
  (rowsOf entry.topic).foldl (fun db event => (runOn (entry.project event) db).2) db

/-- One complete pass of `ProjectionEngine::run`, with `rowsOf` the rows the query returns for a topic. -/
def cycle (rowsOf : String → List Vda5050Event) (db : ReadModel) : ReadModel :=
  projectors.foldl (projectTopic rowsOf) db

/-- The rows are the result of `findLatestByTopic`, in some order. -/
def IsQueryResult (log : EventLog) (rowsOf : String → List Vda5050Event) : Prop :=
  ∀ topic, (rowsOf topic).Perm (log.findLatestByTopic topic)

/-- The statements on `robots` of a cycle, in their order. -/
def robotsStatements (rowsOf : String → List Vda5050Event) : List RobotsStatement :=
  (rowsOf ConnectionProjector.topic).flatMap ConnectionProjector.statements ++
    (rowsOf StateProjector.topic).flatMap StateProjector.statements ++
    (rowsOf FactsheetProjector.topic).flatMap FactsheetProjector.statements

/-- The statements on `orders` of a cycle, in their order. -/
def ordersStatements (rowsOf : String → List Vda5050Event) : List OrdersStatement :=
  (rowsOf OrderProjector.topic).flatMap OrderProjector.statements

/-- The statements on `instant_actions` of a cycle, in their order. -/
def instantActionsStatements (rowsOf : String → List Vda5050Event) : List InstantActionsStatement :=
  (rowsOf InstantActionsProjector.topic).flatMap InstantActionsProjector.statements ++
    (rowsOf ResponsesProjector.topic).flatMap ResponsesProjector.statements

omit [JsonLibrary] in
/-- A topic whose projector executes `stm` executes the statements of its rows in their order. -/
private theorem foldl_project {S : Type} (exec : ReadModel → List S → ReadModel)
    (hnil : ∀ db, exec db [] = db) (happend : ∀ db ss ss', exec db (ss ++ ss') = exec (exec db ss) ss')
    {project : Vda5050Event → ProjectM Unit} {stm : Vda5050Event → List S}
    (h : ∀ event db, (runOn (project event) db).2 = exec db (stm event)) (rows : List Vda5050Event)
    (db : ReadModel) :
    rows.foldl (fun db event => (runOn (project event) db).2) db = exec db (rows.flatMap stm) := by
  induction rows generalizing db with
  | nil => exact (hnil db).symm
  | cons event rows ih => rw [List.foldl_cons, h, ih, List.flatMap_cons, happend]

/-- A cycle executes the statements of all rows, table by table. -/
theorem cycle_eq (rowsOf : String → List Vda5050Event) (db : ReadModel) :
    cycle rowsOf db =
      ((db.execRobots (robotsStatements rowsOf)).execOrders (ordersStatements rowsOf)).execInstantActions
        (instantActionsStatements rowsOf) := by
  have hconnection := foldl_project ReadModel.execRobots (fun _ => rfl) ReadModel.execRobots_append
    fun e db => congrArg Prod.snd (ConnectionProjector.runOn_project e db)
  have hstate := foldl_project ReadModel.execRobots (fun _ => rfl) ReadModel.execRobots_append
    fun e db => congrArg Prod.snd (StateProjector.runOn_project e db)
  have hfactsheet := foldl_project ReadModel.execRobots (fun _ => rfl) ReadModel.execRobots_append
    fun e db => congrArg Prod.snd (FactsheetProjector.runOn_project e db)
  have horder := foldl_project ReadModel.execOrders (fun _ => rfl) ReadModel.execOrders_append
    fun e db => congrArg Prod.snd (OrderProjector.runOn_project e db)
  have hinstant := foldl_project ReadModel.execInstantActions (fun _ => rfl) ReadModel.execInstantActions_append
    fun e db => congrArg Prod.snd (InstantActionsProjector.runOn_project e db)
  have hresponses := foldl_project ReadModel.execInstantActions (fun _ => rfl) ReadModel.execInstantActions_append
    fun e db => congrArg Prod.snd (ResponsesProjector.runOn_project e db)
  simp only [cycle, projectors, List.foldl_cons, List.foldl_nil, projectTopic, hconnection, hstate, hfactsheet,
    horder, hinstant, hresponses, robotsStatements, ordersStatements, instantActionsStatements,
    ReadModel.execRobots_append, ReadModel.execInstantActions_append]

/-! ### The statements of a cycle -/

/-- The statements on `robots` for an event that is returned for a topic. -/
inductive ProjectsRobot (topic : String) (e : Vda5050Event) : RobotsStatement → Prop where
  | connection (m : Connection) (htopic : topic = ConnectionProjector.topic) (hm : decode e.payload = .ok m) :
    ProjectsRobot topic e (.upsertConnection e.robotId e.manufacturer e.serialNumber
      (JsonEnum.name m.connectionState) e.receivedAt)
  | state (m : State) (htopic : topic = StateProjector.topic) (hm : decode e.payload = .ok m) :
    ProjectsRobot topic e (.upsertState e.robotId e.manufacturer e.serialNumber (JsonEnum.name m.operatingMode)
      m.driving (m.paused.getD false) m.powerSupply.stateOfCharge m.powerSupply.charging e.receivedAt)
  | factsheet (htopic : topic = FactsheetProjector.topic) :
    ProjectsRobot topic e (.upsertFactsheet e.robotId e.manufacturer e.serialNumber e.payload e.receivedAt)

/-- The statements on `instant_actions` for an event that is returned for a topic. -/
inductive ProjectsAction (topic : String) (e : Vda5050Event) : InstantActionsStatement → Prop where
  | action (m : InstantActions) (htopic : topic = InstantActionsProjector.topic) (hm : decode e.payload = .ok m)
      (action : Action) (ha : action ∈ m.actions) :
    ProjectsAction topic e (InstantActionsProjector.upsertFromAction e action)
  | response (m : Responses) (htopic : topic = ResponsesProjector.topic) (hm : decode e.payload = .ok m)
      (response : Response) (hr : response ∈ m.responses) :
    ProjectsAction topic e (ResponsesProjector.upsertFromResponse e response)

theorem mem_robotsStatements {rowsOf : String → List Vda5050Event} {s : RobotsStatement} :
    s ∈ robotsStatements rowsOf ↔ ∃ topic, ∃ e ∈ rowsOf topic, ProjectsRobot topic e s := by
  unfold robotsStatements
  simp only [List.mem_append, List.mem_flatMap]
  constructor
  · rintro ((⟨e, he, hs⟩ | ⟨e, he, hs⟩) | ⟨e, he, hs⟩)
    · obtain ⟨m, hm, hs⟩ := mem_onDecoded.1 hs
      rw [List.mem_singleton.1 hs]
      exact ⟨_, e, he, .connection m rfl hm⟩
    · obtain ⟨m, hm, hs⟩ := mem_onDecoded.1 hs
      rw [List.mem_singleton.1 hs]
      exact ⟨_, e, he, .state m rfl hm⟩
    · rw [List.mem_singleton.1 hs]
      exact ⟨_, e, he, .factsheet rfl⟩
  · rintro ⟨topic, e, he, hs⟩
    cases hs with
    | connection m htopic hm =>
      subst htopic
      exact .inl (.inl ⟨e, he, mem_onDecoded.2 ⟨m, hm, List.mem_singleton_self _⟩⟩)
    | state m htopic hm =>
      subst htopic
      exact .inl (.inr ⟨e, he, mem_onDecoded.2 ⟨m, hm, List.mem_singleton_self _⟩⟩)
    | factsheet htopic =>
      subst htopic
      exact .inr ⟨e, he, List.mem_singleton_self _⟩

theorem mem_ordersStatements {rowsOf : String → List Vda5050Event} {s : OrdersStatement} :
    s ∈ ordersStatements rowsOf ↔ ∃ e ∈ rowsOf OrderProjector.topic, ∃ m : Vda5050.Order,
      decode e.payload = .ok m ∧ s = .upsertFromOrder m.orderId e.robotId m.orderUpdateId
        (m.orderDescription.getD "") (JsonLibrary.dump (toJson m.nodes).canon)
        (JsonLibrary.dump (toJson m.edges).canon) e.receivedAt := by
  simp only [ordersStatements, List.mem_flatMap, OrderProjector.statements, mem_onDecoded, List.mem_singleton]

theorem mem_instantActionsStatements {rowsOf : String → List Vda5050Event} {s : InstantActionsStatement} :
    s ∈ instantActionsStatements rowsOf ↔ ∃ topic, ∃ e ∈ rowsOf topic, ProjectsAction topic e s := by
  unfold instantActionsStatements
  simp only [List.mem_append, List.mem_flatMap]
  constructor
  · rintro (⟨e, he, hs⟩ | ⟨e, he, hs⟩)
    · obtain ⟨m, hm, hs⟩ := mem_onDecoded.1 hs
      obtain ⟨action, ha, rfl⟩ := List.mem_map.1 hs
      exact ⟨_, e, he, .action m rfl hm action ha⟩
    · obtain ⟨m, hm, hs⟩ := mem_onDecoded.1 hs
      obtain ⟨response, hr, rfl⟩ := List.mem_map.1 hs
      exact ⟨_, e, he, .response m rfl hm response hr⟩
  · rintro ⟨topic, e, he, hs⟩
    cases hs with
    | action m htopic hm action ha =>
      subst htopic
      exact .inl ⟨e, he, mem_onDecoded.2 ⟨m, hm, List.mem_map_of_mem ha⟩⟩
    | response m htopic hm response hr =>
      subst htopic
      exact .inr ⟨e, he, mem_onDecoded.2 ⟨m, hm, List.mem_map_of_mem hr⟩⟩

/-- Projectors do not execute the statements of the management. -/
theorem ne_upsert_of_mem_robotsStatements {rowsOf : String → List Vda5050Event} {s : RobotsStatement}
    (h : s ∈ robotsStatements rowsOf) (robot : Robot) : s ≠ .upsert robot := by
  obtain ⟨topic, e, -, hs⟩ := mem_robotsStatements.1 h
  cases hs <;> simp

theorem ne_upsert_of_mem_ordersStatements {rowsOf : String → List Vda5050Event} {s : OrdersStatement}
    (h : s ∈ ordersStatements rowsOf) (order : Db.Order) : s ≠ .upsert order := by
  obtain ⟨e, -, m, -, rfl⟩ := mem_ordersStatements.1 h
  simp

theorem ne_upsert_of_mem_instantActionsStatements {rowsOf : String → List Vda5050Event}
    {s : InstantActionsStatement} (h : s ∈ instantActionsStatements rowsOf) (action : InstantAction) :
    s ≠ .upsert action := by
  obtain ⟨topic, e, -, hs⟩ := mem_instantActionsStatements.1 h
  cases hs <;> simp [InstantActionsProjector.upsertFromAction, ResponsesProjector.upsertFromResponse]

theorem projectTopic_instantActions (rowsOf : String → List Vda5050Event) (db : ReadModel) (topic : String) :
    (projectTopic rowsOf db ⟨topic, InstantActionsProjector.project⟩).instantActions =
      db.instantActions.execAll
        (((rowsOf topic).flatMap InstantActionsProjector.statements).map InstantActionsStatement.sql) := by
  rw [projectTopic, foldl_project ReadModel.execInstantActions (fun _ => rfl) ReadModel.execInstantActions_append
    fun e db => congrArg Prod.snd (InstantActionsProjector.runOn_project e db)]
  rfl

end SyriusOrbit.Projection

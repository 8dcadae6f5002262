import SyriusOrbit.Sql.Stamps
import SyriusOrbit.Sql.Rerun

/-!
# The read model

The tables `robots`, `orders`, `instant_actions` and `maps` with the statements of their repositories.  A repository
is the type of its statements; `sql` gives the SQL of each.  `Writes` lemmas say which value each statement gives to
a column, and the rows follow from them by `Sql.column_runRow`.
-/

namespace SyriusOrbit.Db

open Sql

/-- A value bound to a `REAL` column: not-a-number is stored as NULL, and the sign of zero is not stored. -/
def realColumn (x : Float) : Option Float :=
  if x.isNaN then none
  else if x == 0 then some 0
  else some x

/-- A text bound only if it is not empty, NULL otherwise. -/
def nonEmpty (s : String) : Option String := if s.isEmpty then none else some s

/-! ### Robots -/

@[ext] structure Robot where
  robotId : String
  manufacturer : String
  serialNumber : String
  siteId : Option String := none
  displayName : Option String := none
  connectionState : String := "OFFLINE"
  operatingMode : Option String := none
  driving : Bool := false
  paused : Bool := false
  batteryLevel : Option Float := none
  charging : Bool := false
  suspended : Bool := false
  archived : Bool := false
  factsheet : Option String := none
  lastUpdatedAt : String
  createdAt : String

/-- The columns of `robots` that come from the state topic, with the defaults of the schema. -/
structure StateColumns where
  operatingMode : Option String := none
  driving : Bool := false
  paused : Bool := false
  batteryLevel : Option Float := none
  charging : Bool := false

def Robot.stateColumns (r : Robot) : StateColumns :=
  ⟨r.operatingMode, r.driving, r.paused, r.batteryLevel, r.charging⟩

/-- The columns of `robots` that belong to the management of the fleet or are written on insertion only. -/
structure RobotManagement where
  manufacturer : String
  serialNumber : String
  siteId : Option String
  displayName : Option String
  suspended : Bool
  archived : Bool
  createdAt : String

def Robot.management (r : Robot) : RobotManagement :=
  ⟨r.manufacturer, r.serialNumber, r.siteId, r.displayName, r.suspended, r.archived, r.createdAt⟩

/-- The statements of `RobotsRepository`. -/
inductive RobotsStatement where
  | upsert (robot : Robot)
  | upsertConnection (robotId manufacturer serialNumber connectionState lastUpdatedAt : String)
  | upsertState (robotId manufacturer serialNumber operatingMode : String) (driving paused : Bool)
      (batteryLevel : Float) (charging : Bool) (lastUpdatedAt : String)
  | upsertFactsheet (robotId manufacturer serialNumber factsheet lastUpdatedAt : String)

namespace RobotsStatement

/-- The row that is inserted; columns without a value have the default of the schema. -/
def row : RobotsStatement → Robot
  | upsert robot => { robot with batteryLevel := robot.batteryLevel.bind realColumn }
  | upsertConnection robotId manufacturer serialNumber connectionState lastUpdatedAt =>
    { robotId, manufacturer, serialNumber, connectionState, lastUpdatedAt, createdAt := lastUpdatedAt }
  | upsertState robotId manufacturer serialNumber operatingMode driving paused batteryLevel charging lastUpdatedAt =>
    { robotId, manufacturer, serialNumber, operatingMode := some operatingMode, driving, paused,
      batteryLevel := realColumn batteryLevel, charging, lastUpdatedAt, createdAt := lastUpdatedAt }
  | upsertFactsheet robotId manufacturer serialNumber factsheet lastUpdatedAt =>
    { robotId, manufacturer, serialNumber, factsheet := some factsheet, lastUpdatedAt, createdAt := lastUpdatedAt }

/-- `DO UPDATE SET`, with `excluded` the row that was to be inserted. -/
def doUpdate (s : RobotsStatement) (old : Robot) : Robot :=
  let excluded := s.row
  match s with
  | upsert _ => { excluded with robotId := old.robotId, createdAt := old.createdAt }
  | upsertConnection .. =>
    { old with connectionState := excluded.connectionState, lastUpdatedAt := excluded.lastUpdatedAt }
  | upsertState .. =>
    { old with
      operatingMode := excluded.operatingMode
      driving := excluded.driving
      paused := excluded.paused
      batteryLevel := excluded.batteryLevel
      charging := excluded.charging
      lastUpdatedAt := excluded.lastUpdatedAt }
  | upsertFactsheet .. => { old with factsheet := excluded.factsheet, lastUpdatedAt := excluded.lastUpdatedAt }

def sql (s : RobotsStatement) : Upsert Robot.robotId where
  row := s.row
  set := s.doUpdate
  key_set old := by cases s <;> rfl

/-- The value the statement gives to `connection_state`. -/
def connectionState? : RobotsStatement → Option String
  | upsert robot => some robot.connectionState
  | upsertConnection _ _ _ connectionState _ => some connectionState
  | _ => none

theorem writes_connectionState (s : RobotsStatement) :
    s.sql.Writes Robot.connectionState "OFFLINE" s.connectionState? := by
  cases s <;> exact ⟨rfl, fun _ => rfl⟩

/-- The values the statement gives to the columns of the state topic. -/
def stateColumns? : RobotsStatement → Option StateColumns
  | upsert robot => some (upsert robot).row.stateColumns
  | upsertState _ _ _ operatingMode driving paused batteryLevel charging _ =>
    some ⟨some operatingMode, driving, paused, realColumn batteryLevel, charging⟩
  | _ => none

theorem writes_stateColumns (s : RobotsStatement) : s.sql.Writes Robot.stateColumns {} s.stateColumns? := by
  cases s <;> exact ⟨rfl, fun _ => rfl⟩

/-- The value the statement gives to `factsheet`. -/
def factsheet? : RobotsStatement → Option (Option String)
  | upsert robot => some robot.factsheet
  | upsertFactsheet _ _ _ factsheet _ => some (some factsheet)
  | _ => none

theorem writes_factsheet (s : RobotsStatement) : s.sql.Writes Robot.factsheet none s.factsheet? := by
  cases s <;> exact ⟨rfl, fun _ => rfl⟩

theorem overwrite (ss : List RobotsStatement) : Overwrite (ss.map sql) := by
  refine Overwrite.map ?_ ?_ ?_ ss
  · intro s
    cases s <;> rfl
  · intro s r
    cases s <;> rfl
  · intro s s' r
    cases s <;> cases s' <;> rfl

theorem management_set {s : RobotsStatement} (h : ∀ robot, s ≠ upsert robot) (r : Robot) :
    (s.sql.set r).management = r.management := by
  cases s with
  | upsert robot => exact absurd rfl (h robot)
  | _ => rfl

theorem stamps {s : RobotsStatement} (h : ∀ robot, s ≠ upsert robot) :
    s.sql.Stamps Robot.createdAt Robot.lastUpdatedAt := by
  cases s with
  | upsert robot => exact absurd rfl (h robot)
  | _ => exact ⟨rfl, fun _ => rfl, fun _ => rfl⟩

end RobotsStatement

/-! ### Orders -/

@[ext] structure Order where
  orderId : String
  orderUpdateId : Int64 := 0
  orderDescription : Option String := none
  status : String := "QUEUED"
  assignedRobotId : String
  siteId : String
  nodes : String
  edges : String
  archived : Bool := false
  createdAt : String
  lastUpdatedAt : String

/-- The columns of `orders` that belong to the management of the fleet or are written on insertion only. -/
structure OrderManagement where
  status : String
  siteId : String
  archived : Bool
  createdAt : String

def Order.management (r : Order) : OrderManagement := ⟨r.status, r.siteId, r.archived, r.createdAt⟩

/-- The statements of `OrdersRepository`. -/
inductive OrdersStatement where
  | upsert (order : Order)
  | upsertFromOrder (orderId robotId : String) (orderUpdateId : Int64)
      (orderDescription nodes edges lastUpdatedAt : String)

namespace OrdersStatement

def row : OrdersStatement → Order
  | upsert order => order
  | upsertFromOrder orderId robotId orderUpdateId orderDescription nodes edges lastUpdatedAt =>
    { orderId, orderUpdateId, orderDescription := nonEmpty orderDescription, assignedRobotId := robotId,
      -- management-side field, empty placeholder
      siteId := "",
      nodes, edges, lastUpdatedAt, createdAt := lastUpdatedAt }

def doUpdate (s : OrdersStatement) (old : Order) : Order :=
  let excluded := s.row
  match s with
  | upsert _ => { excluded with orderId := old.orderId, createdAt := old.createdAt }
  | upsertFromOrder .. =>
    { old with
      orderUpdateId := excluded.orderUpdateId
      orderDescription := excluded.orderDescription
      assignedRobotId := excluded.assignedRobotId
      nodes := excluded.nodes
      edges := excluded.edges
      lastUpdatedAt := excluded.lastUpdatedAt }

def sql (s : OrdersStatement) : Upsert Order.orderId where
  row := s.row
  set := s.doUpdate
  key_set old := by cases s <;> rfl

theorem overwrite (ss : List OrdersStatement) : Overwrite (ss.map sql) := by
  refine Overwrite.map ?_ ?_ ?_ ss
  · intro s
    cases s <;> rfl
  · intro s r
    cases s <;> rfl
  · intro s s' r
    cases s <;> cases s' <;> rfl

theorem management_set {s : OrdersStatement} (h : ∀ order, s ≠ upsert order) (r : Order) :
    (s.sql.set r).management = r.management := by
  cases s with
  | upsert order => exact absurd rfl (h order)
  | _ => rfl

theorem stamps {s : OrdersStatement} (h : ∀ order, s ≠ upsert order) :
    s.sql.Stamps Order.createdAt Order.lastUpdatedAt := by
  cases s with
  | upsert order => exact absurd rfl (h order)
  | _ => exact ⟨rfl, fun _ => rfl, fun _ => rfl⟩

end OrdersStatement

/-! ### Instant actions -/

@[ext] structure InstantAction where
  actionId : String
  actionType : String
  actionDescriptor : Option String := none
  blockingType : String := "NONE"
  actionParameters : Option String := none
  retriable : Bool := false
  actionStatus : String := "WAITING"
  actionResult : Option String := none
  robotId : String
  siteId : Option String := none
  archived : Bool := false
  createdAt : String
  lastUpdatedAt : String
  deriving DecidableEq

/-- The columns of `instant_actions` that come from instant actions, the time left out. -/
structure ActionColumns where
  actionType : String
  actionDescriptor : Option String
  blockingType : String
  actionParameters : Option String
  robotId : String
  deriving DecidableEq

def InstantAction.actionColumns (r : InstantAction) : ActionColumns :=
  ⟨r.actionType, r.actionDescriptor, r.blockingType, r.actionParameters, r.robotId⟩

/-- The columns of `instant_actions` that belong to the management of the fleet or are written on insertion only. -/
structure ActionManagement where
  retriable : Bool
  actionResult : Option String
  siteId : Option String
  archived : Bool
  createdAt : String

def InstantAction.management (r : InstantAction) : ActionManagement :=
  ⟨r.retriable, r.actionResult, r.siteId, r.archived, r.createdAt⟩

/-- The statements of `InstantActionsRepository`. -/
inductive InstantActionsStatement where
  | upsert (action : InstantAction)
  | upsertFromAction (actionId actionType actionDescriptor blockingType actionParameters robotId
      lastUpdatedAt : String)
  | upsertFromResponse (actionId robotId actionStatus lastUpdatedAt : String)

namespace InstantActionsStatement

def row : InstantActionsStatement → InstantAction
  | upsert action => action
  | upsertFromAction actionId actionType actionDescriptor blockingType actionParameters robotId lastUpdatedAt =>
    { actionId, actionType, actionDescriptor := nonEmpty actionDescriptor, blockingType,
      actionParameters := nonEmpty actionParameters, robotId, lastUpdatedAt, createdAt := lastUpdatedAt }
  | upsertFromResponse actionId robotId actionStatus lastUpdatedAt =>
    { actionId, actionType := "zoneRequest", actionStatus, robotId, lastUpdatedAt, createdAt := lastUpdatedAt }

def doUpdate (s : InstantActionsStatement) (old : InstantAction) : InstantAction :=
  let excluded := s.row
  match s with
  | upsert _ => { excluded with actionId := old.actionId, createdAt := old.createdAt }
  | upsertFromAction .. =>
    { old with
      actionType := excluded.actionType
      actionDescriptor := excluded.actionDescriptor
      blockingType := excluded.blockingType
      actionParameters := excluded.actionParameters
      robotId := excluded.robotId
      lastUpdatedAt := excluded.lastUpdatedAt }
  | upsertFromResponse .. =>
    { old with actionStatus := excluded.actionStatus, lastUpdatedAt := excluded.lastUpdatedAt }

def sql (s : InstantActionsStatement) : Upsert InstantAction.actionId where
  row := s.row
  set := s.doUpdate
  key_set old := by cases s <;> rfl

/-- The value the statement gives to `action_status`. -/
def actionStatus? : InstantActionsStatement → Option String
  | upsert action => some action.actionStatus
  | upsertFromAction .. => none
  | upsertFromResponse _ _ actionStatus _ => some actionStatus

theorem writes_actionStatus (s : InstantActionsStatement) :
    s.sql.Writes InstantAction.actionStatus "WAITING" s.actionStatus? := by
  cases s <;> exact ⟨rfl, fun _ => rfl⟩

/-- The values the statement gives to the columns of instant actions; a response gives them only to a new row. -/
def actionColumns? : InstantActionsStatement → Option ActionColumns
  | upsertFromResponse .. => none
  | s => some s.row.actionColumns

theorem writes_actionColumns {s : InstantActionsStatement} (h : s.actionColumns?.isSome = true) (d : ActionColumns) :
    s.sql.Writes InstantAction.actionColumns d s.actionColumns? := by
  cases s with
  | upsertFromResponse => simp [actionColumns?] at h
  | _ => exact ⟨rfl, fun _ => rfl⟩

theorem overwrite (ss : List InstantActionsStatement) : Overwrite (ss.map sql) := by
  refine Overwrite.map ?_ ?_ ?_ ss
  · intro s
    cases s <;> rfl
  · intro s r
    cases s <;> rfl
  · intro s s' r
    cases s <;> cases s' <;> rfl

theorem management_set {s : InstantActionsStatement} (h : ∀ action, s ≠ upsert action) (r : InstantAction) :
    (s.sql.set r).management = r.management := by
  cases s with
  | upsert action => exact absurd rfl (h action)
  | _ => rfl

theorem stamps {s : InstantActionsStatement} (h : ∀ action, s ≠ upsert action) :
    s.sql.Stamps InstantAction.createdAt InstantAction.lastUpdatedAt := by
  cases s with
  | upsert action => exact absurd rfl (h action)
  | _ => exact ⟨rfl, fun _ => rfl, fun _ => rfl⟩

end InstantActionsStatement

/-! ### Maps -/

@[ext] structure Map where
  mapId : String
  mapVersion : String
  mapDescriptor : Option String := none
  mapStatus : String := "ENABLED"
  siteId : String
  graphSource : Option String := none
  zoneSetSource : Option String := none
  lastUpdatedAt : String

/-- The composite key. -/
def Map.key (map : Map) : String × String := (map.mapId, map.siteId)

/-! ### The database of the projections -/

structure ReadModel where
  robots : Table Robot.robotId
  orders : Table Order.orderId
  instantActions : Table InstantAction.actionId
  maps : Table Map.key

namespace ReadModel

def empty : ReadModel := ⟨Table.empty, Table.empty, Table.empty, Table.empty⟩

def execRobots (db : ReadModel) (ss : List RobotsStatement) : ReadModel :=
  { db with robots := db.robots.execAll (ss.map RobotsStatement.sql) }

def execOrders (db : ReadModel) (ss : List OrdersStatement) : ReadModel :=
  { db with orders := db.orders.execAll (ss.map OrdersStatement.sql) }

def execInstantActions (db : ReadModel) (ss : List InstantActionsStatement) : ReadModel :=
  { db with instantActions := db.instantActions.execAll (ss.map InstantActionsStatement.sql) }

end ReadModel

end SyriusOrbit.Db

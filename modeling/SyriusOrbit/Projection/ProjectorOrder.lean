import SyriusOrbit.Projection.Identity

/-!
# The order of the projectors

A cycle with the projectors in any order.  Each column of a row comes from one projector, or from the defaults of the
schema, with one exception: whichever of connections, states and factsheets inserts a robot decides on its
manufacturer and serial number.  The order does not matter if and only if the first events for a new robot agree on
these in all three topics (`orderIrrelevant_iff`).
-/

namespace SyriusOrbit

open JsonFormat Vda5050 Db Sql

/-! ### Rows without their times -/

def Db.Robot.untimed (r : Robot) : Robot := { r with createdAt := "", lastUpdatedAt := "" }

def Db.Order.untimed (r : Db.Order) : Db.Order := { r with createdAt := "", lastUpdatedAt := "" }

def Db.InstantAction.untimed (r : InstantAction) : InstantAction := { r with createdAt := "", lastUpdatedAt := "" }

namespace Projection

/-- The tables have rows for the same keys, and these are equal but for their times. -/
structure SameButTimes (db db' : ReadModel) : Prop where
  robots : ∀ k, (db.robots.find? k).map Robot.untimed = (db'.robots.find? k).map Robot.untimed
  orders : ∀ k, (db.orders.find? k).map Order.untimed = (db'.orders.find? k).map Order.untimed
  instantActions : ∀ k, (db.instantActions.find? k).map InstantAction.untimed =
    (db'.instantActions.find? k).map InstantAction.untimed

/-- Blocks that are empty but for one of the list's elements. -/
private theorem flatMap_eq_of_nodup {α β : Type} {as : List α} (hnodup : as.Nodup) {a : α} (ha : a ∈ as)
    {f : α → List β} (h : ∀ a', a' ≠ a → f a' = []) : as.flatMap f = f a := by
  obtain ⟨before, after, rfl⟩ := List.append_of_mem ha
  obtain ⟨-, hafter, hdisjoint⟩ := List.nodup_append.1 hnodup
  have hbefore : before.flatMap f = [] := by
    rw [List.flatMap_eq_nil_iff]
    intro a' ha'
    exact h a' (hdisjoint a' ha' a List.mem_cons_self)
  have hrest : after.flatMap f = [] := by
    rw [List.flatMap_eq_nil_iff]
    intro a' ha'
    refine h a' fun hsame => ?_
    exact (List.nodup_cons.1 hafter).1 (hsame ▸ ha')
  rw [List.flatMap_append, List.flatMap_cons, hbefore, hrest, List.nil_append, List.append_nil]

/-! ### Cycles in another order -/

/-- The six projectors. -/
inductive Projector where
  | connection | state | factsheet | order | instantActions | responses
  deriving DecidableEq

/-- The order of the table in `ProjectionEngine::run`. -/
def Projector.all : List Projector := [.connection, .state, .factsheet, .order, .instantActions, .responses]

private theorem nodup_of_perm_all {order : List Projector} (h : order.Perm Projector.all) : order.Nodup :=
  h.nodup_iff.2 (by decide)

private theorem mem_of_perm_all {order : List Projector} (h : order.Perm Projector.all) (p : Projector) : p ∈ order :=
  h.mem_iff.2 (by cases p <;> decide)

variable [JsonLibrary]

namespace Projector

def entry : Projector → Entry
  | connection => ⟨ConnectionProjector.topic, ConnectionProjector.project⟩
  | state => ⟨StateProjector.topic, StateProjector.project⟩
  | factsheet => ⟨FactsheetProjector.topic, FactsheetProjector.project⟩
  | order => ⟨OrderProjector.topic, OrderProjector.project⟩
  | instantActions => ⟨InstantActionsProjector.topic, InstantActionsProjector.project⟩
  | responses => ⟨ResponsesProjector.topic, ResponsesProjector.project⟩

def robotsStatements : Projector → Vda5050Event → List RobotsStatement
  | connection => ConnectionProjector.statements
  | state => StateProjector.statements
  | factsheet => FactsheetProjector.statements
  | _ => fun _ => []

def ordersStatements : Projector → Vda5050Event → List OrdersStatement
  | order => OrderProjector.statements
  | _ => fun _ => []

def instantActionsStatements : Projector → Vda5050Event → List InstantActionsStatement
  | instantActions => InstantActionsProjector.statements
  | responses => ResponsesProjector.statements
  | _ => fun _ => []

/-- A projector executes its statements on each of the tables. -/
theorem project_eq (p : Projector) (event : Vda5050Event) (db : ReadModel) :
    (runOn (p.entry.project event) db).2 =
      ((db.execRobots (p.robotsStatements event)).execOrders (p.ordersStatements event)).execInstantActions
        (p.instantActionsStatements event) := by
  cases p with
  | connection => exact congrArg Prod.snd (ConnectionProjector.runOn_project event db)
  | state => exact congrArg Prod.snd (StateProjector.runOn_project event db)
  | factsheet => rfl
  | order => exact congrArg Prod.snd (OrderProjector.runOn_project event db)
  | instantActions => exact congrArg Prod.snd (InstantActionsProjector.runOn_project event db)
  | responses => exact congrArg Prod.snd (ResponsesProjector.runOn_project event db)

end Projector

/-- A cycle with the projectors in the order given. -/
def cycleIn (order : List Projector) (rowsOf : String → List Vda5050Event) (db : ReadModel) : ReadModel :=
  (order.map Projector.entry).foldl (projectTopic rowsOf) db

theorem cycleIn_all (rowsOf : String → List Vda5050Event) (db : ReadModel) :
    cycleIn Projector.all rowsOf db = cycle rowsOf db := rfl

/-- The statements for a key, by the order of the projectors. -/
def statementsFor {S ρ : Type} {key : ρ → String} (sql : S → Upsert key) (stm : Projector → Vda5050Event → List S)
    (rowsOf : String → List Vda5050Event) (k : String) (p : Projector) : List S :=
  ((rowsOf p.entry.topic).flatMap (stm p)).filter fun s => decide (key (sql s).row = k)

/-- The row behind a key is made by the statements for it, projector after projector. -/
private theorem find?_cycleIn {S ρ : Type} {key : ρ → String} {table : ReadModel → Table key} {sql : S → Upsert key}
    {stm : Projector → Vda5050Event → List S}
    (h : ∀ (p : Projector) event db, table (runOn (p.entry.project event) db).2 =
      (table db).execAll ((stm p event).map sql))
    (order : List Projector) (rowsOf : String → List Vda5050Event) (db : ReadModel) (k : String) :
    (table (cycleIn order rowsOf db)).find? k =
      runRow ((table db).find? k) ((order.flatMap (statementsFor sql stm rowsOf k)).map sql) := by
  have htopic : ∀ (p : Projector) db, table (projectTopic rowsOf db p.entry) =
      (table db).execAll (((rowsOf p.entry.topic).flatMap (stm p)).map sql) := by
    intro p db
    unfold projectTopic
    induction rowsOf p.entry.topic generalizing db with
    | nil => rfl
    | cons event rows ih =>
      rw [List.foldl_cons, ih, h, List.flatMap_cons, List.map_append, Table.execAll_append]
  have hcycle : table (cycleIn order rowsOf db) =
      (table db).execAll ((order.flatMap fun p => (rowsOf p.entry.topic).flatMap (stm p)).map sql) := by
    unfold cycleIn
    induction order generalizing db with
    | nil => rfl
    | cons p order ih =>
      rw [List.map_cons, List.foldl_cons, ih, htopic, List.flatMap_cons, List.map_append, Table.execAll_append]
  rw [hcycle, Table.find?_execAll, List.filter_map, List.filter_flatMap]
  rfl

section

variable {S ρ γ : Type} {key : ρ → String} {sql : S → Upsert key} {stm : Projector → Vda5050Event → List S}
  {rowsOf : String → List Vda5050Event} {k : String}

private theorem exists_event_of_mem {p : Projector} {s : S} (h : s ∈ statementsFor sql stm rowsOf k p) :
    ∃ event, s ∈ stm p event := by
  obtain ⟨event, -, hs⟩ := List.mem_flatMap.1 (List.mem_filter.1 h).1
  exact ⟨event, hs⟩

private theorem perm_statementsFor {order order' : List Projector} (h : order.Perm Projector.all)
    (h' : order'.Perm Projector.all) :
    ((order.flatMap (statementsFor sql stm rowsOf k)).map sql).Perm
      ((order'.flatMap (statementsFor sql stm rowsOf k)).map sql) :=
  ((h.trans h'.symm).flatMap_right _).map sql

/-- The values of a column that one projector writes do not depend on the order. -/
private theorem filterMap_statementsFor {e : S → Option γ} {q : Projector}
    (hother : ∀ p, p ≠ q → ∀ event, ∀ s ∈ stm p event, e s = none) {order : List Projector}
    (h : order.Perm Projector.all) :
    (order.flatMap (statementsFor sql stm rowsOf k)).filterMap e =
      (statementsFor sql stm rowsOf k q).filterMap e := by
  rw [List.filterMap_flatMap]
  refine flatMap_eq_of_nodup (nodup_of_perm_all h) (mem_of_perm_all h q) fun p hp => ?_
  rw [List.filterMap_eq_nil_iff]
  intro s hs
  obtain ⟨event, hs⟩ := exists_event_of_mem hs
  exact hother p hp event s hs

private theorem column_eq {c : ρ → γ} {d : γ} {e : S → Option γ} (hw : ∀ s, (sql s).Writes c d (e s)) {q : Projector}
    (hother : ∀ p, p ≠ q → ∀ event, ∀ s ∈ stm p event, e s = none) {order order' : List Projector}
    (h : order.Perm Projector.all) (h' : order'.Perm Projector.all) {o : Option ρ} {r r' : ρ}
    (hr : runRow o ((order.flatMap (statementsFor sql stm rowsOf k)).map sql) = some r)
    (hr' : runRow o ((order'.flatMap (statementsFor sql stm rowsOf k)).map sql) = some r') : c r = c r' := by
  rw [column_runRow (fun s _ => hw s) hr, column_runRow (fun s _ => hw s) hr', filterMap_statementsFor hother h,
    filterMap_statementsFor hother h']

/-- A column that only the inserting statement writes is the same if it does not matter which one inserts. -/
private theorem kept_eq {c : ρ → γ} (hset : ∀ p event, ∀ s ∈ stm p event, ∀ r, c ((sql s).set r) = c r)
    {order order' : List Projector} {o : Option ρ} {r r' : ρ}
    (hr : runRow o ((order.flatMap (statementsFor sql stm rowsOf k)).map sql) = some r)
    (hr' : runRow o ((order'.flatMap (statementsFor sql stm rowsOf k)).map sql) = some r')
    (hfirst : o = none → ∀ p p' s s', (statementsFor sql stm rowsOf k p).head? = some s →
      (statementsFor sql stm rowsOf k p').head? = some s' → c (sql s).row = c (sql s').row) : c r = c r' := by
  have hkeeps : ∀ order : List Projector, ∀ u ∈ (order.flatMap (statementsFor sql stm rowsOf k)).map sql,
      ∀ r, c (u.set r) = c r := by
    intro order u hu r
    obtain ⟨s, hs, rfl⟩ := List.mem_map.1 hu
    obtain ⟨p, -, hs⟩ := List.mem_flatMap.1 hs
    obtain ⟨event, hs⟩ := exists_event_of_mem hs
    exact hset p event s hs r
  have hmap := map_runRow_of_keeps (hkeeps order) o
  have hmap' := map_runRow_of_keeps (hkeeps order') o
  rw [hr, Option.map_some] at hmap
  rw [hr', Option.map_some] at hmap'
  cases o with
  | some r₀ => exact Option.some.inj (hmap.trans hmap'.symm)
  | none =>
    rw [Option.none_or, List.head?_map, Option.map_map, Option.map_map, eq_comm, Option.map_eq_some_iff] at hmap hmap'
    obtain ⟨s, hs, hcs⟩ := hmap
    obtain ⟨s', hs', hcs'⟩ := hmap'
    rw [List.head?_flatMap] at hs hs'
    obtain ⟨p, -, hs⟩ := List.exists_of_findSome?_eq_some hs
    obtain ⟨p', -, hs'⟩ := List.exists_of_findSome?_eq_some hs'
    exact hcs.symm.trans ((hfirst rfl p p' s s' hs hs').trans hcs')

end

/-! ### Robots -/

/-- The statements on `robots` that a projector executes for a robot. -/
def robotsFor (rowsOf : String → List Vda5050Event) (k : String) (p : Projector) : List RobotsStatement :=
  statementsFor RobotsStatement.sql Projector.robotsStatements rowsOf k p

private theorem find?_robots_cycleIn (order : List Projector) (rowsOf : String → List Vda5050Event) (db : ReadModel)
    (k : String) : (cycleIn order rowsOf db).robots.find? k =
      runRow (db.robots.find? k) ((order.flatMap (robotsFor rowsOf k)).map RobotsStatement.sql) := by
  refine find?_cycleIn (fun p event db => ?_) order rowsOf db k
  rw [Projector.project_eq]
  rfl

/-- What a projector inserts names the robot of the event, and the columns of the management have their defaults. -/
private theorem management_row {p : Projector} {event : Vda5050Event} {s : RobotsStatement}
    (h : s ∈ p.robotsStatements event) :
    { s.row.management with createdAt := "" } = ⟨event.manufacturer, event.serialNumber, none, none, false, false, ""⟩ ∧
      s.row.identity = event.identity ∧ ∀ r, (s.sql.set r).management = r.management := by
  cases p with
  | connection =>
    obtain ⟨msg, rfl⟩ := ConnectionProjector.eq_of_mem_statements h
    exact ⟨rfl, rfl, fun _ => rfl⟩
  | state =>
    obtain ⟨msg, rfl⟩ := StateProjector.eq_of_mem_statements h
    exact ⟨rfl, rfl, fun _ => rfl⟩
  | factsheet =>
    rw [List.mem_singleton.1 h]
    exact ⟨rfl, rfl, fun _ => rfl⟩
  | order | instantActions | responses => cases h

/-- Two orders make the same row of a robot if they have the same robot inserted. -/
private theorem untimed_robots {order order' : List Projector} (h : order.Perm Projector.all)
    (h' : order'.Perm Projector.all) {rowsOf : String → List Vda5050Event} {db : ReadModel} {k : String}
    (hfirst : db.robots.find? k = none → ∀ p p' s s', (robotsFor rowsOf k p).head? = some s →
      (robotsFor rowsOf k p').head? = some s' → s.row.identity = s'.row.identity) :
    ((cycleIn order rowsOf db).robots.find? k).map Robot.untimed =
      ((cycleIn order' rowsOf db).robots.find? k).map Robot.untimed := by
  have hkey : ∀ {order : List Projector} {r : Robot}, runRow (db.robots.find? k)
      ((order.flatMap (robotsFor rowsOf k)).map RobotsStatement.sql) = some r → r.robotId = k := by
    intro order r hr
    rw [← find?_robots_cycleIn] at hr
    exact (Table.mem_of_find? hr).2
  rw [find?_robots_cycleIn, find?_robots_cycleIn]
  refine map_runRow_congr (perm_statementsFor h h') fun r r' hr hr' => ?_
  have hconnection : r.connectionState = r'.connectionState := by
    refine column_eq (q := .connection) (fun s => s.writes_connectionState) ?_ h h' hr hr'
    intro p hp event s hs
    cases p with
    | connection => exact absurd rfl hp
    | state => exact (StateProjector.only_stateColumns hs).1
    | factsheet => exact (FactsheetProjector.only_factsheet hs).1
    | order | instantActions | responses => cases hs
  have hstate : r.stateColumns = r'.stateColumns := by
    refine column_eq (q := .state) (fun s => s.writes_stateColumns) ?_ h h' hr hr'
    intro p hp event s hs
    cases p with
    | state => exact absurd rfl hp
    | connection => exact (ConnectionProjector.only_connectionState hs).1
    | factsheet => exact (FactsheetProjector.only_factsheet hs).2
    | order | instantActions | responses => cases hs
  have hfactsheet : r.factsheet = r'.factsheet := by
    refine column_eq (q := .factsheet) (fun s => s.writes_factsheet) ?_ h h' hr hr'
    intro p hp event s hs
    cases p with
    | factsheet => exact absurd rfl hp
    | connection => exact (ConnectionProjector.only_connectionState hs).2
    | state => exact (StateProjector.only_stateColumns hs).2
    | order | instantActions | responses => cases hs
  have hmanagement : ({ r.management with createdAt := "" } : RobotManagement) =
      { r'.management with createdAt := "" } := by
    refine kept_eq (c := fun r : Robot => ({ r.management with createdAt := "" } : RobotManagement)) ?_ hr hr' ?_
    · intro p event s hs r
      rw [(management_row hs).2.2 r]
    · intro hnone p p' s s' hs hs'
      have hidentity := hfirst hnone p p' s s' hs hs'
      obtain ⟨event, hevent⟩ := exists_event_of_mem (List.mem_of_mem_head? hs)
      obtain ⟨event', hevent'⟩ := exists_event_of_mem (List.mem_of_mem_head? hs')
      obtain ⟨hrow, hrobot, -⟩ := management_row hevent
      obtain ⟨hrow', hrobot', -⟩ := management_row hevent'
      have hsame : event.identity = event'.identity := hrobot.symm.trans (hidentity.trans hrobot')
      simp only [Vda5050Event.identity, Prod.mk.injEq] at hsame
      exact hrow.trans ((by rw [hsame.1, hsame.2] : _ = _).trans hrow'.symm)
  simp only [Robot.stateColumns, StateColumns.mk.injEq] at hstate
  simp only [Robot.management, RobotManagement.mk.injEq] at hmanagement
  obtain ⟨hmode, hdriving, hpaused, hbattery, hcharging⟩ := hstate
  obtain ⟨hmanufacturer, hserial, hsite, hname, hsuspended, harchived, -⟩ := hmanagement
  exact Robot.ext ((hkey hr).trans (hkey hr').symm) hmanufacturer hserial hsite hname hconnection hmode hdriving
    hpaused hbattery hcharging hsuspended harchived hfactsheet rfl rfl

/-! ### Orders and instant actions -/

/-- Orders are written by one projector. -/
private theorem orders_eq {order order' : List Projector} (h : order.Perm Projector.all)
    (h' : order'.Perm Projector.all)
    (rowsOf : String → List Vda5050Event) (db : ReadModel) (k : String) :
    (cycleIn order rowsOf db).orders.find? k = (cycleIn order' rowsOf db).orders.find? k := by
  have hproject : ∀ (p : Projector) event db, (runOn (p.entry.project event) db).2.orders =
      db.orders.execAll ((p.ordersStatements event).map OrdersStatement.sql) := by
    intro p event db
    rw [Projector.project_eq]
    rfl
  have hblocks : ∀ {order : List Projector}, order.Perm Projector.all →
      order.flatMap (statementsFor OrdersStatement.sql Projector.ordersStatements rowsOf k) =
        statementsFor OrdersStatement.sql Projector.ordersStatements rowsOf k .order := by
    intro order h
    refine flatMap_eq_of_nodup (nodup_of_perm_all h) (mem_of_perm_all h _) fun p hp => ?_
    refine List.eq_nil_iff_forall_not_mem.2 fun s hs => ?_
    obtain ⟨event, hs⟩ := exists_event_of_mem hs
    cases p with
    | order => exact hp rfl
    | _ => cases hs
  rw [find?_cycleIn hproject, find?_cycleIn hproject, hblocks h, hblocks h']

/-- The statements on `instant_actions` that a projector executes for an action. -/
def actionsFor (rowsOf : String → List Vda5050Event) (k : String) (p : Projector) : List InstantActionsStatement :=
  statementsFor InstantActionsStatement.sql Projector.instantActionsStatements rowsOf k p

private theorem find?_actions_cycleIn (order : List Projector) (rowsOf : String → List Vda5050Event) (db : ReadModel)
    (k : String) : (cycleIn order rowsOf db).instantActions.find? k =
      runRow (db.instantActions.find? k) ((order.flatMap (actionsFor rowsOf k)).map InstantActionsStatement.sql) := by
  refine find?_cycleIn (fun p event db => ?_) order rowsOf db k
  rw [Projector.project_eq]
  rfl

/-- Without an instant action for the id, the responses alone make the row. -/
private theorem flatMap_actionsFor {rowsOf : String → List Vda5050Event} {k : String}
    (hnone : actionsFor rowsOf k .instantActions = []) {order : List Projector} (h : order.Perm Projector.all) :
    order.flatMap (actionsFor rowsOf k) = actionsFor rowsOf k .responses := by
  refine flatMap_eq_of_nodup (nodup_of_perm_all h) (mem_of_perm_all h _) fun p hp => ?_
  refine List.eq_nil_iff_forall_not_mem.2 fun s hs => ?_
  cases p with
  | instantActions =>
    rw [hnone] at hs
    cases hs
  | responses => exact hp rfl
  | _ =>
    obtain ⟨event, hs⟩ := exists_event_of_mem hs
    cases hs

/-- With one, the last of them gives the columns of instant actions, whatever was inserted first. -/
private theorem actionColumns_eq {order order' : List Projector} (h : order.Perm Projector.all)
    (h' : order'.Perm Projector.all) {rowsOf : String → List Vda5050Event} {k : String}
    (hsome : actionsFor rowsOf k .instantActions ≠ []) {o : Option InstantAction} {r r' : InstantAction}
    (hr : runRow o ((order.flatMap (actionsFor rowsOf k)).map InstantActionsStatement.sql) = some r)
    (hr' : runRow o ((order'.flatMap (actionsFor rowsOf k)).map InstantActionsStatement.sql) = some r') :
    r.actionColumns = r'.actionColumns := by
  have hother : ∀ p, p ≠ Projector.instantActions → ∀ event, ∀ s ∈ p.instantActionsStatements event,
      s.actionColumns? = none := by
    intro p hp event s hs
    cases p with
    | instantActions => exact absurd rfl hp
    | responses =>
      obtain ⟨response, rfl⟩ := ResponsesProjector.eq_of_mem_statements hs
      rfl
    | connection | state | factsheet | order => cases hs
  obtain ⟨v, hv⟩ : ∃ v, ((actionsFor rowsOf k .instantActions).filterMap
      InstantActionsStatement.actionColumns?).getLast? = some v := by
    refine Option.ne_none_iff_exists'.1 fun hnil => ?_
    rw [List.getLast?_eq_none_iff, List.filterMap_eq_nil_iff] at hnil
    obtain ⟨s, hs⟩ := List.exists_mem_of_ne_nil _ hsome
    obtain ⟨event, hevent⟩ := exists_event_of_mem hs
    obtain ⟨action, rfl⟩ := InstantActionsProjector.eq_of_mem_statements hevent
    exact absurd (hnil _ hs)
      (by simp [InstantActionsProjector.upsertFromAction, InstantActionsStatement.actionColumns?])
  have hset : ∀ (s : InstantActionsStatement) r,
      (s.sql.set r).actionColumns = s.actionColumns?.getD r.actionColumns := by
    intro s r
    cases s <;> rfl
  have hrow : ∀ (s : InstantActionsStatement) v, s.actionColumns? = some v → s.sql.row.actionColumns = v := by
    intro s v hv
    cases s with
    | upsertFromResponse => cases hv
    | _ => exact Option.some.inj hv
  have hlast : ∀ {order : List Projector}, order.Perm Projector.all →
      ((order.flatMap (actionsFor rowsOf k)).filterMap InstantActionsStatement.actionColumns?).getLast? = some v :=
    fun h => (congrArg List.getLast? (filterMap_statementsFor hother h)).trans hv
  rw [column_runRow_of_last hset hrow (hlast h) hr, column_runRow_of_last hset hrow (hlast h') hr']

/-- All orders make the same row of an action. -/
private theorem untimed_instantActions {order order' : List Projector} (h : order.Perm Projector.all)
    (h' : order'.Perm Projector.all) (rowsOf : String → List Vda5050Event) (db : ReadModel) (k : String) :
    ((cycleIn order rowsOf db).instantActions.find? k).map InstantAction.untimed =
      ((cycleIn order' rowsOf db).instantActions.find? k).map InstantAction.untimed := by
  have hkey : ∀ {order : List Projector} {r : InstantAction}, runRow (db.instantActions.find? k)
      ((order.flatMap (actionsFor rowsOf k)).map InstantActionsStatement.sql) = some r → r.actionId = k := by
    intro order r hr
    rw [← find?_actions_cycleIn] at hr
    exact (Table.mem_of_find? hr).2
  rw [find?_actions_cycleIn, find?_actions_cycleIn]
  by_cases hnone : actionsFor rowsOf k .instantActions = []
  · rw [flatMap_actionsFor hnone h, flatMap_actionsFor hnone h']
  refine map_runRow_congr (perm_statementsFor h h') fun r r' hr hr' => ?_
  have hcolumns := actionColumns_eq h h' hnone hr hr'
  have hstatus : r.actionStatus = r'.actionStatus := by
    refine column_eq (q := .responses) (fun s => s.writes_actionStatus) ?_ h h' hr hr'
    intro p hp event s hs
    cases p with
    | responses => exact absurd rfl hp
    | instantActions =>
      obtain ⟨action, rfl⟩ := InstantActionsProjector.eq_of_mem_statements hs
      rfl
    | connection | state | factsheet | order => cases hs
  -- what a projector inserts has the defaults in the columns of the management
  have hinserted : ∀ (p : Projector) event, ∀ s ∈ p.instantActionsStatements event,
      ({ s.row.management with createdAt := "" } : ActionManagement) = ⟨false, none, none, false, ""⟩ ∧
        ∀ r, (s.sql.set r).management = r.management := by
    intro p event s hs
    cases p with
    | instantActions =>
      obtain ⟨action, rfl⟩ := InstantActionsProjector.eq_of_mem_statements hs
      exact ⟨rfl, fun _ => rfl⟩
    | responses =>
      obtain ⟨response, rfl⟩ := ResponsesProjector.eq_of_mem_statements hs
      exact ⟨rfl, fun _ => rfl⟩
    | connection | state | factsheet | order => cases hs
  have hmanagement : ({ r.management with createdAt := "" } : ActionManagement) =
      { r'.management with createdAt := "" } := by
    refine kept_eq (c := fun r : InstantAction => ({ r.management with createdAt := "" } : ActionManagement)) ?_
      hr hr' ?_
    · intro p event s hs r
      rw [(hinserted p event s hs).2 r]
    · intro _ p p' s s' hs hs'
      obtain ⟨event, hevent⟩ := exists_event_of_mem (List.mem_of_mem_head? hs)
      obtain ⟨event', hevent'⟩ := exists_event_of_mem (List.mem_of_mem_head? hs')
      exact (hinserted p event s hevent).1.trans (hinserted p' event' s' hevent').1.symm
  simp only [InstantAction.actionColumns, ActionColumns.mk.injEq] at hcolumns
  simp only [InstantAction.management, ActionManagement.mk.injEq] at hmanagement
  obtain ⟨htype, hdescriptor, hblocking, hparameters, hrobot⟩ := hcolumns
  obtain ⟨hretriable, hresult, hsite, harchived, -⟩ := hmanagement
  exact InstantAction.ext ((hkey hr).trans (hkey hr').symm) htype hdescriptor hblocking hparameters hretriable hstatus
    hresult hrobot hsite harchived rfl rfl

/-! ### The first event of a robot -/

/-- The first row of the projector's topic that is projected to the robot. -/
def firstEvent (rowsOf : String → List Vda5050Event) (k : String) (p : Projector) : Option Vda5050Event :=
  (rowsOf p.entry.topic).find? fun e => decide (e.robotId = k) && decodes p.entry.topic e

omit [JsonLibrary] in
/-- The projectors that write robots. -/
def robotProjectors : List Projector := [.connection, .state, .factsheet]

/-- An event that decodes becomes one statement, which names its robot. -/
private theorem robotsStatements_eq {p : Projector} (hp : p ∈ robotProjectors) (e : Vda5050Event) :
    ∃ s : RobotsStatement, s.row.robotId = e.robotId ∧ s.row.identity = e.identity ∧
      p.robotsStatements e = if decodes p.entry.topic e then [s] else [] := by
  have hnone : ∃ s : RobotsStatement, s.row.robotId = e.robotId ∧ s.row.identity = e.identity :=
    ⟨.upsertFactsheet e.robotId e.manufacturer e.serialNumber e.payload e.receivedAt, rfl, rfl⟩
  cases p with
  | connection =>
    have htype : decodedType ConnectionProjector.topic = some .connection := rfl
    simp only [Projector.robotsStatements, Projector.entry, ConnectionProjector.statements, onDecoded, decodes, htype]
    cases hdecode : decode (α := Connection) e.payload with
    | ok m => exact ⟨_, rfl, rfl, rfl⟩
    | error err =>
      obtain ⟨s, hs, hs'⟩ := hnone
      exact ⟨s, hs, hs', rfl⟩
  | state =>
    have htype : decodedType StateProjector.topic = some .state := rfl
    simp only [Projector.robotsStatements, Projector.entry, StateProjector.statements, onDecoded, decodes, htype]
    cases hdecode : decode (α := State) e.payload with
    | ok m => exact ⟨_, rfl, rfl, rfl⟩
    | error err =>
      obtain ⟨s, hs, hs'⟩ := hnone
      exact ⟨s, hs, hs', rfl⟩
  | factsheet => exact ⟨_, rfl, rfl, rfl⟩
  | order | instantActions | responses => simp [robotProjectors] at hp

private theorem head?_robotsFor {p : Projector} (hp : p ∈ robotProjectors) (rowsOf : String → List Vda5050Event)
    (k : String) :
    (robotsFor rowsOf k p).head?.map (fun s => s.row.identity) =
      (firstEvent rowsOf k p).map Vda5050Event.identity := by
  unfold robotsFor statementsFor firstEvent
  rw [List.head?_filter, List.find?_flatMap]
  induction rowsOf p.entry.topic with
  | nil => rfl
  | cons e rows ih =>
    obtain ⟨s, hid, hidentity, hs⟩ := robotsStatements_eq hp e
    have hkey : s.sql.row.robotId = e.robotId := hid
    rw [List.findSome?_cons, List.find?_cons, hs]
    by_cases hdecodes : decodes p.entry.topic e = true
    · by_cases hk : e.robotId = k
      · simp [hdecodes, hk, hkey, hidentity]
      · simpa [hdecodes, hk, hkey] using ih
    · simpa [hdecodes] using ih

/-- A projector that comes first inserts a new robot with the identity in its first event. -/
private theorem identity_of_first {p : Projector} (hp : p ∈ robotProjectors) {rowsOf : String → List Vda5050Event}
    {db : ReadModel} {k : String} (hnone : db.robots.find? k = none) {e : Vda5050Event}
    (he : firstEvent rowsOf k p = some e) :
    (((cycleIn (p :: Projector.all.erase p) rowsOf db).robots.find? k).map Robot.untimed).map Robot.identity =
      some e.identity := by
  have hfirst := head?_robotsFor hp rowsOf k
  rw [he, Option.map_some, Option.map_eq_some_iff] at hfirst
  obtain ⟨s, hs, hidentity⟩ := hfirst
  obtain ⟨ss, hss⟩ := List.head?_eq_some_iff.1 hs
  have hkeeps : ∀ u ∈ ((p :: Projector.all.erase p).flatMap (robotsFor rowsOf k)).map RobotsStatement.sql,
      ∀ r, (u.set r).identity = r.identity := by
    intro u hu r
    obtain ⟨s, hs, rfl⟩ := List.mem_map.1 hu
    obtain ⟨p, -, hs⟩ := List.mem_flatMap.1 hs
    obtain ⟨event, hs⟩ := exists_event_of_mem hs
    have hmanagement := (management_row hs).2.2 r
    simp only [Robot.management, RobotManagement.mk.injEq] at hmanagement
    exact Prod.ext hmanagement.1 hmanagement.2.1
  have hmap := map_runRow_of_keeps hkeeps none
  rw [List.flatMap_cons, hss, List.cons_append, List.map_cons, Option.none_or, List.head?_cons, Option.map_some,
    Option.map_some] at hmap
  rw [find?_robots_cycleIn, hnone, Option.map_map, List.flatMap_cons, hss, List.cons_append, List.map_cons]
  exact hmap.trans (congrArg some hidentity)

/-! ### Any two orders -/

/-- Two cycles with the projectors in any orders leave the same tables, up to the times. -/
def OrderIrrelevant (rowsOf : String → List Vda5050Event) (db : ReadModel) : Prop :=
  ∀ order order' : List Projector, order.Perm Projector.all → order'.Perm Projector.all →
    SameButTimes (cycleIn order rowsOf db) (cycleIn order' rowsOf db)

/-- The order does not matter if and only if, for each robot that has no row yet, the first events in the topics that
have any name the same manufacturer and serial number. -/
theorem orderIrrelevant_iff (rowsOf : String → List Vda5050Event) (db : ReadModel) :
    OrderIrrelevant rowsOf db ↔ ∀ k, db.robots.find? k = none → ∀ p ∈ robotProjectors, ∀ p' ∈ robotProjectors,
      ∀ e e', firstEvent rowsOf k p = some e → firstEvent rowsOf k p' = some e' → e.identity = e'.identity := by
  constructor
  · intro h k hnone p hp p' hp' e e' he he'
    have hperm : ∀ p, (p :: Projector.all.erase p).Perm Projector.all := fun p =>
      (List.perm_cons_erase (mem_of_perm_all (List.Perm.refl _) p)).symm
    have hrobots := (h _ _ (hperm p) (hperm p')).robots k
    have hidentity := identity_of_first hp hnone he
    rw [hrobots, identity_of_first hp' hnone he', Option.some_inj] at hidentity
    exact hidentity.symm
  · intro h order order' horder horder'
    refine ⟨fun k => ?_, fun k => ?_, untimed_instantActions horder horder' rowsOf db⟩
    · refine untimed_robots horder horder' fun hnone p p' s s' hs hs' => ?_
      have hmem : ∀ {p s}, (robotsFor rowsOf k p).head? = some s → p ∈ robotProjectors := by
        intro p s hs
        obtain ⟨event, hevent⟩ := exists_event_of_mem (List.mem_of_mem_head? hs)
        cases p with
        | order | instantActions | responses => cases hevent
        | _ => simp [robotProjectors]
      have hfirst := head?_robotsFor (hmem hs) rowsOf k
      have hfirst' := head?_robotsFor (hmem hs') rowsOf k
      rw [hs, Option.map_some, eq_comm, Option.map_eq_some_iff] at hfirst
      rw [hs', Option.map_some, eq_comm, Option.map_eq_some_iff] at hfirst'
      obtain ⟨e, he, hidentity⟩ := hfirst
      obtain ⟨e', he', hidentity'⟩ := hfirst'
      exact hidentity.symm.trans ((h k hnone p (hmem hs) p' (hmem hs') e e' he he').trans hidentity')
    · rw [orders_eq horder horder']

/-- A robot `a.b` with the serial number `c` goes online. -/
def dottedConnection : Vda5050Event :=
  { insertEvent "connection" "a.b.c" ⟨"uagv", "v3", "a.b", "c"⟩ "uplink" 1 "3.0.0" "2026-01-01T00:00:00Z"
      dottedText.2.1 with
    id := 1, receivedAt := "2026-01-01T00:00:00Z" }

/-- A robot `a` with the serial number `b.c` sends its factsheet. -/
def dottedFactsheet : Vda5050Event :=
  { insertEvent "factsheet" "a.b.c" ⟨"uagv", "v3", "a", "b.c"⟩ "uplink" 0 "" "" "\x7b\x7d" with
    id := 2, receivedAt := "2026-01-01T00:00:01Z" }

def dottedLog : EventLog :=
  (EventLog.empty.insert "2026-01-01T00:00:00Z" dottedConnection).insert "2026-01-01T00:00:01Z" dottedFactsheet

omit [JsonLibrary] in
private theorem decodes_dottedConnection :
    letI := JsonLibrary.ofTexts [dottedText]
    decodes ConnectionProjector.topic dottedConnection = true := by
  let lib := JsonLibrary.ofTexts [dottedText]
  have hdecode : decode dottedText.2.1 =
      .ok (⟨1, "2026-01-01T00:00:00Z", "3.0.0", "a.b", "c", .online⟩ : Connection) :=
    decode_ofTexts _ dottedText (t := .connection) _ rfl (by simp)
  exact congrArg Except.isOk hdecode

omit [JsonLibrary] in
/-- The row of `a.b.c` names one robot or the other. -/
theorem not_orderIrrelevant_of_dotted :
    ¬ ∀ [JsonLibrary] (log : EventLog) (rowsOf : String → List Vda5050Event) (db : ReadModel),
      IsQueryResult log rowsOf → OrderIrrelevant rowsOf db := by
  intro h
  let lib := JsonLibrary.ofTexts [dottedText]
  have hirrelevant := h dottedLog dottedLog.findLatestByTopic .empty fun _ => List.Perm.refl _
  have hnone : ReadModel.empty.robots.find? "a.b.c" = none := rfl
  have hconnection : firstEvent dottedLog.findLatestByTopic "a.b.c" .connection = some dottedConnection := by
    have hrows : dottedLog.findLatestByTopic ConnectionProjector.topic = [dottedConnection] := rfl
    unfold firstEvent
    rw [Projector.entry, hrows]
    exact List.find?_cons_of_pos (by rw [decodes_dottedConnection]; rfl)
  have hfactsheet : firstEvent dottedLog.findLatestByTopic "a.b.c" .factsheet = some dottedFactsheet := rfl
  have hrobots := (hirrelevant (.connection :: Projector.all.erase .connection)
    (.factsheet :: Projector.all.erase .factsheet) (by decide) (by decide)).robots "a.b.c"
  have hidentity := identity_of_first (by decide) hnone hconnection
  rw [hrobots, identity_of_first (by decide) hnone hfactsheet] at hidentity
  exact absurd hidentity (by decide)

end Projection

end SyriusOrbit

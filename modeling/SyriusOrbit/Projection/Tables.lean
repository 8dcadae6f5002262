import SyriusOrbit.Projection.Engine
import SyriusOrbit.Projection.ActionCapture
import SyriusOrbit.Db.RobotsRepository
import SyriusOrbit.Db.OrdersRepository
import SyriusOrbit.Db.MapsRepository

/-!
# The projectors on the tables of the database

What the projectors do to the rows of cells.  Their statements are executed one after another until one throws; what
has been executed stays.  As long as payloads are no numeric literals no statement throws, and the tables decode to
the read model that the projector leaves (`readModel_execUntil`, `project_eq`).
-/

namespace SyriusOrbit.Projection

open JsonFormat Vda5050 Db Sql

variable [Library]

/-- The tables of the read model, as rows of cells. -/
structure Tables where
  robots : Table (TableDef.key RobotsColumn.table)
  orders : Table (TableDef.key OrdersColumn.table)
  instantActions : Table (TableDef.key InstantActionsColumn.table)
  maps : Table (TableDef.key MapsColumn.table)

/-- The statements of the projectors, by their tables. -/
inductive Statement where
  | robots (s : RobotsStatement)
  | orders (s : OrdersStatement)
  | instantActions (s : InstantActionsStatement)

namespace Statement

/-- What the statement binds to a column of type `JSON` is no numeric literal. -/
def Plain : Statement → Prop
  | robots s => RobotsRepository.Plain s
  | orders s => OrdersRepository.Plain s
  | instantActions s => InstantActionsRepository.Plain s

omit [Library] in
/-- The statement on records. -/
def execOn (db : ReadModel) : Statement → ReadModel
  | robots s => db.execRobots [s]
  | orders s => db.execOrders [s]
  | instantActions s => db.execInstantActions [s]

end Statement

omit [Library] in
private theorem foldl_execRobots (ss : List RobotsStatement) (db : ReadModel) :
    (ss.map Statement.robots).foldl Statement.execOn db = db.execRobots ss := by
  induction ss generalizing db with
  | nil => rfl
  | cons s ss ih =>
    rw [List.map_cons, List.foldl_cons, ih]
    exact (db.execRobots_append [s] ss).symm

omit [Library] in
private theorem foldl_execOrders (ss : List OrdersStatement) (db : ReadModel) :
    (ss.map Statement.orders).foldl Statement.execOn db = db.execOrders ss := by
  induction ss generalizing db with
  | nil => rfl
  | cons s ss ih =>
    rw [List.map_cons, List.foldl_cons, ih]
    exact (db.execOrders_append [s] ss).symm

omit [Library] in
private theorem foldl_execInstantActionsStatements (ss : List InstantActionsStatement) (db : ReadModel) :
    (ss.map Statement.instantActions).foldl Statement.execOn db = db.execInstantActions ss := by
  induction ss generalizing db with
  | nil => rfl
  | cons s ss ih =>
    rw [List.map_cons, List.foldl_cons, ih]
    exact (db.execInstantActions_append [s] ss).symm

namespace Tables

def empty : Tables := ⟨Table.empty, Table.empty, Table.empty, Table.empty⟩

/-- Executes the statement; `none` when it throws. -/
def exec (t : Tables) : Statement → Option Tables
  | .robots s => ((RobotsRepository.statement s).exec t.robots).map fun robots => { t with robots }
  | .orders s => ((OrdersRepository.statement s).exec t.orders).map fun orders => { t with orders }
  | .instantActions s =>
    ((InstantActionsRepository.statement s).exec t.instantActions).map fun instantActions => { t with instantActions }

/-- Executes statements until one throws; each of them is committed by itself. -/
def execUntil (t : Tables) : List Statement → Tables
  | [] => t
  | s :: ss =>
    match t.exec s with
    | some t' => t'.execUntil ss
    | none => t

/-- The records in the tables. -/
def readModel (t : Tables) : ReadModel where
  robots := RobotsRepository.robots t.robots
  orders := OrdersRepository.orders t.orders
  instantActions := InstantActionsRepository.instantActions t.instantActions
  maps := MapsRepository.maps t.maps

/-- A plain statement does not throw, and does to the records what the statement on records does. -/
private theorem readModel_exec {s : Statement} (h : s.Plain) (t : Tables) :
    ∃ t', t.exec s = some t' ∧ t'.readModel = s.execOn t.readModel := by
  cases s with
  | robots s =>
    obtain ⟨robots, hexec, hrobots⟩ := RobotsRepository.execStatements_eq (List.forall_mem_singleton.2 h) t.robots
    have hs : (RobotsRepository.statement s).exec t.robots = some robots := by
      simpa [execStatements] using hexec
    refine ⟨{ t with robots }, by rw [exec, hs]; rfl, ?_⟩
    simp only [readModel, hrobots]
    rfl
  | orders s =>
    obtain ⟨orders, hexec, horders⟩ := OrdersRepository.execStatements_eq (List.forall_mem_singleton.2 h) t.orders
    have hs : (OrdersRepository.statement s).exec t.orders = some orders := by
      simpa [execStatements] using hexec
    refine ⟨{ t with orders }, by rw [exec, hs]; rfl, ?_⟩
    simp only [readModel, horders]
    rfl
  | instantActions s =>
    obtain ⟨actions, hexec, hactions⟩ :=
      InstantActionsRepository.execStatements_eq (List.forall_mem_singleton.2 h) t.instantActions
    have hs : (InstantActionsRepository.statement s).exec t.instantActions = some actions := by
      simpa [execStatements] using hexec
    refine ⟨{ t with instantActions := actions }, by rw [exec, hs]; rfl, ?_⟩
    simp only [readModel, hactions]
    rfl

theorem readModel_execUntil {ss : List Statement} (h : ∀ s ∈ ss, s.Plain) (t : Tables) :
    (t.execUntil ss).readModel = ss.foldl Statement.execOn t.readModel := by
  induction ss generalizing t with
  | nil => rfl
  | cons s ss ih =>
    obtain ⟨t', hexec, hreadModel⟩ := readModel_exec (h s List.mem_cons_self) t
    rw [execUntil, hexec, List.foldl_cons, ← hreadModel]
    exact ih (fun s' hs' => h s' (List.mem_cons_of_mem s hs')) t'

end Tables

/-! ### The statements of the projectors -/

variable [JsonLibrary]

omit [Library] in
/-- The statements that the projector of the topic executes for an event. -/
def statementsOf (topic : String) (event : Vda5050Event) : List Statement :=
  if topic = ConnectionProjector.topic then (ConnectionProjector.statements event).map .robots
  else if topic = StateProjector.topic then (StateProjector.statements event).map .robots
  else if topic = FactsheetProjector.topic then (FactsheetProjector.statements event).map .robots
  else if topic = OrderProjector.topic then (OrderProjector.statements event).map .orders
  else if topic = InstantActionsProjector.topic then (InstantActionsProjector.statements event).map .instantActions
  else if topic = ResponsesProjector.topic then (ResponsesProjector.statements event).map .instantActions
  else []

/-- Arrays are written in brackets. -/
def DumpsArrays : Prop := ∀ xs, Bracketed (JsonLibrary.dump (.arr xs))

/-- The statements for an event are plain if its payload is. -/
theorem plain_statementsOf (hobjects : DumpsObjects) (harrays : DumpsArrays) {event : Vda5050Event}
    (hpayload : Value.PlainText event.payload) (topic : String) : ∀ s ∈ statementsOf topic event, s.Plain := by
  unfold statementsOf
  split_ifs
  · refine List.forall_mem_map.2 fun s hs => ?_
    obtain ⟨m, rfl⟩ := ConnectionProjector.eq_of_mem_statements hs
    rintro _ ⟨⟩
  · refine List.forall_mem_map.2 fun s hs => ?_
    obtain ⟨m, rfl⟩ := StateProjector.eq_of_mem_statements hs
    rintro _ ⟨⟩
  · refine List.forall_mem_map.2 fun s hs => ?_
    obtain rfl := List.mem_singleton.1 hs
    rintro _ ⟨⟩
    exact hpayload
  · refine List.forall_mem_map.2 fun s hs => ?_
    obtain ⟨m, -, rfl⟩ := OrderProjector.eq_of_mem_statements hs
    exact ⟨Value.plainText_of_bracketed (harrays _), Value.plainText_of_bracketed (harrays _)⟩
  · refine List.forall_mem_map.2 fun s hs => ?_
    obtain ⟨action, rfl⟩ := InstantActionsProjector.eq_of_mem_statements hs
    exact plain_upsertFromAction hobjects event action
  · refine List.forall_mem_map.2 fun s hs => ?_
    obtain ⟨response, rfl⟩ := ResponsesProjector.eq_of_mem_statements hs
    rintro _ ⟨⟩
  · simp

omit [Library] in
/-- The projector executes its statements. -/
theorem project_eq {entry : Entry} (hentry : entry ∈ projectors) (event : Vda5050Event) (db : ReadModel) :
    (runOn (entry.project event) db).2 = (statementsOf entry.topic event).foldl Statement.execOn db := by
  simp only [projectors, List.mem_cons, List.not_mem_nil, or_false] at hentry
  rcases hentry with rfl | rfl | rfl | rfl | rfl | rfl
  · rw [ConnectionProjector.runOn_project]
    exact (foldl_execRobots _ db).symm
  · rw [StateProjector.runOn_project]
    exact (foldl_execRobots _ db).symm
  · rw [FactsheetProjector.runOn_project]
    exact (foldl_execRobots _ db).symm
  · rw [OrderProjector.runOn_project]
    exact (foldl_execOrders _ db).symm
  · rw [InstantActionsProjector.runOn_project]
    exact (foldl_execInstantActionsStatements _ db).symm
  · rw [ResponsesProjector.runOn_project]
    exact (foldl_execInstantActionsStatements _ db).symm

omit [Library] in
private theorem length_onDecoded_le {α β : Type} [JsonCodec α] (event : Vda5050Event) (f : α → β) :
    (onDecoded event fun m : α => [f m]).length ≤ 1 := by
  unfold onDecoded
  split <;> simp

omit [Library] in
/-- If a statement throws, those before it have been executed. -/
theorem partially_eq {entry : Entry} (hentry : entry ∈ projectors) {event : Vda5050Event} {executed : Nat}
    (hexecuted : executed < (statementsOf entry.topic event).length) (db : ReadModel) :
    entry.partially executed event db =
      ((statementsOf entry.topic event).take executed).foldl Statement.execOn db := by
  -- the statement of a projector with one statement is the first to throw
  have hsingle : (statementsOf entry.topic event).length ≤ 1 →
      ((statementsOf entry.topic event).take executed).foldl Statement.execOn db = db := by
    intro hlength
    obtain rfl : executed = 0 := by omega
    rfl
  simp only [projectors, List.mem_cons, List.not_mem_nil, or_false] at hentry
  rcases hentry with rfl | rfl | rfl | rfl | rfl | rfl
  · exact (hsingle ((List.length_map _).trans_le (length_onDecoded_le event _))).symm
  · exact (hsingle ((List.length_map _).trans_le (length_onDecoded_le event _))).symm
  · exact (hsingle le_rfl).symm
  · exact (hsingle ((List.length_map _).trans_le (length_onDecoded_le event _))).symm
  · have hstatements : statementsOf InstantActionsProjector.topic event =
        (InstantActionsProjector.statements event).map .instantActions := rfl
    rw [hstatements, ← List.map_take, foldl_execInstantActionsStatements]
    rfl
  · have hstatements : statementsOf ResponsesProjector.topic event =
        (ResponsesProjector.statements event).map .instantActions := rfl
    rw [hstatements, ← List.map_take, foldl_execInstantActionsStatements]
    rfl

end SyriusOrbit.Projection

import SyriusOrbit.Db.ReadModel
import SyriusOrbit.Sql.Cells

/-!
# The statements on `orders`

`OrdersRepository` with its column lists, bindings and row decoder, as for the robots.
-/

namespace SyriusOrbit.Db

open Sql Value

inductive OrdersColumn where
  | orderId | orderUpdateId | orderDescription | status | assignedRobotId | siteId | nodes | edges | archived
  | createdAt | lastUpdatedAt
  deriving DecidableEq

namespace OrdersColumn

def all : List OrdersColumn :=
  [orderId, orderUpdateId, orderDescription, status, assignedRobotId, siteId, nodes, edges, archived, createdAt,
    lastUpdatedAt]

/-- `002_create_orders.sql`. -/
def table : TableDef OrdersColumn where
  columns := all
  column
    | orderId => { affinity := .text }
    | orderUpdateId => { affinity := .integer, notNull := true, dflt := .integer 0 }
    | orderDescription => { affinity := .text }
    | status => { affinity := .text, notNull := true, dflt := .text "QUEUED" }
    | assignedRobotId => { affinity := .text, notNull := true }
    | siteId => { affinity := .text, notNull := true }
    -- `JSON`
    | nodes => { affinity := .numeric, notNull := true }
    | edges => { affinity := .numeric, notNull := true }
    | archived => { affinity := .integer, notNull := true, dflt := .integer 0 }
    | createdAt => { affinity := .text, notNull := true }
    | lastUpdatedAt => { affinity := .text, notNull := true }
  primaryKey := [orderId]

end OrdersColumn

namespace OrdersRepository

def upsert (order : Order) : InsertStatement OrdersColumn.table where
  columns :=
    [.orderId, .orderUpdateId, .orderDescription, .status,
      .assignedRobotId, .siteId, .nodes, .edges, .archived,
      .createdAt, .lastUpdatedAt]
  values := List.replicate 11 .parameter
  update :=
    [.orderUpdateId, .orderDescription, .status, .assignedRobotId, .siteId, .nodes, .edges, .archived,
      .lastUpdatedAt]
  binds :=
    [(1, .text order.orderId),
      (2, .integer order.orderUpdateId),
      (3, ofOption .text order.orderDescription),
      (4, .text order.status),
      (5, .text order.assignedRobotId),
      (6, .text order.siteId),
      (7, .text order.nodes),
      (8, .text order.edges),
      (9, ofBool order.archived),
      (10, .text order.createdAt),
      (11, .text order.lastUpdatedAt)]
  update_key := by decide

def upsertFromOrder (orderId robotId : String) (orderUpdateId : Int64)
    (orderDescription nodes edges lastUpdatedAt : String) : InsertStatement OrdersColumn.table where
  columns :=
    [.orderId, .orderUpdateId, .orderDescription,
      .assignedRobotId, .siteId, .nodes, .edges,
      .lastUpdatedAt, .createdAt]
  values := List.replicate 9 .parameter
  update := [.orderUpdateId, .orderDescription, .assignedRobotId, .nodes, .edges, .lastUpdatedAt]
  binds :=
    [(1, .text orderId),
      (2, .integer orderUpdateId),
      (3, ofOption .text (nonEmpty orderDescription)),
      (4, .text robotId),
      -- management-side field, empty placeholder
      (5, .text ""),
      (6, .text nodes),
      (7, .text edges),
      (8, .text lastUpdatedAt),
      (9, .text lastUpdatedAt)]
  update_key := by decide

/-- The columns that `findById` and `listAll` select. -/
def selected : List OrdersColumn :=
  [.orderId, .orderUpdateId, .orderDescription, .status,
    .assignedRobotId, .siteId, .nodes, .edges, .archived,
    .createdAt, .lastUpdatedAt]

section

variable [Library]

def fromRow (column : Nat → Value) : Order where
  orderId := (column 0).getString
  orderUpdateId := (column 1).getInt64
  orderDescription := (column 2).getString?
  status := (column 3).getString
  assignedRobotId := (column 4).getString
  siteId := (column 5).getString
  nodes := (column 6).getString
  edges := (column 7).getString
  archived := (column 8).getBool
  createdAt := (column 9).getString
  lastUpdatedAt := (column 10).getString

/-- A row as the queries read it. -/
def decode (r : Row OrdersColumn) : Order := fromRow (getColumn selected r)

def findById (t : Table (TableDef.key OrdersColumn.table)) (orderId : String) : Option Order :=
  (t.find? [orderId]).map decode

def listAll (t : Table (TableDef.key OrdersColumn.table)) : List Order := t.rows.map decode

/-- The SQL of a statement of the read model. -/
def statement : OrdersStatement → InsertStatement OrdersColumn.table
  | .upsert order => upsert order
  | .upsertFromOrder orderId robotId orderUpdateId orderDescription nodes edges lastUpdatedAt =>
    upsertFromOrder orderId robotId orderUpdateId orderDescription nodes edges lastUpdatedAt

/-- The nodes and edges that the statement binds are no numeric literals. -/
def Plain (s : OrdersStatement) : Prop := PlainText s.row.nodes ∧ PlainText s.row.edges

theorem accepted_statement {s : OrdersStatement} (h : Plain s) : (statement s).accepted = true := by
  obtain ⟨hnodes, hedges⟩ := h
  have hrow : (statement s).row .nodes = .text s.row.nodes ∧ (statement s).row .edges = .text s.row.edges := by
    cases s with
    | upsert order => exact ⟨store_numeric hnodes, store_numeric hedges⟩
    | upsertFromOrder => exact ⟨store_numeric hnodes, store_numeric hedges⟩
  rw [InsertStatement.accepted, List.all_eq_true]
  intro c _
  cases c with
  | nodes =>
    rw [hrow.1]
    rfl
  | edges =>
    rw [hrow.2]
    rfl
  | _ => cases s <;> rfl

theorem decode_row {s : OrdersStatement} (h : Plain s) : decode (statement s).row = s.row := by
  obtain ⟨hnodes, hedges⟩ := h
  cases s with
  | upsert order =>
    exact Order.ext rfl rfl (getString?_ofOption _) rfl rfl rfl (getString_store_numeric hnodes)
      (getString_store_numeric hedges) (getBool_ofBool _) rfl rfl
  | upsertFromOrder orderId robotId orderUpdateId orderDescription nodes edges lastUpdatedAt =>
    exact Order.ext rfl rfl (getString?_ofOption _) rfl rfl rfl (getString_store_numeric hnodes)
      (getString_store_numeric hedges) rfl rfl rfl

/-- The columns of `DO UPDATE SET` are those of the row that was to be inserted, and the others stay. -/
theorem decode_set {s : OrdersStatement} (h : Plain s) (r : Row OrdersColumn) :
    decode ((statement s).set r) = s.doUpdate (decode r) := by
  have hrow := decode_row h
  cases s with
  | upsert order =>
    have hset : decode ((statement (.upsert order)).set r) =
        { decode (statement (.upsert order)).row with
          orderId := (decode r).orderId
          createdAt := (decode r).createdAt } := rfl
    rw [hset, hrow]
    rfl
  | upsertFromOrder orderId robotId orderUpdateId orderDescription nodes edges lastUpdatedAt =>
    exact Order.ext rfl rfl (getString?_ofOption _) rfl rfl rfl (getString_store_numeric h.1)
      (getString_store_numeric h.2) rfl rfl rfl

theorem decodes {s : OrdersStatement} (h : Plain s) : (statement s).sql.Decodes decode s.sql :=
  ⟨decode_row h, decode_set h⟩

/-- The orders in a table. -/
def orders (t : Table (TableDef.key OrdersColumn.table)) : Table Order.orderId :=
  t.map decode (g := fun orderId => [orderId]) fun _ => rfl

theorem findById_eq (t : Table (TableDef.key OrdersColumn.table)) (orderId : String) :
    findById t orderId = (orders t).find? orderId :=
  (Table.find?_map List.singleton_injective t orderId).symm

theorem listAll_eq (t : Table (TableDef.key OrdersColumn.table)) : listAll t = (orders t).rows := rfl

/-- The statements never throw, and they do to the orders what the statements on records do. -/
theorem execStatements_eq {ss : List OrdersStatement} (h : ∀ s ∈ ss, Plain s)
    (t : Table (TableDef.key OrdersColumn.table)) :
    ∃ t', execStatements t (ss.map statement) = some t' ∧
      orders t' = (orders t).execAll (ss.map OrdersStatement.sql) :=
  execStatements_decodes List.singleton_injective (fun s hs => accepted_statement (h s hs))
    (fun s hs => decodes (h s hs)) t

end

end OrdersRepository

end SyriusOrbit.Db

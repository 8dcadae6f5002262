import SyriusOrbit.Db.ReadModel
import SyriusOrbit.Sql.Cells

/-!
# The statements on `instant_actions`

`InstantActionsRepository` with its column lists, bindings and row decoder, as for the robots.
-/

namespace SyriusOrbit.Db

open Sql Value

inductive InstantActionsColumn where
  | actionId | actionType | actionDescriptor | blockingType | actionParameters | retriable | actionStatus
  | actionResult | robotId | siteId | archived | createdAt | lastUpdatedAt
  deriving DecidableEq

namespace InstantActionsColumn

def all : List InstantActionsColumn :=
  [actionId, actionType, actionDescriptor, blockingType, actionParameters, retriable, actionStatus, actionResult,
    robotId, siteId, archived, createdAt, lastUpdatedAt]

/-- `003_create_instant_actions.sql`. -/
def table : TableDef InstantActionsColumn where
  columns := all
  column
    | actionId => { affinity := .text }
    | actionType => { affinity := .text, notNull := true }
    | actionDescriptor => { affinity := .text }
    | blockingType => { affinity := .text, notNull := true, dflt := .text "NONE" }
    -- `JSON`
    | actionParameters => { affinity := .numeric }
    | retriable => { affinity := .integer, notNull := true, dflt := .integer 0 }
    | actionStatus => { affinity := .text, notNull := true, dflt := .text "WAITING" }
    | actionResult => { affinity := .text }
    | robotId => { affinity := .text, notNull := true }
    | siteId => { affinity := .text }
    | archived => { affinity := .integer, notNull := true, dflt := .integer 0 }
    | createdAt => { affinity := .text, notNull := true }
    | lastUpdatedAt => { affinity := .text, notNull := true }
  primaryKey := [actionId]

end InstantActionsColumn

namespace InstantActionsRepository

def upsert (action : InstantAction) : InsertStatement InstantActionsColumn.table where
  columns :=
    [.actionId, .actionType, .actionDescriptor, .blockingType,
      .actionParameters, .retriable, .actionStatus, .actionResult,
      .robotId, .siteId, .archived, .createdAt, .lastUpdatedAt]
  values := List.replicate 13 .parameter
  update :=
    [.actionType, .actionDescriptor, .blockingType, .actionParameters, .retriable, .actionStatus, .actionResult,
      .robotId, .siteId, .archived, .lastUpdatedAt]
  binds :=
    [(1, .text action.actionId),
      (2, .text action.actionType),
      (3, ofOption .text action.actionDescriptor),
      (4, .text action.blockingType),
      (5, ofOption .text action.actionParameters),
      (6, ofBool action.retriable),
      (7, .text action.actionStatus),
      (8, ofOption .text action.actionResult),
      (9, .text action.robotId),
      (10, ofOption .text action.siteId),
      (11, ofBool action.archived),
      (12, .text action.createdAt),
      (13, .text action.lastUpdatedAt)]
  update_key := by decide

def upsertFromAction (actionId actionType actionDescriptor blockingType actionParameters robotId
    lastUpdatedAt : String) : InsertStatement InstantActionsColumn.table where
  columns :=
    [.actionId, .actionType, .actionDescriptor, .blockingType,
      .actionParameters, .robotId, .lastUpdatedAt, .createdAt]
  values := List.replicate 8 .parameter
  update := [.actionType, .actionDescriptor, .blockingType, .actionParameters, .robotId, .lastUpdatedAt]
  binds :=
    [(1, .text actionId),
      (2, .text actionType),
      (3, ofOption .text (nonEmpty actionDescriptor)),
      (4, .text blockingType),
      (5, ofOption .text (nonEmpty actionParameters)),
      (6, .text robotId),
      (7, .text lastUpdatedAt),
      (8, .text lastUpdatedAt)]
  update_key := by decide

def upsertFromResponse (actionId robotId actionStatus lastUpdatedAt : String) :
    InsertStatement InstantActionsColumn.table where
  columns := [.actionId, .actionType, .actionStatus, .robotId, .lastUpdatedAt, .createdAt]
  values := List.replicate 6 .parameter
  update := [.actionStatus, .lastUpdatedAt]
  binds :=
    [(1, .text actionId),
      (2, .text "zoneRequest"),
      (3, .text actionStatus),
      (4, .text robotId),
      (5, .text lastUpdatedAt),
      (6, .text lastUpdatedAt)]
  update_key := by decide

/-- The columns that `findById` and `listAll` select. -/
def selected : List InstantActionsColumn :=
  [.actionId, .actionType, .actionDescriptor, .blockingType,
    .actionParameters, .retriable, .actionStatus, .actionResult,
    .robotId, .siteId, .archived, .createdAt, .lastUpdatedAt]

section

variable [Library]

def fromRow (column : Nat → Value) : InstantAction where
  actionId := (column 0).getString
  actionType := (column 1).getString
  actionDescriptor := (column 2).getString?
  blockingType := (column 3).getString
  actionParameters := (column 4).getString?
  retriable := (column 5).getBool
  actionStatus := (column 6).getString
  actionResult := (column 7).getString?
  robotId := (column 8).getString
  siteId := (column 9).getString?
  archived := (column 10).getBool
  createdAt := (column 11).getString
  lastUpdatedAt := (column 12).getString

/-- A row as the queries read it. -/
def decode (r : Row InstantActionsColumn) : InstantAction := fromRow (getColumn selected r)

def findById (t : Table (TableDef.key InstantActionsColumn.table)) (actionId : String) : Option InstantAction :=
  (t.find? [actionId]).map decode

def listAll (t : Table (TableDef.key InstantActionsColumn.table)) : List InstantAction := t.rows.map decode

/-- The SQL of a statement of the read model. -/
def statement : InstantActionsStatement → InsertStatement InstantActionsColumn.table
  | .upsert action => upsert action
  | .upsertFromAction actionId actionType actionDescriptor blockingType actionParameters robotId lastUpdatedAt =>
    upsertFromAction actionId actionType actionDescriptor blockingType actionParameters robotId lastUpdatedAt
  | .upsertFromResponse actionId robotId actionStatus lastUpdatedAt =>
    upsertFromResponse actionId robotId actionStatus lastUpdatedAt

theorem accepted_statement (s : InstantActionsStatement) : (statement s).accepted = true := by
  cases s <;> rfl

/-- The parameters that the statement binds are no numeric literal. -/
def Plain (s : InstantActionsStatement) : Prop :=
  ∀ parameters, s.row.actionParameters = some parameters → PlainText parameters

theorem decode_row {s : InstantActionsStatement} (h : Plain s) : decode (statement s).row = s.row := by
  cases s with
  | upsert action =>
    exact InstantAction.ext rfl rfl (getString?_ofOption _) rfl (getString?_store_numeric h) (getBool_ofBool _) rfl
      (getString?_ofOption _) rfl (getString?_ofOption _) (getBool_ofBool _) rfl rfl
  | upsertFromAction actionId actionType actionDescriptor blockingType actionParameters robotId lastUpdatedAt =>
    exact InstantAction.ext rfl rfl (getString?_ofOption _) rfl (getString?_store_numeric h) rfl rfl rfl rfl rfl rfl
      rfl rfl
  | upsertFromResponse => rfl

/-- The columns of `DO UPDATE SET` are those of the row that was to be inserted, and the others stay. -/
theorem decode_set {s : InstantActionsStatement} (h : Plain s) (r : Row InstantActionsColumn) :
    decode ((statement s).set r) = s.doUpdate (decode r) := by
  have hrow := decode_row h
  cases s with
  | upsert action =>
    have hset : decode ((statement (.upsert action)).set r) =
        { decode (statement (.upsert action)).row with
          actionId := (decode r).actionId
          createdAt := (decode r).createdAt } := rfl
    rw [hset, hrow]
    rfl
  | upsertFromAction actionId actionType actionDescriptor blockingType actionParameters robotId lastUpdatedAt =>
    exact InstantAction.ext rfl rfl (getString?_ofOption _) rfl (getString?_store_numeric h) rfl rfl rfl rfl rfl rfl
      rfl rfl
  | upsertFromResponse => rfl

theorem decodes {s : InstantActionsStatement} (h : Plain s) : (statement s).sql.Decodes decode s.sql :=
  ⟨decode_row h, decode_set h⟩

/-- The instant actions in a table. -/
def instantActions (t : Table (TableDef.key InstantActionsColumn.table)) : Table InstantAction.actionId :=
  t.map decode (g := fun actionId => [actionId]) fun _ => rfl

theorem findById_eq (t : Table (TableDef.key InstantActionsColumn.table)) (actionId : String) :
    findById t actionId = (instantActions t).find? actionId :=
  (Table.find?_map List.singleton_injective t actionId).symm

theorem listAll_eq (t : Table (TableDef.key InstantActionsColumn.table)) : listAll t = (instantActions t).rows := rfl

/-- The statements never throw, and they do to the actions what the statements on records do. -/
theorem execStatements_eq {ss : List InstantActionsStatement} (h : ∀ s ∈ ss, Plain s)
    (t : Table (TableDef.key InstantActionsColumn.table)) :
    ∃ t', execStatements t (ss.map statement) = some t' ∧
      instantActions t' = (instantActions t).execAll (ss.map InstantActionsStatement.sql) :=
  execStatements_decodes List.singleton_injective (fun s _ => accepted_statement s) (fun s hs => decodes (h s hs)) t

end

end InstantActionsRepository

end SyriusOrbit.Db

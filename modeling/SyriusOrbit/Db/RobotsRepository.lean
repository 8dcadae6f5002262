import SyriusOrbit.Db.ReadModel
import SyriusOrbit.Sql.Cells

/-!
# The statements on `robots`

`RobotsRepository` with its column lists, bindings and row decoder.  Every statement decodes to the statement on
records of the read model (`decodes`), so the table of rows decodes to the table of robots (`robots_execAll`).
-/

namespace SyriusOrbit.Db

open Sql Value

/-- A double is read from its cell as `realColumn` has it. -/
private theorem getDouble?_ofReal (x : Float) : (ofReal x).getDouble? = realColumn x := by
  unfold ofReal realColumn
  split
  · rfl
  · split <;> rfl

private theorem getDouble?_store [Library] (o : Option Float) :
    ((ofOption .real o).store .real).getDouble? = o.bind realColumn := by
  cases o with
  | none => rfl
  | some x => exact getDouble?_ofReal x

inductive RobotsColumn where
  | robotId | manufacturer | serialNumber | siteId | displayName | connectionState | operatingMode | driving | paused
  | batteryLevel | charging | suspended | archived | factsheet | lastUpdatedAt | createdAt
  deriving DecidableEq

namespace RobotsColumn

def all : List RobotsColumn :=
  [robotId, manufacturer, serialNumber, siteId, displayName, connectionState, operatingMode, driving, paused,
    batteryLevel, charging, suspended, archived, factsheet, lastUpdatedAt, createdAt]

/-- `001_create_robots.sql`. -/
def table : TableDef RobotsColumn where
  columns := all
  column
    | robotId => { affinity := .text }
    | manufacturer => { affinity := .text, notNull := true }
    | serialNumber => { affinity := .text, notNull := true }
    | siteId => { affinity := .text }
    | displayName => { affinity := .text }
    | connectionState => { affinity := .text, notNull := true, dflt := .text "OFFLINE" }
    | operatingMode => { affinity := .text }
    | driving => { affinity := .integer, notNull := true, dflt := .integer 0 }
    | paused => { affinity := .integer, notNull := true, dflt := .integer 0 }
    | batteryLevel => { affinity := .real }
    | charging => { affinity := .integer, notNull := true, dflt := .integer 0 }
    | suspended => { affinity := .integer, notNull := true, dflt := .integer 0 }
    | archived => { affinity := .integer, notNull := true, dflt := .integer 0 }
    -- `JSON`
    | factsheet => { affinity := .numeric }
    | lastUpdatedAt => { affinity := .text, notNull := true }
    | createdAt => { affinity := .text, notNull := true }
  primaryKey := [robotId]

end RobotsColumn

namespace RobotsRepository

def upsert (robot : Robot) : InsertStatement RobotsColumn.table where
  columns :=
    [.robotId, .manufacturer, .serialNumber, .siteId, .displayName,
      .connectionState, .operatingMode, .driving, .paused, .batteryLevel,
      .charging, .suspended, .archived, .factsheet, .lastUpdatedAt, .createdAt]
  values := List.replicate 16 .parameter
  update :=
    [.manufacturer, .serialNumber, .siteId, .displayName, .connectionState, .operatingMode, .driving, .paused,
      .batteryLevel, .charging, .suspended, .archived, .factsheet, .lastUpdatedAt]
  binds :=
    [(1, .text robot.robotId),
      (2, .text robot.manufacturer),
      (3, .text robot.serialNumber),
      (4, ofOption .text robot.siteId),
      (5, ofOption .text robot.displayName),
      (6, .text robot.connectionState),
      (7, ofOption .text robot.operatingMode),
      (8, ofBool robot.driving),
      (9, ofBool robot.paused),
      (10, ofOption .real robot.batteryLevel),
      (11, ofBool robot.charging),
      (12, ofBool robot.suspended),
      (13, ofBool robot.archived),
      (14, ofOption .text robot.factsheet),
      (15, .text robot.lastUpdatedAt),
      (16, .text robot.createdAt)]
  update_key := by decide

def upsertConnection (robotId manufacturer serialNumber connectionState lastUpdatedAt : String) :
    InsertStatement RobotsColumn.table where
  columns := [.robotId, .manufacturer, .serialNumber, .connectionState, .lastUpdatedAt, .createdAt]
  values := List.replicate 6 .parameter
  update := [.connectionState, .lastUpdatedAt]
  binds :=
    [(1, .text robotId),
      (2, .text manufacturer),
      (3, .text serialNumber),
      (4, .text connectionState),
      (5, .text lastUpdatedAt),
      (6, .text lastUpdatedAt)]
  update_key := by decide

def upsertState (robotId manufacturer serialNumber operatingMode : String) (driving paused : Bool)
    (batteryLevel : Float) (charging : Bool) (lastUpdatedAt : String) : InsertStatement RobotsColumn.table where
  columns :=
    [.robotId, .manufacturer, .serialNumber, .operatingMode, .driving,
      .paused, .batteryLevel, .charging, .lastUpdatedAt, .createdAt]
  values := List.replicate 10 .parameter
  update := [.operatingMode, .driving, .paused, .batteryLevel, .charging, .lastUpdatedAt]
  binds :=
    [(1, .text robotId),
      (2, .text manufacturer),
      (3, .text serialNumber),
      (4, .text operatingMode),
      (5, ofBool driving),
      (6, ofBool paused),
      (7, .real batteryLevel),
      (8, ofBool charging),
      (9, .text lastUpdatedAt),
      (10, .text lastUpdatedAt)]
  update_key := by decide

def upsertFactsheet (robotId manufacturer serialNumber factsheet lastUpdatedAt : String) :
    InsertStatement RobotsColumn.table where
  columns := [.robotId, .manufacturer, .serialNumber, .factsheet, .lastUpdatedAt, .createdAt]
  values := List.replicate 6 .parameter
  update := [.factsheet, .lastUpdatedAt]
  binds :=
    [(1, .text robotId),
      (2, .text manufacturer),
      (3, .text serialNumber),
      (4, .text factsheet),
      (5, .text lastUpdatedAt),
      (6, .text lastUpdatedAt)]
  update_key := by decide

/-- The columns that `findById` and `listAll` select. -/
def selected : List RobotsColumn :=
  [.robotId, .manufacturer, .serialNumber, .siteId, .displayName,
    .connectionState, .operatingMode, .driving, .paused, .batteryLevel,
    .charging, .suspended, .archived, .factsheet, .lastUpdatedAt, .createdAt]

section

variable [Library]

def fromRow (column : Nat → Value) : Robot where
  robotId := (column 0).getString
  manufacturer := (column 1).getString
  serialNumber := (column 2).getString
  siteId := (column 3).getString?
  displayName := (column 4).getString?
  connectionState := (column 5).getString
  operatingMode := (column 6).getString?
  driving := (column 7).getBool
  paused := (column 8).getBool
  batteryLevel := (column 9).getDouble?
  charging := (column 10).getBool
  suspended := (column 11).getBool
  archived := (column 12).getBool
  factsheet := (column 13).getString?
  lastUpdatedAt := (column 14).getString
  createdAt := (column 15).getString

/-- A row as the queries read it. -/
def decode (r : Row RobotsColumn) : Robot := fromRow (getColumn selected r)

def findById (t : Table (TableDef.key RobotsColumn.table)) (robotId : String) : Option Robot :=
  (t.find? [robotId]).map decode

def listAll (t : Table (TableDef.key RobotsColumn.table)) : List Robot := t.rows.map decode

/-- The SQL of a statement of the read model. -/
def statement : RobotsStatement → InsertStatement RobotsColumn.table
  | .upsert robot => upsert robot
  | .upsertConnection robotId manufacturer serialNumber connectionState lastUpdatedAt =>
    upsertConnection robotId manufacturer serialNumber connectionState lastUpdatedAt
  | .upsertState robotId manufacturer serialNumber operatingMode driving paused batteryLevel charging lastUpdatedAt =>
    upsertState robotId manufacturer serialNumber operatingMode driving paused batteryLevel charging lastUpdatedAt
  | .upsertFactsheet robotId manufacturer serialNumber factsheet lastUpdatedAt =>
    upsertFactsheet robotId manufacturer serialNumber factsheet lastUpdatedAt

theorem accepted_statement (s : RobotsStatement) : (statement s).accepted = true := by
  cases s <;> rfl

/-- The factsheet that the statement binds is no numeric literal. -/
def Plain (s : RobotsStatement) : Prop := ∀ factsheet, s.row.factsheet = some factsheet → PlainText factsheet

theorem decode_row {s : RobotsStatement} (h : Plain s) : decode (statement s).row = s.row := by
  cases s with
  | upsert robot =>
    exact Robot.ext rfl rfl rfl (getString?_ofOption _) (getString?_ofOption _) rfl (getString?_ofOption _)
      (getBool_ofBool _) (getBool_ofBool _) (getDouble?_store _) (getBool_ofBool _) (getBool_ofBool _)
      (getBool_ofBool _) (getString?_store_numeric h) rfl rfl
  | upsertConnection => rfl
  | upsertState robotId manufacturer serialNumber operatingMode driving paused batteryLevel charging lastUpdatedAt =>
    exact Robot.ext rfl rfl rfl rfl rfl rfl rfl (getBool_ofBool _) (getBool_ofBool _) (getDouble?_ofReal _)
      (getBool_ofBool _) rfl rfl rfl rfl rfl
  | upsertFactsheet robotId manufacturer serialNumber factsheet lastUpdatedAt =>
    exact Robot.ext rfl rfl rfl rfl rfl rfl rfl rfl rfl rfl rfl rfl rfl
      (getString?_store_numeric (o := some factsheet) h) rfl rfl

/-- The columns of `DO UPDATE SET` are those of the row that was to be inserted, and the others stay. -/
theorem decode_set {s : RobotsStatement} (h : Plain s) (r : Row RobotsColumn) :
    decode ((statement s).set r) = s.doUpdate (decode r) := by
  have hrow := decode_row h
  cases s with
  | upsert robot =>
    have hset : decode ((statement (.upsert robot)).set r) =
        { decode (statement (.upsert robot)).row with
          robotId := (decode r).robotId
          createdAt := (decode r).createdAt } := rfl
    rw [hset, hrow]
    rfl
  | upsertConnection => rfl
  | upsertState robotId manufacturer serialNumber operatingMode driving paused batteryLevel charging lastUpdatedAt =>
    exact Robot.ext rfl rfl rfl rfl rfl rfl rfl (getBool_ofBool _) (getBool_ofBool _) (getDouble?_ofReal _)
      (getBool_ofBool _) rfl rfl rfl rfl rfl
  | upsertFactsheet robotId manufacturer serialNumber factsheet lastUpdatedAt =>
    exact Robot.ext rfl rfl rfl rfl rfl rfl rfl rfl rfl rfl rfl rfl rfl
      (getString?_store_numeric (o := some factsheet) h) rfl rfl

theorem decodes {s : RobotsStatement} (h : Plain s) : (statement s).sql.Decodes decode s.sql :=
  ⟨decode_row h, decode_set h⟩

/-- The robots in a table. -/
def robots (t : Table (TableDef.key RobotsColumn.table)) : Table Robot.robotId :=
  t.map decode (g := fun robotId => [robotId]) fun _ => rfl

theorem findById_eq (t : Table (TableDef.key RobotsColumn.table)) (robotId : String) :
    findById t robotId = (robots t).find? robotId :=
  (Table.find?_map List.singleton_injective t robotId).symm

theorem listAll_eq (t : Table (TableDef.key RobotsColumn.table)) : listAll t = (robots t).rows := rfl

/-- The statements never throw, and they do to the robots what the statements on records do. -/
theorem execStatements_eq {ss : List RobotsStatement} (h : ∀ s ∈ ss, Plain s)
    (t : Table (TableDef.key RobotsColumn.table)) :
    ∃ t', execStatements t (ss.map statement) = some t' ∧
      robots t' = (robots t).execAll (ss.map RobotsStatement.sql) :=
  execStatements_decodes List.singleton_injective (fun s _ => accepted_statement s) (fun s hs => decodes (h s hs)) t

end

end RobotsRepository

end SyriusOrbit.Db

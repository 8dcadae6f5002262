import SyriusOrbit.Db.ReadModel
import SyriusOrbit.Sql.Cells

/-!
# The statement on `maps`

`MapsRepository` with its column lists, bindings and row decoder, as for the robots; the key is composite.
-/

namespace SyriusOrbit.Db

open Sql Value

inductive MapsColumn where
  | mapId | mapVersion | mapDescriptor | mapStatus | siteId | graphSource | zoneSetSource | lastUpdatedAt
  deriving DecidableEq

namespace MapsColumn

def all : List MapsColumn :=
  [mapId, mapVersion, mapDescriptor, mapStatus, siteId, graphSource, zoneSetSource, lastUpdatedAt]

/-- `004_create_maps.sql`. -/
def table : TableDef MapsColumn where
  columns := all
  column
    | mapId => { affinity := .text, notNull := true }
    | mapVersion => { affinity := .text, notNull := true }
    | mapDescriptor => { affinity := .text }
    | mapStatus => { affinity := .text, notNull := true, dflt := .text "ENABLED" }
    | siteId => { affinity := .text, notNull := true }
    | graphSource => { affinity := .text }
    | zoneSetSource => { affinity := .text }
    | lastUpdatedAt => { affinity := .text, notNull := true }
  primaryKey := [mapId, siteId]

end MapsColumn

namespace MapsRepository

def upsert (map : Map) : InsertStatement MapsColumn.table where
  columns :=
    [.mapId, .mapVersion, .mapDescriptor, .mapStatus, .siteId,
      .graphSource, .zoneSetSource, .lastUpdatedAt]
  values := List.replicate 8 .parameter
  update := [.mapVersion, .mapDescriptor, .mapStatus, .graphSource, .zoneSetSource, .lastUpdatedAt]
  binds :=
    [(1, .text map.mapId),
      (2, .text map.mapVersion),
      (3, ofOption .text map.mapDescriptor),
      (4, .text map.mapStatus),
      (5, .text map.siteId),
      (6, ofOption .text map.graphSource),
      (7, ofOption .text map.zoneSetSource),
      (8, .text map.lastUpdatedAt)]
  update_key := by decide

/-- The columns that `findById` and `listAll` select. -/
def selected : List MapsColumn :=
  [.mapId, .mapVersion, .mapDescriptor, .mapStatus, .siteId,
    .graphSource, .zoneSetSource, .lastUpdatedAt]

/-- The statement on records. -/
def sql (map : Map) : Upsert Map.key where
  row := map
  set old := { map with mapId := old.mapId, siteId := old.siteId }
  key_set _ := rfl

section

variable [Library]

def fromRow (column : Nat → Value) : Map where
  mapId := (column 0).getString
  mapVersion := (column 1).getString
  mapDescriptor := (column 2).getString?
  mapStatus := (column 3).getString
  siteId := (column 4).getString
  graphSource := (column 5).getString?
  zoneSetSource := (column 6).getString?
  lastUpdatedAt := (column 7).getString

/-- A row as the queries read it. -/
def decode (r : Row MapsColumn) : Map := fromRow (getColumn selected r)

def findById (t : Table (TableDef.key MapsColumn.table)) (mapId siteId : String) : Option Map :=
  (t.find? [mapId, siteId]).map decode

def listAll (t : Table (TableDef.key MapsColumn.table)) : List Map := t.rows.map decode

private theorem accepted_upsert (map : Map) : (upsert map).accepted = true := rfl

theorem decode_row (map : Map) : decode (upsert map).row = map :=
  Map.ext rfl rfl (getString?_ofOption _) rfl rfl (getString?_ofOption _) (getString?_ofOption _) rfl

/-- The columns of `DO UPDATE SET` are those of the row that was to be inserted, and the others stay. -/
theorem decode_set (map : Map) (r : Row MapsColumn) : decode ((upsert map).set r) = (sql map).set (decode r) :=
  Map.ext rfl rfl (getString?_ofOption _) rfl rfl (getString?_ofOption _) (getString?_ofOption _) rfl

theorem decodes (map : Map) : (upsert map).sql.Decodes decode (sql map) := ⟨decode_row map, decode_set map⟩

omit [Library] in
private theorem injective_key : Function.Injective fun k : String × String => [k.1, k.2] := by
  rintro ⟨mapId, siteId⟩ ⟨mapId', siteId'⟩ h
  simpa using h

/-- The maps in a table. -/
def maps (t : Table (TableDef.key MapsColumn.table)) : Table Map.key :=
  t.map decode (g := fun k => [k.1, k.2]) fun _ => rfl

theorem findById_eq (t : Table (TableDef.key MapsColumn.table)) (mapId siteId : String) :
    findById t mapId siteId = (maps t).find? (mapId, siteId) :=
  (Table.find?_map injective_key t (mapId, siteId)).symm

theorem listAll_eq (t : Table (TableDef.key MapsColumn.table)) : listAll t = (maps t).rows := rfl

/-- The statement never throws, and it does to the maps what the statement on records does. -/
theorem execStatements_eq (ms : List Map) (t : Table (TableDef.key MapsColumn.table)) :
    ∃ t', execStatements t (ms.map upsert) = some t' ∧ maps t' = (maps t).execAll (ms.map sql) :=
  execStatements_decodes injective_key (fun map _ => accepted_upsert map) (fun map _ => decodes map) t

end

end MapsRepository

end SyriusOrbit.Db

import SyriusOrbit.Db.Events
import SyriusOrbit.Sql.Cells

/-!
# The statements on `vda5050_events`

`Vda5050EventsRepository` with its column list, bindings, query and row decoder.  The rows of the table, decoded, are
an event log, and the statements do to it what `EventLog.insert` and `EventLog.findLatestByTopic` do (`insert_eq`,
`findLatestByTopic_eq`).  Hence the query returns, after any calls of `insert`, the entries of a map in which each
call overwrites the entry of its topic and item (`last_write_wins`).
-/

namespace SyriusOrbit.Db

open Sql Value

/-- The columns but for `id`, which numbers the rows. -/
inductive EventsColumn where
  | topic | itemId | receivedAt | manufacturer | serialNumber | robotId | direction | headerId | headerVersion
  | headerTimestamp | payload
  deriving DecidableEq

namespace EventsColumn

def all : List EventsColumn :=
  [topic, itemId, receivedAt, manufacturer, serialNumber, robotId, direction, headerId, headerVersion, headerTimestamp,
    payload]

/-- `005_create_vda5050_events.sql`. -/
def table : TableDef EventsColumn where
  columns := all
  column
    | headerId => { affinity := .integer }
    | headerVersion => { affinity := .text }
    | headerTimestamp => { affinity := .text }
    -- `JSON`
    | payload => { affinity := .numeric, notNull := true }
    | _ => { affinity := .text, notNull := true }
  primaryKey := []

end EventsColumn

/-- A row with its id. -/
structure EventRow where
  id : Nat
  cells : Row EventsColumn

/-- `id INTEGER PRIMARY KEY AUTOINCREMENT`: rows with increasing ids. -/
structure EventsTable where
  rows : List EventRow
  increasing : rows.Pairwise fun r r' => r.id < r'.id

namespace Vda5050EventsRepository

def empty : EventsTable := ⟨[], List.Pairwise.nil⟩

/-- The greatest id given out so far. -/
def lastId (t : EventsTable) : Nat := (t.rows.getLast?.map EventRow.id).getD 0

/-- The statement of `insert`; `now` is what `strftime('%Y-%m-%dT%H:%M:%SZ', 'now')` gives. -/
def insertStatement (now : String) (event : Vda5050Event) : InsertStatement EventsColumn.table where
  columns :=
    [.topic, .itemId, .receivedAt, .manufacturer, .serialNumber, .robotId,
      .direction, .headerId, .headerVersion, .headerTimestamp, .payload]
  values := [.parameter, .parameter, .expression (.text now)] ++ List.replicate 8 .parameter
  binds :=
    [(1, .text event.topic),
      (2, .text event.itemId),
      (3, .text event.manufacturer),
      (4, .text event.serialNumber),
      (5, .text event.robotId),
      (6, .text event.direction),
      (7, ofOption .integer event.headerId),
      (8, ofOption .text event.headerVersion),
      (9, ofOption .text event.headerTimestamp),
      (10, .text event.payload)]
  update_key := by simp [EventsColumn.table]

section

variable [Library]

/-- The columns that `findLatestByTopic` selects after `id`. -/
def selected : List EventsColumn :=
  [.topic, .itemId, .receivedAt, .manufacturer, .serialNumber,
    .robotId, .direction, .headerId, .headerVersion,
    .headerTimestamp, .payload]

/-- `getColumn(i)` of a selected row. -/
def column (r : EventRow) : Nat → Value
  | 0 => .integer (.ofNat r.id)
  | i + 1 => getColumn selected r.cells i

def fromRow (r : EventRow) : Vda5050Event where
  -- column 0
  id := r.id
  topic := (column r 1).getString
  itemId := (column r 2).getString
  receivedAt := (column r 3).getString
  manufacturer := (column r 4).getString
  serialNumber := (column r 5).getString
  robotId := (column r 6).getString
  direction := (column r 7).getString
  headerId := (column r 8).getInt64?
  headerVersion := (column r 9).getString?
  headerTimestamp := (column r 10).getString?
  payload := (column r 11).getString

/-- The event log that the rows stand for. -/
def log (t : EventsTable) : EventLog := ⟨t.rows.map fromRow, List.pairwise_map.2 t.increasing⟩

private theorem lastId_log (t : EventsTable) : (log t).lastId = lastId t := by
  unfold EventLog.lastId lastId log
  rw [List.getLast?_map, Option.map_map]
  rfl

theorem id_le_lastId {t : EventsTable} {r : EventRow} (hr : r ∈ t.rows) : r.id ≤ lastId t := by
  have hevent : fromRow r ∈ (log t).events := List.mem_map_of_mem hr
  rw [← lastId_log]
  exact EventLog.id_le_lastId hevent

/-- The table with one more row. -/
def append (t : EventsTable) (cells : Row EventsColumn) : EventsTable where
  rows := t.rows ++ [⟨lastId t + 1, cells⟩]
  increasing := by
    rw [List.pairwise_append]
    refine ⟨t.increasing, List.pairwise_singleton _ _, fun r hr r' hr' => ?_⟩
    rw [List.mem_singleton] at hr'
    rw [hr']
    exact Nat.lt_succ_of_le (id_le_lastId hr)

/-- `insert(event)` with the id it returns; `none` when the statement throws. -/
def insert (t : EventsTable) (now : String) (event : Vda5050Event) : Option (EventsTable × Nat) :=
  let statement := insertStatement now event
  if statement.accepted then some (append t statement.row, lastId t + 1) else none

/-- `topic = ?`. -/
def hasTopic (topic : String) (r : EventRow) : Bool := (r.cells .topic).getString == topic

/-- `SELECT MAX(id) FROM vda5050_events WHERE topic = ? GROUP BY item_id`. -/
def maxIdsByItem (t : EventsTable) (topic : String) : List Nat :=
  let rows := t.rows.filter (hasTopic topic)
  (rows.map fun r => (r.cells .itemId).getString).dedup.map fun item =>
    ((rows.filter fun r => (r.cells .itemId).getString == item).map EventRow.id).max?.getD 0

def findLatestByTopic (t : EventsTable) (topic : String) : List Vda5050Event :=
  (t.rows.filter fun r => hasTopic topic r && (maxIdsByItem t topic).contains r.id).map fromRow

/-! ### The event log -/

/-- The payload is bound as the text that it is. -/
private theorem payload_row {event : Vda5050Event} (h : PlainText event.payload) (now : String) :
    (insertStatement now event).row .payload = .text event.payload := store_numeric h

private theorem accepted_insertStatement {event : Vda5050Event} (h : PlainText event.payload) (now : String) :
    (insertStatement now event).accepted = true := by
  refine List.all_eq_true.2 fun c _ => ?_
  cases c with
  | payload =>
    rw [payload_row h]
    rfl
  | _ => rfl

private theorem fromRow_row {event : Vda5050Event} (h : PlainText event.payload) (now : String) (id : Nat) :
    fromRow ⟨id, (insertStatement now event).row⟩ = { event with id := id, receivedAt := now } := by
  refine Vda5050Event.ext rfl rfl rfl rfl rfl rfl rfl rfl (getInt64?_ofOption _) (getString?_ofOption _)
    (getString?_ofOption _) ?_
  exact congrArg Value.getString (payload_row h now)

/-- `insert` does to the event log what the insertion of the event does, and returns the id of the event. -/
theorem insert_eq {event : Vda5050Event} (h : PlainText event.payload) (t : EventsTable) (now : String) :
    ∃ t', insert t now event = some (t', lastId t + 1) ∧ log t' = (log t).insert now event := by
  refine ⟨append t (insertStatement now event).row, if_pos (accepted_insertStatement h now), ?_⟩
  unfold log append EventLog.insert
  rw [EventLog.mk.injEq, List.map_append, List.map_singleton, fromRow_row h, ← lastId_log]
  rfl

private theorem maxIdsByItem_eq (t : EventsTable) (topic : String) :
    maxIdsByItem t topic = (log t).maxIdsByItem topic := by
  have hgroup : ∀ item, (((t.rows.filter (hasTopic topic)).filter fun r =>
      (r.cells .itemId).getString == item).map EventRow.id) = ((log t).group topic item).map Vda5050Event.id := by
    intro item
    unfold EventLog.group log
    rw [List.filter_filter, List.filter_map, List.map_map]
    refine congrArg _ (List.filter_congr fun r _ => ?_)
    exact Bool.and_comm _ _
  have hitems : ((t.rows.filter (hasTopic topic)).map fun r => (r.cells .itemId).getString) =
      ((log t).events.filter (·.topic == topic)).map (·.itemId) := by
    unfold log
    rw [List.filter_map, List.map_map]
    rfl
  unfold maxIdsByItem EventLog.maxIdsByItem
  simp only [hitems, hgroup]

/-- The query returns what the query on the event log does. -/
theorem findLatestByTopic_eq (t : EventsTable) (topic : String) :
    findLatestByTopic t topic = (log t).findLatestByTopic topic := by
  unfold findLatestByTopic EventLog.findLatestByTopic log
  rw [maxIdsByItem_eq, List.filter_map]
  rfl

/-! ### Sequences of calls -/

/-- `insert` is called with the events one after another, at the times given; the table and the ids returned. -/
def insertAll (t : EventsTable) : List (String × Vda5050Event) → Option (EventsTable × List Nat)
  | [] => some (t, [])
  | (now, event) :: calls => do
    let (t, id) ← insert t now event
    let (t, ids) ← insertAll t calls
    return (t, id :: ids)

/-- The event of a call as it is read back. -/
def stored (call : String × Vda5050Event) (id : Nat) : Vda5050Event := { call.2 with id := id, receivedAt := call.1 }

omit [Library] in
/-- Overwrites the entry of the event's topic and item. -/
def put (m : String → String → Option Vda5050Event) (e : Vda5050Event) : String → String → Option Vda5050Event :=
  Function.update m e.topic (Function.update (m e.topic) e.itemId (some e))

omit [Library] in
/-- The map that the calls leave, each of them overwriting one entry. -/
def latest (es : List Vda5050Event) : String → String → Option Vda5050Event := es.foldl put fun _ _ => none

omit [Library] in
private theorem put_apply (m : String → String → Option Vda5050Event) (e : Vda5050Event) (topic item : String) :
    put m e topic item = if e.topic = topic ∧ e.itemId = item then some e else m topic item := by
  unfold put
  by_cases ht : topic = e.topic
  · subst ht
    by_cases hi : item = e.itemId
    · subst hi
      simp
    · simp [Function.update_of_ne hi, Ne.symm hi]
  · simp [Function.update_of_ne ht, Ne.symm ht]

omit [Library] in
private theorem newest_insert_eq_put (log : EventLog) (now : String) (event : Vda5050Event) :
    (log.insert now event).newest = put log.newest { event with id := log.lastId + 1, receivedAt := now } := by
  funext topic item
  rw [EventLog.newest_insert, put_apply]

/-- The rows are the entries of the map, each once. -/
structure Entries (rows : List Vda5050Event) (m : String → Option Vda5050Event) : Prop where
  once : (rows.map Vda5050Event.itemId).Nodup
  entry : ∀ item e, e ∈ rows ∧ e.itemId = item ↔ m item = some e

omit [Library] in
/-- In whatever order the rows come. -/
private theorem entries_findLatestByTopic {log : EventLog} {topic : String} {rows : List Vda5050Event}
    (h : rows.Perm (log.findLatestByTopic topic)) : Entries rows (log.newest topic) where
  once := by
    refine (h.nodup_iff.2 (log.nodup_findLatestByTopic topic)).map_on fun e he e' he' hitem => ?_
    rw [h.mem_iff, EventLog.mem_findLatestByTopic] at he he'
    rw [hitem, he'] at he
    exact (Option.some.inj he).symm
  entry item e := by
    rw [h.mem_iff, EventLog.mem_findLatestByTopic]
    constructor
    · rintro ⟨he, rfl⟩
      exact he
    · intro he
      obtain ⟨-, -, rfl⟩ := EventLog.mem_of_newest he
      exact ⟨he, rfl⟩

/-- The newest events of the log are the map that the calls leave. -/
theorem newest_insertAll {calls : List (String × Vda5050Event)} (h : ∀ call ∈ calls, PlainText call.2.payload)
    (t : EventsTable) : ∃ t' ids, insertAll t calls = some (t', ids) ∧ ids.length = calls.length ∧
      (log t').newest = (List.zipWith stored calls ids).foldl put (log t).newest := by
  induction calls generalizing t with
  | nil => exact ⟨t, [], rfl, rfl, rfl⟩
  | cons call calls ih =>
    obtain ⟨now, event⟩ := call
    obtain ⟨t₁, hinsert, hlog⟩ := insert_eq (h (now, event) List.mem_cons_self) t now
    obtain ⟨t', ids, hall, hlength, hnewest⟩ := ih (fun call hcall => h call (List.mem_cons_of_mem _ hcall)) t₁
    refine ⟨t', (lastId t + 1) :: ids, ?_, congrArg Nat.succ hlength, ?_⟩
    · rw [insertAll, hinsert]
      simp [hall]
    · rw [hnewest, hlog, newest_insert_eq_put, lastId_log]
      rfl

/-- After any calls with payloads that are not read as numbers, in whatever order the rows come, the query for a topic
returns the entries of the map that the calls leave, and one more call overwrites the entry of its topic and item and
no other. -/
theorem last_write_wins {calls : List (String × Vda5050Event)} (h : ∀ call ∈ calls, PlainText call.2.payload) :
    ∃ t ids, insertAll empty calls = some (t, ids) ∧ ids.length = calls.length ∧
      (∀ topic rows, rows.Perm (findLatestByTopic t topic) →
        Entries rows (latest (List.zipWith stored calls ids) topic)) ∧
      ∀ now event, PlainText event.payload → ∃ t' id, insert t now event = some (t', id) ∧
        ∀ topic rows, rows.Perm (findLatestByTopic t' topic) →
          Entries rows (put (latest (List.zipWith stored calls ids)) (stored (now, event) id) topic) := by
  obtain ⟨t, ids, hall, hlength, hnewest⟩ := newest_insertAll h empty
  have hlatest : (log t).newest = latest (List.zipWith stored calls ids) := hnewest
  refine ⟨t, ids, hall, hlength, fun topic rows hrows => ?_, fun now event hevent => ?_⟩
  · rw [findLatestByTopic_eq] at hrows
    rw [← hlatest]
    exact entries_findLatestByTopic hrows
  · obtain ⟨t', hinsert, hlog⟩ := insert_eq hevent t now
    refine ⟨t', lastId t + 1, hinsert, fun topic rows hrows => ?_⟩
    have hput : (log t').newest = put (log t).newest (stored (now, event) (lastId t + 1)) := by
      rw [hlog, newest_insert_eq_put, lastId_log]
      rfl
    rw [findLatestByTopic_eq] at hrows
    rw [← hlatest, ← hput]
    exact entries_findLatestByTopic hrows

/-- A connection event without the fields of the header. -/
def connectionEvent : Vda5050Event where
  id := 0
  topic := "connection"
  itemId := "acme.7"
  receivedAt := ""
  manufacturer := "acme"
  serialNumber := "7"
  robotId := "acme.7"
  direction := "uplink"
  headerId := none
  headerVersion := none
  headerTimestamp := none
  payload := "\x7b\x7d"

/-- The robot again with a header, another robot, and the robot under another topic. -/
def connectionCalls : List (String × Vda5050Event) :=
  [("2026-01-01T00:00:00Z", connectionEvent),
    ("2026-01-01T00:00:05Z", { connectionEvent with
      headerId := some 1
      headerVersion := some "3.0.0"
      headerTimestamp := some "2026-01-01T00:00:04Z"
      payload := "\x7b\"connectionState\":\"ONLINE\"\x7d" }),
    ("2026-01-01T00:00:06Z", { connectionEvent with itemId := "acme.8", serialNumber := "8", robotId := "acme.8" }),
    ("2026-01-01T00:00:07Z", { connectionEvent with topic := "factsheet" })]

omit [Library] in
/-- The second event of the robot replaces the first, and is the one that is found. -/
theorem last_write_wins_connection :
    letI := Library.ofDigits
    ∃ t, insertAll empty connectionCalls = some (t, [1, 2, 3, 4]) ∧
      (∀ topic rows, rows.Perm (findLatestByTopic t topic) →
        Entries rows (latest (List.zipWith stored connectionCalls [1, 2, 3, 4]) topic)) ∧
      (findLatestByTopic t "connection").map (fun e => (e.itemId, e.id, e.headerVersion)) =
        [("acme.7", 2, some "3.0.0"), ("acme.8", 3, none)] := by
  let lib := Library.ofDigits
  have hplain : ∀ call ∈ connectionCalls, PlainText call.2.payload := by
    intro call hcall
    simp only [connectionCalls, List.mem_cons, List.not_mem_nil, or_false] at hcall
    rcases hcall with rfl | rfl | rfl | rfl <;> exact plainText_of_bracketed (.inl rfl)
  obtain ⟨t, ids, hall, -, hentries, -⟩ := last_write_wins hplain
  have hids : insertAll empty connectionCalls = some (_, [1, 2, 3, 4]) := rfl
  obtain ⟨rfl, rfl⟩ := Prod.mk.inj (Option.some.inj (hall.symm.trans hids))
  exact ⟨_, hids, hentries, rfl⟩

/-- An event whose payload is a number. -/
def numberEvent : Vda5050Event := { connectionEvent with payload := "007" }

omit [Library] in
/-- The column has the type `JSON` and with it the affinity `NUMERIC`. -/
private theorem payload_numberEvent (now : String) :
    letI := Library.ofDigits
    (insertStatement now numberEvent).row .payload = .integer 7 := by rfl

omit [Library] in
/-- A payload that is a number comes back as SQLite prints the number. -/
theorem not_last_write_wins_of_number :
    ¬ ∀ [Library] (calls : List (String × Vda5050Event)), ∃ t ids, insertAll empty calls = some (t, ids) ∧
      ∀ topic rows, rows.Perm (findLatestByTopic t topic) →
        Entries rows (latest (List.zipWith stored calls ids) topic) := by
  intro h
  let lib := Library.ofDigits
  obtain ⟨t, ids, hall, hentries⟩ := h [("2026-01-01T00:00:00Z", numberEvent)]
  have haccepted : (insertStatement "2026-01-01T00:00:00Z" numberEvent).accepted = true := by
    refine List.all_eq_true.2 fun c _ => ?_
    cases c with
    | payload =>
      rw [payload_numberEvent]
      rfl
    | _ => rfl
  have hids : insertAll empty [("2026-01-01T00:00:00Z", numberEvent)] =
      some (append empty (insertStatement "2026-01-01T00:00:00Z" numberEvent).row, [1]) := by
    rw [insertAll, insert, if_pos haccepted]
    rfl
  obtain ⟨rfl, rfl⟩ := Prod.mk.inj (Option.some.inj (hall.symm.trans hids))
  have hentry := (hentries "connection" _ (.refl _)).entry "acme.7" (stored ("2026-01-01T00:00:00Z", numberEvent) 1)
  have hmem := List.mem_map_of_mem (f := Vda5050Event.payload) (hentry.2 rfl).1
  have hpayloads : (findLatestByTopic (append empty (insertStatement "2026-01-01T00:00:00Z" numberEvent).row)
      "connection").map Vda5050Event.payload = ["7"] := by rfl
  rw [hpayloads] at hmem
  exact absurd (List.mem_singleton.1 hmem) (by decide)

end

end Vda5050EventsRepository

end SyriusOrbit.Db

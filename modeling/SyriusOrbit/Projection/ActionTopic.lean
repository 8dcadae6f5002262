import SyriusOrbit.Projection.Collections

/-!
# Instant actions and the topic they are projected from

The recorder files instant actions under the topic `instantActions`, and the projector asks for the topic
`instant_actions`.  A cycle over a recorded log therefore writes to `instant_actions` only what responses say, and an
action is in the table after the cycle exactly if something else has put it there
(`reachesReadModel_iff_alreadyThere`).
-/

namespace SyriusOrbit.Projection

open JsonFormat Vda5050 Db

variable [JsonLibrary]

/-- No event is recorded under the topic of the projector. -/
theorem topic_ne_of_mem_recordAll {clock : Nat → String} {ds : List Dispatched} {e : Vda5050Event}
    (he : e ∈ (recordAll clock .empty ds).events) : e.topic ≠ InstantActionsProjector.topic := by
  intro htopic
  rcases mem_recordAll he with hmem | ⟨d, -, e₀, he₀, id, now, rfl⟩
  · exact absurd hmem List.not_mem_nil
  · have ht : recordedTopic d.type = InstantActionsProjector.topic :=
      (topic_of_mem_recordedEvents he₀).1.symm.trans htopic
    cases hd : d.type <;> simp [hd, recordedTopic, InstantActionsProjector.topic] at ht

/-- The query for instant actions finds nothing in a recorded log. -/
theorem rowsOf_instantActions {clock : Nat → String} {ds : List Dispatched}
    {rowsOf : String → List Vda5050Event} (hq : IsQueryResult (recordAll clock .empty ds) rowsOf) :
    rowsOf InstantActionsProjector.topic = [] := by
  refine List.eq_nil_iff_forall_not_mem.2 fun e he => ?_
  have hnewest := EventLog.mem_findLatestByTopic.1 ((hq _).mem_iff.1 he)
  obtain ⟨hmem, htopic, -⟩ := EventLog.mem_of_newest hnewest
  exact topic_ne_of_mem_recordAll hmem htopic

/-- A cycle over a recorded log executes the statements of responses and no others on `instant_actions`. -/
theorem instantActionsStatements_recordAll {clock : Nat → String} {ds : List Dispatched}
    {rowsOf : String → List Vda5050Event} (hq : IsQueryResult (recordAll clock .empty ds) rowsOf) :
    instantActionsStatements rowsOf = (rowsOf ResponsesProjector.topic).flatMap ResponsesProjector.statements := by
  rw [instantActionsStatements, rowsOf_instantActions hq]
  rfl

/-- The row of an action before the cycle, or else the placeholder that the first response to it inserts. -/
def rowBefore (rowsOf : String → List Vda5050Event) (db : ReadModel) (k : String) : Option InstantAction :=
  (db.instantActions.find? k).or
    ((((rowsOf ResponsesProjector.topic).flatMap ResponsesProjector.statements).find?
      fun s => decide (s.row.actionId = k)).map InstantActionsStatement.row)

private theorem actionColumns_cycle {clock : Nat → String} {ds : List Dispatched} {rowsOf : String → List Vda5050Event}
    (hq : IsQueryResult (recordAll clock .empty ds) rowsOf) (db : ReadModel) (k : String) :
    ((cycle rowsOf db).instantActions.find? k).map InstantAction.actionColumns =
      (rowBefore rowsOf db k).map InstantAction.actionColumns := by
  rw [cycle_instantActions, instantActionsStatements_recordAll hq, Sql.Table.find?_execAll, List.filter_map,
    Sql.map_runRow_of_keeps, rowBefore, List.head?_map, List.head?_filter, Option.map_map]
  · rfl
  · intro u hu r
    obtain ⟨s, hs, rfl⟩ := List.mem_map.1 hu
    obtain ⟨e, -, hs⟩ := List.mem_flatMap.1 (List.mem_filter.1 hs).1
    obtain ⟨response, rfl⟩ := ResponsesProjector.eq_of_mem_statements hs
    rfl

/-- The columns are those of the action as it was sent, the descriptor left out. -/
def SameAction (c v : ActionColumns) : Prop :=
  c.actionType = v.actionType ∧ c.blockingType = v.blockingType ∧ c.actionParameters = v.actionParameters ∧
    c.robotId = v.robotId

/-- Each action of a recorded message has a row after a cycle, and with the rows in the order of their ids it has the
columns of the newest message with the action. -/
structure ReachesReadModel (clock : Nat → String) (ds : List Dispatched) (db : ReadModel) : Prop where
  row : ∀ rowsOf, IsQueryResult (recordAll clock .empty ds) rowsOf → ∀ k d,
    Feed.newest Dispatched.actions ds k = some d → ∃ r, (cycle rowsOf db).instantActions.find? k = some r
  columns : ∀ k d v, Feed.newest Dispatched.actions ds k = some d → Feed.lastValue k d.actions = some v →
    ∃ r, (cycle (recordAll clock .empty ds).findLatestByTopic db).instantActions.find? k = some r ∧
      SameAction r.actionColumns v

/-- The table holds each action as it was sent already, or a response puts a placeholder there that looks the same. -/
def AlreadyThere (clock : Nat → String) (ds : List Dispatched) (db : ReadModel) : Prop :=
  ∀ k d v, Feed.newest Dispatched.actions ds k = some d → Feed.lastValue k d.actions = some v →
    ∃ r, rowBefore (recordAll clock .empty ds).findLatestByTopic db k = some r ∧ SameAction r.actionColumns v

private theorem exists_row_iff {clock : Nat → String} {ds : List Dispatched} {rowsOf : String → List Vda5050Event}
    (hq : IsQueryResult (recordAll clock .empty ds) rowsOf) (db : ReadModel) (k : String)
    (p : ActionColumns → Prop) :
    (∃ r, (cycle rowsOf db).instantActions.find? k = some r ∧ p r.actionColumns) ↔
      ∃ r, rowBefore rowsOf db k = some r ∧ p r.actionColumns := by
  have h := actionColumns_cycle hq db k
  cases hafter : (cycle rowsOf db).instantActions.find? k <;> cases hbefore : rowBefore rowsOf db k <;>
    simp_all

/-- In another order of the rows there is a row before if and only if there is one in this order. -/
private theorem isSome_rowBefore {log : EventLog} {rowsOf rowsOf' : String → List Vda5050Event}
    (hq : IsQueryResult log rowsOf) (hq' : IsQueryResult log rowsOf') {db : ReadModel} {k : String}
    (h : (rowBefore rowsOf db k).isSome = true) : (rowBefore rowsOf' db k).isSome = true := by
  have hperm : (rowsOf ResponsesProjector.topic).Perm (rowsOf' ResponsesProjector.topic) :=
    (hq _).trans (hq' _).symm
  simp only [rowBefore, Option.isSome_or, Option.isSome_map, Bool.or_eq_true, List.find?_isSome,
    List.mem_flatMap] at h ⊢
  rcases h with h | ⟨s, ⟨e, he, hs⟩, hkey⟩
  · exact .inl h
  · exact .inr ⟨s, ⟨e, hperm.mem_iff.1 he, hs⟩, hkey⟩

/-- Instant actions reach the read model only where they are there already: their rows are never queried. -/
theorem reachesReadModel_iff_alreadyThere (clock : Nat → String) (ds : List Dispatched) (db : ReadModel) :
    ReachesReadModel clock ds db ↔ AlreadyThere clock ds db := by
  have hid : IsQueryResult (recordAll clock .empty ds) (recordAll clock .empty ds).findLatestByTopic :=
    fun _ => List.Perm.refl _
  constructor
  · intro h k d v hd hv
    exact (exists_row_iff hid db k fun c => SameAction c v).1 (h.columns k d v hd hv)
  · intro h
    refine ⟨fun rowsOf hq k d hd => ?_, fun k d v hd hv => ?_⟩
    · obtain ⟨-, v, hv⟩ := Feed.mem_of_newest hd
      obtain ⟨r, hr, -⟩ := h k d v hd hv
      have hsome := isSome_rowBefore hid hq (by rw [hr]; rfl : (rowBefore _ db k).isSome = true)
      obtain ⟨r', hr'⟩ := Option.isSome_iff_exists.1 hsome
      obtain ⟨r'', hr'', -⟩ := (exists_row_iff hq db k fun _ => True).2 ⟨r', hr', trivial⟩
      exact ⟨r'', hr''⟩
    · exact (exists_row_iff hid db k fun c => SameAction c v).2 (h k d v hd hv)

omit [JsonLibrary] in
/-- One recorded message with one action, and an empty table: there is no row for the action. -/
theorem not_reachesReadModel_of_empty :
    ¬ ∀ [JsonLibrary] (clock : Nat → String) (ds : List Dispatched) (db : ReadModel),
      (∀ d ∈ ds, ParsesBack (json d.message)) → ReachesReadModel clock ds db := by
  intro h
  let lib := JsonLibrary.ofText
    ("\x7b\"actions\":[\x7b\"actionDescriptor\":null,\"actionId\":\"A\",\"actionParameters\":null," ++
      "\"actionType\":\"startPause\",\"blockingType\":\"HARD\",\"retriable\":null\x7d],\"headerId\":1," ++
      "\"manufacturer\":\"\",\"serialNumber\":\"\",\"timestamp\":\"\",\"version\":\"\"\x7d")
    (.obj [("headerId", .int 1), ("timestamp", .str ""), ("version", .str ""), ("manufacturer", .str ""),
      ("serialNumber", .str ""), ("actions", .arr [.obj [("actionType", .str "startPause"), ("actionId", .str "A"),
        ("actionDescriptor", .null), ("blockingType", .str "HARD"), ("actionParameters", .null),
        ("retriable", .null)]])])
  let message : InstantActions := ⟨1, "", "", "", "", [⟨"startPause", "A", none, .hard, none, none⟩]⟩
  let d : Dispatched := ⟨⟨"uagv", "v3", "acme", "7"⟩, .instantActions, message⟩
  have hparse : ∀ d' ∈ [d], ParsesBack (json d'.message) := by
    intro d' hd'
    rw [List.mem_singleton.1 hd']
    exact parsesBack_json_ofText _ _ _ rfl
  have hrow := (h (fun _ => "2026-01-01T00:00:00Z") [d] .empty hparse).row _ (fun _ => List.Perm.refl _) "A" d rfl
  obtain ⟨r, hr⟩ := hrow
  cases hr

end SyriusOrbit.Projection

import SyriusOrbit.Projection.Snapshot

/-!
# Instant actions and responses after a cycle

Messages of these topics are recorded once for each element of their list, and each row carries the whole message.
A row returned for one element therefore writes all elements of its message, also those for which there is a newer
message.  The columns are those of the newest message in every order of the rows if and only if the messages that are
newest for some element agree on the elements they share (`projectsNewest_iff_agree`).
-/

namespace SyriusOrbit

open JsonFormat Vda5050 Db

variable [JsonLibrary]

/-! ### What a message says about its elements -/

namespace Projection.InstantActionsProjector

/-- The columns of an action that was sent to a robot. -/
def columns (robot : String) (action : Action) : ActionColumns where
  actionType := action.actionType
  actionDescriptor := nonEmpty (action.actionDescriptor.getD "")
  blockingType := JsonEnum.name action.blockingType
  actionParameters := nonEmpty (paramsJson action)
  robotId := robot

end Projection.InstantActionsProjector

open Projection

omit [JsonLibrary] in
/-- The grants of a message, under the requests they are for. -/
def Dispatched.grants : Dispatched → List (String × String)
  | ⟨_, .responses, (m : Responses)⟩ => m.responses.map fun r => (r.requestId, JsonEnum.name r.grantType)
  | _ => []

/-- The columns of the actions of a message, under their ids. -/
def Dispatched.actions : Dispatched → List (String × ActionColumns)
  | ⟨context, .instantActions, (m : InstantActions)⟩ =>
    m.actions.map fun a => (a.actionId, InstantActionsProjector.columns (robotId context) a)
  | _ => []

theorem exists_event_iff_grant (d : Dispatched) (k : String) :
    (∃ e ∈ d.events, e.topic = recordedTopic .responses ∧ e.itemId = k) ↔
      ∃ v, Feed.lastValue k d.grants = some v := by
  rw [Feed.exists_lastValue_iff]
  obtain ⟨context, t, m⟩ := d
  constructor
  · rintro ⟨e, he, htopic, rfl⟩
    rw [(topic_of_mem_recordedEvents he).1] at htopic
    cases t with
    | responses =>
      obtain ⟨r, hr, rfl⟩ := List.mem_map.1 he
      exact ⟨_, List.mem_map.2 ⟨r, hr, rfl⟩⟩
    | _ => simp [recordedTopic] at htopic
  · rintro ⟨v, hv⟩
    cases t with
    | responses =>
      obtain ⟨r, hr, hkey⟩ := List.mem_map.1 hv
      exact ⟨_, List.mem_map.2 ⟨r, hr, rfl⟩, rfl, congrArg Prod.fst hkey⟩
    | _ => simp [Dispatched.grants] at hv

private theorem exists_event_iff_action (d : Dispatched) (k : String) :
    (∃ e ∈ d.events, e.topic = recordedTopic .instantActions ∧ e.itemId = k) ↔
      ∃ v, Feed.lastValue k d.actions = some v := by
  rw [Feed.exists_lastValue_iff]
  obtain ⟨context, t, m⟩ := d
  constructor
  · rintro ⟨e, he, htopic, rfl⟩
    rw [(topic_of_mem_recordedEvents he).1] at htopic
    cases t with
    | instantActions =>
      obtain ⟨a, ha, rfl⟩ := List.mem_map.1 he
      exact ⟨_, List.mem_map.2 ⟨a, ha, rfl⟩⟩
    | _ => simp [recordedTopic] at htopic
  · rintro ⟨v, hv⟩
    cases t with
    | instantActions =>
      obtain ⟨a, ha, hkey⟩ := List.mem_map.1 hv
      exact ⟨_, List.mem_map.2 ⟨a, ha, rfl⟩, rfl, congrArg Prod.fst hkey⟩
    | _ => simp [Dispatched.actions] at hv

namespace Projection

/-! ### What a row assigns -/

/-- The values that the statements of an event give to a column, under the keys of their rows. -/
def assigns {γ : Type} (statements : Vda5050Event → List InstantActionsStatement)
    (effect : InstantActionsStatement → Option γ) (e : Vda5050Event) : List (String × γ) :=
  (statements e).filterMap fun s => (effect s).map fun v => (s.row.actionId, v)

theorem assigns_responses {d : Dispatched} (hparse : ParsesBack (json d.message)) {e : Vda5050Event}
    (he : RecordedFor d e) (htopic : e.topic = recordedTopic .responses) :
    assigns ResponsesProjector.statements InstantActionsStatement.actionStatus? e = d.grants := by
  obtain ⟨ht, -, hdecode⟩ := decode_of_recordedFor hparse he
  obtain ⟨context, t, m⟩ := d
  rw [ht] at htopic
  cases t with
  | responses =>
    have hstm : ResponsesProjector.statements e =
        (m : Responses).responses.map (ResponsesProjector.upsertFromResponse e) := onDecoded_of_decode hdecode
    rw [assigns, hstm, List.filterMap_map]
    exact congrFun (List.filterMap_eq_map (f := fun r : Response => (r.requestId, JsonEnum.name r.grantType))) _
  | _ => simp [recordedTopic] at htopic

private theorem assigns_instantActions {d : Dispatched} (hparse : ParsesBack (json d.message)) {e : Vda5050Event}
    (he : RecordedFor d e) (htopic : e.topic = recordedTopic .instantActions) :
    assigns InstantActionsProjector.statements InstantActionsStatement.actionColumns? e = d.actions := by
  obtain ⟨ht, hrobot, hdecode⟩ := decode_of_recordedFor hparse he
  obtain ⟨context, t, m⟩ := d
  rw [ht] at htopic
  cases t with
  | instantActions =>
    have hstm : InstantActionsProjector.statements e =
        (m : InstantActions).actions.map (InstantActionsProjector.upsertFromAction e) :=
      onDecoded_of_decode hdecode
    rw [assigns, hstm, List.filterMap_map, Dispatched.actions, ← hrobot]
    exact congrFun (List.filterMap_eq_map (f := fun a : Action =>
      (a.actionId, InstantActionsProjector.columns e.robotId a))) _
  | _ => simp [recordedTopic] at htopic

/-- The rows that the query returns for a topic are a snapshot of the recorded messages. -/
private theorem isSnapshot_of_query {γ : Type} {topic : String} {items : Dispatched → List (String × γ)}
    (hitems : ∀ d k, (∃ e ∈ d.events, e.topic = topic ∧ e.itemId = k) ↔ ∃ v, Feed.lastValue k (items d) = some v)
    {assigned : Vda5050Event → List (String × γ)} (clock : Nat → String) {ds : List Dispatched}
    (hassigned : ∀ d ∈ ds, ∀ e, RecordedFor d e → e.topic = topic → assigned e = items d)
    {rows : List Vda5050Event} (hrows : rows.Perm ((recordAll clock .empty ds).findLatestByTopic topic)) :
    Feed.IsSnapshot items ds assigned rows where
  newest_of_mem e he := by
    have hnewest := EventLog.mem_findLatestByTopic.1 (hrows.mem_iff.1 he)
    obtain ⟨d, hd, hfor⟩ := (newest_recordAll hitems clock ds e.itemId).2 e hnewest
    have hmem := (Feed.mem_of_newest hd).1
    exact ⟨e.itemId, d, hd, hassigned d hmem e hfor (EventLog.mem_of_newest hnewest).2.1⟩
  mem_of_newest k d hd := by
    obtain ⟨e, he, hfor⟩ := (newest_recordAll hitems clock ds k).1 d hd
    obtain ⟨-, htopic, hitem⟩ := EventLog.mem_of_newest he
    have hmem := (Feed.mem_of_newest hd).1
    refine ⟨e, hrows.mem_iff.2 (EventLog.mem_findLatestByTopic.2 ?_), hassigned d hmem e hfor htopic⟩
    rw [hitem]
    exact he

/-! ### The rows -/

omit [JsonLibrary] in
/-- The row of a key that is assigned a value last has it, when nothing else gives a value to the column. -/
theorem exists_row_of_lastValue {γ : Type} {c : InstantAction → γ} {d : γ}
    {statements : Vda5050Event → List InstantActionsStatement} {effect : InstantActionsStatement → Option γ}
    (before : List InstantActionsStatement) {rows : List Vda5050Event}
    (hbefore : ∀ s ∈ before, effect s = none)
    (hw : ∀ s ∈ before ++ rows.flatMap statements, s.sql.Writes c d (effect s)) (t : Sql.Table InstantAction.actionId)
    {k : String} {v : γ} (hv : Feed.lastValue k (rows.flatMap (assigns statements effect)) = some v) :
    ∃ r, (t.execAll ((before ++ rows.flatMap statements).map InstantActionsStatement.sql)).find? k = some r ∧
      c r = v := by
  have hassigned : (before ++ rows.flatMap statements).filterMap
      (fun s => (effect s).map fun v => (s.sql.row.actionId, v)) = rows.flatMap (assigns statements effect) := by
    rw [List.filterMap_append, List.filterMap_eq_nil_iff.2 fun s hs => by rw [hbefore s hs]; rfl, List.nil_append,
      List.filterMap_flatMap]
    rfl
  have hmem := Feed.mem_of_lastValue hv
  rw [← hassigned, List.mem_filterMap] at hmem
  obtain ⟨s, hs, hkey⟩ := hmem
  have hk : s.row.actionId = k := by
    cases he : effect s with
    | none => simp [he] at hkey
    | some v' =>
      rw [he] at hkey
      exact congrArg Prod.fst (Option.some.inj hkey)
  obtain ⟨r, hr⟩ := Sql.Table.exists_find?_execAll (List.mem_map_of_mem hs) t
  have hr' : (t.execAll ((before ++ rows.flatMap statements).map InstantActionsStatement.sql)).find? k = some r := by
    rw [← hk]
    exact hr
  refine ⟨r, hr', ?_⟩
  rw [Sql.Table.column_execAll hw hr', hassigned, hv]
  rfl

omit [JsonLibrary] in
/-- Whether each element has the column of its newest message, in every order of the rows, after work on the table
in which the rows of one topic alone give values to the column. -/
private theorem forall_query_iff_agree {γ : Type} {topic : String} {log : EventLog} {ds : List Dispatched}
    {items : Dispatched → List (String × γ)} {assigned : Vda5050Event → List (String × γ)} {c : InstantAction → γ}
    {table : (String → List Vda5050Event) → Sql.Table InstantAction.actionId}
    (hs : Feed.IsSnapshot items ds assigned (log.findLatestByTopic topic))
    (hc : ∀ rowsOf, IsQueryResult log rowsOf → ∀ k v, Feed.lastValue k ((rowsOf topic).flatMap assigned) = some v →
      ∃ r, (table rowsOf).find? k = some r ∧ c r = v) :
    (∀ rowsOf, IsQueryResult log rowsOf → ∀ k d, Feed.newest items ds k = some d →
      ∃ r, (table rowsOf).find? k = some r ∧ Feed.lastValue k (items d) = some (c r)) ↔ Feed.Agree items ds := by
  rw [← Feed.newestWins_iff_agree hs]
  constructor
  · intro h rows hrows k d hd
    -- the same query with the rows of the topic in the given order
    have hq : IsQueryResult log fun t => if t = topic then rows else log.findLatestByTopic t := by
      intro t
      by_cases ht : t = topic
      · simpa [ht] using hrows
      · simp [ht]
    obtain ⟨r, hr, hlast⟩ := h _ hq k d hd
    obtain ⟨e, he, hassigned⟩ := hs.mem_of_newest k d hd
    have hmem : (k, c r) ∈ rows.flatMap assigned := by
      refine List.mem_flatMap.2 ⟨e, hrows.mem_iff.2 he, ?_⟩
      rw [hassigned]
      exact Feed.mem_of_lastValue hlast
    obtain ⟨v, hv⟩ := Feed.exists_lastValue hmem
    obtain ⟨r', hr', hv'⟩ := hc _ hq k v (by simpa using hv)
    rw [hr] at hr'
    rw [hv, hlast, ← hv', Option.some.inj hr']
  · intro h rowsOf hq k d hd
    obtain ⟨-, v, hv⟩ := Feed.mem_of_newest hd
    obtain ⟨r, hr, hcr⟩ := hc rowsOf hq k v ((h (rowsOf topic) (hq topic) k d hd).trans hv)
    exact ⟨r, hr, by rw [hv, hcr]⟩

/-- The newest message wins for responses and for instant actions, in whatever order the queries return their rows.
Actions are projected from the rows they are recorded in. -/
structure ProjectsNewest (clock : Nat → String) (ds : List Dispatched) (db : ReadModel) : Prop where
  responses : ∀ rowsOf, IsQueryResult (recordAll clock .empty ds) rowsOf → ∀ k d,
    Feed.newest Dispatched.grants ds k = some d → ∃ r, (cycle rowsOf db).instantActions.find? k = some r ∧
      Feed.lastValue k d.grants = some r.actionStatus
  instantActions : ∀ rowsOf, IsQueryResult (recordAll clock .empty ds) rowsOf → ∀ k d,
    Feed.newest Dispatched.actions ds k = some d →
      ∃ r, (projectTopic rowsOf db
        ⟨recordedTopic .instantActions, InstantActionsProjector.project⟩).instantActions.find? k = some r ∧
          Feed.lastValue k d.actions = some r.actionColumns

private theorem responses_iff_agree (clock : Nat → String) {ds : List Dispatched}
    (hparse : ∀ d ∈ ds, ParsesBack (json d.message)) (db : ReadModel) :
    (∀ rowsOf, IsQueryResult (recordAll clock .empty ds) rowsOf → ∀ k d,
      Feed.newest Dispatched.grants ds k = some d → ∃ r, (cycle rowsOf db).instantActions.find? k = some r ∧
        Feed.lastValue k d.grants = some r.actionStatus) ↔ Feed.Agree Dispatched.grants ds := by
  refine forall_query_iff_agree (isSnapshot_of_query exists_event_iff_grant clock
    (fun d hd e he ht => assigns_responses (hparse d hd) he ht) (List.Perm.refl _)) fun rowsOf _ k v hv => ?_
  rw [cycle_instantActions]
  refine exists_row_of_lastValue _ (fun s hs => ?_) (fun s _ => s.writes_actionStatus) _ hv
  -- instant actions leave the status alone
  obtain ⟨e, -, hs⟩ := List.mem_flatMap.1 hs
  obtain ⟨a, rfl⟩ := InstantActionsProjector.eq_of_mem_statements hs
  rfl

private theorem instantActions_iff_agree (clock : Nat → String) {ds : List Dispatched}
    (hparse : ∀ d ∈ ds, ParsesBack (json d.message)) (db : ReadModel) :
    (∀ rowsOf, IsQueryResult (recordAll clock .empty ds) rowsOf → ∀ k d,
      Feed.newest Dispatched.actions ds k = some d →
        ∃ r, (projectTopic rowsOf db
          ⟨recordedTopic .instantActions, InstantActionsProjector.project⟩).instantActions.find? k = some r ∧
            Feed.lastValue k d.actions = some r.actionColumns) ↔ Feed.Agree Dispatched.actions ds := by
  refine forall_query_iff_agree (isSnapshot_of_query exists_event_iff_action clock
    (fun d hd e he ht => assigns_instantActions (hparse d hd) he ht) (List.Perm.refl _)) fun rowsOf _ k v hv => ?_
  rw [projectTopic_instantActions]
  refine exists_row_of_lastValue [] (by simp) (fun s hs => s.writes_actionColumns ?_ v) _ hv
  obtain ⟨e, -, hs⟩ := List.mem_flatMap.1 hs
  obtain ⟨a, rfl⟩ := InstantActionsProjector.eq_of_mem_statements hs
  rfl

/-- The newest message wins in every order of the rows if and only if no message that is newest for some request or
action says anything else than the newest message about another one. -/
theorem projectsNewest_iff_agree (clock : Nat → String) {ds : List Dispatched}
    (hparse : ∀ d ∈ ds, ParsesBack (json d.message)) (db : ReadModel) :
    ProjectsNewest clock ds db ↔ Feed.Agree Dispatched.grants ds ∧ Feed.Agree Dispatched.actions ds := by
  rw [← responses_iff_agree clock hparse db, ← instantActions_iff_agree clock hparse db]
  exact ⟨fun h => ⟨h.responses, h.instantActions⟩, fun h => ⟨h.1, h.2⟩⟩

/-! ### Two messages that overlap -/

/-- A message that queues the requests `A` and `B`. -/
def queued : Dispatched where
  context := ⟨"uagv", "v3", "acme", "7"⟩
  type := .responses
  message := (⟨1, "", "", "", "", [⟨"A", .queued, none⟩, ⟨"B", .queued, none⟩]⟩ : Responses)

/-- A message that grants `A`. -/
def granted : Dispatched where
  context := ⟨"uagv", "v3", "acme", "7"⟩
  type := .responses
  message := (⟨2, "", "", "", "", [⟨"A", .granted, none⟩]⟩ : Responses)

/-- The values and texts of the two messages. -/
def queuedText : Int × String × Json :=
  (1, "\x7b\"headerId\":1,\"manufacturer\":\"\",\"responses\":[" ++
      "\x7b\"grantType\":\"QUEUED\",\"leaseExpiry\":null,\"requestId\":\"A\"\x7d," ++
      "\x7b\"grantType\":\"QUEUED\",\"leaseExpiry\":null,\"requestId\":\"B\"\x7d]," ++
      "\"serialNumber\":\"\",\"timestamp\":\"\",\"version\":\"\"\x7d",
    .obj [("headerId", .int 1), ("timestamp", .str ""), ("version", .str ""), ("manufacturer", .str ""),
      ("serialNumber", .str ""), ("responses", .arr [
        .obj [("requestId", .str "A"), ("grantType", .str "QUEUED"), ("leaseExpiry", .null)],
        .obj [("requestId", .str "B"), ("grantType", .str "QUEUED"), ("leaseExpiry", .null)]])])

def grantedText : Int × String × Json :=
  (2, "\x7b\"headerId\":2,\"manufacturer\":\"\",\"responses\":[" ++
      "\x7b\"grantType\":\"GRANTED\",\"leaseExpiry\":null,\"requestId\":\"A\"\x7d]," ++
      "\"serialNumber\":\"\",\"timestamp\":\"\",\"version\":\"\"\x7d",
    .obj [("headerId", .int 2), ("timestamp", .str ""), ("version", .str ""), ("manufacturer", .str ""),
      ("serialNumber", .str ""), ("responses", .arr [
        .obj [("requestId", .str "A"), ("grantType", .str "GRANTED"), ("leaseExpiry", .null)]])])

omit [JsonLibrary] in
theorem parsesBack_overlap :
    letI := JsonLibrary.ofTexts [queuedText, grantedText]
    ∀ d ∈ [queued, granted], ParsesBack (json d.message) := by
  let lib := JsonLibrary.ofTexts [queuedText, grantedText]
  intro d hd
  simp only [List.mem_cons, List.not_mem_nil, or_false] at hd
  rcases hd with rfl | rfl
  · exact parsesBack_json_ofTexts _ queuedText (t := .responses) _ rfl rfl rfl (by simp)
  · exact parsesBack_json_ofTexts _ grantedText (t := .responses) _ rfl rfl rfl (by simp [queuedText, grantedText])

omit [JsonLibrary] in
/-- A message about all requests is the newest one for each of them. -/
private theorem eq_queued_of_newest {k : String} {m : Dispatched}
    (hm : Feed.newest Dispatched.grants [granted, queued] k = some m) : m = queued := by
  obtain ⟨hmem, v, hv⟩ := Feed.mem_of_newest hm
  simp only [List.mem_cons, List.not_mem_nil, or_false] at hmem
  rcases hmem with rfl | rfl
  · have hk : granted.grants = [("A", "GRANTED")] := rfl
    have hlisted := Feed.mem_of_lastValue hv
    rw [hk, List.mem_singleton] at hlisted
    obtain ⟨rfl, -⟩ := Prod.mk.inj hlisted
    have hnewest : Feed.newest Dispatched.grants [granted, queued] "A" = some queued := rfl
    exact Option.some.inj (hm.symm.trans hnewest)
  · rfl

omit [JsonLibrary] in
/-- The request `A` is granted and projected, and later both are queued. -/
theorem projectsNewest_granted :
    letI := JsonLibrary.ofTexts [queuedText, grantedText]
    let clock : Nat → String := fun _ => "2026-01-01T00:00:00Z"
    ProjectsNewest clock [granted, queued] (cycle (recordAll clock .empty [granted]).findLatestByTopic .empty) := by
  let lib := JsonLibrary.ofTexts [queuedText, grantedText]
  have hgrants : Feed.Agree Dispatched.grants [granted, queued] := by
    intro k m hm k' m' hm' v hv
    rwa [eq_queued_of_newest hm, ← eq_queued_of_newest hm']
  have hactions : Feed.Agree Dispatched.actions [granted, queued] := by
    intro k m hm
    obtain ⟨hmem, v, hv⟩ := Feed.mem_of_newest hm
    simp only [List.mem_cons, List.not_mem_nil, or_false] at hmem
    rcases hmem with rfl | rfl <;> cases Feed.mem_of_lastValue hv
  have hparse : ∀ d ∈ [granted, queued], ParsesBack (json d.message) := fun d hd =>
    parsesBack_overlap d (by simp only [List.mem_cons] at hd ⊢; tauto)
  exact (projectsNewest_iff_agree _ hparse _).2 ⟨hgrants, hactions⟩

omit [JsonLibrary] in
/-- If the row of `B` comes last, its message takes the newer grant of `A` back. -/
theorem not_projectsNewest_of_overlap :
    ¬ ∀ [JsonLibrary] (clock : Nat → String) (ds : List Dispatched) (db : ReadModel),
      (∀ d ∈ ds, ParsesBack (json d.message)) → ProjectsNewest clock ds db := by
  intro h
  let lib := JsonLibrary.ofTexts [queuedText, grantedText]
  have hnewest := h (fun _ => "2026-01-01T00:00:00Z") [queued, granted] .empty parsesBack_overlap
  have hagree := (responses_iff_agree _ parsesBack_overlap .empty).1 hnewest.responses
  have hgranted : Feed.newest Dispatched.grants [queued, granted] "A" = some granted := rfl
  have hqueued : Feed.newest Dispatched.grants [queued, granted] "B" = some queued := rfl
  have hstale : some "GRANTED" = some "QUEUED" := hagree "A" granted hgranted "B" queued hqueued "QUEUED" rfl
  simp at hstale

end Projection

end SyriusOrbit

import SyriusOrbit.Projection.Cycles
import SyriusOrbit.Projection.Timestamps
import SyriusOrbit.Mqtt.EndPoint

/-!
# Robots with the same robot id

Events and rows of `robots` are filed under `manufacturer + "." + serialNumber`, and both parts may contain dots.  Each
robot has a row of its own and its own newest events if and only if no two robots with the same robot id send messages
that meet, in the query of a topic or in the table (`separateRobots_iff`).
-/

namespace SyriusOrbit

open JsonFormat Vda5050 Mqtt Db Sql

/-! ### Identities -/

/-- The robot that a row names. -/
def Db.Robot.identity (r : Robot) : String × String := (r.manufacturer, r.serialNumber)

variable [JsonLibrary]

/-- A message from a robot is filed under the robot. -/
private theorem uplink_of_recordedFor {d : Dispatched} (hup : d.type ∈ Side.localSide.types) {e : Vda5050Event}
    (he : RecordedFor d e) :
    e.topic = recordedTopic d.type ∧ e.itemId = robotId d.context ∧ e.robotId = robotId d.context ∧
      e.identity = d.context.identity := by
  obtain ⟨context, t, m⟩ := d
  obtain ⟨e₀, he₀, id, now, rfl⟩ := he
  cases t with
  | state | visualization | connection | factsheet =>
    rw [List.mem_singleton.1 he₀]
    exact ⟨rfl, rfl, rfl, rfl⟩
  | order | instantActions | responses | zoneSet => simp [Side.types] at hup

private theorem exists_uplink_event (clock : Nat → String) {ds : List Dispatched} {d : Dispatched} (hd : d ∈ ds)
    (hup : d.type ∈ Side.localSide.types) : ∃ e ∈ (recordAll clock .empty ds).events, RecordedFor d e := by
  have hevents : ∃ e₀, e₀ ∈ d.events := by
    obtain ⟨context, t, m⟩ := d
    cases t with
    | state | visualization | connection | factsheet => exact ⟨_, List.mem_singleton_self _⟩
    | order | instantActions | responses | zoneSet => simp [Side.types] at hup
  obtain ⟨e₀, he₀⟩ := hevents
  obtain ⟨e, he, -, hfor⟩ := exists_recordedFor clock hd he₀ .empty
  exact ⟨e, he, hfor⟩

namespace Projection

/-! ### One row per robot -/

/-- The projected columns of the row come from messages of the robot that the row names. -/
structure OwnColumns (log : EventLog) (r : Robot) : Prop where
  connectionState : r.connectionState = "OFFLINE" ∨ ∃ e ∈ log.events, e.identity = r.identity ∧
    e.topic = ConnectionProjector.topic ∧ ∃ m : Connection, decode e.payload = .ok m ∧
      r.connectionState = JsonEnum.name m.connectionState
  stateColumns : r.stateColumns = {} ∨ ∃ e ∈ log.events, e.identity = r.identity ∧
    e.topic = StateProjector.topic ∧ ∃ m : State, decode e.payload = .ok m ∧
      r.stateColumns = ⟨some (JsonEnum.name m.operatingMode), m.driving, m.paused.getD false,
        realColumn m.powerSupply.stateOfCharge, m.powerSupply.charging⟩
  factsheet : r.factsheet = none ∨ ∃ e ∈ log.events, e.identity = r.identity ∧
    e.topic = FactsheetProjector.topic ∧ r.factsheet = some e.payload
  lastUpdatedAt : ∃ e ∈ log.events, e.identity = r.identity ∧ r.lastUpdatedAt = e.receivedAt
  createdAt : ∃ e ∈ log.events, e.identity = r.identity ∧ r.createdAt = e.receivedAt

/-- No robot's newest event is hidden by another robot, and whatever cycles are run, each projected event goes to a
row of its own robot, with columns of this robot's messages only. -/
structure SeparateRobots (log : EventLog) : Prop where
  unshadowed : ∀ e ∈ log.events,
    (∀ e' ∈ log.events, e'.topic = e.topic → e'.identity = e.identity → e'.id ≤ e.id) →
    e ∈ log.findLatestByTopic e.topic
  written : ∀ passes : List (Pass log), ∀ pass ∈ passes, ∀ topic, ∀ e ∈ pass.rowsOf topic, ∀ s,
    ProjectsRobot topic e s →
    ∃ r, (runPasses passes .empty).robots.find? e.robotId = some r ∧ r.identity = e.identity
  columns : ∀ passes : List (Pass log), ∀ r ∈ (runPasses passes .empty).robots.rows, OwnColumns log r

/-- The messages come from different robots with the same robot id and meet: they have the same topic, or both are
projected to `robots`. -/
def Clash (d d' : Dispatched) : Prop :=
  robotId d.context = robotId d'.context ∧ d.context.identity ≠ d'.context.identity ∧
    (d.type = d'.type ∨ d.type ≠ .visualization ∧ d'.type ≠ .visualization)

/-! ### The statements behind a row -/

theorem ProjectsRobot.row {topic : String} {e : Vda5050Event} {s : RobotsStatement} (h : ProjectsRobot topic e s) :
    s.row.robotId = e.robotId ∧ s.row.identity = e.identity ∧ s.row.lastUpdatedAt = e.receivedAt := by
  cases h <;> exact ⟨rfl, rfl, rfl⟩

private theorem robots_runPasses {log : EventLog} (passes : List (Pass log)) (db : ReadModel) :
    (runPasses passes db).robots = db.robots.execAll
      ((passes.flatMap fun pass => robotsStatements pass.rowsOf).map RobotsStatement.sql) := by
  unfold runPasses cycles
  induction passes generalizing db with
  | nil => rfl
  | cons pass passes ih =>
    rw [List.map_cons, List.foldl_cons, ih, cycle_robots, List.flatMap_cons, List.map_append, Table.execAll_append]

omit [JsonLibrary] in
private theorem topic_of_mem_rowsOf {log : EventLog} (pass : Pass log) {topic : String} {e : Vda5050Event}
    (he : e ∈ pass.rowsOf topic) : e.topic = topic := by
  have hnewest := EventLog.mem_findLatestByTopic.1 ((pass.query topic).mem_iff.1 he)
  exact (EventLog.mem_of_newest hnewest).2.1

/-- Events that are projected to the same row of `robots` name the same robot. -/
def SameIdentity (log : EventLog) : Prop :=
  ∀ e ∈ log.events, ∀ e' ∈ log.events, ∀ s s', ProjectsRobot e.topic e s → ProjectsRobot e'.topic e' s' →
    e.robotId = e'.robotId → e.identity = e'.identity

/-- The statements for a row are those of events of its robot. -/
private theorem exists_statements_of_row {log : EventLog} (h : SameIdentity log) {passes : List (Pass log)} {k : String}
    {r : Robot} (hr : (runPasses passes .empty).robots.find? k = some r) :
    ∃ ss : List RobotsStatement, runRow none (ss.map RobotsStatement.sql) = some r ∧
      ∀ s ∈ ss, ∃ e ∈ log.events, ProjectsRobot e.topic e s ∧ e.robotId = k ∧ e.identity = r.identity := by
  have hnone : ReadModel.empty.robots.find? k = none := rfl
  rw [robots_runPasses, Table.find?_execAll, List.filter_map, hnone] at hr
  refine ⟨_, hr, ?_⟩
  generalize hss : (passes.flatMap fun pass => robotsStatements pass.rowsOf).filter
    ((fun u => decide (u.row.robotId = k)) ∘ RobotsStatement.sql) = ss at hr
  have hevents : ∀ s ∈ ss, ∃ e ∈ log.events, ProjectsRobot e.topic e s ∧ e.robotId = k := by
    intro s hs
    rw [← hss] at hs
    obtain ⟨hs, hk⟩ := List.mem_filter.1 hs
    obtain ⟨pass, -, hs⟩ := List.mem_flatMap.1 hs
    obtain ⟨topic, e, he, hs⟩ := mem_robotsStatements.1 hs
    have hkey : s.row.robotId = k := of_decide_eq_true hk
    rw [← topic_of_mem_rowsOf pass he] at hs
    exact ⟨e, pass.mem_of_mem_rowsOf he, hs, hs.row.1.symm.trans hkey⟩
  -- the statement that inserts the row gives it its identity
  have hkeeps : ∀ u ∈ ss.map RobotsStatement.sql, ∀ r, (u.set r).identity = r.identity := by
    intro u hu r
    obtain ⟨s, hs, rfl⟩ := List.mem_map.1 hu
    obtain ⟨e, -, hs, -⟩ := hevents s hs
    cases hs <;> rfl
  have hinsert := map_runRow_of_keeps hkeeps none
  cases ss with
  | nil => simp
  | cons s₀ ss =>
    rw [hr, Option.map_some, Option.none_or, List.map_cons, List.head?_cons, Option.map_some, Option.map_some,
      Option.some_inj] at hinsert
    obtain ⟨e₀, he₀, hs₀, hk₀⟩ := hevents s₀ List.mem_cons_self
    intro s hs
    obtain ⟨e, he, hs, hk⟩ := hevents s hs
    refine ⟨e, he, hs, hk, ?_⟩
    rw [h e he e₀ he₀ s s₀ hs hs₀ (hk.trans hk₀.symm), hinsert]
    exact hs₀.row.2.1.symm

private theorem ownColumns_of_sameIdentity {log : EventLog} (h : SameIdentity log) {passes : List (Pass log)}
    {r : Robot}
    (hr : r ∈ (runPasses passes .empty).robots.rows) : OwnColumns log r := by
  obtain ⟨ss, hrun, hss⟩ := exists_statements_of_row h (Table.find?_of_mem hr)
  have hstamps : ∀ u ∈ ss.map RobotsStatement.sql, u.Stamps Robot.createdAt Robot.lastUpdatedAt := by
    intro u hu
    obtain ⟨s, hs, rfl⟩ := List.mem_map.1 hu
    obtain ⟨e, -, hs, -⟩ := hss s hs
    exact RobotsStatement.stamps fun robot => by cases hs <;> simp
  have htimes : ∀ t ∈ times Robot.lastUpdatedAt (ss.map RobotsStatement.sql),
      ∃ e ∈ log.events, e.identity = r.identity ∧ t = e.receivedAt := by
    intro t ht
    obtain ⟨u, hu, rfl⟩ := List.mem_map.1 ht
    obtain ⟨s, hs, rfl⟩ := List.mem_map.1 hu
    obtain ⟨e, he, hs, -, hid⟩ := hss s hs
    exact ⟨e, he, hid, hs.row.2.2⟩
  refine ⟨?_, ?_, ?_, ?_, ?_⟩
  · refine (column_runRow_none (fun s _ => s.writes_connectionState) hrun).imp_right ?_
    rintro ⟨s, hs, hv⟩
    obtain ⟨e, he, hs, -, hid⟩ := hss s hs
    cases hs with
    | connection m htopic hm => exact ⟨e, he, hid, htopic, m, hm, (Option.some.inj hv).symm⟩
    | state | factsheet => cases hv
  · refine (column_runRow_none (fun s _ => s.writes_stateColumns) hrun).imp_right ?_
    rintro ⟨s, hs, hv⟩
    obtain ⟨e, he, hs, -, hid⟩ := hss s hs
    cases hs with
    | state m htopic hm => exact ⟨e, he, hid, htopic, m, hm, (Option.some.inj hv).symm⟩
    | connection | factsheet => cases hv
  · refine (column_runRow_none (fun s _ => s.writes_factsheet) hrun).imp_right ?_
    rintro ⟨s, hs, hv⟩
    obtain ⟨e, he, hs, -, hid⟩ := hss s hs
    cases hs with
    | factsheet htopic => exact ⟨e, he, hid, htopic, (Option.some.inj hv).symm⟩
    | connection | state => cases hv
  · exact htimes _ (times_runRow_none hstamps hrun).1
  · exact htimes _ (times_runRow_none hstamps hrun).2

/-! ### Robots that do not meet -/

def NoClash (ds : List Dispatched) : Prop := ∀ d ∈ ds, ∀ d' ∈ ds, ¬ Clash d d'

theorem exists_dispatched {clock : Nat → String} {ds : List Dispatched}
    (hup : ∀ d ∈ ds, d.type ∈ Side.localSide.types) {e : Vda5050Event}
    (he : e ∈ (recordAll clock .empty ds).events) :
    ∃ d ∈ ds, RecordedFor d e ∧ e.topic = recordedTopic d.type ∧ e.itemId = robotId d.context ∧
      e.robotId = robotId d.context ∧ e.identity = d.context.identity := by
  rcases mem_recordAll he with he | ⟨d, hd, hfor⟩
  · exact absurd he List.not_mem_nil
  · exact ⟨d, hd, hfor, uplink_of_recordedFor (hup d hd) hfor⟩

theorem ProjectsRobot.topic_ne {topic : String} {e : Vda5050Event} {s : RobotsStatement}
    (h : ProjectsRobot topic e s) : topic ≠ recordedTopic .visualization := by
  cases h with
  | connection m htopic hm => simp [htopic, ConnectionProjector.topic, recordedTopic]
  | state m htopic hm => simp [htopic, StateProjector.topic, recordedTopic]
  | factsheet htopic => simp [htopic, FactsheetProjector.topic, recordedTopic]

private theorem sameIdentity_recordAll (clock : Nat → String) {ds : List Dispatched}
    (hup : ∀ d ∈ ds, d.type ∈ Side.localSide.types) (h : NoClash ds) : SameIdentity (recordAll clock .empty ds) := by
  intro e he e' he' s s' hs hs' hrobot
  obtain ⟨d, hd, -, htopic, -, hid, hidentity⟩ := exists_dispatched hup he
  obtain ⟨d', hd', -, htopic', -, hid', hidentity'⟩ := exists_dispatched hup he'
  rw [hidentity, hidentity']
  by_contra hne
  refine h d hd d' hd' ⟨hid.symm.trans (hrobot.trans hid'), hne, .inr ⟨?_, ?_⟩⟩
  · intro htype
    exact hs.topic_ne (htype ▸ htopic)
  · intro htype
    exact hs'.topic_ne (htype ▸ htopic')

private theorem unshadowed_of_noClash (clock : Nat → String) {ds : List Dispatched}
    (hup : ∀ d ∈ ds, d.type ∈ Side.localSide.types) (h : NoClash ds) {e : Vda5050Event}
    (he : e ∈ (recordAll clock .empty ds).events)
    (hgreatest : ∀ e' ∈ (recordAll clock .empty ds).events, e'.topic = e.topic → e'.identity = e.identity →
      e'.id ≤ e.id) : e ∈ (recordAll clock .empty ds).findLatestByTopic e.topic := by
  obtain ⟨e', he'⟩ := EventLog.isSome_newest he
  obtain ⟨hmem', htopic', hitem'⟩ := EventLog.mem_of_newest he'
  obtain ⟨d, hd, -, htopic, hitem, -, hidentity⟩ := exists_dispatched hup he
  obtain ⟨d', hd', -, hdtopic', hditem', -, hidentity'⟩ := exists_dispatched hup hmem'
  have htype : d.type = d'.type := recordedTopic_injective (htopic.symm.trans (htopic'.symm.trans hdtopic'))
  have hrobot : robotId d.context = robotId d'.context := hitem.symm.trans (hitem'.symm.trans hditem')
  have hsame : e'.identity = e.identity := by
    rw [hidentity, hidentity']
    by_contra hne
    exact h d hd d' hd' ⟨hrobot, Ne.symm hne, .inl htype⟩
  -- the newest event of the item is from the same robot, and so it is this one
  have hle := hgreatest e' hmem' htopic' hsame
  have hge : e.id ≤ e'.id := EventLog.id_le_newest he' (EventLog.mem_group.2 ⟨he, rfl, rfl⟩)
  have heq : e' = e := EventLog.eq_of_id_eq hmem' he (by omega)
  rw [heq] at he'
  exact EventLog.mem_findLatestByTopic.2 he'

private theorem written_of_sameIdentity {log : EventLog} (h : SameIdentity log) {passes : List (Pass log)}
    {pass : Pass log}
    (hpass : pass ∈ passes) {topic : String} {e : Vda5050Event} (he : e ∈ pass.rowsOf topic) {s : RobotsStatement}
    (hs : ProjectsRobot topic e s) :
    ∃ r, (runPasses passes .empty).robots.find? e.robotId = some r ∧ r.identity = e.identity := by
  have hmem : s ∈ passes.flatMap fun pass => robotsStatements pass.rowsOf :=
    List.mem_flatMap.2 ⟨pass, hpass, mem_robotsStatements.2 ⟨topic, e, he, hs⟩⟩
  obtain ⟨r, hr⟩ := Table.exists_find?_execAll (List.mem_map_of_mem (f := RobotsStatement.sql) hmem)
    ReadModel.empty.robots
  have hkey : s.sql.row.robotId = e.robotId := hs.row.1
  rw [← robots_runPasses, hkey] at hr
  obtain ⟨ss, hrun, hss⟩ := exists_statements_of_row h hr
  refine ⟨r, hr, ?_⟩
  cases ss with
  | nil => cases hrun
  | cons s' ss =>
    obtain ⟨e', he', hs', hrobot, hidentity⟩ := hss s' List.mem_cons_self
    rw [← topic_of_mem_rowsOf pass he] at hs
    rw [← hidentity]
    exact h e' he' e (pass.mem_of_mem_rowsOf he) s' s hs' hs hrobot

private theorem separateRobots_of_noClash (clock : Nat → String) {ds : List Dispatched}
    (hup : ∀ d ∈ ds, d.type ∈ Side.localSide.types) (h : NoClash ds) :
    SeparateRobots (recordAll clock .empty ds) where
  unshadowed _ he hgreatest := unshadowed_of_noClash clock hup h he hgreatest
  written _ _ hpass _ _ he _ hs := written_of_sameIdentity (sameIdentity_recordAll clock hup h) hpass he hs
  columns _ _ hr := ownColumns_of_sameIdentity (sameIdentity_recordAll clock hup h) hr

/-! ### Robots that meet -/

omit [JsonLibrary] in
private theorem robotId_of_identity {context context' : VDA5050TopicContext}
    (h : context.identity = context'.identity) :
    robotId context = robotId context' := by
  obtain ⟨hm, hs⟩ := Prod.mk.inj h
  rw [robotId, robotId, hm, hs]

/-- Where newest events are not hidden, robots that send on the same topic have different robot ids. -/
private theorem identity_of_unshadowed {clock : Nat → String} {ds : List Dispatched}
    (hup : ∀ d ∈ ds, d.type ∈ Side.localSide.types) (h : SeparateRobots (recordAll clock .empty ds))
    {d d' : Dispatched} (hd : d ∈ ds) (hd' : d' ∈ ds) (htype : d.type = d'.type)
    (hrobot : robotId d.context = robotId d'.context) : d.context.identity = d'.context.identity := by
  -- the newest event of each of the two robots is returned for the item
  have hnewest : ∀ d₀ ∈ ds, ∃ e, e.identity = d₀.context.identity ∧
      (recordAll clock .empty ds).newest (recordedTopic d₀.type) (robotId d₀.context) = some e := by
    intro d₀ hd₀
    obtain ⟨e₀, he₀, hfor₀⟩ := exists_uplink_event clock hd₀ (hup d₀ hd₀)
    obtain ⟨htopic₀, -, -, hidentity₀⟩ := uplink_of_recordedFor (hup d₀ hd₀) hfor₀
    obtain ⟨e, he, ⟨htopic, hidentity⟩, hgreatest⟩ := EventLog.exists_greatest
      (p := fun e : Vda5050Event => e.topic = recordedTopic d₀.type ∧ e.identity = d₀.context.identity) he₀
      ⟨htopic₀, hidentity₀⟩
    have hlatest := h.unshadowed e he fun e' he' ht hi => hgreatest e' he' ⟨ht.trans htopic, hi.trans hidentity⟩
    obtain ⟨d₁, -, -, -, hitem, -, hidentity₁⟩ := exists_dispatched hup he
    have hitem₀ : e.itemId = robotId d₀.context :=
      hitem.trans (robotId_of_identity (hidentity₁.symm.trans hidentity))
    have hfound := EventLog.mem_findLatestByTopic.1 hlatest
    rw [hitem₀, htopic] at hfound
    exact ⟨e, hidentity, hfound⟩
  obtain ⟨_, hidentity, he⟩ := hnewest d hd
  obtain ⟨e', hidentity', he'⟩ := hnewest d' hd'
  rw [htype, hrobot, he'] at he
  rw [← hidentity, ← hidentity', Option.some.inj he]

/-- A cycle that sees the whole log. -/
def Pass.whole (log : EventLog) : Pass log where
  seen := log.events.length
  rowsOf := log.findLatestByTopic
  query topic := by
    rw [EventLog.take_length]

/-- After a cycle that sees the whole log there is a row for each robot that has sent a projected message. -/
private theorem exists_row_of_dispatched {clock : Nat → String} {ds : List Dispatched}
    (hup : ∀ d ∈ ds, d.type ∈ Side.localSide.types) (hparse : ∀ d ∈ ds, ParsesBack (json d.message))
    (h : SeparateRobots (recordAll clock .empty ds)) {d : Dispatched} (hd : d ∈ ds)
    (htype : d.type ≠ .visualization) :
    ∃ r, (runPasses [Pass.whole (recordAll clock .empty ds)] .empty).robots.find? (robotId d.context) = some r ∧
      r.identity = d.context.identity := by
  obtain ⟨e₀, he₀, hfor₀⟩ := exists_uplink_event clock hd (hup d hd)
  obtain ⟨htopic₀, hitem₀, -, -⟩ := uplink_of_recordedFor (hup d hd) hfor₀
  obtain ⟨e, he⟩ := EventLog.isSome_newest he₀
  obtain ⟨hmem, htopic, hitem⟩ := EventLog.mem_of_newest he
  obtain ⟨d₁, hd₁, hfor₁, htopic₁, hitem₁, hrobot₁, hidentity₁⟩ := exists_dispatched hup hmem
  have hsame : d.type = d₁.type := recordedTopic_injective (htopic₀.symm.trans (htopic.symm.trans htopic₁))
  have hrobot : robotId d.context = robotId d₁.context := hitem₀.symm.trans (hitem.symm.trans hitem₁)
  have hidentity := identity_of_unshadowed hup h hd hd₁ hsame hrobot
  have hdecode := (decode_of_recordedFor (hparse d₁ hd₁) hfor₁).2.2
  have hprojects : ∃ s, ProjectsRobot e.topic e s := by
    rw [htopic₁]
    obtain ⟨context, t, m⟩ := d₁
    cases t with
    | state => exact ⟨_, .state m rfl hdecode⟩
    | connection => exact ⟨_, .connection m rfl hdecode⟩
    | factsheet => exact ⟨_, .factsheet rfl⟩
    | visualization => exact absurd hsame htype
    | order | instantActions | responses | zoneSet => exact absurd (hup _ hd₁) (by simp [Side.types])
  obtain ⟨s, hs⟩ := hprojects
  have hrow : e ∈ (Pass.whole (recordAll clock .empty ds)).rowsOf e.topic := by
    refine EventLog.mem_findLatestByTopic.2 ?_
    rw [htopic, hitem]
    exact he
  obtain ⟨r, hr, hr'⟩ := h.written _ _ List.mem_cons_self e.topic e hrow s hs
  rw [hrobot, ← hrobot₁, hidentity, ← hidentity₁]
  exact ⟨r, hr, hr'⟩

/-- Robots are kept apart if and only if no two of them have the same robot id and send messages that meet. -/
theorem separateRobots_iff (clock : Nat → String) {ds : List Dispatched}
    (hup : ∀ d ∈ ds, d.type ∈ Side.localSide.types) (hparse : ∀ d ∈ ds, ParsesBack (json d.message)) :
    SeparateRobots (recordAll clock .empty ds) ↔ NoClash ds := by
  refine ⟨fun h d hd d' hd' hclash => ?_, separateRobots_of_noClash clock hup⟩
  obtain ⟨hrobot, hne, htype | ⟨htype, htype'⟩⟩ := hclash
  · exact hne (identity_of_unshadowed hup h hd hd' htype hrobot)
  · obtain ⟨r, hr, hidentity⟩ := exists_row_of_dispatched hup hparse h hd htype
    obtain ⟨r', hr', hidentity'⟩ := exists_row_of_dispatched hup hparse h hd' htype'
    rw [hrobot, hr'] at hr
    rw [← hidentity, ← hidentity', Option.some.inj hr] at hne
    exact hne rfl

/-- Two robots whose ids are both `a.b.c` go online. -/
def dotted : List Dispatched :=
  [⟨⟨"uagv", "v3", "a.b", "c"⟩, .connection,
      (⟨1, "2026-01-01T00:00:00Z", "3.0.0", "a.b", "c", .online⟩ : Connection)⟩,
    ⟨⟨"uagv", "v3", "a", "b.c"⟩, .connection,
      (⟨2, "2026-01-01T00:00:01Z", "3.0.0", "a", "b.c", .online⟩ : Connection)⟩]

/-- The values and texts of their messages. -/
def dottedText : Int × String × Json :=
  (1, "\x7b\"connectionState\":\"ONLINE\",\"headerId\":1,\"manufacturer\":\"a.b\",\"serialNumber\":\"c\"," ++
      "\"timestamp\":\"2026-01-01T00:00:00Z\",\"version\":\"3.0.0\"\x7d",
    .obj [("headerId", .int 1), ("timestamp", .str "2026-01-01T00:00:00Z"), ("version", .str "3.0.0"),
      ("manufacturer", .str "a.b"), ("serialNumber", .str "c"), ("connectionState", .str "ONLINE")])

def dottedText' : Int × String × Json :=
  (2, "\x7b\"connectionState\":\"ONLINE\",\"headerId\":2,\"manufacturer\":\"a\",\"serialNumber\":\"b.c\"," ++
      "\"timestamp\":\"2026-01-01T00:00:01Z\",\"version\":\"3.0.0\"\x7d",
    .obj [("headerId", .int 2), ("timestamp", .str "2026-01-01T00:00:01Z"), ("version", .str "3.0.0"),
      ("manufacturer", .str "a"), ("serialNumber", .str "b.c"), ("connectionState", .str "ONLINE")])

omit [JsonLibrary] in
private theorem parsesBack_dotted :
    letI := JsonLibrary.ofTexts [dottedText, dottedText']
    ∀ d ∈ dotted, ParsesBack (json d.message) := by
  let lib := JsonLibrary.ofTexts [dottedText, dottedText']
  intro d hd
  simp only [dotted, List.mem_cons, List.not_mem_nil, or_false] at hd
  rcases hd with rfl | rfl
  · exact parsesBack_json_ofTexts _ dottedText (t := .connection) _ rfl rfl rfl (by simp)
  · exact parsesBack_json_ofTexts _ dottedText' (t := .connection) _ rfl rfl rfl (by simp [dottedText, dottedText'])

omit [JsonLibrary] in
/-- One robot goes online and offline. -/
theorem separateRobots_iff_online :
    letI := JsonLibrary.ofTexts connectionTexts
    SeparateRobots (recordAll (fun _ => "2026-01-01T00:00:00Z") .empty [wentOnline, wentOffline]) := by
  let lib := JsonLibrary.ofTexts connectionTexts
  have hup : ∀ d ∈ [wentOnline, wentOffline], d.type ∈ Side.localSide.types := by
    intro d hd
    simp only [List.mem_cons, List.not_mem_nil, or_false] at hd
    rcases hd with rfl | rfl <;> simp [wentOnline, wentOffline, Side.types]
  have hclash : NoClash [wentOnline, wentOffline] := by
    intro d hd d' hd' hclash
    simp only [List.mem_cons, List.not_mem_nil, or_false] at hd hd'
    rcases hd with rfl | rfl <;> rcases hd' with rfl | rfl <;> exact hclash.2.1 rfl
  exact (separateRobots_iff _ hup parsesBack_connections).2 hclash

omit [JsonLibrary] in
/-- The event of the second robot hides that of the first. -/
theorem not_separateRobots_of_dotted :
    ¬ ∀ [JsonLibrary] (clock : Nat → String) (ds : List Dispatched), (∀ d ∈ ds, d.type ∈ Side.localSide.types) →
      (∀ d ∈ ds, ∃ (template : VDA5050TopicContext) (topic : String),
        template.parseTopicContext topic (suffix d.type) = some d.context) →
      (∀ d ∈ ds, ParsesBack (json d.message)) → SeparateRobots (recordAll clock .empty ds) := by
  intro h
  let lib := JsonLibrary.ofTexts [dottedText, dottedText']
  have hup : ∀ d ∈ dotted, d.type ∈ Side.localSide.types := by
    intro d hd
    simp only [dotted, List.mem_cons, List.not_mem_nil, or_false] at hd
    rcases hd with rfl | rfl <;> simp [Side.types]
  have htopic : ∀ d ∈ dotted, ∃ (template : VDA5050TopicContext) (topic : String),
      template.parseTopicContext topic (suffix d.type) = some d.context := by
    intro d hd
    simp only [dotted, List.mem_cons, List.not_mem_nil, or_false] at hd
    rcases hd with rfl | rfl
    · exact ⟨⟨"uagv", "v3", "", ""⟩, "uagv/v3/a.b/c/connection", by decide⟩
    · exact ⟨⟨"uagv", "v3", "", ""⟩, "uagv/v3/a/b.c/connection", by decide⟩
  have hseparate := h (fun _ => "2026-01-01T00:00:00Z") dotted hup htopic parsesBack_dotted
  have hfirst : dotted[0] ∈ dotted := by simp [dotted]
  have hsecond : dotted[1] ∈ dotted := by simp [dotted]
  have hsame := identity_of_unshadowed hup hseparate hfirst hsecond rfl (by decide)
  exact absurd hsame (by decide)

end Projection

end SyriusOrbit

import SyriusOrbit.Projection.Collections
import SyriusOrbit.Transition.System

/-!
# Times of the projected rows

Cycles run at growing prefixes of a log.  The projectors of a row overwrite its `last_updated_at` in the fixed order
of their topics, so that the row has the time of the topic projected last.  In every run in which this is the greatest
time for each row, rows have the time of their newest message and are not created after their last update
(`stamps_of_reach`).
-/

namespace SyriusOrbit.Projection

open JsonFormat Vda5050 Db Sql Transition

/-! ### Times of receipt -/

/-- The times of the newest events of an item, for topics in the order of their projectors. -/
def newestTimes (log : EventLog) (topics : List String) (item : String) : List String :=
  topics.filterMap fun topic => (log.newest topic item).map Vda5050Event.receivedAt

def robotTopics : List String := [ConnectionProjector.topic, StateProjector.topic, FactsheetProjector.topic]

def orderTopics : List String := [OrderProjector.topic]

def actionTopics : List String := [InstantActionsProjector.topic, ResponsesProjector.topic]

/-- In a longer prefix the times of an item are not smaller. -/
private theorem newestTimes_take_le {log : EventLog} (hlog : log.Chronological) {n n' : Nat} (hn : n ≤ n')
    {topics : List String} {item t : String} (ht : t ∈ newestTimes (log.take n) topics item) :
    ∃ t' ∈ newestTimes (log.take n') topics item, t ≤ t' := by
  obtain ⟨topic, htopic, hnewest⟩ := List.mem_filterMap.1 ht
  obtain ⟨e, he, rfl⟩ := Option.map_eq_some_iff.1 hnewest
  obtain ⟨e', he', hid⟩ := EventLog.newest_take_le hn he
  refine ⟨e'.receivedAt, List.mem_filterMap.2 ⟨topic, htopic, by rw [he']; rfl⟩, ?_⟩
  exact hlog e (EventLog.mem_of_mem_take (EventLog.mem_of_newest he).1) e'
    (EventLog.mem_of_mem_take (EventLog.mem_of_newest he').1) hid

private theorem newestTimes_append (log : EventLog) (topics topics' : List String) (item : String) :
    newestTimes log (topics ++ topics') item = newestTimes log topics item ++ newestTimes log topics' item :=
  List.filterMap_append

/-- Where an event executes one statement at its time of receipt, the newest event of a topic gives its time. -/
private theorem map_time_newest {S : Type} {time : S → String} (statements : Vda5050Event → List S) {log : EventLog}
    {topic k : String}
    (h : ∀ e, log.newest topic k = some e → (statements e).map time = [e.receivedAt]) :
    ((log.newest topic k).toList.flatMap statements).map time = newestTimes log [topic] k := by
  unfold newestTimes
  cases he : log.newest topic k with
  | none => simp [he]
  | some e => simpa [he] using h e he

variable [JsonLibrary]

private theorem map_time_robotStatements {log : EventLog} (hdec : NewestDecode log) (k : String) :
    (robotStatements log k).map (fun s => s.row.lastUpdatedAt) = newestTimes log robotTopics k := by
  rw [robotStatements, List.map_append, List.map_append, map_time_newest ConnectionProjector.statements,
    map_time_newest StateProjector.statements, map_time_newest FactsheetProjector.statements, ← newestTimes_append,
    ← newestTimes_append]
  · rfl
  · exact fun e _ => rfl
  · intro e he
    obtain ⟨m, hm⟩ := hdec.state k e he
    rw [StateProjector.statements, onDecoded_of_decode hm]
    rfl
  · intro e he
    obtain ⟨m, hm⟩ := hdec.connection k e he
    rw [ConnectionProjector.statements, onDecoded_of_decode hm]
    rfl

private theorem map_time_orderStatements {log : EventLog} (hdec : NewestDecode log) (k : String) :
    ((log.newest OrderProjector.topic k).toList.flatMap OrderProjector.statements).map
      (fun s => s.row.lastUpdatedAt) = newestTimes log orderTopics k := by
  refine map_time_newest _ fun e he => ?_
  obtain ⟨m, hm⟩ := hdec.order k e he
  rw [OrderProjector.statements, onDecoded_of_decode hm]
  rfl

/-- The statements of a cycle for one action. -/
def actionStatements (rowsOf : String → List Vda5050Event) (k : String) : List InstantActionsStatement :=
  (instantActionsStatements rowsOf).filter fun s => decide (s.row.actionId = k)

/-- The times of the rows that list an action, in the order in which they are projected. -/
def actionTimes (rowsOf : String → List Vda5050Event) (k : String) : List String :=
  (actionStatements rowsOf k).map fun s => s.row.lastUpdatedAt

/-! ### The statements of a cycle stamp their rows -/

private theorem stamps_robotStatements {log : EventLog} {k : String} :
    ∀ u ∈ (robotStatements log k).map RobotsStatement.sql, u.Stamps Robot.createdAt Robot.lastUpdatedAt := by
  intro u hu
  obtain ⟨s, hs, rfl⟩ := List.mem_map.1 hu
  have hs' : s ∈ robotsStatements fun topic => (log.newest topic k).toList := hs
  exact RobotsStatement.stamps (ne_upsert_of_mem_robotsStatements hs')

private theorem stamps_orderStatements {log : EventLog} {k : String} :
    ∀ u ∈ ((log.newest OrderProjector.topic k).toList.flatMap OrderProjector.statements).map OrdersStatement.sql,
      u.Stamps Db.Order.createdAt Db.Order.lastUpdatedAt := by
  intro u hu
  obtain ⟨s, hs, rfl⟩ := List.mem_map.1 hu
  have hs' : s ∈ ordersStatements fun topic => (log.newest topic k).toList := hs
  exact OrdersStatement.stamps (ne_upsert_of_mem_ordersStatements hs')

private theorem stamps_actionStatements {rowsOf : String → List Vda5050Event} {k : String} :
    ∀ u ∈ (actionStatements rowsOf k).map InstantActionsStatement.sql,
      u.Stamps InstantAction.createdAt InstantAction.lastUpdatedAt := by
  intro u hu
  obtain ⟨s, hs, rfl⟩ := List.mem_map.1 hu
  exact InstantActionsStatement.stamps (ne_upsert_of_mem_instantActionsStatements (List.mem_filter.1 hs).1)

theorem find?_cycle_instantActions (rowsOf : String → List Vda5050Event) (db : ReadModel) (k : String) :
    (cycle rowsOf db).instantActions.find? k =
      runRow (db.instantActions.find? k) ((actionStatements rowsOf k).map InstantActionsStatement.sql) := by
  rw [cycle_instantActions, Table.find?_execAll, List.filter_map]
  rfl

/-! ### Runs -/

/-- How many events have been received, and the read model. -/
structure Progress where
  seen : Nat
  db : ReadModel

inductive ProjectionStep where
  | receive
  | cycle (rowsOf : String → List Vda5050Event)

/-- Events of a log are received one after another, and complete cycles run in between.  The rows of a cycle come in
any order, and the newest events decode. -/
def schedule (log : EventLog) (db₀ : ReadModel) : System Progress ProjectionStep where
  init s := s = ⟨0, db₀⟩
  step s a s' :=
    match a with
    | .receive => s' = { s with seen := s.seen + 1 }
    | .cycle rowsOf =>
      IsQueryResult (log.take s.seen) rowsOf ∧ NewestDecode (log.take s.seen) ∧
        s' = { s with db := Projection.cycle rowsOf s.db }

/-- The event projected last for a row has the greatest time: for a robot, of its newest events; for an action, of
the rows that list it, and no other time than its own newest events. -/
structure LatestLast (log : EventLog) (rowsOf : String → List Vda5050Event) : Prop where
  robots : ∀ k, LastGreatest (newestTimes log robotTopics k)
  instantActions : ∀ k, LastGreatest (actionTimes rowsOf k) ∧ ∀ t, (actionTimes rowsOf k).getLast? = some t →
    IsGreatest {t' | t' ∈ newestTimes log actionTopics k} t

/-- The cycles of a run project the latest event of each row last. -/
def LatestLastStep (log : EventLog) (s : Progress) : ProjectionStep → Prop
  | .receive => True
  | .cycle rowsOf => LatestLast (log.take s.seen) rowsOf

/-- The rows a cycle has projected have the time of their newest events. -/
structure TimesCurrent (log : EventLog) (rowsOf : String → List Vda5050Event) (db : ReadModel) : Prop where
  robots : ∀ k, newestTimes log robotTopics k ≠ [] → ∃ r, db.robots.find? k = some r ∧
    IsGreatest {t | t ∈ newestTimes log robotTopics k} r.lastUpdatedAt
  instantActions : ∀ k, actionTimes rowsOf k ≠ [] → ∃ r, db.instantActions.find? k = some r ∧
    IsGreatest {t | t ∈ newestTimes log actionTopics k} r.lastUpdatedAt

/-- Rows that were not in the first read model were not created after their last update. -/
structure CreatedFirst (db₀ db : ReadModel) : Prop where
  robots : ∀ k r, db₀.robots.find? k = none → db.robots.find? k = some r → r.createdAt ≤ r.lastUpdatedAt
  orders : ∀ k r, db₀.orders.find? k = none → db.orders.find? k = some r → r.createdAt ≤ r.lastUpdatedAt
  instantActions : ∀ k r, db₀.instantActions.find? k = none → db.instantActions.find? k = some r →
    r.createdAt ≤ r.lastUpdatedAt

/-- The invariant of a run: rows not in the first read model are fresh with respect to their newest events. -/
structure RowsFresh (db₀ db : ReadModel) (log : EventLog) : Prop where
  robots : ∀ k, db₀.robots.find? k = none →
    Fresh Robot.createdAt Robot.lastUpdatedAt (newestTimes log robotTopics k) (db.robots.find? k)
  orders : ∀ k, db₀.orders.find? k = none →
    Fresh Db.Order.createdAt Db.Order.lastUpdatedAt (newestTimes log orderTopics k) (db.orders.find? k)
  instantActions : ∀ k, db₀.instantActions.find? k = none →
    Fresh InstantAction.createdAt InstantAction.lastUpdatedAt (newestTimes log actionTopics k)
      (db.instantActions.find? k)

omit [JsonLibrary] in
private theorem rowsFresh_receive {log : EventLog} (hlog : log.Chronological) {db₀ db : ReadModel} {n : Nat}
    (h : RowsFresh db₀ db (log.take n)) : RowsFresh db₀ db (log.take (n + 1)) where
  robots k hk := (h.robots k hk).mono fun _ ht => newestTimes_take_le hlog n.le_succ ht
  orders k hk := (h.orders k hk).mono fun _ ht => newestTimes_take_le hlog n.le_succ ht
  instantActions k hk := (h.instantActions k hk).mono fun _ ht => newestTimes_take_le hlog n.le_succ ht

omit [JsonLibrary] in
private theorem snapshotKeys_take {log : EventLog} (h : SnapshotKeys log) (n : Nat) : SnapshotKeys (log.take n) :=
  fun e he => h e (EventLog.mem_of_mem_take he)

private theorem orderKeys_take {log : EventLog} (h : OrderKeys log) (n : Nat) : OrderKeys (log.take n) :=
  fun e he => h e (EventLog.mem_of_mem_take he)

omit [JsonLibrary] in
private theorem lastGreatest_orderTimes (log : EventLog) (k : String) :
    LastGreatest (newestTimes log orderTopics k) := by
  have htimes : newestTimes log orderTopics k =
      ((log.newest OrderProjector.topic k).map Vda5050Event.receivedAt).toList := by
    unfold newestTimes orderTopics
    cases he : log.newest OrderProjector.topic k <;> simp [he]
  rw [htimes]
  intro t ht
  cases he : (log.newest OrderProjector.topic k).map Vda5050Event.receivedAt with
  | none => simp [he] at ht
  | some t' =>
    have : t' = t := by simpa [he] using ht
    simp [this]

private theorem rowsFresh_cycle {log : EventLog} {rowsOf : String → List Vda5050Event} (hq : IsQueryResult log rowsOf)
    (hsnapshot : SnapshotKeys log) (horder : OrderKeys log) (hdec : NewestDecode log)
    (hlatest : LatestLast log rowsOf) {db₀ db : ReadModel} (h : RowsFresh db₀ db log) :
    RowsFresh db₀ (cycle rowsOf db) log where
  robots k hk := by
    have htimes := map_time_robotStatements hdec k
    rw [find?_cycle_robots hq hsnapshot]
    refine (h.robots k hk).runRow stamps_robotStatements ?_ ?_
    · rw [times, List.map_map]
      exact htimes ▸ hlatest.robots k
    · rw [times, List.map_map]
      exact htimes ▸ hlatest.robots k
  orders k hk := by
    have htimes := map_time_orderStatements hdec k
    rw [find?_cycle_orders hq horder]
    refine (h.orders k hk).runRow stamps_orderStatements ?_ ?_
    · rw [times, List.map_map]
      exact htimes ▸ lastGreatest_orderTimes log k
    · rw [times, List.map_map]
      exact htimes ▸ lastGreatest_orderTimes log k
  instantActions k hk := by
    rw [find?_cycle_instantActions]
    refine (h.instantActions k hk).runRow stamps_actionStatements ?_ ?_
    · rw [times, List.map_map]
      exact (hlatest.instantActions k).1
    · rw [times, List.map_map]
      exact (hlatest.instantActions k).2

private theorem timesCurrent_cycle {log : EventLog} {rowsOf : String → List Vda5050Event}
    (hq : IsQueryResult log rowsOf)
    (hsnapshot : SnapshotKeys log) (hdec : NewestDecode log) (hlatest : LatestLast log rowsOf) (db : ReadModel) :
    TimesCurrent log rowsOf (cycle rowsOf db) where
  robots k hne := by
    have htimes := map_time_robotStatements hdec k
    obtain ⟨t, ht⟩ := List.getLast?_isSome.2 hne |> Option.isSome_iff_exists.1
    have hstm : (robotStatements log k).map RobotsStatement.sql ≠ [] := by
      intro hnil
      rw [List.map_eq_nil_iff] at hnil
      rw [hnil] at htimes
      exact hne htimes.symm
    obtain ⟨r, hr⟩ := Option.isSome_iff_exists.1 (isSome_runRow (o := db.robots.find? k) (.inr hstm))
    rw [find?_cycle_robots hq hsnapshot]
    refine ⟨r, hr, ?_⟩
    rw [updated_runRow stamps_robotStatements hr (t := t) (by rw [times, List.map_map]; exact htimes ▸ ht)]
    exact hlatest.robots k t ht
  instantActions k hne := by
    obtain ⟨t, ht⟩ := List.getLast?_isSome.2 hne |> Option.isSome_iff_exists.1
    have hstm : (actionStatements rowsOf k).map InstantActionsStatement.sql ≠ [] := by
      intro hnil
      rw [List.map_eq_nil_iff] at hnil
      exact hne (by rw [actionTimes, hnil]; rfl)
    obtain ⟨r, hr⟩ := Option.isSome_iff_exists.1 (isSome_runRow (o := db.instantActions.find? k) (.inr hstm))
    rw [find?_cycle_instantActions]
    refine ⟨r, hr, ?_⟩
    rw [updated_runRow stamps_actionStatements hr (t := t) (by rw [times, List.map_map]; exact ht)]
    exact (hlatest.instantActions k).2 t ht

/-- In a run whose cycles project the latest event of each row last, rows are not created after their last update, and
after a cycle the rows it has projected have the time of their newest events. -/
theorem stamps_of_reach {log : EventLog} (hlog : log.Chronological) (hsnapshot : SnapshotKeys log)
    (horder : OrderKeys log) {db₀ : ReadModel} {s : Progress}
    (h : (schedule log db₀).Reach (LatestLastStep log) s) :
    CreatedFirst db₀ s.db ∧ ∀ rowsOf s', LatestLastStep log s (.cycle rowsOf) →
      (schedule log db₀).step s (.cycle rowsOf) s' → TimesCurrent (log.take s.seen) rowsOf s'.db := by
  have hfresh : RowsFresh db₀ s.db (log.take s.seen) := by
    refine h.invariant (I := fun s => RowsFresh db₀ s.db (log.take s.seen)) ?_ ?_
    · rintro s rfl
      exact ⟨fun k hk r hr => by simp [hk] at hr, fun k hk r hr => by simp [hk] at hr,
        fun k hk r hr => by simp [hk] at hr⟩
    · intro s a s' _ hs hallowed hstep
      cases a with
      | receive =>
        rw [hstep]
        exact rowsFresh_receive hlog hs
      | cycle rowsOf =>
        obtain ⟨hq, hdec, rfl⟩ := hstep
        exact rowsFresh_cycle hq (snapshotKeys_take hsnapshot _) (orderKeys_take horder _) hdec hallowed hs
  refine ⟨⟨fun k r hk hr => (hfresh.robots k hk r hr).1, fun k r hk hr => (hfresh.orders k hk r hr).1,
    fun k r hk hr => (hfresh.instantActions k hk r hr).1⟩, ?_⟩
  rintro rowsOf s' hallowed ⟨hq, hdec, rfl⟩
  exact timesCurrent_cycle hq (snapshotKeys_take hsnapshot _) hdec hallowed s.db

/-! ### A factsheet and a later connection -/

def onlineEvent : Vda5050Event :=
  insertEvent "connection" "acme.7" ⟨"uagv", "v3", "acme", "7"⟩ "uplink" acmeOnline.headerId acmeOnline.version
    acmeOnline.timestamp onlineText.2.1

def offlineEvent : Vda5050Event :=
  insertEvent "connection" "acme.7" ⟨"uagv", "v3", "acme", "7"⟩ "uplink" acmeOffline.headerId acmeOffline.version
    acmeOffline.timestamp offlineText.2.1

def factsheetEvent : Vda5050Event :=
  insertEvent "factsheet" "acme.7" ⟨"uagv", "v3", "acme", "7"⟩ "uplink" 0 "" "" "\x7b\x7d"

/-- A robot goes online. -/
def onlineLog : EventLog := EventLog.empty.insert "2026-01-01T00:00:05Z" onlineEvent

/-- The read model after a cycle. -/
def onlineDb : ReadModel := cycle onlineLog.findLatestByTopic .empty

/-- The robot goes offline again. -/
def offlineLog : EventLog := onlineLog.insert "2026-01-01T01:00:00Z" offlineEvent

/-- A robot sends its factsheet and goes online five seconds later. -/
def staleLog : EventLog :=
  (EventLog.empty.insert "2026-01-01T00:00:00Z" factsheetEvent).insert "2026-01-01T00:00:05Z" onlineEvent

/-- Logs that hold nothing but factsheets and decodable connection messages of robots. -/
private structure OnlineEvents (log : EventLog) : Prop where
  itemId : ∀ e ∈ log.events, e.itemId = e.robotId
  topic : ∀ e ∈ log.events, e.topic = "factsheet" ∨
    e.topic = "connection" ∧ e.payload ∈ [onlineText.2.1, offlineText.2.1]

omit [JsonLibrary] in
private theorem OnlineEvents.topic_ne {log : EventLog} (h : OnlineEvents log) {e : Vda5050Event}
    (he : e ∈ log.events) : e.topic ≠ StateProjector.topic ∧ e.topic ≠ OrderProjector.topic := by
  rcases h.topic e he with ht | ⟨ht, -⟩ <;> rw [ht] <;> exact ⟨by decide, by decide⟩

omit [JsonLibrary] in
private theorem OnlineEvents.newestDecode {log : EventLog} (h : OnlineEvents log) :
    letI := JsonLibrary.ofTexts connectionTexts
    NewestDecode log := by
  let lib := JsonLibrary.ofTexts connectionTexts
  constructor
  · intro k e he
    obtain ⟨hmem, ht, -⟩ := EventLog.mem_of_newest he
    rcases h.topic e hmem with ht' | ⟨-, hpayload⟩
    · exact absurd (ht.symm.trans ht') (by decide)
    · simp only [List.mem_cons, List.not_mem_nil, or_false] at hpayload
      rcases hpayload with hpayload | hpayload
      · exact ⟨acmeOnline, hpayload ▸ decode_acme.1⟩
      · exact ⟨acmeOffline, hpayload ▸ decode_acme.2⟩
  · intro k e he
    obtain ⟨hmem, ht, -⟩ := EventLog.mem_of_newest he
    exact absurd ht (h.topic_ne hmem).1
  · intro k e he
    obtain ⟨hmem, ht, -⟩ := EventLog.mem_of_newest he
    exact absurd ht (h.topic_ne hmem).2

omit [JsonLibrary] in
theorem mem_offlineLog {e : Vda5050Event} (he : e ∈ offlineLog.events) :
    e = { onlineEvent with id := 1, receivedAt := "2026-01-01T00:00:05Z" } ∨
      e = { offlineEvent with id := 2, receivedAt := "2026-01-01T01:00:00Z" } := by
  simpa [offlineLog, onlineLog, EventLog.insert, EventLog.empty, EventLog.lastId] using he

omit [JsonLibrary] in
private theorem onlineEvents_offlineLog (n : Nat) : OnlineEvents (offlineLog.take n) where
  itemId e he := by rcases mem_offlineLog (EventLog.mem_of_mem_take he) with rfl | rfl <;> rfl
  topic e he := by
    rcases mem_offlineLog (EventLog.mem_of_mem_take he) with rfl | rfl
    · exact .inr ⟨rfl, by simp [onlineEvent, insertEvent]⟩
    · exact .inr ⟨rfl, by simp [offlineEvent, insertEvent]⟩

omit [JsonLibrary] in
private theorem findLatestByTopic_offlineLog (n : Nat) {topic : String} (htopic : topic ≠ "connection") :
    (offlineLog.take n).findLatestByTopic topic = [] := by
  refine List.eq_nil_iff_forall_not_mem.2 fun e he => htopic ?_
  obtain ⟨hmem, ht, -⟩ := EventLog.mem_of_newest (EventLog.mem_findLatestByTopic.1 he)
  rw [← ht]
  rcases mem_offlineLog (EventLog.mem_of_mem_take hmem) with rfl | rfl <;> rfl

omit [JsonLibrary] in
/-- The connection is the only event that is projected into the row of the robot, so it is the latest one. -/
private theorem latestLast_offlineLog (n : Nat) :
    letI := JsonLibrary.ofTexts connectionTexts
    LatestLast (offlineLog.take n) (offlineLog.take n).findLatestByTopic := by
  let lib := JsonLibrary.ofTexts connectionTexts
  refine ⟨fun k t ht => ⟨List.mem_of_getLast? ht, ?_⟩, fun k => ?_⟩
  · have htime : ∀ t ∈ newestTimes (offlineLog.take n) robotTopics k,
        ((offlineLog.take n).newest "connection" k).map Vda5050Event.receivedAt = some t := by
      intro t ht
      obtain ⟨topic, -, hnewest⟩ := List.mem_filterMap.1 ht
      obtain ⟨e, he, -⟩ := Option.map_eq_some_iff.1 hnewest
      obtain ⟨hmem, htopic, -⟩ := EventLog.mem_of_newest he
      rw [← hnewest, ← htopic]
      rcases mem_offlineLog (EventLog.mem_of_mem_take hmem) with rfl | rfl <;> rfl
    intro t' ht'
    exact le_of_eq (Option.some.inj ((htime t' ht').symm.trans (htime t (List.mem_of_getLast? ht))))
  · have htimes : actionTimes (offlineLog.take n).findLatestByTopic k = [] := by
      rw [actionTimes, actionStatements, instantActionsStatements, findLatestByTopic_offlineLog n (by decide),
        findLatestByTopic_offlineLog n (by decide)]
      rfl
    rw [htimes]
    exact ⟨fun t ht => by simp at ht, fun t ht => by simp at ht⟩

omit [JsonLibrary] in
/-- The robot goes online and offline again, with a cycle after each. -/
theorem stamps_offlineLog :
    letI := JsonLibrary.ofTexts connectionTexts
    CreatedFirst .empty (cycle offlineLog.findLatestByTopic onlineDb) ∧
      TimesCurrent offlineLog offlineLog.findLatestByTopic (cycle offlineLog.findLatestByTopic onlineDb) := by
  let lib := JsonLibrary.ofTexts connectionTexts
  have hlog : offlineLog.Chronological := by
    intro e he e' he' hid
    rcases mem_offlineLog he with rfl | rfl <;> rcases mem_offlineLog he' with rfl | rfl
    · exact le_refl _
    · decide
    · simp at hid
    · exact le_refl _
  have hsnapshot : SnapshotKeys offlineLog := fun e he _ => (onlineEvents_offlineLog 2).itemId e he
  have horder : OrderKeys offlineLog := fun e he ht => absurd ht ((onlineEvents_offlineLog 2).topic_ne he).2
  have hstep : ∀ n (db : ReadModel), (schedule offlineLog .empty).step ⟨n, db⟩
      (.cycle (offlineLog.take n).findLatestByTopic) ⟨n, cycle (offlineLog.take n).findLatestByTopic db⟩ := fun n db =>
    ⟨fun _ => List.Perm.refl _, (onlineEvents_offlineLog n).newestDecode, rfl⟩
  have hlatest : ∀ n (db : ReadModel),
      LatestLastStep offlineLog ⟨n, db⟩ (.cycle (offlineLog.take n).findLatestByTopic) := fun n _ =>
    latestLast_offlineLog n
  have hreceive : ∀ n (db : ReadModel), (schedule offlineLog .empty).step ⟨n, db⟩ .receive ⟨n + 1, db⟩ :=
    fun _ _ => rfl
  have hstart : (schedule offlineLog .empty).Reach (LatestLastStep offlineLog) ⟨0, .empty⟩ := .init rfl
  have hreceived : (schedule offlineLog .empty).Reach (LatestLastStep offlineLog) ⟨1, .empty⟩ :=
    hstart.step (a := .receive) trivial (hreceive 0 _)
  have hcycled : (schedule offlineLog .empty).Reach (LatestLastStep offlineLog) ⟨1, onlineDb⟩ :=
    hreceived.step (hlatest 1 _) (hstep 1 _)
  have hagain : (schedule offlineLog .empty).Reach (LatestLastStep offlineLog) ⟨2, onlineDb⟩ :=
    hcycled.step (a := .receive) trivial (hreceive 1 _)
  have htake : offlineLog.take 2 = offlineLog := EventLog.take_length offlineLog
  have hlast := hlatest 2 onlineDb
  have hcycle := hstep 2 onlineDb
  rw [htake] at hlast hcycle
  have hcreated := (stamps_of_reach hlog hsnapshot horder (hagain.step hlast hcycle)).1
  have hcurrent := (stamps_of_reach hlog hsnapshot horder hagain).2 _ _ hlast hcycle
  rw [htake] at hcurrent
  dsimp only at hcreated hcurrent
  exact ⟨hcreated, hcurrent⟩

omit [JsonLibrary] in
private theorem mem_staleLog {e : Vda5050Event} (he : e ∈ staleLog.events) :
    e = { factsheetEvent with id := 1, receivedAt := "2026-01-01T00:00:00Z" } ∨
      e = { onlineEvent with id := 2, receivedAt := "2026-01-01T00:00:05Z" } := by
  simpa [staleLog, EventLog.insert, EventLog.empty, EventLog.lastId] using he

omit [JsonLibrary] in
private theorem onlineEvents_staleLog : OnlineEvents staleLog where
  itemId e he := by rcases mem_staleLog he with rfl | rfl <;> rfl
  topic e he := by
    rcases mem_staleLog he with rfl | rfl
    · exact .inl rfl
    · exact .inr ⟨rfl, by simp [onlineEvent, insertEvent]⟩

omit [JsonLibrary] in
/-- The factsheet is projected after the connection, and its older time stays. -/
theorem not_timesCurrent_of_older_factsheet :
    ¬ ∀ [JsonLibrary] (log : EventLog) (db₀ : ReadModel) (s : Progress) (rowsOf : String → List Vda5050Event)
      (s' : Progress), log.Chronological → SnapshotKeys log → OrderKeys log → (schedule log db₀).Reachable s →
      (schedule log db₀).step s (.cycle rowsOf) s' → TimesCurrent (log.take s.seen) rowsOf s'.db := by
  intro h
  let lib := JsonLibrary.ofTexts connectionTexts
  have hlog : staleLog.Chronological := by
    intro e he e' he' hid
    rcases mem_staleLog he with rfl | rfl <;> rcases mem_staleLog he' with rfl | rfl
    · exact le_refl _
    · decide
    · simp at hid
    · exact le_refl _
  have hsnapshot : SnapshotKeys staleLog := fun e he _ => onlineEvents_staleLog.itemId e he
  have horder : OrderKeys staleLog := fun e he ht => absurd ht (onlineEvents_staleLog.topic_ne he).2
  have hdec : NewestDecode staleLog := onlineEvents_staleLog.newestDecode
  have hreach : (schedule staleLog .empty).Reachable ⟨2, .empty⟩ := by
    have hstart : (schedule staleLog .empty).Reachable ⟨0, .empty⟩ := .init rfl
    have hfirst : (schedule staleLog .empty).Reachable ⟨1, .empty⟩ := hstart.step (a := .receive) trivial rfl
    exact hfirst.step (a := .receive) trivial rfl
  have hq : IsQueryResult staleLog staleLog.findLatestByTopic := fun _ => List.Perm.refl _
  have htimes : newestTimes staleLog robotTopics "acme.7" = ["2026-01-01T00:00:05Z", "2026-01-01T00:00:00Z"] := rfl
  have htake : staleLog.take 2 = staleLog := EventLog.take_length staleLog
  have hcycle : (schedule staleLog .empty).step ⟨2, .empty⟩ (.cycle staleLog.findLatestByTopic)
      ⟨2, cycle staleLog.findLatestByTopic .empty⟩ := ⟨htake.symm ▸ hq, htake.symm ▸ hdec, rfl⟩
  have hcurrent := h staleLog .empty ⟨2, .empty⟩ staleLog.findLatestByTopic _ hlog hsnapshot horder hreach hcycle
  rw [htake] at hcurrent
  obtain ⟨r, hr, hgreatest⟩ := hcurrent.robots "acme.7" (by simp [htimes])
  have hlast : r.lastUpdatedAt = "2026-01-01T00:00:00Z" := by
    rw [find?_cycle_robots hq hsnapshot] at hr
    refine updated_runRow stamps_robotStatements hr ?_
    rw [times, List.map_map]
    exact congrArg List.getLast? ((map_time_robotStatements hdec "acme.7").trans htimes)
  have hle : "2026-01-01T00:00:05Z" ≤ r.lastUpdatedAt := hgreatest.2 (by simp [htimes])
  rw [hlast] at hle
  exact absurd hle (by decide)

end SyriusOrbit.Projection

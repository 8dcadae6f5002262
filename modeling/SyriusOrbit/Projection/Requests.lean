import SyriusOrbit.Projection.ActionTopic
import SyriusOrbit.Projection.Timestamps

/-!
# Responses to different robots

Responses are recorded and projected under the id of their request alone, and the table of instant actions has one
row for it.  With the rows in the order of their ids each robot finds its newest responses in the table, whatever the
other robots were sent, if and only if no request id is used for two robots (`ownResponses_iff`).
-/

namespace SyriusOrbit

open JsonFormat Vda5050 Db Sql

namespace Db.EventLog

/-- The log without the events of a robot. -/
def without (log : EventLog) (robot : String) : EventLog :=
  ⟨log.events.filter fun e => e.robotId != robot, log.increasing.sublist List.filter_sublist⟩

private theorem newest_without {log : EventLog} {robot topic item : String}
    (h : ∀ e ∈ log.group topic item, e.robotId ≠ robot) :
    (log.without robot).newest topic item = log.newest topic item := by
  have hgroup : (log.without robot).group topic item = (log.group topic item).filter fun e => e.robotId != robot := by
    unfold without group
    rw [List.filter_filter, List.filter_filter]
    exact List.filter_congr fun e _ => Bool.and_comm _ _
  rw [newest, hgroup, List.filter_eq_self.2 fun e he => by simpa using h e he]
  rfl

/-- Where items are not shared with the robot, the query returns the other rows as before. -/
private theorem findLatestByTopic_without {log : EventLog} {robot topic : String}
    (h : ∀ e ∈ log.events, e.topic = topic → e.robotId ≠ robot →
      ∀ e' ∈ log.group topic e.itemId, e'.robotId ≠ robot) :
    (log.without robot).findLatestByTopic topic =
      (log.findLatestByTopic topic).filter fun e => e.robotId != robot := by
  have hmem : ∀ e, e ∈ (log.without robot).findLatestByTopic topic ↔
      e ∈ (log.findLatestByTopic topic).filter fun e => e.robotId != robot := by
    intro e
    rw [List.mem_filter, mem_findLatestByTopic, mem_findLatestByTopic]
    constructor
    · intro he
      obtain ⟨hmem, htopic, -⟩ := mem_of_newest he
      obtain ⟨hmem, hne⟩ := List.mem_filter.1 hmem
      rw [newest_without (h e hmem htopic (by simpa using hne))] at he
      exact ⟨he, hne⟩
    · rintro ⟨he, hne⟩
      obtain ⟨hmem, htopic, -⟩ := mem_of_newest he
      rwa [newest_without (h e hmem htopic (by simpa using hne))]
  -- both lists are in the order of their ids
  have hsorted := (log.without robot).increasing_findLatestByTopic topic
  have hsorted' := (log.increasing_findLatestByTopic topic).filter fun e => e.robotId != robot
  have hperm := (List.perm_ext_iff_of_nodup (hsorted.imp fun h heq => by simp [heq] at h)
    (hsorted'.imp fun h heq => by simp [heq] at h)).2 hmem
  exact hperm.eq_of_pairwise (fun e e' _ _ hlt hgt => absurd hlt (by omega)) hsorted hsorted'

end Db.EventLog

variable [JsonLibrary]

namespace Projection

/-- The newest message to a robot that answers the request. -/
def newestTo (robot : String) (ds : List Dispatched) (k : String) : Option Dispatched :=
  Feed.newest Dispatched.grants (ds.filter fun d => decide (robotId d.context = robot)) k

/-- The read model after a complete cycle from an empty one, with the rows in the order of their ids. -/
def projected (log : EventLog) : ReadModel := cycle log.findLatestByTopic .empty

/-- Each request has a row with the newest response to each robot, and the row is the same without the events of
another robot. -/
structure OwnResponses (clock : Nat → String) (ds : List Dispatched) : Prop where
  status : ∀ robot k d, newestTo robot ds k = some d →
    ∃ r, (projected (recordAll clock .empty ds)).instantActions.find? k = some r ∧ r.robotId = robot ∧
      Feed.lastValue k d.grants = some r.actionStatus
  independent : ∀ robot other, robot ≠ other → ∀ k d, newestTo robot ds k = some d →
    (projected ((recordAll clock .empty ds).without other)).instantActions.find? k =
      (projected (recordAll clock .empty ds)).instantActions.find? k

/-- No request id is used for two robots. -/
def NoSharedRequest (ds : List Dispatched) : Prop :=
  ∀ d ∈ ds, ∀ d' ∈ ds, ∀ k v v', (k, v) ∈ d.grants → (k, v') ∈ d'.grants → robotId d.context = robotId d'.context

/-! ### The statements for a request -/

/-- A statement for a request comes from a message that answers it. -/
private theorem grant_of_mem_statements {d : Dispatched} (hparse : ParsesBack (json d.message)) {e : Vda5050Event}
    (he : RecordedFor d e) (htopic : e.topic = recordedTopic .responses) {s : InstantActionsStatement}
    (hs : s ∈ ResponsesProjector.statements e) : ∃ v, (s.row.actionId, v) ∈ d.grants := by
  obtain ⟨response, rfl⟩ := ResponsesProjector.eq_of_mem_statements hs
  rw [← assigns_responses hparse he htopic]
  exact ⟨_, List.mem_filterMap.2 ⟨_, hs, rfl⟩⟩

private theorem exists_grant_of_recordedFor {d : Dispatched} {e : Vda5050Event} (he : RecordedFor d e)
    (htopic : e.topic = recordedTopic .responses) : ∃ v, (e.itemId, v) ∈ d.grants := by
  obtain ⟨e₀, he₀, id, now, rfl⟩ := he
  obtain ⟨v, hv⟩ := (exists_event_iff_grant d e₀.itemId).1 ⟨e₀, he₀, htopic, rfl⟩
  exact ⟨v, Feed.mem_of_lastValue hv⟩

private theorem exists_dispatched_of_mem {clock : Nat → String} {ds : List Dispatched} {e : Vda5050Event}
    (he : e ∈ (recordAll clock .empty ds).events) : ∃ d ∈ ds, RecordedFor d e ∧ e.robotId = robotId d.context := by
  rcases mem_recordAll he with he | ⟨d, hd, e₀, he₀, id, now, rfl⟩
  · exact absurd he List.not_mem_nil
  · exact ⟨d, hd, ⟨e₀, he₀, id, now, rfl⟩, (topic_of_mem_recordedEvents he₀).2⟩

/-- The statements for a request come from events of the only robot that it is used for. -/
private theorem robot_of_mem_statements {clock : Nat → String} {ds : List Dispatched}
    (hparse : ∀ d ∈ ds, ParsesBack (json d.message)) (h : NoSharedRequest ds) {d : Dispatched} (hd : d ∈ ds)
    {k v : String} (hv : (k, v) ∈ d.grants) {e : Vda5050Event} (he : e ∈ (recordAll clock .empty ds).events)
    (htopic : e.topic = recordedTopic .responses) {s : InstantActionsStatement}
    (hs : s ∈ ResponsesProjector.statements e) (hkey : s.row.actionId = k) : e.robotId = robotId d.context := by
  obtain ⟨d', hd', hfor, hrobot⟩ := exists_dispatched_of_mem he
  obtain ⟨v', hv'⟩ := grant_of_mem_statements (hparse d' hd') hfor htopic hs
  rw [hkey] at hv'
  rw [hrobot]
  exact h d' hd' d hd k v' v hv' hv

/-! ### The status of a request -/

/-- In the order of ids the response of the newest message with a request stays. -/
private theorem lastValue_assigns (clock : Nat → String) {ds : List Dispatched}
    (hparse : ∀ d ∈ ds, ParsesBack (json d.message)) {k : String} {d : Dispatched}
    (hd : Feed.newest Dispatched.grants ds k = some d) :
    Feed.lastValue k (((recordAll clock .empty ds).findLatestByTopic (recordedTopic .responses)).flatMap
      (assigns ResponsesProjector.statements InstantActionsStatement.actionStatus?)) = Feed.lastValue k d.grants := by
  obtain ⟨e, he, hfor⟩ := (newest_recordAll exists_event_iff_grant clock ds k).1 d hd
  obtain ⟨hmem, htopic, hitem⟩ := EventLog.mem_of_newest he
  have hrow : e ∈ (recordAll clock .empty ds).findLatestByTopic (recordedTopic .responses) := by
    rw [EventLog.mem_findLatestByTopic, hitem]
    exact he
  have hsorted := (recordAll clock .empty ds).increasing_findLatestByTopic (recordedTopic .responses)
  have hsub : ∀ e' ∈ (recordAll clock .empty ds).findLatestByTopic (recordedTopic .responses),
      e' ∈ (recordAll clock .empty ds).events ∧ e'.topic = recordedTopic .responses := by
    intro e' he'
    have hnewest := EventLog.mem_of_newest (EventLog.mem_findLatestByTopic.1 he')
    exact ⟨hnewest.1, hnewest.2.1⟩
  obtain ⟨before, after, hsplit⟩ := List.append_of_mem hrow
  rw [hsplit] at hsorted hsub ⊢
  obtain ⟨hd', v, hv⟩ := Feed.mem_of_newest hd
  have hassigns := assigns_responses (hparse d hd') hfor htopic
  -- the rows from the newest event of the request on belong to its message or do not have the request
  have hlast : Feed.lastValue k ((e :: after).flatMap
      (assigns ResponsesProjector.statements InstantActionsStatement.actionStatus?)) = some v := by
    refine Feed.lastValue_flatMap_eq (fun e' he' v' hv' => ?_) ⟨e, List.mem_cons_self, by rw [hassigns, hv]⟩
    have hle : e.id ≤ e'.id := by
      rcases List.mem_cons.1 he' with rfl | he'
      · exact le_refl _
      · have hpairwise := (List.pairwise_append.1 hsorted).2.1
        exact (List.rel_of_pairwise_cons hpairwise he').le
    obtain ⟨hmem', htopic'⟩ := hsub e' (List.mem_append_right _ he')
    obtain ⟨d₁, hd₁, hfor₁, hnewest⟩ := recordedFor_of_newest_le exists_event_iff_grant clock he hmem' hle
    rw [assigns_responses (hparse d₁ hd₁) hfor₁ htopic'] at hv'
    rcases hnewest with hnewest | hnone
    · rw [Option.some.inj (hnewest.symm.trans hd), hv] at hv'
      exact (Option.some.inj hv').symm
    · rw [hnone] at hv'
      cases hv'
  rw [List.flatMap_append, Feed.lastValue_append, hlast, hv]
  rfl

private theorem mem_actionStatements {clock : Nat → String} {ds : List Dispatched} {k : String}
    {s : InstantActionsStatement}
    (hs : s ∈ actionStatements (recordAll clock .empty ds).findLatestByTopic k) :
    s.row.actionId = k ∧ ∃ e ∈ (recordAll clock .empty ds).events, e.topic = recordedTopic .responses ∧
      s ∈ ResponsesProjector.statements e := by
  obtain ⟨hs, hkey⟩ := List.mem_filter.1 hs
  rw [instantActionsStatements_recordAll fun _ => List.Perm.refl _] at hs
  obtain ⟨e, he, hs⟩ := List.mem_flatMap.1 hs
  obtain ⟨hmem, htopic, -⟩ := EventLog.mem_of_newest (EventLog.mem_findLatestByTopic.1 he)
  exact ⟨of_decide_eq_true hkey, e, hmem, htopic, hs⟩

theorem status_of_noSharedRequest (clock : Nat → String) {ds : List Dispatched}
    (hparse : ∀ d ∈ ds, ParsesBack (json d.message)) (h : NoSharedRequest ds) {robot k : String} {d : Dispatched}
    (hd : newestTo robot ds k = some d) :
    ∃ r, (projected (recordAll clock .empty ds)).instantActions.find? k = some r ∧ r.robotId = robot ∧
      Feed.lastValue k d.grants = some r.actionStatus := by
  obtain ⟨hmem, v, hv⟩ := Feed.mem_of_newest hd
  obtain ⟨hmem, hrobot⟩ := List.mem_filter.1 hmem
  have hrobot : robotId d.context = robot := of_decide_eq_true hrobot
  have hgrant := Feed.mem_of_lastValue hv
  -- only this robot was sent responses to the request
  have hnewest : Feed.newest Dispatched.grants ds k = some d := by
    rw [← hd, newestTo, Feed.newest_filter]
    intro d' hd' v' hv'
    have hsame := h d' hd' d hmem k v' v (Feed.mem_of_lastValue hv') hgrant
    exact decide_eq_true (hsame.trans hrobot)
  have hlast := lastValue_assigns clock hparse hnewest
  rw [hv] at hlast
  obtain ⟨r, hr, hstatus⟩ := exists_row_of_lastValue (c := InstantAction.actionStatus) [] (by simp)
    (fun s _ => s.writes_actionStatus) ReadModel.empty.instantActions hlast
  have hrow : (projected (recordAll clock .empty ds)).instantActions.find? k = some r := by
    rw [projected, cycle_instantActions, instantActionsStatements_recordAll fun _ => List.Perm.refl _]
    exact hr
  refine ⟨r, hrow, ?_, by rw [hv, hstatus]⟩
  -- the robot of the row is that of the statement that inserted it
  have hnone : ReadModel.empty.instantActions.find? k = none := rfl
  rw [projected, find?_cycle_instantActions, hnone] at hrow
  have hsets : ∀ u ∈ (actionStatements (recordAll clock .empty ds).findLatestByTopic k).map
      InstantActionsStatement.sql, ∀ r, (u.set r).robotId = r.robotId := by
    intro u hu r
    obtain ⟨s, hs, rfl⟩ := List.mem_map.1 hu
    obtain ⟨-, e, -, -, hs⟩ := mem_actionStatements hs
    obtain ⟨response, rfl⟩ := ResponsesProjector.eq_of_mem_statements hs
    rfl
  have hkeeps := map_runRow_of_keeps hsets none
  rw [hrow] at hkeeps
  cases hfirst : (actionStatements (recordAll clock .empty ds).findLatestByTopic k).head? with
  | none => simp [hfirst] at hkeeps
  | some s =>
    obtain ⟨hkey, e, he, htopic, hs⟩ := mem_actionStatements (List.mem_of_mem_head? hfirst)
    have hrowRobot : r.robotId = s.row.robotId := by
      rw [List.head?_map, hfirst] at hkeeps
      exact Option.some.inj hkeeps
    have hevent : s.row.robotId = e.robotId := by
      obtain ⟨response, rfl⟩ := ResponsesProjector.eq_of_mem_statements hs
      rfl
    rw [hrowRobot, hevent, robot_of_mem_statements hparse h hmem hgrant he htopic hs hkey, hrobot]

/-! ### The events of another robot -/

omit [JsonLibrary] in
private theorem flatMap_filter_of_nil {α β : Type} {f : α → List β} {p : α → Bool} {as : List α}
    (h : ∀ a ∈ as, p a = false → f a = []) : (as.filter p).flatMap f = as.flatMap f := by
  induction as with
  | nil => rfl
  | cons a as ih =>
    have htail := ih fun b hb => h b (List.mem_cons_of_mem a hb)
    cases hp : p a with
    | true => rw [List.filter_cons_of_pos hp, List.flatMap_cons, List.flatMap_cons, htail]
    | false =>
      rw [List.filter_cons_of_neg (by simp [hp]), htail, List.flatMap_cons, h a List.mem_cons_self hp, List.nil_append]

private theorem actionStatements_without (clock : Nat → String) {ds : List Dispatched}
    (hparse : ∀ d ∈ ds, ParsesBack (json d.message)) (h : NoSharedRequest ds) {other k v : String} {d : Dispatched}
    (hd : d ∈ ds) (hv : (k, v) ∈ d.grants) (hne : robotId d.context ≠ other) :
    actionStatements ((recordAll clock .empty ds).without other).findLatestByTopic k =
      actionStatements (recordAll clock .empty ds).findLatestByTopic k := by
  have hrows : ((recordAll clock .empty ds).without other).findLatestByTopic (recordedTopic .responses) =
      ((recordAll clock .empty ds).findLatestByTopic (recordedTopic .responses)).filter
        fun e => e.robotId != other := by
    refine EventLog.findLatestByTopic_without fun e he htopic hrobot e' he' => ?_
    obtain ⟨he', htopic', hitem'⟩ := EventLog.mem_group.1 he'
    obtain ⟨d₁, hd₁, hfor₁, hrobot₁⟩ := exists_dispatched_of_mem he
    obtain ⟨d₂, hd₂, hfor₂, hrobot₂⟩ := exists_dispatched_of_mem he'
    obtain ⟨v₁, hv₁⟩ := exists_grant_of_recordedFor hfor₁ htopic
    obtain ⟨v₂, hv₂⟩ := exists_grant_of_recordedFor hfor₂ htopic'
    rw [hitem'] at hv₂
    rw [hrobot₂, h d₂ hd₂ d₁ hd₁ e.itemId v₂ v₁ hv₂ hv₁, ← hrobot₁]
    exact hrobot
  have hnone : ((recordAll clock .empty ds).without other).findLatestByTopic InstantActionsProjector.topic = [] := by
    rw [EventLog.findLatestByTopic_without fun e he htopic => absurd htopic (topic_ne_of_mem_recordAll he),
      rowsOf_instantActions fun _ => List.Perm.refl _]
    rfl
  have hstatements : instantActionsStatements ((recordAll clock .empty ds).without other).findLatestByTopic =
      (((recordAll clock .empty ds).findLatestByTopic (recordedTopic .responses)).filter
        fun e => e.robotId != other).flatMap ResponsesProjector.statements := by
    rw [instantActionsStatements, hnone, ← hrows]
    rfl
  rw [actionStatements, actionStatements, hstatements, instantActionsStatements_recordAll fun _ => List.Perm.refl _,
    List.filter_flatMap, List.filter_flatMap]
  refine flatMap_filter_of_nil fun e he hother => ?_
  -- the events that are left out say nothing about the request
  rw [List.filter_eq_nil_iff]
  intro s hs hkey
  obtain ⟨hmem, htopic, -⟩ := EventLog.mem_of_newest (EventLog.mem_findLatestByTopic.1 he)
  have hrobot := robot_of_mem_statements hparse h hd hv hmem htopic hs (of_decide_eq_true hkey)
  have heq : e.robotId = other := by simpa using hother
  exact hne (hrobot.symm.trans heq)

/-- Each robot finds its newest responses in the table, and independently of the other robots, if and only if no
request id is used for two robots. -/
theorem ownResponses_iff (clock : Nat → String) {ds : List Dispatched}
    (hparse : ∀ d ∈ ds, ParsesBack (json d.message)) : OwnResponses clock ds ↔ NoSharedRequest ds := by
  constructor
  · intro h d hd d' hd' k v v' hv hv'
    have hrow : ∀ d₀ ∈ ds, ∀ v₀, (k, v₀) ∈ d₀.grants →
        ∃ r, (projected (recordAll clock .empty ds)).instantActions.find? k = some r ∧
          r.robotId = robotId d₀.context := by
      intro d₀ hd₀ v₀ hv₀
      have hmem : d₀ ∈ ds.filter fun d => decide (robotId d.context = robotId d₀.context) :=
        List.mem_filter.2 ⟨hd₀, decide_eq_true rfl⟩
      obtain ⟨d₁, hd₁⟩ := Feed.exists_newest hmem hv₀
      obtain ⟨r, hr, hrobot, -⟩ := h.status _ k d₁ hd₁
      exact ⟨r, hr, hrobot⟩
    -- there is one row for the request, and it names one robot
    obtain ⟨r, hr, hrobot⟩ := hrow d hd v hv
    obtain ⟨r', hr', hrobot'⟩ := hrow d' hd' v' hv'
    rw [hr] at hr'
    rw [← hrobot, ← hrobot', Option.some.inj hr']
  · intro h
    refine ⟨fun robot k d hd => status_of_noSharedRequest clock hparse h hd, fun robot other hne k d hd => ?_⟩
    obtain ⟨hmem, v, hv⟩ := Feed.mem_of_newest hd
    obtain ⟨hmem, hrobot⟩ := List.mem_filter.1 hmem
    have hrobot : robotId d.context = robot := of_decide_eq_true hrobot
    rw [projected, projected, find?_cycle_instantActions, find?_cycle_instantActions,
      actionStatements_without clock hparse h hmem (Feed.mem_of_lastValue hv) (hrobot ▸ hne)]

/-! ### A request of two robots -/

/-- Another robot is granted the request `A`. -/
def grantedOther : Dispatched := ⟨⟨"uagv", "v3", "acme", "8"⟩, .responses, granted.message⟩

omit [JsonLibrary] in
/-- Two messages to one robot, and one to another. -/
theorem ownResponses_iff_granted :
    letI := JsonLibrary.ofTexts [queuedText, grantedText]
    let clock : Nat → String := fun _ => "2026-01-01T00:00:00Z"
    OwnResponses clock [queued, granted] ∧
      (OwnResponses clock [queued, granted, grantedOther] ↔ NoSharedRequest [queued, granted, grantedOther]) := by
  let lib := JsonLibrary.ofTexts [queuedText, grantedText]
  have hparse : ∀ d ∈ [queued, granted, grantedOther], ParsesBack (json d.message) := by
    intro d hd
    simp only [List.mem_cons, List.not_mem_nil, or_false] at hd
    rcases hd with rfl | rfl | rfl
    · exact parsesBack_overlap queued (by simp)
    · exact parsesBack_overlap granted (by simp)
    · exact parsesBack_overlap granted (by simp)
  have hshared : NoSharedRequest [queued, granted] := by
    intro d hd d' hd' k v v' _ _
    simp only [List.mem_cons, List.not_mem_nil, or_false] at hd hd'
    rcases hd with rfl | rfl <;> rcases hd' with rfl | rfl <;> rfl
  exact ⟨(ownResponses_iff _ parsesBack_overlap).2 hshared, ownResponses_iff _ hparse⟩

omit [JsonLibrary] in
/-- There is one row for `A`, and it names one of the two robots. -/
theorem not_ownResponses_of_shared_request :
    ¬ ∀ [JsonLibrary] (clock : Nat → String) (ds : List Dispatched), (∀ d ∈ ds, d.type = .responses) →
      (∀ d ∈ ds, ParsesBack (json d.message)) → OwnResponses clock ds := by
  intro h
  let lib := JsonLibrary.ofTexts [queuedText, grantedText]
  have htype : ∀ d ∈ [queued, grantedOther], d.type = .responses := by
    intro d hd
    simp only [List.mem_cons, List.not_mem_nil, or_false] at hd
    rcases hd with rfl | rfl <;> rfl
  have hparse : ∀ d ∈ [queued, grantedOther], ParsesBack (json d.message) := by
    intro d hd
    simp only [List.mem_cons, List.not_mem_nil, or_false] at hd
    rcases hd with rfl | rfl
    · exact parsesBack_overlap queued (by simp)
    · exact parsesBack_overlap granted (by simp)
  have hown := h (fun _ => "2026-01-01T00:00:00Z") [queued, grantedOther] htype hparse
  have hqueued : newestTo "acme.7" [queued, grantedOther] "A" = some queued := rfl
  have hgranted : newestTo "acme.8" [queued, grantedOther] "A" = some grantedOther := rfl
  obtain ⟨r, hr, hrobot, -⟩ := hown.status "acme.7" "A" queued hqueued
  obtain ⟨r', hr', hrobot', -⟩ := hown.status "acme.8" "A" grantedOther hgranted
  rw [hr] at hr'
  rw [← Option.some.inj hr', hrobot] at hrobot'
  exact absurd hrobot' (by decide)

end Projection

end SyriusOrbit

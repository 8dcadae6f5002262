import SyriusOrbit.Projection.Identity
import SyriusOrbit.Projection.Requests
import SyriusOrbit.Sql.History

/-!
# The domains of the status columns

No constraint of the schema says which values the status columns may have.  The projectors keep `connection_state`,
`operating_mode` and the status of orders to the values that the schema names.  The status of an instant action is
one of them if and only if no response is projected: a response writes its grant type to that column
(`statusDomains_iff`).
-/

namespace SyriusOrbit.Projection

open JsonFormat Vda5050 Db Sql

/-- The values that the schema lists for `orders.status`. -/
def orderStatuses : List String := ["QUEUED", "RUNNING", "SUCCEEDED", "FAILED", "CANCELED"]

/-- The values that the schema lists for `instant_actions.action_status`. -/
def actionStatuses : List String :=
  ["WAITING", "INITIALIZING", "RUNNING", "PAUSED", "RETRIABLE", "FINISHED", "FAILED"]

structure RobotDomains (r : Robot) : Prop where
  connectionState : ∃ c : ConnectionState, r.connectionState = JsonEnum.name c
  operatingMode : r.operatingMode = none ∨ ∃ m : OperatingMode, r.operatingMode = some (JsonEnum.name m)

/-- The status columns of all rows have values of their domains. -/
structure StatusDomains (db : ReadModel) : Prop where
  robots : ∀ r ∈ db.robots.rows, RobotDomains r
  orders : ∀ r ∈ db.orders.rows, r.status ∈ orderStatuses
  instantActions : ∀ r ∈ db.instantActions.rows, r.actionStatus ∈ actionStatuses

private theorem statusDomains_empty : StatusDomains .empty := ⟨by simp [ReadModel.empty, Table.empty],
  by simp [ReadModel.empty, Table.empty], by simp [ReadModel.empty, Table.empty]⟩

variable [JsonLibrary]

/-! ### The statements of the projectors -/

/-- A new row is offline and without a mode, and values are written by their names. -/
private theorem robotDomains_of_projectsRobot {topic : String} {e : Vda5050Event} {s : RobotsStatement}
    (h : ProjectsRobot topic e s) :
    RobotDomains s.sql.row ∧ ∀ r, RobotDomains r → RobotDomains (s.sql.set r) := by
  have hoffline : ∃ c : ConnectionState, "OFFLINE" = JsonEnum.name c := ⟨.offline, rfl⟩
  cases h with
  | connection m => exact ⟨⟨⟨_, rfl⟩, .inl rfl⟩, fun r hr => ⟨⟨_, rfl⟩, hr.operatingMode⟩⟩
  | state m => exact ⟨⟨hoffline, .inr ⟨_, rfl⟩⟩, fun r hr => ⟨hr.connectionState, .inr ⟨_, rfl⟩⟩⟩
  | factsheet => exact ⟨⟨hoffline, .inl rfl⟩, fun r hr => ⟨hr.connectionState, hr.operatingMode⟩⟩

private theorem robots_cycle {rowsOf : String → List Vda5050Event} {db : ReadModel}
    (h : ∀ r ∈ db.robots.rows, RobotDomains r) : ∀ r ∈ (cycle rowsOf db).robots.rows, RobotDomains r := by
  have hstatement : ∀ u ∈ (robotsStatements rowsOf).map RobotsStatement.sql,
      RobotDomains u.row ∧ ∀ r, RobotDomains r → RobotDomains (u.set r) := by
    intro u hu
    obtain ⟨s, hs, rfl⟩ := List.mem_map.1 hu
    obtain ⟨topic, e, -, hs⟩ := mem_robotsStatements.1 hs
    exact robotDomains_of_projectsRobot hs
  rw [cycle_robots]
  exact Table.forall_execAll (fun u hu => (hstatement u hu).1) (fun u hu => (hstatement u hu).2) h

/-- New orders are queued, and nothing is written to the status of an order. -/
private theorem orders_cycle {rowsOf : String → List Vda5050Event} {db : ReadModel}
    (h : ∀ r ∈ db.orders.rows, r.status ∈ orderStatuses) :
    ∀ r ∈ (cycle rowsOf db).orders.rows, r.status ∈ orderStatuses := by
  have hstatement : ∀ u ∈ (ordersStatements rowsOf).map OrdersStatement.sql,
      u.row.status = "QUEUED" ∧ ∀ r, (u.set r).status = r.status := by
    intro u hu
    obtain ⟨s, hs, rfl⟩ := List.mem_map.1 hu
    obtain ⟨e, -, m, -, rfl⟩ := mem_ordersStatements.1 hs
    exact ⟨rfl, fun _ => rfl⟩
  rw [cycle_orders]
  refine Table.forall_execAll (fun u hu => ?_) (fun u hu r hr => ?_) h
  · rw [(hstatement u hu).1]
    decide
  · rwa [(hstatement u hu).2 r]

/-- No decoded response is among the rows of the query. -/
def NoResponses (rowsOf : String → List Vda5050Event) : Prop :=
  ∀ e ∈ rowsOf ResponsesProjector.topic, ∀ m : Responses, decode e.payload = .ok m → m.responses = []

private theorem instantActions_cycle {rowsOf : String → List Vda5050Event} (hnone : NoResponses rowsOf) {db : ReadModel}
    (h : ∀ r ∈ db.instantActions.rows, r.actionStatus ∈ actionStatuses) :
    ∀ r ∈ (cycle rowsOf db).instantActions.rows, r.actionStatus ∈ actionStatuses := by
  have hstatement : ∀ u ∈ (instantActionsStatements rowsOf).map InstantActionsStatement.sql,
      u.row.actionStatus = "WAITING" ∧ ∀ r, (u.set r).actionStatus = r.actionStatus := by
    intro u hu
    obtain ⟨s, hs, rfl⟩ := List.mem_map.1 hu
    obtain ⟨topic, e, he, hs⟩ := mem_instantActionsStatements.1 hs
    cases hs with
    | action => exact ⟨rfl, fun _ => rfl⟩
    | response m htopic hm response hr =>
      rw [htopic] at he
      rw [hnone e he m hm] at hr
      cases hr
  rw [cycle_instantActions]
  refine Table.forall_execAll (fun u hu => ?_) (fun u hu r hr => ?_) h
  · rw [(hstatement u hu).1]
    decide
  · rwa [(hstatement u hu).2 r]

/-! ### Grants -/

/-- The status of the row is a grant type. -/
def Granted (r : InstantAction) : Prop := ∃ g : GrantType, r.actionStatus = JsonEnum.name g

omit [JsonLibrary] in
private theorem not_mem_actionStatuses {r : InstantAction} (h : Granted r) : r.actionStatus ∉ actionStatuses := by
  obtain ⟨g, hg⟩ := h
  rw [hg]
  cases g <;> decide

/-- No projector takes a grant back. -/
private theorem granted_set (rowsOf : String → List Vda5050Event) :
    ∀ u ∈ (instantActionsStatements rowsOf).map InstantActionsStatement.sql, ∀ r, Granted r → Granted (u.set r) := by
  intro u hu r hr
  obtain ⟨s, hs, rfl⟩ := List.mem_map.1 hu
  obtain ⟨topic, e, -, hs⟩ := mem_instantActionsStatements.1 hs
  cases hs with
  | action => exact hr
  | response m htopic hm response => exact ⟨response.grantType, rfl⟩

private theorem keeps_granted_cycle (rowsOf : String → List Vda5050Event) (db : ReadModel) :
    db.instantActions.Keeps (fun r r' => Granted r → Granted r') (cycle rowsOf db).instantActions := by
  rw [cycle_instantActions]
  exact Table.keeps_execAll (fun _ => id) (fun h h' hr => h' (h hr)) (granted_set rowsOf) _

private theorem keeps_granted_runPasses {log : EventLog} (passes : List (Pass log)) (db : ReadModel) :
    db.instantActions.Keeps (fun r r' => Granted r → Granted r') (runPasses passes db).instantActions := by
  unfold runPasses cycles
  induction passes generalizing db with
  | nil => exact .refl (fun _ => id) _
  | cons pass passes ih =>
    rw [List.map_cons, List.foldl_cons]
    exact (keeps_granted_cycle pass.rowsOf db).trans (fun h h' hr => h' (h hr)) (ih _)

/-- A response that is projected leaves a grant. -/
private theorem exists_granted_cycle {rowsOf : String → List Vda5050Event} {e : Vda5050Event}
    (he : e ∈ rowsOf ResponsesProjector.topic) {m : Responses} (hm : decode e.payload = .ok m) {response : Response}
    (hresponse : response ∈ m.responses) (db : ReadModel) :
    ∃ r, (cycle rowsOf db).instantActions.find? response.requestId = some r ∧ Granted r := by
  have hs : ResponsesProjector.upsertFromResponse e response ∈ instantActionsStatements rowsOf :=
    mem_instantActionsStatements.2 ⟨_, e, he, .response m rfl hm response hresponse⟩
  obtain ⟨before, after, hsplit⟩ := List.append_of_mem hs
  have hafter : ∀ u ∈ after.map InstantActionsStatement.sql, ∀ r, Granted r → Granted (u.set r) := by
    intro u hu
    refine granted_set rowsOf u ?_
    rw [hsplit, List.map_append, List.map_cons]
    exact List.mem_append_right _ (List.mem_cons_of_mem _ hu)
  rw [cycle_instantActions, hsplit, List.map_append, List.map_cons, Table.execAll_append]
  generalize db.instantActions.execAll (before.map InstantActionsStatement.sql) = t
  -- the row right after the response
  obtain ⟨r, hr, hgranted⟩ : ∃ r, (t.exec (ResponsesProjector.upsertFromResponse e response).sql).find?
      response.requestId = some r ∧ Granted r := by
    refine ⟨_, (Table.find?_exec t _ _).trans (if_pos rfl), response.grantType, ?_⟩
    cases t.find? response.requestId <;> rfl
  obtain ⟨r', hr', hkept⟩ := Table.keeps_execAll (R := fun r r' => Granted r → Granted r') (fun _ => id)
    (fun h h' hr => h' (h hr)) hafter _ _ r hr
  exact ⟨r', hr', hkept hgranted⟩

/-! ### Any number of cycles -/

private theorem statusDomains_runPasses {log : EventLog} {passes : List (Pass log)}
    (h : ∀ pass ∈ passes, NoResponses pass.rowsOf) {db : ReadModel} (hdb : StatusDomains db) :
    StatusDomains (runPasses passes db) := by
  unfold runPasses cycles
  induction passes generalizing db with
  | nil => exact hdb
  | cons pass passes ih =>
    have hpass := instantActions_cycle (h pass List.mem_cons_self) hdb.instantActions
    rw [List.map_cons, List.foldl_cons]
    exact ih (fun pass' hpass' => h pass' (List.mem_cons_of_mem pass hpass'))
      ⟨robots_cycle hdb.robots, orders_cycle hdb.orders, hpass⟩

/-- After any cycles at any prefixes of a log the status columns have values of their domains if and only if no
response was projected. -/
theorem statusDomains_iff {log : EventLog} (passes : List (Pass log)) :
    StatusDomains (runPasses passes .empty) ↔ ∀ pass ∈ passes, NoResponses pass.rowsOf := by
  refine ⟨fun h pass hpass e he m hm => ?_, fun h => statusDomains_runPasses h statusDomains_empty⟩
  by_contra hresponses
  obtain ⟨response, hresponse⟩ := List.exists_mem_of_ne_nil _ hresponses
  obtain ⟨before, after, rfl⟩ := List.append_of_mem hpass
  have hsplit : runPasses (before ++ pass :: after) .empty =
      runPasses after (cycle pass.rowsOf (runPasses before .empty)) := by
    simp [runPasses, cycles]
  obtain ⟨r, hr, hgranted⟩ := exists_granted_cycle he hm hresponse (runPasses before .empty)
  obtain ⟨r', hr', hkept⟩ := keeps_granted_runPasses after _ _ r hr
  rw [← hsplit] at hr'
  have hstatus := h.instantActions r' (Table.mem_of_find? hr').1
  exact not_mem_actionStatuses (hkept hgranted) hstatus

private theorem runPasses_whole (log : EventLog) : runPasses [Pass.whole log] .empty = projected log := rfl

omit [JsonLibrary] in
/-- A robot is granted its request, and one cycle is run. -/
theorem not_statusDomains_of_granted :
    ¬ ∀ [JsonLibrary] (log : EventLog) (passes : List (Pass log)), StatusDomains (runPasses passes .empty) := by
  intro h
  let lib := JsonLibrary.ofTexts [queuedText, grantedText]
  have hparse : ∀ d ∈ [granted], ParsesBack (json d.message) :=
    fun d hd => parsesBack_overlap d (List.mem_cons_of_mem _ hd)
  have hshared : NoSharedRequest [granted] := by
    intro d hd d' hd' _ _ _ _ _
    rw [List.mem_singleton.1 hd, List.mem_singleton.1 hd']
  have hnewest : newestTo "acme.7" [granted] "A" = some granted := rfl
  obtain ⟨r, hr, -, hstatus⟩ := status_of_noSharedRequest (fun _ => "2026-01-01T00:00:00Z") hparse hshared hnewest
  have hlast : Feed.lastValue "A" granted.grants = some "GRANTED" := rfl
  rw [hlast] at hstatus
  have hdomains := h (recordAll (fun _ => "2026-01-01T00:00:00Z") .empty [granted]) [Pass.whole _]
  rw [runPasses_whole] at hdomains
  have hdomain := hdomains.instantActions r (Table.mem_of_find? hr).1
  rw [← Option.some.inj hstatus] at hdomain
  exact absurd hdomain (by decide)

end SyriusOrbit.Projection

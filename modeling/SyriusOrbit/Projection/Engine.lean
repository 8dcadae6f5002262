import SyriusOrbit.Projection.Cycles
import SyriusOrbit.Projection.Timestamps
import SyriusOrbit.Feed.View
import Mathlib.Data.Prod.Lex

/-!
# The projection engine beside the recorder

The recorder inserts events without the lock of the database, also in the middle of a cycle, so that the queries of a
cycle see different logs; queries and statements may throw, and the process may be killed at any point and started
again.  What the tables `robots` and `orders` show are events of the log, one for each group of columns
(`Shows`), and an event that decodes is shown once it has been projected (`Shows.project`).
-/

namespace SyriusOrbit.Db

/-- The columns of `robots` that come from the robot, the time left out. -/
structure RobotColumns where
  connectionState : String
  stateColumns : StateColumns
  factsheet : Option String

def Robot.robotColumns (r : Robot) : RobotColumns := ⟨r.connectionState, r.stateColumns, r.factsheet⟩

/-- The columns of `robots` that the management can change, with the defaults of the schema. -/
structure RobotSettings where
  siteId : Option String := none
  displayName : Option String := none
  suspended : Bool := false
  archived : Bool := false

def Robot.settings (r : Robot) : RobotSettings := ⟨r.siteId, r.displayName, r.suspended, r.archived⟩

/-- The columns of `orders` that come from the order topic, the time left out. -/
structure OrderColumns where
  orderUpdateId : Int64
  orderDescription : Option String
  assignedRobotId : String
  nodes : String
  edges : String

def Order.orderColumns (r : Order) : OrderColumns :=
  ⟨r.orderUpdateId, r.orderDescription, r.assignedRobotId, r.nodes, r.edges⟩

/-- The columns of `orders` that the management can change, as they are in a projected row. -/
structure OrderSettings where
  status : String := "QUEUED"
  siteId : String := ""
  archived : Bool := false

def Order.settings (r : Order) : OrderSettings := ⟨r.status, r.siteId, r.archived⟩

end SyriusOrbit.Db

namespace SyriusOrbit.Projection

open JsonFormat Vda5050 Db Sql Transition

variable [JsonLibrary]

/-! ### The engine -/

/-- What the thread of `ProjectionEngine::run` is doing: it sleeps, is before the query of the next entry or at the end
of the cycle, or goes through the rows of an entry. -/
inductive Phase where
  | waiting
  | querying (entries : List Entry)
  | projecting (entry : Entry) (rows : List Vda5050Event) (entries : List Entry)

namespace Phase

/-- How far it is to the end of the cycle: the queries to come, and the rows of the last one. -/
def rank : Phase → Nat ×ₗ Nat
  | .waiting => toLex (0, 0)
  | .querying entries => toLex (2 * entries.length, 0)
  | .projecting _ rows entries => toLex (2 * entries.length + 1, rows.length)

omit [JsonLibrary] in
theorem rank_queried (entry : Entry) (rows : List Vda5050Event) (entries : List Entry) :
    (projecting entry rows entries).rank < (querying (entry :: entries)).rank :=
  Prod.Lex.toLex_lt_toLex.2 (.inl (by simp only [List.length_cons]; omega))

omit [JsonLibrary] in
theorem rank_projected (entry : Entry) (event : Vda5050Event) (rows : List Vda5050Event) (entries : List Entry) :
    (projecting entry rows entries).rank < (projecting entry (event :: rows) entries).rank :=
  Prod.Lex.toLex_lt_toLex.2 (.inr ⟨rfl, by simp⟩)

omit [JsonLibrary] in
theorem rank_advanced (entry : Entry) (rows : List Vda5050Event) (entries : List Entry) :
    (querying entries).rank < (projecting entry rows entries).rank :=
  Prod.Lex.toLex_lt_toLex.2 (.inl (by simp))

end Phase

/-- The two sides of the database, and the projection thread. -/
structure Engine where
  log : EventLog
  db : ReadModel
  phase : Phase := .waiting

inductive EngineAction where
  -- the threads of the recorder
  | insert (now : String) (event : Vda5050Event)
  -- the projection thread
  | wake
  | query (rows : List Vda5050Event)
  | queryThrows
  | project
  | projectThrows (executed : Nat)
  | next
  | finish
  -- the process is killed and started again
  | restart

/-- What `project` leaves behind if a statement throws when `executed` statements have been executed.  All projectors
but those of lists execute one statement. -/
def Entry.partially (entry : Entry) (executed : Nat) (event : Vda5050Event) (db : ReadModel) : ReadModel :=
  if entry.topic = InstantActionsProjector.topic then
    db.execInstantActions ((InstantActionsProjector.statements event).take executed)
  else if entry.topic = ResponsesProjector.topic then
    db.execInstantActions ((ResponsesProjector.statements event).take executed)
  else db

namespace Engine

/-- The steps.  Each statement is committed by itself, so that a killed process loses the phase only. -/
def step (s : Engine) : EngineAction → Option Engine
  | .insert now event => some { s with log := s.log.insert now event }
  | .wake =>
    match s.phase with
    | .waiting => some { s with phase := .querying projectors }
    | _ => none
  | .query rows =>
    match s.phase with
    | .querying (entry :: entries) =>
      if ¬rows.Perm (s.log.findLatestByTopic entry.topic) then none
      else some { s with phase := .projecting entry rows entries }
    | _ => none
  -- caught outside of the loop, which ends the cycle
  | .queryThrows =>
    match s.phase with
    | .querying (_ :: _) => some { s with phase := .waiting }
    | _ => none
  | .project =>
    match s.phase with
    | .projecting entry (event :: rows) entries =>
      some { s with db := (runOn (entry.project event) s.db).2, phase := .projecting entry rows entries }
    | _ => none
  -- caught inside of the loop, which goes on with the next row
  | .projectThrows executed =>
    match s.phase with
    | .projecting entry (event :: rows) entries =>
      some { s with db := entry.partially executed event s.db, phase := .projecting entry rows entries }
    | _ => none
  | .next =>
    match s.phase with
    | .projecting _ [] entries => some { s with phase := .querying entries }
    | _ => none
  | .finish =>
    match s.phase with
    | .querying [] => some { s with phase := .waiting }
    | _ => none
  | .restart => some { s with phase := .waiting }

def system (log₀ : EventLog) (db₀ : ReadModel) : System Engine EngineAction := .ofStep { log := log₀, db := db₀ } step

/-- The outcomes of the steps, each with its guard. -/
inductive Outcome (s : Engine) : EngineAction → Engine → Prop where
  | inserted (now : String) (event : Vda5050Event) :
    Outcome s (.insert now event) { s with log := s.log.insert now event }
  | woken (hphase : s.phase = .waiting) : Outcome s .wake { s with phase := .querying projectors }
  | queried {entry : Entry} {entries : List Entry} {rows : List Vda5050Event}
      (hphase : s.phase = .querying (entry :: entries)) (hrows : rows.Perm (s.log.findLatestByTopic entry.topic)) :
    Outcome s (.query rows) { s with phase := .projecting entry rows entries }
  | aborted {entry : Entry} {entries : List Entry} (hphase : s.phase = .querying (entry :: entries)) :
    Outcome s .queryThrows { s with phase := .waiting }
  | projected {entry : Entry} {event : Vda5050Event} {rows : List Vda5050Event} {entries : List Entry}
      (hphase : s.phase = .projecting entry (event :: rows) entries) :
    Outcome s .project
      { s with db := (runOn (entry.project event) s.db).2, phase := .projecting entry rows entries }
  | failed {entry : Entry} {event : Vda5050Event} {rows : List Vda5050Event} {entries : List Entry} {executed : Nat}
      (hphase : s.phase = .projecting entry (event :: rows) entries) :
    Outcome s (.projectThrows executed)
      { s with db := entry.partially executed event s.db, phase := .projecting entry rows entries }
  | advanced {entry : Entry} {entries : List Entry} (hphase : s.phase = .projecting entry [] entries) :
    Outcome s .next { s with phase := .querying entries }
  | finished (hphase : s.phase = .querying []) : Outcome s .finish { s with phase := .waiting }
  | restarted : Outcome s .restart { s with phase := .waiting }

theorem outcome_of_step {s s' : Engine} {a : EngineAction} (h : s.step a = some s') : Outcome s a s' := by
  cases a with
  | insert now event =>
    obtain rfl := Option.some.inj h
    exact .inserted now event
  | wake =>
    simp only [step] at h
    split at h
    · next hphase =>
      obtain rfl := Option.some.inj h
      exact .woken hphase
    · cases h
  | query rows =>
    simp only [step] at h
    split at h
    · next hphase =>
      obtain ⟨hrows, h⟩ := of_guard h
      obtain rfl := Option.some.inj h
      exact .queried hphase (not_not.1 hrows)
    · cases h
  | queryThrows =>
    simp only [step] at h
    split at h
    · next hphase =>
      obtain rfl := Option.some.inj h
      exact .aborted hphase
    · cases h
  | project =>
    simp only [step] at h
    split at h
    · next hphase =>
      obtain rfl := Option.some.inj h
      exact .projected hphase
    · cases h
  | projectThrows executed =>
    simp only [step] at h
    split at h
    · next hphase =>
      obtain rfl := Option.some.inj h
      exact .failed hphase
    · cases h
  | next =>
    simp only [step] at h
    split at h
    · next hphase =>
      obtain rfl := Option.some.inj h
      exact .advanced hphase
    · cases h
  | finish =>
    simp only [step] at h
    split at h
    · next hphase =>
      obtain rfl := Option.some.inj h
      exact .finished hphase
    · cases h
  | restart =>
    obtain rfl := Option.some.inj h
    exact .restarted

end Engine

/-- The log is only added to. -/
theorem log_grows_of_step {s s' : Engine} {a : EngineAction} (hs : s.step a = some s') :
    s.log.events <+: s'.log.events := by
  cases Engine.outcome_of_step hs with
  | inserted now event => exact List.prefix_append _ _
  | _ => exact List.prefix_rfl

theorem log_grows_of_reach {log₀ : EventLog} {db₀ : ReadModel} {s s' : Engine}
    (h : ((Engine.system log₀ db₀).startingAt s).Reachable s') :
    s.log.events <+: s'.log.events := by
  refine h.invariant (I := fun s' => s.log.events <+: s'.log.events) (fun t ht => ?_) fun t a t' _ hI _ hs => ?_
  · obtain rfl : t = s := ht
    exact List.prefix_rfl
  · exact hI.trans (log_grows_of_step hs)

/-! ### Cycles without failures -/

/-- The steps between the start of a cycle and its end, if nothing fails. -/
def CycleStep (_ : Engine) : EngineAction → Prop
  | .insert .. | .query _ | .project | .next => True
  | .wake | .queryThrows | .projectThrows _ | .finish | .restart => False

/-- A cycle from start to end in which nothing fails, with insertions in between. -/
def CompleteCycle (s s' : Engine) : Prop :=
  ∃ s₁ s₂, s.step .wake = some s₁ ∧ ((Engine.system s.log s.db).startingAt s₁).Reach CycleStep s₂ ∧
    s₂.step .finish = some s'

/-- The engine runs a cycle in which nothing fails and nothing is inserted. -/
structure QuietCycle (s s' : Engine) : Prop where
  complete : CompleteCycle s s'
  log : s'.log.events = s.log.events

/-! ### What the tables show -/

/-- Events are kept apart by topic and item. -/
def filing (e : Vda5050Event) : String × String := (e.topic, e.itemId)

/-- The value of `connection_state` that the payload gives. -/
def connectionStateOf (e : Vda5050Event) : Option String :=
  (decode e.payload).toOption.map fun m : Connection => JsonEnum.name m.connectionState

def stateColumnsOf (e : Vda5050Event) : Option StateColumns :=
  (decode e.payload).toOption.map fun m : State =>
    ⟨some (JsonEnum.name m.operatingMode), m.driving, m.paused.getD false, realColumn m.powerSupply.stateOfCharge,
      m.powerSupply.charging⟩

def factsheetOf (e : Vda5050Event) : Option (Option String) := some (some e.payload)

def orderColumnsOf (e : Vda5050Event) : Option OrderColumns :=
  (decode e.payload).toOption.map fun m : Vda5050.Order =>
    ⟨m.orderUpdateId, nonEmpty (m.orderDescription.getD ""), e.robotId, JsonLibrary.dump (toJson m.nodes).canon,
      JsonLibrary.dump (toJson m.edges).canon⟩

/-- A column has the value `v`, and if there is none the value it had before, or its default in a new row. -/
def ColumnShown {γ : Type} (c : Robot → γ) (d : γ) (v : Option γ) (prior after : Option Robot) : Prop :=
  ∀ r, after = some r → c r = v.getD ((prior.map c).getD d)

/-- The row of the robot `k` shows one event for each topic, if any. -/
structure RobotShown (shown : String × String → Option Vda5050Event) (k : String) (prior after : Option Robot) :
    Prop where
  row : ∀ topic ∈ robotTopics, (shown (topic, k)).isSome = true → after.isSome = true
  connectionState : ColumnShown Robot.connectionState "OFFLINE"
    ((shown (ConnectionProjector.topic, k)).bind connectionStateOf) prior after
  stateColumns : ColumnShown Robot.stateColumns {} ((shown (StateProjector.topic, k)).bind stateColumnsOf) prior after
  factsheet : ColumnShown Robot.factsheet none ((shown (FactsheetProjector.topic, k)).bind factsheetOf) prior after
  settings : ColumnShown Robot.settings {} none prior after
  noEvent : (∀ topic ∈ robotTopics, shown (topic, k) = none) → after = prior

/-- The row of the order `k` shows one event, if any. -/
structure OrderShown (shown : String × String → Option Vda5050Event) (k : String) (prior after : Option Db.Order) :
    Prop where
  order : ∀ e, shown (OrderProjector.topic, k) = some e →
    ∃ r, after = some r ∧ orderColumnsOf e = some r.orderColumns
  settings : ∀ r, after = some r → r.settings = (prior.map Db.Order.settings).getD {}
  noEvent : shown (OrderProjector.topic, k) = none → after = prior

/-- What the tables show, on top of what they held at first. -/
structure Shows (db₀ : ReadModel) (shown : String × String → Option Vda5050Event) (db : ReadModel) : Prop where
  robots : ∀ k, RobotShown shown k (db₀.robots.find? k) (db.robots.find? k)
  orders : ∀ k, OrderShown shown k (db₀.orders.find? k) (db.orders.find? k)
  maps : db.maps = db₀.maps

omit [JsonLibrary] in
theorem ColumnShown.keep {γ : Type} {c : Robot → γ} {d : γ} {s : RobotsStatement} (hw : s.sql.Writes c d none)
    {prior after : Option Robot} (h : ColumnShown c d none prior after) (hnew : after = none → prior = none) :
    ColumnShown c d none prior (some (s.sql.act after)) := by
  intro r hr
  obtain rfl := Option.some.inj hr
  rw [hw.act]
  cases hafter : after with
  | none => rw [hnew hafter]
  | some r => exact h r hafter

omit [JsonLibrary] in
/-- A statement gives a column the value of the event in place of that of the event that was shown. -/
theorem ColumnShown.exec {γ : Type} {c : Robot → γ} {d : γ} {w : Option γ} {s : RobotsStatement}
    (hw : s.sql.Writes c d w) {topic t k : String} {e : Vda5050Event} {valueOf : Vda5050Event → Option γ}
    (hgives : t = topic → w = valueOf e ∧ w.isSome = true) (hleaves : t ≠ topic → w = none)
    {shown : String × String → Option Vda5050Event} {prior after : Option Robot}
    (h : ColumnShown c d ((shown (t, k)).bind valueOf) prior after)
    (hnew : after = none → prior = none ∧ shown (t, k) = none) :
    ColumnShown c d ((Function.update shown (topic, k) (some e) (t, k)).bind valueOf) prior
      (some (s.sql.act after)) := by
  intro r hr
  obtain rfl := Option.some.inj hr
  have hold : (after.map c).getD d = ((shown (t, k)).bind valueOf).getD ((prior.map c).getD d) := by
    cases hafter : after with
    | none => simp [hnew hafter]
    | some r => exact h r hafter
  rw [hw.act, hold]
  by_cases ht : t = topic
  · subst ht
    obtain ⟨hvalue, hsome⟩ := hgives rfl
    obtain ⟨v, hv⟩ := Option.isSome_iff_exists.1 hsome
    rw [Function.update_self, hv, Option.bind_some, ← hvalue, hv]
    rfl
  · have hne : (t, k) ≠ (topic, k) := fun heq => ht (Prod.mk.inj heq).1
    rw [Function.update_of_ne hne, hleaves ht]
    rfl

/-- The statement gives the columns of the topic the values of the event, and leaves the others alone. -/
structure Gives (topic : String) (e : Vda5050Event) (s : RobotsStatement) : Prop where
  topic_mem : topic ∈ robotTopics
  connectionState : ConnectionProjector.topic = topic →
    s.connectionState? = connectionStateOf e ∧ s.connectionState?.isSome = true
  noConnectionState : ConnectionProjector.topic ≠ topic → s.connectionState? = none
  stateColumns : StateProjector.topic = topic → s.stateColumns? = stateColumnsOf e ∧ s.stateColumns?.isSome = true
  noStateColumns : StateProjector.topic ≠ topic → s.stateColumns? = none
  factsheet : FactsheetProjector.topic = topic → s.factsheet? = factsheetOf e ∧ s.factsheet?.isSome = true
  noFactsheet : FactsheetProjector.topic ≠ topic → s.factsheet? = none
  settings : s.sql.Writes Robot.settings {} none

/-- The row shows the event of a statement that is executed. -/
theorem RobotShown.exec {shown : String × String → Option Vda5050Event} {k : String} {prior after : Option Robot}
    (h : RobotShown shown k prior after) {topic : String} {e : Vda5050Event} {s : RobotsStatement}
    (hs : Gives topic e s) :
    RobotShown (Function.update shown (topic, k) (some e)) k prior (some (s.sql.act after)) := by
  have hnew : ∀ t ∈ robotTopics, after = none → prior = none ∧ shown (t, k) = none := by
    intro t ht hafter
    have hnone : ∀ t ∈ robotTopics, shown (t, k) = none := by
      intro t ht
      rw [← Option.not_isSome_iff_eq_none]
      intro hsome
      have := h.row t ht hsome
      simp [hafter] at this
    exact ⟨(h.noEvent hnone).symm.trans hafter, hnone t ht⟩
  have hconnection := hnew ConnectionProjector.topic (by simp [robotTopics])
  have hstate := hnew StateProjector.topic (by simp [robotTopics])
  have hfactsheet := hnew FactsheetProjector.topic (by simp [robotTopics])
  refine ⟨fun _ _ _ => rfl, ?_, ?_, ?_, ?_, fun hnone => ?_⟩
  · exact h.connectionState.exec s.writes_connectionState hs.connectionState hs.noConnectionState hconnection
  · exact h.stateColumns.exec s.writes_stateColumns hs.stateColumns hs.noStateColumns hstate
  · exact h.factsheet.exec s.writes_factsheet hs.factsheet hs.noFactsheet hfactsheet
  · exact h.settings.keep hs.settings fun hafter => (hconnection hafter).1
  · have := hnone topic hs.topic_mem
    simp at this

omit [JsonLibrary] in
private theorem mem_robotTopics : ConnectionProjector.topic ∈ robotTopics ∧ StateProjector.topic ∈ robotTopics ∧
    FactsheetProjector.topic ∈ robotTopics := by
  simp [robotTopics]

/-- Only the events of the robot matter. -/
theorem RobotShown.congr {shown shown' : String × String → Option Vda5050Event} {k : String}
    {prior after : Option Robot} (h : RobotShown shown k prior after)
    (hk : ∀ topic ∈ robotTopics, shown' (topic, k) = shown (topic, k)) : RobotShown shown' k prior after := by
  obtain ⟨row, connectionState, stateColumns, factsheet, settings, noEvent⟩ := h
  refine ⟨fun topic ht => hk topic ht ▸ row topic ht, ?_, ?_, ?_, settings, fun hnone => noEvent fun topic ht => ?_⟩
  · rwa [hk _ mem_robotTopics.1]
  · rwa [hk _ mem_robotTopics.2.1]
  · rwa [hk _ mem_robotTopics.2.2]
  · rw [← hk topic ht]
    exact hnone topic ht

theorem OrderShown.congr {shown shown' : String × String → Option Vda5050Event} {k : String}
    {prior after : Option Db.Order} (h : OrderShown shown k prior after)
    (hk : shown' (OrderProjector.topic, k) = shown (OrderProjector.topic, k)) : OrderShown shown' k prior after where
  order e he := h.order e (hk ▸ he)
  settings := h.settings
  noEvent hnone := h.noEvent (hk ▸ hnone)

/-- The statement gives the columns of the order the values of the event, and leaves the others alone. -/
structure GivesOrder (e : Vda5050Event) (s : OrdersStatement) : Prop where
  order : ∀ o, orderColumnsOf e = some (s.sql.act o).orderColumns
  row : s.row.settings = {}
  set : ∀ r, (s.sql.set r).settings = r.settings

/-- The order shows the event of a statement that is executed. -/
theorem OrderShown.exec {shown : String × String → Option Vda5050Event} {k : String} {prior after : Option Db.Order}
    (h : OrderShown shown k prior after) {e : Vda5050Event} {s : OrdersStatement} (hs : GivesOrder e s) :
    OrderShown (Function.update shown (OrderProjector.topic, k) (some e)) k prior (some (s.sql.act after)) where
  order e' he' := by
    rw [Function.update_self] at he'
    obtain rfl := Option.some.inj he'
    exact ⟨_, rfl, hs.order after⟩
  settings r hr := by
    obtain rfl := Option.some.inj hr
    cases hafter : after with
    | some r => exact (hs.set r).trans (h.settings r hafter)
    | none =>
      have hnone : shown (OrderProjector.topic, k) = none := by
        rw [Option.eq_none_iff_forall_ne_some]
        intro e he
        obtain ⟨r, hr, -⟩ := h.order e he
        simp [hafter] at hr
      have hprior : prior = none := (h.noEvent hnone).symm.trans hafter
      rw [hprior]
      exact hs.row
  noEvent hnone := by
    rw [Function.update_self] at hnone
    cases hnone

/-- The topics whose events are shown. -/
def shownTopics : List String := robotTopics ++ orderTopics

omit [JsonLibrary] in
private theorem not_mem_shownTopics : InstantActionsProjector.topic ∉ shownTopics ∧
    ResponsesProjector.topic ∉ shownTopics := by decide

namespace Shows

variable {db₀ db : ReadModel} {shown : String × String → Option Vda5050Event}

/-- Other events and other tables do not matter. -/
theorem congr (h : Shows db₀ shown db) {db' : ReadModel} {shown' : String × String → Option Vda5050Event}
    (hshown : ∀ topic ∈ shownTopics, ∀ k, shown' (topic, k) = shown (topic, k)) (hrobots : db'.robots = db.robots)
    (horders : db'.orders = db.orders) (hmaps : db'.maps = db.maps) : Shows db₀ shown' db' where
  robots k := hrobots ▸ (h.robots k).congr fun topic ht => hshown topic (List.mem_append_left _ ht) k
  orders k := horders ▸ (h.orders k).congr (hshown _ (by simp [shownTopics, orderTopics]) k)
  maps := hmaps.trans h.maps

theorem execRobots (h : Shows db₀ shown db) {topic : String} {e : Vda5050Event} {s : RobotsStatement}
    (hs : Gives topic e s) :
    Shows db₀ (Function.update shown (topic, s.row.robotId) (some e)) (db.execRobots [s]) where
  robots k := by
    have hexec : (db.execRobots [s]).robots.find? k =
        if k = s.row.robotId then some (s.sql.act (db.robots.find? k)) else db.robots.find? k :=
      Table.find?_exec db.robots s.sql k
    rw [hexec]
    split
    · next hk =>
      subst hk
      exact (h.robots _).exec hs
    · next hk =>
      exact (h.robots k).congr fun t _ => Function.update_of_ne (fun heq => hk (Prod.mk.inj heq).2) ..
  orders k := by
    refine (h.orders k).congr (Function.update_of_ne (fun heq => ?_) ..)
    have htopic := hs.topic_mem
    rw [← (Prod.mk.inj heq).1] at htopic
    exact absurd htopic (by decide)
  maps := h.maps

theorem execOrders (h : Shows db₀ shown db) {e : Vda5050Event} {s : OrdersStatement} (hs : GivesOrder e s) :
    Shows db₀ (Function.update shown (OrderProjector.topic, s.row.orderId) (some e)) (db.execOrders [s]) where
  robots k := by
    refine (h.robots k).congr fun t ht => Function.update_of_ne (fun heq => ?_) ..
    rw [(Prod.mk.inj heq).1] at ht
    exact absurd ht (by decide)
  orders k := by
    have hexec : (db.execOrders [s]).orders.find? k =
        if k = s.row.orderId then some (s.sql.act (db.orders.find? k)) else db.orders.find? k :=
      Table.find?_exec db.orders s.sql k
    rw [hexec]
    split
    · next hk =>
      subst hk
      exact (h.orders _).exec hs
    · next hk =>
      exact (h.orders k).congr (Function.update_of_ne (fun heq => hk (Prod.mk.inj heq).2) ..)
  maps := h.maps

end Shows

/-! ### Projecting an event -/

/-- The recorder files events of robots under the robot, and orders under the order. -/
structure Filed (e : Vda5050Event) : Prop where
  robot : e.topic ∈ robotTopics → e.itemId = e.robotId
  order : e.topic = OrderProjector.topic → ∀ m : Vda5050.Order, decode e.payload = .ok m → e.itemId = m.orderId

private theorem exists_of_decodes {topic : String} {t : MessageType} (ht : decodedType topic = some t)
    {e : Vda5050Event} (h : decodes topic e = true) : ∃ m : t.Message, decode e.payload = .ok m := by
  unfold decodes at h
  rw [ht] at h
  cases hm : decode (α := t.Message) e.payload with
  | ok m => exact ⟨m, rfl⟩
  | error _ => simp [hm, Except.isOk, Except.toBool] at h

private theorem gives_connection {e : Vda5050Event} {m : Connection} (hm : decode e.payload = .ok m) :
    Gives ConnectionProjector.topic e (.upsertConnection e.robotId e.manufacturer e.serialNumber
      (JsonEnum.name m.connectionState) e.receivedAt) where
  topic_mem := mem_robotTopics.1
  connectionState _ := by
    rw [connectionStateOf, hm]
    exact ⟨rfl, rfl⟩
  noConnectionState h := absurd rfl h
  stateColumns h := absurd h (by decide)
  noStateColumns _ := rfl
  factsheet h := absurd h (by decide)
  noFactsheet _ := rfl
  settings := ⟨rfl, fun _ => rfl⟩

private theorem gives_state {e : Vda5050Event} {m : State} (hm : decode e.payload = .ok m) :
    Gives StateProjector.topic e (.upsertState e.robotId e.manufacturer e.serialNumber
      (JsonEnum.name m.operatingMode) m.driving (m.paused.getD false) m.powerSupply.stateOfCharge
      m.powerSupply.charging e.receivedAt) where
  topic_mem := mem_robotTopics.2.1
  connectionState h := absurd h (by decide)
  noConnectionState _ := rfl
  stateColumns _ := by
    rw [stateColumnsOf, hm]
    exact ⟨rfl, rfl⟩
  noStateColumns h := absurd rfl h
  factsheet h := absurd h (by decide)
  noFactsheet _ := rfl
  settings := ⟨rfl, fun _ => rfl⟩

private theorem gives_factsheet (e : Vda5050Event) :
    Gives FactsheetProjector.topic e (.upsertFactsheet e.robotId e.manufacturer e.serialNumber e.payload
      e.receivedAt) where
  topic_mem := mem_robotTopics.2.2
  connectionState h := absurd h (by decide)
  noConnectionState _ := rfl
  stateColumns h := absurd h (by decide)
  noStateColumns _ := rfl
  factsheet _ := ⟨rfl, rfl⟩
  noFactsheet h := absurd rfl h
  settings := ⟨rfl, fun _ => rfl⟩

private theorem gives_order {e : Vda5050Event} {m : Vda5050.Order} (hm : decode e.payload = .ok m) :
    GivesOrder e (.upsertFromOrder m.orderId e.robotId m.orderUpdateId (m.orderDescription.getD "")
      (JsonLibrary.dump (toJson m.nodes).canon) (JsonLibrary.dump (toJson m.edges).canon) e.receivedAt) where
  order o := by
    rw [orderColumnsOf, hm]
    cases o <;> rfl
  row := rfl
  set _ := rfl

/-- An event that decodes is shown when it has been projected. -/
theorem Shows.project {db₀ db : ReadModel} {shown : String × String → Option Vda5050Event} (h : Shows db₀ shown db)
    {entry : Entry} (hentry : entry ∈ projectors) {e : Vda5050Event} (htopic : e.topic = entry.topic)
    (hfiled : Filed e) (hdecodes : decodes entry.topic e = true) :
    Shows db₀ (Function.update shown (filing e) (some e)) (runOn (entry.project e) db).2 := by
  have hkey : filing e = (entry.topic, e.itemId) := by rw [filing, htopic]
  simp only [projectors, List.mem_cons, List.not_mem_nil, or_false] at hentry
  rcases hentry with rfl | rfl | rfl | rfl | rfl | rfl
  · obtain ⟨m, hm⟩ := exists_of_decodes (t := .connection) rfl hdecodes
    rw [hkey, hfiled.robot (htopic ▸ mem_robotTopics.1), ConnectionProjector.runOn_project,
      ConnectionProjector.statements, onDecoded_of_decode hm]
    exact h.execRobots (gives_connection hm)
  · obtain ⟨m, hm⟩ := exists_of_decodes (t := .state) rfl hdecodes
    rw [hkey, hfiled.robot (htopic ▸ mem_robotTopics.2.1), StateProjector.runOn_project, StateProjector.statements,
      onDecoded_of_decode hm]
    exact h.execRobots (gives_state hm)
  · rw [hkey, hfiled.robot (htopic ▸ mem_robotTopics.2.2), FactsheetProjector.runOn_project]
    exact h.execRobots (gives_factsheet e)
  · obtain ⟨m, hm⟩ := exists_of_decodes (t := .order) rfl hdecodes
    rw [hkey, hfiled.order htopic m hm, OrderProjector.runOn_project, OrderProjector.statements,
      onDecoded_of_decode hm]
    exact h.execOrders (gives_order hm)
  · rw [hkey, InstantActionsProjector.runOn_project]
    refine h.congr (fun topic ht k => Function.update_of_ne (fun heq => ?_) ..) rfl rfl rfl
    rw [(Prod.mk.inj heq).1] at ht
    exact not_mem_shownTopics.1 ht
  · rw [hkey, ResponsesProjector.runOn_project]
    refine h.congr (fun topic ht k => Function.update_of_ne (fun heq => ?_) ..) rfl rfl rfl
    rw [(Prod.mk.inj heq).1] at ht
    exact not_mem_shownTopics.2 ht

end SyriusOrbit.Projection

import SyriusOrbit.Projection.Fleet
import SyriusOrbit.Projection.Tables
import SyriusOrbit.Db.Vda5050EventsRepository
import SyriusOrbit.Mqtt.EndPoint

/-!
# The two sides of the database

The network threads of the two clients, which call the listeners of the recorder, and the projection thread on the
tables of one database.  A message is recorded once its last event is inserted.  The system refines the engine on
records (`Inv.step`), so that once a cycle has been run to its end `findById` tells what the recorded messages tell,
whatever the threads and failing statements have done before (`lookups_eq_fleet`).
-/

namespace SyriusOrbit.Projection

open JsonFormat Vda5050 Mqtt Db Sql Transition

variable [JsonLibrary] [Library]

/-- The tables, the projection thread, and for each network thread the events that its listener has still to insert,
with their message; `recorded` are the messages whose events have all been inserted, in the order of the last. -/
structure Cqrs where
  events : EventsTable := Vda5050EventsRepository.empty
  tables : Tables := .empty
  phase : Phase := .waiting
  hand : Side → List (Dispatched × Vda5050Event) := fun _ => []
  recorded : List Dispatched := []

inductive CqrsAction where
  -- a network thread
  | dispatch (side : Side) (d : Dispatched)
  | insert (side : Side) (now : String)
  | insertThrows (side : Side)
  -- the projection thread
  | wake
  | query (rows : List Vda5050Event)
  | queryThrows
  | project
  | projectThrows (executed : Nat)
  | next
  | finish
  -- the process is killed and started again
  | restart

/-- The steps of the projection thread that do not fail. -/
def CqrsAction.Projects : CqrsAction → Prop
  | .wake | .query _ | .project | .next | .finish => True
  | .dispatch .. | .insert .. | .insertThrows _ | .queryThrows | .projectThrows _ | .restart => False

namespace Cqrs

/-- The next event of the listener is inserted.  An exception leaves the listener, and `dispatch` catches it. -/
def insert (s : Cqrs) (side : Side) (now : String) : Option Cqrs :=
  match s.hand side with
  | [] => none
  | (d, event) :: rest =>
    match Vda5050EventsRepository.insert s.events now event with
    | some (events, _) =>
      some { s with
        events
        hand := Function.update s.hand side rest
        recorded := if rest.isEmpty then s.recorded ++ [d] else s.recorded }
    | none => some { s with hand := Function.update s.hand side [] }

/-- The steps.  Each statement is committed by itself. -/
def step (s : Cqrs) : CqrsAction → Option Cqrs
  | .dispatch side d =>
    match s.hand side with
    | [] => some { s with hand := Function.update s.hand side (d.events.map fun event => (d, event)) }
    | _ => none
  | .insert side now => s.insert side now
  | .insertThrows side =>
    match s.hand side with
    | [] => none
    | _ => some { s with hand := Function.update s.hand side [] }
  | .wake =>
    match s.phase with
    | .waiting => some { s with phase := .querying projectors }
    | _ => none
  | .query rows =>
    match s.phase with
    | .querying (entry :: entries) =>
      if ¬rows.Perm (Vda5050EventsRepository.findLatestByTopic s.events entry.topic) then none
      else some { s with phase := .projecting entry rows entries }
    | _ => none
  | .queryThrows =>
    match s.phase with
    | .querying (_ :: _) => some { s with phase := .waiting }
    | _ => none
  | .project =>
    match s.phase with
    | .projecting entry (event :: rows) entries =>
      some { s with
        tables := s.tables.execUntil (statementsOf entry.topic event)
        phase := .projecting entry rows entries }
    | _ => none
  -- a statement throws although the database could execute it, because it is locked or the disk is full
  | .projectThrows executed =>
    match s.phase with
    | .projecting entry (event :: rows) entries =>
      if ¬executed < (statementsOf entry.topic event).length then none
      else some { s with
        tables := s.tables.execUntil ((statementsOf entry.topic event).take executed)
        phase := .projecting entry rows entries }
    | _ => none
  | .next =>
    match s.phase with
    | .projecting _ [] entries => some { s with phase := .querying entries }
    | _ => none
  | .finish =>
    match s.phase with
    | .querying [] => some { s with phase := .waiting }
    | _ => none
  | .restart => some { s with phase := .waiting, hand := fun _ => [] }

def system : System Cqrs CqrsAction := .ofStep {} step

/-- The engine on records. -/
def toEngine (s : Cqrs) : Engine := ⟨Vda5050EventsRepository.log s.events, s.tables.readModel, s.phase⟩

/-- The step of the engine; the steps of the network threads but for insertions are none. -/
def engineAction (s : Cqrs) : CqrsAction → Option EngineAction
  | .dispatch .. | .insertThrows _ => none
  | .insert side now => (s.hand side).head?.map fun (_, event) => .insert now event
  | .wake => some .wake
  | .query rows => some (.query rows)
  | .queryThrows => some .queryThrows
  | .project => some .project
  | .projectThrows executed => some (.projectThrows executed)
  | .next => some .next
  | .finish => some .finish
  | .restart => some .restart

/-- The engine goes along with a step. -/
def Follows (s : Cqrs) (a : CqrsAction) (s' : Cqrs) : Prop :=
  match s.engineAction a with
  | none => s'.toEngine = s.toEngine
  | some b => s.toEngine.step b = some s'.toEngine

private theorem follows_of_eq {s s' : Cqrs} {a : CqrsAction} {b : EngineAction} (ha : s.engineAction a = some b)
    (h : s.toEngine.step b = some s'.toEngine) : s.Follows a s' := by
  unfold Follows
  rwa [ha]

/-- The messages are read back as they are written. -/
def ParsesMessages (_ : Cqrs) : CqrsAction → Prop
  | .dispatch _ d => ParsesBack (json d.message)
  | _ => True

/-- What is left of the events of a message. -/
def LeftOver (hand : List (Dispatched × Vda5050Event)) : Prop :=
  hand = [] ∨ ∃ d : Dispatched, ParsesBack (json d.message) ∧ hand <:+ d.events.map fun event => (d, event)

/-- The network threads have events of messages in hand, and the events of the table can be projected and tell what the
recorded messages tell. -/
structure Inv (s : Cqrs) : Prop where
  hand : ∀ side, LeftOver (s.hand side)
  plain : ∀ e ∈ s.toEngine.log.events, Value.PlainText e.payload
  readable : ∀ e ∈ s.toEngine.log.events, Readable e
  entries : ∀ entry ∈ s.phase.entries, entry ∈ projectors
  rows : ∀ entry rows entries, s.phase = .projecting entry rows entries → ∀ e ∈ rows, Value.PlainText e.payload
  tells : Tells (s.toEngine.log.events.map Vda5050Event.content) (Fleet.receiveAll {} s.recorded)

omit [Library] in
theorem LeftOver.tail {d : Dispatched} {event : Vda5050Event} {rest : List (Dispatched × Vda5050Event)}
    (h : LeftOver ((d, event) :: rest)) :
    ParsesBack (json d.message) ∧ event ∈ d.events ∧ LeftOver rest ∧
      (d, event) :: rest <:+ d.events.map fun event => (d, event) := by
  rcases h with h | ⟨d', hparse, hleft⟩
  · cases h
  · obtain ⟨e, he, heq⟩ := List.mem_map.1 (hleft.subset List.mem_cons_self)
    obtain ⟨rfl, rfl⟩ := Prod.mk.inj heq
    exact ⟨hparse, he, .inr ⟨_, hparse, (List.suffix_cons _ _).trans hleft⟩, hleft⟩

omit [Library] in
/-- The next event of a message has been inserted. -/
private theorem tells_insert {es : List Vda5050Event} {ds : List Dispatched} (h : Tells es (Fleet.receiveAll {} ds))
    {d : Dispatched} {event : Vda5050Event} {rest : List (Dispatched × Vda5050Event)}
    (hleft : LeftOver ((d, event) :: rest)) :
    Tells (es ++ [event]) (Fleet.receiveAll {} (if rest.isEmpty then ds ++ [d] else ds)) := by
  obtain ⟨hparse, hevent, -, hsuffix⟩ := hleft.tail
  by_cases hshown : recordedTopic d.type ∈ shownTopics
  · -- it is the only event of the message
    obtain ⟨e, he⟩ := events_of_shown hshown
    rw [he, List.map_singleton] at hsuffix
    have hrest : rest = [] := List.length_eq_zero_iff.1 (by simpa using hsuffix.length_le)
    have hsingle : d.events = [event] := by
      rw [he] at hevent
      rw [he, List.mem_singleton.1 hevent]
    subst hrest
    rw [List.isEmpty_nil, if_pos rfl, Fleet.receiveAll_append, ← hsingle]
    exact h.receive hparse
  · have htopic : event.topic ∉ shownTopics := (topic_of_mem_recordedEvents hevent).1 ▸ hshown
    have htells := h.append_of_not_mem htopic
    split
    · rw [Fleet.receiveAll_append, Fleet.receive_of_not_shown hshown]
      exact htells
    · exact htells

namespace Inv

variable {s s' : Cqrs}

/-- What is in hand at a network thread changes, and nothing else. -/
private theorem setHand (h : s.Inv) {side : Side} {hand : List (Dispatched × Vda5050Event)} (hhand : LeftOver hand) :
    Inv { s with hand := Function.update s.hand side hand } where
  hand side' := by
    by_cases hside : side' = side
    · subst hside
      simpa using hhand
    · simpa [Function.update_of_ne hside] using h.hand side'
  plain := h.plain
  readable := h.readable
  entries := h.entries
  rows := h.rows
  tells := h.tells

/-- The projection thread goes on. -/
theorem move (h : s.Inv) {tables : Tables} {phase : Phase} (hentries : ∀ entry ∈ phase.entries, entry ∈ projectors)
    (hrows : ∀ entry rows entries, phase = .projecting entry rows entries → ∀ e ∈ rows, Value.PlainText e.payload) :
    Inv { s with tables, phase } where
  hand := h.hand
  plain := h.plain
  readable := h.readable
  entries := hentries
  rows := hrows
  tells := h.tells

/-- A row is done. -/
theorem proceed (h : s.Inv) {tables : Tables} {entry : Entry} {event : Vda5050Event} {rows : List Vda5050Event}
    {entries : List Entry} (hphase : s.phase = .projecting entry (event :: rows) entries) :
    Inv { s with tables, phase := .projecting entry rows entries } := by
  refine h.move (fun entry' hentry' => h.entries entry' (by rwa [hphase])) ?_
  rintro _ _ _ ⟨⟩ e he
  exact h.rows _ _ _ hphase e (List.mem_cons_of_mem event he)

/-- An event is inserted. -/
theorem insert (hobjects : DumpsObjects) (h : s.Inv) {side : Side} {now : String} (hs : s.insert side now = some s') :
    s'.Inv ∧ s.Follows (.insert side now) s' := by
  unfold Cqrs.insert at hs
  split at hs
  · cases hs
  next d event rest hhand =>
    have hleft : LeftOver ((d, event) :: rest) := hhand ▸ h.hand side
    obtain ⟨hparse, hevent, hrest, -⟩ := hleft.tail
    have hplain : Value.PlainText event.payload :=
      Value.plainText_of_bracketed (bracketed_of_mem_recordedEvents hobjects hevent)
    obtain ⟨events, hinsert, hlog⟩ := Vda5050EventsRepository.insert_eq hplain s.events now
    rw [hinsert] at hs
    obtain rfl := Option.some.inj hs
    have hevents : (Vda5050EventsRepository.log events).events = (Vda5050EventsRepository.log s.events).events ++
        [{ event with id := (Vda5050EventsRepository.log s.events).lastId + 1, receivedAt := now }] :=
      congrArg EventLog.events hlog
    refine ⟨?_, ?_⟩
    · have hset : Inv { s with hand := Function.update s.hand side rest } := h.setHand hrest
      refine ⟨hset.hand, fun e he => ?_, fun e he => ?_, h.entries, h.rows, ?_⟩
      · rcases List.mem_append.1 (hevents ▸ he) with hold | hnew
        · exact h.plain e hold
        · rwa [List.mem_singleton.1 hnew]
      · rcases List.mem_append.1 (hevents ▸ he) with hold | hnew
        · exact h.readable e hold
        · rw [List.mem_singleton.1 hnew]
          obtain ⟨hfiled, hdecodes⟩ := readable_of_mem_events hparse hevent
          exact ⟨⟨hfiled.robot, hfiled.order⟩, hdecodes⟩
      · have hcontent : (Vda5050EventsRepository.log events).events.map Vda5050Event.content =
            (Vda5050EventsRepository.log s.events).events.map Vda5050Event.content ++ [event] := by
          rw [hevents, List.map_append, ← content_of_mem_recordedEvents hevent]
          rfl
        show Tells ((Vda5050EventsRepository.log events).events.map Vda5050Event.content) _
        rw [hcontent]
        exact tells_insert h.tells hleft
    · refine follows_of_eq (b := .insert now event) (by simp [engineAction, hhand]) (congrArg some ?_)
      unfold toEngine
      rw [hlog]

theorem step (hobjects : DumpsObjects) (harrays : DumpsArrays) {a : CqrsAction} (h : s.Inv) (ha : s.ParsesMessages a)
    (hs : s.step a = some s') : s'.Inv ∧ s.Follows a s' := by
  cases a with
  | dispatch side d =>
    simp only [Cqrs.step] at hs
    split at hs
    · obtain rfl := Option.some.inj hs
      exact ⟨h.setHand (.inr ⟨d, ha, List.suffix_rfl⟩), rfl⟩
    · cases hs
  | insert side now => exact h.insert hobjects hs
  | insertThrows side =>
    simp only [Cqrs.step] at hs
    split at hs
    · cases hs
    · obtain rfl := Option.some.inj hs
      exact ⟨h.setHand (.inl rfl), rfl⟩
  | wake =>
    simp only [Cqrs.step] at hs
    split at hs
    · next hphase =>
      obtain rfl := Option.some.inj hs
      exact ⟨h.move (fun _ hentry => hentry) (by simp), follows_of_eq rfl (by simp [toEngine, Engine.step, hphase])⟩
    · cases hs
  | query rows =>
    simp only [Cqrs.step] at hs
    split at hs
    · next entry entries hphase =>
      obtain ⟨hrows, hs⟩ := of_guard hs
      obtain rfl := Option.some.inj hs
      rw [not_not, Vda5050EventsRepository.findLatestByTopic_eq] at hrows
      refine ⟨h.move (fun entry' hentry' => h.entries entry' (by rwa [hphase])) ?_, follows_of_eq rfl ?_⟩
      · rintro _ _ _ ⟨⟩ e he
        have hnewest := EventLog.mem_findLatestByTopic.1 (hrows.mem_iff.1 he)
        exact h.plain e (EventLog.mem_of_newest hnewest).1
      · simp [toEngine, Engine.step, hphase, hrows]
    · cases hs
  | queryThrows =>
    simp only [Cqrs.step] at hs
    split at hs
    · next hphase =>
      obtain rfl := Option.some.inj hs
      exact ⟨h.move (by simp [Phase.entries]) (by simp), follows_of_eq rfl (by simp [toEngine, Engine.step, hphase])⟩
    · cases hs
  | project =>
    simp only [Cqrs.step] at hs
    split at hs
    · next entry event rows entries hphase =>
      obtain rfl := Option.some.inj hs
      have hentry : entry ∈ projectors := h.entries entry (by rw [hphase]; exact List.mem_cons_self)
      have hplain := plain_statementsOf hobjects harrays (h.rows _ _ _ hphase event List.mem_cons_self) entry.topic
      refine ⟨h.proceed hphase, follows_of_eq rfl ?_⟩
      simp [toEngine, Engine.step, hphase, project_eq hentry, Tables.readModel_execUntil hplain]
    · cases hs
  | projectThrows executed =>
    simp only [Cqrs.step] at hs
    split at hs
    · next entry event rows entries hphase =>
      obtain ⟨hexecuted, hs⟩ := of_guard hs
      obtain rfl := Option.some.inj hs
      have hentry : entry ∈ projectors := h.entries entry (by rw [hphase]; exact List.mem_cons_self)
      have hplain := plain_statementsOf hobjects harrays (h.rows _ _ _ hphase event List.mem_cons_self) entry.topic
      have htake : ∀ s ∈ (statementsOf entry.topic event).take executed, s.Plain :=
        fun s hs => hplain s (List.mem_of_mem_take hs)
      refine ⟨h.proceed hphase, follows_of_eq rfl ?_⟩
      simp [toEngine, Engine.step, hphase, partially_eq hentry (not_not.1 hexecuted),
        Tables.readModel_execUntil htake]
    · cases hs
  | next =>
    simp only [Cqrs.step] at hs
    split at hs
    · next hphase =>
      obtain rfl := Option.some.inj hs
      refine ⟨h.move (fun entry hentry => h.entries entry ?_) (by simp), follows_of_eq rfl ?_⟩
      · rw [hphase]
        exact List.mem_cons_of_mem _ hentry
      · simp [toEngine, Engine.step, hphase]
    · cases hs
  | finish =>
    simp only [Cqrs.step] at hs
    split at hs
    · next hphase =>
      obtain rfl := Option.some.inj hs
      exact ⟨h.move (by simp [Phase.entries]) (by simp), follows_of_eq rfl (by simp [toEngine, Engine.step, hphase])⟩
    · cases hs
  | restart =>
    obtain rfl := Option.some.inj hs
    have hmove : Inv { s with phase := .waiting } := h.move (by simp [Phase.entries]) (by simp)
    exact ⟨⟨fun _ => .inl rfl, hmove.plain, hmove.readable, hmove.entries, hmove.rows, hmove.tells⟩, rfl⟩

end Inv

/-! ### Runs -/

theorem inv_init : Inv {} where
  hand _ := .inl rfl
  plain e he := by cases he
  readable e he := by cases he
  entries := by simp [Phase.entries]
  rows := by simp
  tells := tells_nil

/-- A run is one of the engine. -/
private theorem reach_toEngine (hobjects : DumpsObjects) (harrays : DumpsArrays) (log₀ : EventLog) (db₀ : ReadModel)
    {s s' : Cqrs} (hs : s.Inv) {allowed : Cqrs → CqrsAction → Prop} {allowed' : Engine → EngineAction → Prop}
    (hparses : ∀ s a, allowed s a → s.ParsesMessages a)
    (hallowed : ∀ s a b, allowed s a → s.engineAction a = some b → allowed' s.toEngine b)
    (h : (system.startingAt s).Reach allowed s') :
    s'.Inv ∧ ((Engine.system log₀ db₀).startingAt s.toEngine).Reach allowed' s'.toEngine := by
  refine h.invariant (I := fun t => t.Inv ∧ ((Engine.system log₀ db₀).startingAt s.toEngine).Reach allowed' t.toEngine)
    (fun t ht => ?_) fun t a t' _ hI ha hstep => ?_
  · obtain rfl : t = s := ht
    exact ⟨hs, .init rfl⟩
  · obtain ⟨hinv, hfollows⟩ := hI.1.step hobjects harrays (hparses t a ha) hstep
    refine ⟨hinv, ?_⟩
    unfold Follows at hfollows
    split at hfollows
    · exact hfollows.symm ▸ hI.2
    · next b hb => exact hI.2.step (hallowed t a b ha hb) hfollows

/-- The steps between the start of a cycle and its end, if the projection thread does not fail. -/
def CycleStep (s : Cqrs) : CqrsAction → Prop
  | .dispatch side d => s.ParsesMessages (.dispatch side d)
  | .insert .. | .insertThrows _ | .query _ | .project | .next => True
  | .wake | .queryThrows | .projectThrows _ | .finish | .restart => False

/-- A cycle from start to end in which nothing fails, with insertions in between. -/
def CompleteCycle (s s' : Cqrs) : Prop :=
  ∃ s₁ s₂, s.step .wake = some s₁ ∧ (system.startingAt s₁).Reach CycleStep s₂ ∧ s₂.step .finish = some s'

/-- A cycle in which nothing fails has been run, and nothing has been inserted since its start.  What else has been done
since, also half of another cycle, does not matter. -/
def Settled (u : Cqrs) : Prop :=
  ∃ s s', system.Reach ParsesMessages s ∧ s.CompleteCycle s' ∧ (system.startingAt s').Reach ParsesMessages u ∧
    u.events = s.events

private theorem parsesMessages_of_cycleStep {s : Cqrs} {a : CqrsAction} (h : s.CycleStep a) : s.ParsesMessages a := by
  cases a with
  | dispatch => exact h
  | _ => trivial

private theorem cycleStep_engineAction {s : Cqrs} {a : CqrsAction} {b : EngineAction} (h : s.CycleStep a)
    (hb : s.engineAction a = some b) : Projection.CycleStep s.toEngine b := by
  cases a with
  | dispatch | insertThrows => cases hb
  | insert side now =>
    obtain ⟨⟨d, event⟩, -, rfl⟩ := Option.map_eq_some_iff.1 hb
    trivial
  | query | project | next =>
    obtain rfl := Option.some.inj hb
    trivial
  | _ => exact h.elim

/-- A cycle is one of the engine. -/
private theorem CompleteCycle.toEngine (hobjects : DumpsObjects) (harrays : DumpsArrays) {s s' : Cqrs} (hs : s.Inv)
    (h : s.CompleteCycle s') : s'.Inv ∧ Projection.CompleteCycle s.toEngine s'.toEngine := by
  obtain ⟨s₁, s₂, hwake, hsteps, hfinish⟩ := h
  obtain ⟨hinv₁, hwoken⟩ := hs.step (a := .wake) hobjects harrays trivial hwake
  obtain ⟨hinv₂, hcycle⟩ := reach_toEngine hobjects harrays _ _ hinv₁ (fun _ _ => parsesMessages_of_cycleStep)
    (fun _ _ _ => cycleStep_engineAction) hsteps
  obtain ⟨hinv', hfinished⟩ := hinv₂.step (a := .finish) hobjects harrays trivial hfinish
  exact ⟨hinv', _, _, hwoken, hcycle, hfinished⟩

private theorem Settled.toEngine (hobjects : DumpsObjects) (harrays : DumpsArrays) {u : Cqrs} (h : u.Settled) :
    u.Inv ∧ Projection.Settled .empty .empty u.toEngine := by
  obtain ⟨s, s', hs, hcycle, hlater, hevents⟩ := h
  have hrun : s.Inv ∧ (Engine.system .empty .empty).Reachable s.toEngine :=
    reach_toEngine hobjects harrays .empty .empty inv_init (fun _ _ h => h) (fun _ _ _ _ _ => trivial) hs
  obtain ⟨hinv, hreach⟩ := hrun
  obtain ⟨hinv', hcycle'⟩ := hcycle.toEngine hobjects harrays hinv
  have hrun' : u.Inv ∧ ((Engine.system .empty .empty).startingAt s'.toEngine).Reachable u.toEngine :=
    reach_toEngine hobjects harrays .empty .empty hinv' (fun _ _ h => h) (fun _ _ _ _ _ => trivial) hlater
  obtain ⟨hinv'', hlater'⟩ := hrun'
  refine ⟨hinv'', s.toEngine, s'.toEngine, hreach, hcycle', hlater', ?_⟩
  unfold Cqrs.toEngine
  rw [hevents]

/-- The lookups tell what the fleet does. -/
structure Answers (u : Cqrs) (f : Fleet) : Prop where
  robots : ∀ k, (RobotsRepository.findById u.tables.robots k).map Robot.robotColumns = f.robotColumns k
  orders : ∀ k, (OrdersRepository.findById u.tables.orders k).map Db.Order.orderColumns = f.orderColumns k

theorem Settled.answers (hobjects : DumpsObjects) (harrays : DumpsArrays) {u : Cqrs} (h : u.Settled) :
    u.Answers (Fleet.receiveAll {} u.recorded) := by
  obtain ⟨hinv, hsettled⟩ := h.toEngine hobjects harrays
  constructor
  · intro k
    rw [RobotsRepository.findById_eq]
    exact (columns_eq_of_tells hsettled hinv.readable hinv.tells k).1
  · intro k
    rw [OrdersRepository.findById_eq]
    exact (columns_eq_of_tells hsettled hinv.readable hinv.tells k).2

/-- No other robots are listed. -/
theorem Answers.listed_robot {u : Cqrs} {f : Fleet} (h : u.Answers f) {robot : Robot}
    (hrobot : robot ∈ RobotsRepository.listAll u.tables.robots) :
    f.robotColumns robot.robotId = some robot.robotColumns := by
  rw [RobotsRepository.listAll_eq] at hrobot
  have hfind : (RobotsRepository.robots u.tables.robots).find? robot.robotId = some robot :=
    Table.find?_eq_some_iff.2 ⟨hrobot, rfl⟩
  rw [← h.robots, RobotsRepository.findById_eq, hfind]
  rfl

/-- No other orders are listed. -/
theorem Answers.listed_order {u : Cqrs} {f : Fleet} (h : u.Answers f) {order : Db.Order}
    (horder : order ∈ OrdersRepository.listAll u.tables.orders) :
    f.orderColumns order.orderId = some order.orderColumns := by
  rw [OrdersRepository.listAll_eq] at horder
  have hfind : (OrdersRepository.orders u.tables.orders).find? order.orderId = some order :=
    Table.find?_eq_some_iff.2 ⟨horder, rfl⟩
  rw [← h.orders, OrdersRepository.findById_eq, hfind]
  rfl

/-- Once a cycle has been run to its end, and until something is inserted, the lookups tell what the recorded messages
tell, one after another, and no other robots and orders are listed, whatever the threads have done before and do
meanwhile, with statements failing and the process killed and started again. -/
theorem lookups_eq_fleet (hobjects : DumpsObjects) (harrays : DumpsArrays) {u : Cqrs} (h : u.Settled) :
    u.Answers (Fleet.receiveAll {} u.recorded) ∧
      (∀ robot ∈ RobotsRepository.listAll u.tables.robots,
        (Fleet.receiveAll {} u.recorded).robotColumns robot.robotId = some robot.robotColumns) ∧
      ∀ order ∈ OrdersRepository.listAll u.tables.orders,
        (Fleet.receiveAll {} u.recorded).orderColumns order.orderId = some order.orderColumns := by
  have hanswers := h.answers hobjects harrays
  exact ⟨hanswers, fun _ => hanswers.listed_robot, fun _ => hanswers.listed_order⟩

/-! ### A robot goes online and offline -/

/-- The steps of a cycle while nothing is inserted. -/
def Undisturbed (s : Cqrs) (a : CqrsAction) : Prop := s.CycleStep a ∧ a.Projects

private theorem exists_projected {s₁ : Cqrs} {entry : Entry} {entries : List Entry} {rows : List Vda5050Event}
    {t : Cqrs} (ht : (system.startingAt s₁).Reach Undisturbed t) (hphase : t.phase = .projecting entry rows entries) :
    ∃ t', (system.startingAt s₁).Reach Undisturbed t' ∧ t'.phase = .querying entries ∧
      (t'.recorded, t'.events, t'.hand) = (t.recorded, t.events, t.hand) := by
  induction rows generalizing t with
  | nil =>
    have hnext : t.step .next = some { t with phase := .querying entries } := by simp [step, hphase]
    exact ⟨_, ht.step (a := .next) ⟨trivial, trivial⟩ hnext, rfl, rfl⟩
  | cons event rows ih =>
    have hproject : t.step .project = some { t with
        tables := t.tables.execUntil (statementsOf entry.topic event)
        phase := .projecting entry rows entries } := by simp [step, hphase]
    obtain ⟨t', ht', hdone, hkept⟩ := ih (ht.step (a := .project) ⟨trivial, trivial⟩ hproject) rfl
    exact ⟨t', ht', hdone, hkept⟩

private theorem exists_queried {s₁ : Cqrs} {entries : List Entry} {t : Cqrs}
    (ht : (system.startingAt s₁).Reach Undisturbed t) (hphase : t.phase = .querying entries) :
    ∃ t', (system.startingAt s₁).Reach Undisturbed t' ∧ t'.phase = .querying [] ∧
      (t'.recorded, t'.events, t'.hand) = (t.recorded, t.events, t.hand) := by
  induction entries generalizing t with
  | nil => exact ⟨t, ht, hphase, rfl⟩
  | cons entry entries ih =>
    have hquery : t.step (.query (Vda5050EventsRepository.findLatestByTopic t.events entry.topic)) = some { t with
        phase := .projecting entry (Vda5050EventsRepository.findLatestByTopic t.events entry.topic) entries } := by
      simp [step, hphase]
    obtain ⟨t', ht', hphase', hkept⟩ := exists_projected (ht.step (a := .query _) ⟨trivial, trivial⟩ hquery) rfl
    obtain ⟨t'', ht'', hphase'', hkept'⟩ := ih ht' hphase'
    exact ⟨t'', ht'', hphase'', hkept'.trans hkept⟩

/-- A thread that sleeps can run a cycle in which nothing is inserted. -/
theorem exists_undisturbed {s : Cqrs} (hphase : s.phase = .waiting) :
    ∃ s₁ s₂ t, s.step .wake = some s₁ ∧ (system.startingAt s₁).Reach Undisturbed s₂ ∧ s₂.step .finish = some t ∧
      (t.recorded, t.events, t.hand) = (s.recorded, s.events, s.hand) := by
  have hwake : s.step .wake = some { s with phase := .querying projectors } := by simp [step, hphase]
  have hwoken : (system.startingAt { s with phase := .querying projectors }).Reach Undisturbed
      { s with phase := .querying projectors } := .init rfl
  obtain ⟨t, ht, hdone, hkept⟩ := exists_queried hwoken rfl
  have hfinish : t.step .finish = some { t with phase := .waiting } := by simp [step, hdone]
  exact ⟨_, _, _, hwake, ht, hfinish, hkept⟩

private theorem exists_completeCycle {s : Cqrs} (hphase : s.phase = .waiting) :
    ∃ t, s.CompleteCycle t ∧ (t.recorded, t.events) = (s.recorded, s.events) := by
  obtain ⟨s₁, s₂, t, hwake, hcycle, hfinish, hkept⟩ := exists_undisturbed hphase
  obtain ⟨hrecorded, hrest⟩ := Prod.mk.inj hkept
  exact ⟨t, ⟨s₁, s₂, hwake, hcycle.mono fun _ _ h => h.1, hfinish⟩, Prod.ext hrecorded (Prod.mk.inj hrest).1⟩

/-- The next event is inserted unless SQLite takes its payload for a number. -/
theorem exists_insert {s : Cqrs} {side : Side} {d : Dispatched} {event : Vda5050Event}
    {rest : List (Dispatched × Vda5050Event)} (hhand : s.hand side = (d, event) :: rest)
    (hplain : Value.PlainText event.payload) (now : String) :
    ∃ events, Vda5050EventsRepository.log events = (Vda5050EventsRepository.log s.events).insert now event ∧
      s.step (.insert side now) = some { s with
        events
        hand := Function.update s.hand side rest
        recorded := if rest.isEmpty then s.recorded ++ [d] else s.recorded } := by
  obtain ⟨events, hinsert, hlog⟩ := Vda5050EventsRepository.insert_eq hplain s.events now
  exact ⟨events, hlog, by simp [step, insert, hhand, hinsert]⟩

/-- A message with one event is recorded. -/
theorem exists_recorded (hobjects : DumpsObjects) {s : Cqrs} {side : Side} {d : Dispatched} {event : Vda5050Event}
    (hidle : s.hand side = []) (hevents : d.events = [event]) (now : String) :
    ∃ t events, Vda5050EventsRepository.log events = (Vda5050EventsRepository.log s.events).insert now event ∧
      s.step (.dispatch side d) = some t ∧
      t.step (.insert side now) = some { s with events, recorded := s.recorded ++ [d] } := by
  have hmem : event ∈ d.events := hevents ▸ List.mem_singleton_self event
  have hplain : Value.PlainText event.payload :=
    Value.plainText_of_bracketed (bracketed_of_mem_recordedEvents hobjects hmem)
  let t : Cqrs := { s with hand := Function.update s.hand side [(d, event)] }
  have hhand : t.hand side = [(d, event)] := Function.update_self ..
  obtain ⟨events, hlog, hinsert⟩ := exists_insert hhand hplain now
  refine ⟨t, events, hlog, by simp [step, hidle, hevents, t], hinsert.trans ?_⟩
  have hback : Function.update t.hand side [] = s.hand := by simp [t, ← hidle]
  rw [hback]
  rfl

omit [JsonLibrary] [Library] in
/-- Objects and arrays are written in brackets if all texts are. -/
theorem dumps_ofTexts {texts : List (Int × String × Json)} (h : ∀ e ∈ texts, Bracketed e.2.1) :
    letI := JsonLibrary.ofTexts texts
    DumpsObjects ∧ DumpsArrays := by
  let lib := JsonLibrary.ofTexts texts
  have hdump : ∀ j, Bracketed (JsonLibrary.dump j) := fun j =>
    JsonLibrary.dump_ofTexts_of_forall h (bracketed_brace "\x7d") j
  exact ⟨fun _ => hdump _, fun _ => hdump _⟩

omit [JsonLibrary] [Library] in
theorem dumps_acme :
    letI := JsonLibrary.ofTexts connectionTexts
    DumpsObjects ∧ DumpsArrays := by
  refine dumps_ofTexts fun e he => ?_
  simp only [connectionTexts, List.mem_cons, List.not_mem_nil, or_false] at he
  rcases he with rfl | rfl
  · exact .inl (by decide +kernel)
  · exact .inl (by decide +kernel)

omit [JsonLibrary] [Library] in
/-- The robot `acme.7` goes online and offline, and both messages are recorded. -/
theorem steps_acme :
    letI := JsonLibrary.ofTexts connectionTexts
    letI := Library.ofDigits
    ∃ (s s' : Cqrs) (events events' : EventsTable),
      Cqrs.step {} (.dispatch .localSide wentOnline) = some s ∧
      s.step (.insert .localSide "2026-01-01T00:00:05Z") = some { events, recorded := [wentOnline] } ∧
      Cqrs.step { events, recorded := [wentOnline] } (.dispatch .localSide wentOffline) = some s' ∧
      s'.step (.insert .localSide "2026-01-01T01:00:00Z") =
        some { events := events', recorded := [wentOnline, wentOffline] } := by
  let lib := JsonLibrary.ofTexts connectionTexts
  let sqlLib := Library.ofDigits
  obtain ⟨hobjects, -⟩ := dumps_acme
  obtain ⟨online, honline⟩ : ∃ event, wentOnline.events = [event] := ⟨_, rfl⟩
  obtain ⟨offline, hoffline⟩ : ∃ event, wentOffline.events = [event] := ⟨_, rfl⟩
  have hidle : ({} : Cqrs).hand .localSide = [] := rfl
  obtain ⟨s, events, -, hdispatch, hinsert⟩ := exists_recorded hobjects hidle honline "2026-01-01T00:00:05Z"
  have hidle' : Cqrs.hand { events, recorded := [wentOnline] } .localSide = [] := rfl
  obtain ⟨s', events', -, hdispatch', hinsert'⟩ := exists_recorded hobjects hidle' hoffline "2026-01-01T01:00:00Z"
  exact ⟨s, s', events, events', hdispatch, hinsert, hdispatch', hinsert'⟩

omit [JsonLibrary] [Library] in
/-- Two messages of a robot, and a cycle. -/
theorem lookups_eq_fleet_offline :
    letI := JsonLibrary.ofTexts connectionTexts
    letI := Library.ofDigits
    ∃ u : Cqrs, u.Settled ∧ u.recorded = [wentOnline, wentOffline] ∧
      u.Answers (Fleet.receiveAll {} [wentOnline, wentOffline]) := by
  let lib := JsonLibrary.ofTexts connectionTexts
  let sqlLib := Library.ofDigits
  obtain ⟨s, s', events, events', hdispatch, hinsert, hdispatch', hinsert'⟩ := steps_acme
  have hparses : ∀ t : Cqrs, t.ParsesMessages (.dispatch .localSide wentOnline) := fun _ => parsesBack_acme.1
  have hparses' : ∀ t : Cqrs, t.ParsesMessages (.dispatch .localSide wentOffline) := fun _ => parsesBack_acme.2
  have hinserts : ∀ (t : Cqrs) (now : String), t.ParsesMessages (.insert .localSide now) := fun _ _ => trivial
  have hstart : system.Reach ParsesMessages {} := .init rfl
  have honline := (hstart.step (hparses _) hdispatch).step (hinserts _ _) hinsert
  have hoffline := (honline.step (hparses' _) hdispatch').step (hinserts _ _) hinsert'
  obtain ⟨u, hcycle, hkept⟩ :=
    exists_completeCycle (s := { events := events', recorded := [wentOnline, wentOffline] }) rfl
  obtain ⟨hsame, hevents⟩ := Prod.mk.inj hkept
  have hu : u.recorded = [wentOnline, wentOffline] := hsame
  have hsettled : u.Settled := ⟨_, u, hoffline, hcycle, .init rfl, hevents⟩
  refine ⟨u, hsettled, hu, ?_⟩
  rw [← hu]
  exact (lookups_eq_fleet dumps_acme.1 dumps_acme.2 hsettled).1

end Cqrs

end SyriusOrbit.Projection

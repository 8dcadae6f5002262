import SyriusOrbit.Mqtt.Reading
import SyriusOrbit.AuditTrail
import SyriusOrbit.Projection.Consistency

/-!
# From the brokers to the lookups

The network threads with the callbacks of the endpoints, the event recorder, the projection thread and the tables as
one system.  A message that is delivered while the recorder is registered is recorded and projected, and once the
threads have done with it the lookups tell what the delivered messages tell, as their topics and payloads are read
(`lookups_eq_heard`).  When no more messages are delivered the threads come to that point (`eventually_told`).
-/

namespace SyriusOrbit

open JsonFormat Vda5050 Mqtt Db Sql Projection Transition

/-- The thread of a client in which the step is taken; `none` stands for the daemon's thread and the brokers. -/
def Mqtt.Action.thread : Action → Option Side
  | .connecting side | .onConnect side _ => some side
  | .initCloud _ | .setupBridge | .notify => some .cloudSide
  | .connectLocal _ | .initLocal _ | .startLoops _ | .constructRecorder | .attach | .setOnCloudConnected | .lost _ =>
    none

/-- The steps of the projection thread. -/
def Projection.CqrsAction.OfProjection : CqrsAction → Prop
  | .wake | .query _ | .queryThrows | .project | .projectThrows _ | .next | .finish => True
  | .dispatch .. | .insert .. | .insertThrows _ | .restart => False

variable [JsonLibrary] [Library]

private theorem Projection.Cqrs.parsesMessages_of_projection {s : Cqrs} {a : CqrsAction} (h : a.OfProjection) :
    s.ParsesMessages a := by
  cases a with
  | dispatch => exact h.elim
  | _ => trivial

/-- `pending` are the messages of the delivery of a side for which the listener of the recorder is still to be
called. -/
structure Pipeline where
  traffic : Traffic := {}
  db : Cqrs := {}
  pending : Side → List Dispatched := fun _ => []

inductive PipelineAction where
  | daemon (a : Mqtt.Action)
  | deliver (side : Side) (msg : MqttMessage) (throws : Dispatched → Bool)
  -- the listener of the recorder is called
  | record (side : Side)
  | db (a : CqrsAction)

namespace Pipeline

/-- The thread of the client has done with all messages it was handed. -/
def Idle (s : Pipeline) (side : Side) : Prop := s.pending side = [] ∧ s.db.hand side = []

instance (s : Pipeline) (side : Side) : Decidable (s.Idle side) :=
  decidable_of_iff ((s.pending side).isEmpty ∧ (s.db.hand side).isEmpty) (by simp [Idle])

variable [MosquittoLibrary]

/-- A thread is handed one message after another, and calls the listener while it has the message. -/
def deliver (s : Pipeline) (side : Side) (msg : MqttMessage) (throws : Dispatched → Bool) : Option Pipeline :=
  if ¬s.Idle side then none
  else (s.traffic.deliver side msg throws).map fun traffic => { s with
    traffic
    pending := Function.update s.pending side (traffic.deliveries.getLast?.elim [] Delivery.records) }

def record (s : Pipeline) (side : Side) : Option Pipeline :=
  match s.pending side with
  | [] => none
  | d :: rest => (s.db.step (.dispatch side d)).map fun db => { s with
    db
    pending := Function.update s.pending side rest }

/-- The steps. -/
def step (topicPrefix : String) (s : Pipeline) : PipelineAction → Option Pipeline
  | .daemon a =>
    if ¬∀ side ∈ a.thread, s.Idle side then none
    else (s.traffic.daemon.step topicPrefix a).map fun daemon => { s with traffic := { s.traffic with daemon } }
  | .deliver side msg throws => s.deliver side msg throws
  | .record side => s.record side
  | .db (.dispatch ..) => none
  -- the process starts again
  | .db .restart => (s.db.step .restart).map fun db => { s with
    traffic := { s.traffic with daemon := {} }
    db
    pending := fun _ => [] }
  | .db a => (s.db.step a).map fun db => { s with db }

def system (topicPrefix : String) : System Pipeline PipelineAction := .ofStep {} (step topicPrefix)

/-- The calls of the library for the subscriptions succeed, the messages are read back as they are written, and no
message is lost by an insertion that fails or by the end of the process. -/
def Works (s : Pipeline) : PipelineAction → Prop
  | .daemon a => s.traffic.daemon.Succeeds a
  | .deliver .. => True
  | .record side => ∀ d ∈ (s.pending side).head?, ParsesBack (json d.message)
  | .db (.insertThrows _) => False
  | .db .restart => ∀ side, s.Idle side
  | .db _ => True

/-- The calls of the library for the subscriptions succeed, and the messages are read back as they are written. -/
def Parses (s : Pipeline) : PipelineAction → Prop
  | .daemon a => s.traffic.daemon.Succeeds a
  | .record side => ∀ d ∈ (s.pending side).head?, ParsesBack (json d.message)
  | .deliver .. | .db _ => True

omit [MosquittoLibrary] in
theorem parses_of_works {s : Pipeline} {a : PipelineAction} (h : s.Works a) : s.Parses a := by
  cases a with
  | daemon | record => exact h
  | deliver | db => trivial

/-- What the recorder has been told. -/
def heard (topicPrefix : String) (s : Pipeline) : List Dispatched :=
  s.traffic.deliveries.filterMap (Delivery.heard topicPrefix)

/-- What the thread of a client still has to record. -/
def onTheWay (s : Pipeline) (side : Side) : List Dispatched :=
  ((s.db.hand side).head?.map Prod.fst).toList ++ s.pending side

/-- The messages of a side that robots or orders show. -/
def shownTypes : Side → List MessageType
  | .localSide => [.connection, .state, .factsheet]
  | .cloudSide => [.order]

def shownOn (side : Side) (d : Dispatched) : Bool := d.type ∈ shownTypes side

/-! ### What a step can do -/

/-- The outcomes of the steps. -/
inductive Outcome (topicPrefix : String) (s : Pipeline) : PipelineAction → Pipeline → Prop where
  | daemon {a : Mqtt.Action} {daemon : Daemon} (hstep : s.traffic.daemon.step topicPrefix a = some daemon) :
    Outcome topicPrefix s (.daemon a) { s with traffic := { s.traffic with daemon } }
  | delivered {side : Side} {msg : MqttMessage} {throws : Dispatched → Bool} {d : Delivery} (hside : d.side = side)
    (hidle : s.Idle side)
    (hstep : s.traffic.deliver side msg throws = some ⟨s.traffic.daemon, s.traffic.deliveries ++ [d]⟩) :
    Outcome topicPrefix s (.deliver side msg throws)
      { s with
        traffic := ⟨s.traffic.daemon, s.traffic.deliveries ++ [d]⟩
        pending := Function.update s.pending side d.records }
  | dispatched {side : Side} {d : Dispatched} {rest : List Dispatched} {db : Cqrs}
    (hpending : s.pending side = d :: rest) (hstep : s.db.step (.dispatch side d) = some db) :
    Outcome topicPrefix s (.record side) { s with db, pending := Function.update s.pending side rest }
  | restarted {db : Cqrs} (hstep : s.db.step .restart = some db) :
    Outcome topicPrefix s (.db .restart)
      { s with traffic := { s.traffic with daemon := {} }, db, pending := fun _ => [] }
  | inserted {side : Side} {now : String} {db : Cqrs} (hstep : s.db.step (.insert side now) = some db) :
    Outcome topicPrefix s (.db (.insert side now)) { s with db }
  | threw {side : Side} {db : Cqrs} (hstep : s.db.step (.insertThrows side) = some db) :
    Outcome topicPrefix s (.db (.insertThrows side)) { s with db }
  | projection {b : CqrsAction} {db : Cqrs} (hb : b.OfProjection) (hstep : s.db.step b = some db) :
    Outcome topicPrefix s (.db b) { s with db }

variable {topicPrefix : String} {s s' : Pipeline}

private theorem exists_delivery {side : Side} {msg : MqttMessage} {throws : Dispatched → Bool} {traffic : Traffic}
    (h : s.traffic.deliver side msg throws = some traffic) :
    ∃ d : Delivery, d.side = side ∧ traffic = ⟨s.traffic.daemon, s.traffic.deliveries ++ [d]⟩ := by
  obtain ⟨-, -, -, rfl⟩ := Traffic.deliver_cases h
  exact ⟨_, rfl, rfl⟩

theorem outcome_of_step {a : PipelineAction} (hs : s.step topicPrefix a = some s') : Outcome topicPrefix s a s' := by
  cases a with
  | daemon a =>
    obtain ⟨-, hs⟩ := of_guard hs
    obtain ⟨daemon, hdaemon, rfl⟩ := Option.map_eq_some_iff.1 hs
    exact .daemon hdaemon
  | deliver side msg throws =>
    obtain ⟨hidle, hs⟩ := of_guard hs
    obtain ⟨traffic, htraffic, rfl⟩ := Option.map_eq_some_iff.1 hs
    obtain ⟨d, hside, rfl⟩ := exists_delivery htraffic
    rw [List.getLast?_concat, Option.elim_some]
    exact .delivered hside (not_not.1 hidle) htraffic
  | record side =>
    simp only [step, record] at hs
    split at hs
    · cases hs
    · next d rest hpending =>
      obtain ⟨db, hdb, rfl⟩ := Option.map_eq_some_iff.1 hs
      exact .dispatched hpending hdb
  | db b =>
    cases b with
    | dispatch => cases hs
    | restart =>
      simp only [step] at hs
      obtain ⟨db, hdb, rfl⟩ := Option.map_eq_some_iff.1 hs
      exact .restarted hdb
    | insert =>
      obtain ⟨db, hdb, rfl⟩ := Option.map_eq_some_iff.1 hs
      exact .inserted hdb
    | insertThrows =>
      obtain ⟨db, hdb, rfl⟩ := Option.map_eq_some_iff.1 hs
      exact .threw hdb
    | _ =>
      obtain ⟨db, hdb, rfl⟩ := Option.map_eq_some_iff.1 hs
      exact .projection trivial hdb

/-- A step of the database, if it is one. -/
private theorem db_of_step {a : PipelineAction} (ha : s.Parses a) (hs : s.step topicPrefix a = some s') :
    s'.db = s.db ∨ ∃ b, s.db.ParsesMessages b ∧ s.db.step b = some s'.db := by
  cases outcome_of_step hs with
  | daemon | delivered => exact .inl rfl
  | @dispatched side d rest db hpending hstep =>
    have hparses : ParsesBack (json d.message) := ha d (by rw [hpending]; rfl)
    exact .inr ⟨.dispatch side d, hparses, hstep⟩
  | restarted hstep => exact .inr ⟨.restart, trivial, hstep⟩
  | inserted hstep => exact .inr ⟨.insert .., trivial, hstep⟩
  | threw hstep => exact .inr ⟨.insertThrows _, trivial, hstep⟩
  | projection hb hstep => exact .inr ⟨_, Cqrs.parsesMessages_of_projection hb, hstep⟩

theorem db_of_reach (h : (system topicPrefix).Reach Works s) : Cqrs.system.Reach Cqrs.ParsesMessages s.db := by
  refine h.map Pipeline.db (fun s hs => ?_) fun s a s' ha hs => db_of_step (parses_of_works ha) hs
  obtain rfl : s = {} := hs
  rfl

/-! ### The steps of the database -/

end Pipeline

namespace Projection.Cqrs

omit [Library] in
/-- What is left of a message is told by its first event, if there is one. -/
private theorem fst_of_leftOver {d : Dispatched} {event : Vda5050Event} {rest : List (Dispatched × Vda5050Event)}
    (h : LeftOver ((d, event) :: rest)) : ∀ entry ∈ rest, entry.1 = d := by
  obtain ⟨-, -, -, hsuffix⟩ := h.tail
  intro entry hentry
  obtain ⟨e, -, rfl⟩ := List.mem_map.1 (hsuffix.subset (List.mem_cons_of_mem _ hentry))
  rfl

variable {s s' : Cqrs}

theorem dispatch_cases {side : Side} {d : Dispatched} (hs : s.step (.dispatch side d) = some s') :
    s.hand side = [] ∧
      s' = { s with hand := Function.update s.hand side (d.events.map fun event => (d, event)) } := by
  simp only [step] at hs
  split at hs
  · next hhand => exact ⟨hhand, (Option.some.inj hs).symm⟩
  · cases hs

theorem insert_cases (hobjects : DumpsObjects) (h : s.Inv) {side : Side} {now : String}
    (hs : s.step (.insert side now) = some s') :
    ∃ d event rest, s.hand side = (d, event) :: rest ∧ s'.hand = Function.update s.hand side rest ∧
      s'.recorded = (if rest.isEmpty then s.recorded ++ [d] else s.recorded) ∧
      Vda5050EventsRepository.log s'.events = (Vda5050EventsRepository.log s.events).insert now event := by
  simp only [step, insert] at hs
  split at hs
  · cases hs
  · next d event rest hhand =>
    have hleft : LeftOver ((d, event) :: rest) := hhand ▸ h.hand side
    obtain ⟨-, hevent, -, -⟩ := hleft.tail
    have hplain : Value.PlainText event.payload :=
      Value.plainText_of_bracketed (bracketed_of_mem_recordedEvents hobjects hevent)
    obtain ⟨events, hinsert, hlog⟩ := Vda5050EventsRepository.insert_eq hplain s.events now
    rw [hinsert] at hs
    obtain rfl := Option.some.inj hs
    exact ⟨d, event, rest, hhand, rfl, rfl, hlog⟩

theorem insertThrows_cases {side : Side} (hs : s.step (.insertThrows side) = some s') :
    ∃ d event rest, s.hand side = (d, event) :: rest ∧ s' = { s with hand := Function.update s.hand side [] } := by
  simp only [step] at hs
  split at hs
  · cases hs
  · next hand hhand =>
    cases hlist : s.hand side with
    | nil => exact absurd hlist hhand
    | cons entry rest => exact ⟨entry.1, entry.2, rest, rfl, (Option.some.inj hs).symm⟩

/-- The projection thread does not touch what the network threads have in hand, nor the events. -/
theorem hand_of_step {a : CqrsAction} (ha : a.OfProjection) (hs : s.step a = some s') :
    s'.hand = s.hand ∧ s'.recorded = s.recorded ∧ s'.events = s.events := by
  cases a with
  | dispatch | insert | insertThrows | restart => exact ha.elim
  | query | projectThrows =>
    simp only [step] at hs
    split at hs
    · obtain ⟨-, hs⟩ := of_guard hs
      obtain rfl := Option.some.inj hs
      exact ⟨rfl, rfl, rfl⟩
    · cases hs
  | wake | queryThrows | project | next | finish =>
    simp only [step] at hs
    split at hs
    · obtain rfl := Option.some.inj hs
      exact ⟨rfl, rfl, rfl⟩
    · cases hs

end Projection.Cqrs

namespace Pipeline

/-! ### What is recorded -/

variable [MosquittoLibrary] {topicPrefix : String} {s s' : Pipeline}

omit [JsonLibrary] [Library] [MosquittoLibrary] in
private theorem of_shownOn {side : Side} {d : Dispatched} (h : shownOn side d = true) :
    d.type ∈ side.types ∧ recordedTopic d.type ∈ shownTopics := by
  have hall : ∀ side, ∀ t ∈ shownTypes side, t ∈ Side.types side ∧ recordedTopic t ∈ shownTopics := by
    rintro (_ | _) <;> decide
  exact hall side d.type (by simpa [shownOn] using h)

omit [JsonLibrary] [Library] [MosquittoLibrary] in
private theorem filter_shownOn_of_ne {side side' : Side} (hne : side ≠ side') {ds : List Dispatched}
    (h : ∀ d ∈ ds, d.type ∈ side'.types) : ds.filter (shownOn side) = [] := by
  refine List.filter_eq_nil_iff.2 fun d hd hshown => hne ?_
  exact Recording.side_eq_of_mem_types (of_shownOn hshown).1 (h d hd)

/-! ### What is on the way -/

omit [JsonLibrary] [MosquittoLibrary] in
/-- A thread that has done with everything is handed messages. -/
theorem onTheWay_delivered {side : Side} (traffic : Traffic) (ds : List Dispatched) (hidle : s.Idle side) :
    s.onTheWay side = [] ∧ onTheWay { s with traffic, pending := Function.update s.pending side ds } =
      Function.update s.onTheWay side ds := by
  refine ⟨by simp [onTheWay, hidle.1, hidle.2], funext fun side' => ?_⟩
  by_cases hside : side' = side
  · subst hside
    simp [onTheWay, hidle.2]
  · simp [onTheWay, Function.update_of_ne hside]

omit [MosquittoLibrary] in
/-- The listener is called with the next one. -/
theorem onTheWay_dispatched {side : Side} {d : Dispatched} {rest : List Dispatched} {db : Cqrs}
    (hpending : s.pending side = d :: rest) (hstep : s.db.step (.dispatch side d) = some db) :
    s.onTheWay side = d :: rest ∧ onTheWay { s with db, pending := Function.update s.pending side rest } =
      Function.update s.onTheWay side (if d.events = [] then rest else d :: rest) := by
  obtain ⟨hhand, rfl⟩ := Cqrs.dispatch_cases hstep
  refine ⟨by simp [onTheWay, hhand, hpending], funext fun side' => ?_⟩
  by_cases hside : side' = side
  · subst hside
    cases d.events <;> simp [onTheWay]
  · simp [onTheWay, Function.update_of_ne hside]

omit [JsonLibrary] [MosquittoLibrary] in
private theorem onTheWay_eq_cons {side : Side} {d : Dispatched} {event : Vda5050Event}
    {hand : List (Dispatched × Vda5050Event)} (hhand : s.db.hand side = (d, event) :: hand) :
    s.onTheWay side = d :: s.pending side := by simp [onTheWay, hhand]

omit [JsonLibrary] [MosquittoLibrary] in
/-- Events of the message in hand are done. -/
theorem onTheWay_hand {side : Side} {d : Dispatched} {event : Vda5050Event}
    {hand rest : List (Dispatched × Vda5050Event)} {db : Cqrs} (hhand : s.db.hand side = (d, event) :: hand)
    (hrest : ∀ entry ∈ rest, entry.1 = d) (hdb : db.hand = Function.update s.db.hand side rest) :
    s.onTheWay side = d :: s.pending side ∧ onTheWay { s with db } =
      Function.update s.onTheWay side (if rest.isEmpty then s.pending side else d :: s.pending side) := by
  refine ⟨onTheWay_eq_cons hhand, funext fun side' => ?_⟩
  by_cases hside : side' = side
  · subst hside
    cases rest with
    | nil => simp [onTheWay, hdb]
    | cons entry rest => simp [onTheWay, hdb, hrest entry List.mem_cons_self]
  · simp [onTheWay, hdb, Function.update_of_ne hside]

omit [Library] in
private theorem made_of_deliver {t : Traffic} (hreach : (Daemon.system topicPrefix).Reach Daemon.Succeeds t.daemon)
    {side : Side} {msg : MqttMessage} {throws : Dispatched → Bool} {d : Delivery}
    (h : t.deliver side msg throws = some ⟨t.daemon, t.deliveries ++ [d]⟩) :
    Traffic.Made d topicPrefix Daemon.Succeeds := by
  obtain ⟨hloops, hidle, hvalid, heq⟩ := Traffic.deliver_cases h
  have hlist := List.append_cancel_left (congrArg Traffic.deliveries heq)
  obtain rfl := List.singleton_inj.1 hlist
  exact ⟨hreach, hloops, hidle, hvalid, throws, rfl⟩

/-- Messages are with the thread of the side to which their type belongs. -/
def Typed (messages : Side → List Dispatched) : Prop := ∀ side, ∀ d ∈ messages side, d.type ∈ side.types

omit [JsonLibrary] [Library] [MosquittoLibrary] in
theorem Typed.update {messages : Side → List Dispatched} (h : Typed messages) {side : Side} {ds : List Dispatched}
    (hds : ∀ d ∈ ds, d.type ∈ side.types) : Typed (Function.update messages side ds) := by
  intro side' d hd
  by_cases hside : side' = side
  · subst hside
    rw [Function.update_self] at hd
    exact hds d hd
  · rw [Function.update_of_ne hside] at hd
    exact h side' d hd

/-- The daemon has come to its state without failing subscriptions, and the threads have messages of their sides. -/
structure Sound (topicPrefix : String) (s : Pipeline) : Prop where
  daemon : (Daemon.system topicPrefix).Reach Daemon.Succeeds s.traffic.daemon
  db : s.db.Inv
  typed : Typed s.onTheWay

namespace Sound

omit [MosquittoLibrary] in
theorem hand_same (h : s.Sound topicPrefix) {side : Side} {d : Dispatched} {event : Vda5050Event}
    {rest : List (Dispatched × Vda5050Event)} (hhand : s.db.hand side = (d, event) :: rest) :
    ∀ entry ∈ rest, entry.1 = d :=
  Cqrs.fst_of_leftOver (hhand ▸ h.db.hand side)

theorem typed_delivered (h : s.Sound topicPrefix) {side : Side} {msg : MqttMessage} {throws : Dispatched → Bool}
    {d : Delivery} (hside : d.side = side)
    (hstep : s.traffic.deliver side msg throws = some ⟨s.traffic.daemon, s.traffic.deliveries ++ [d]⟩) :
    d.records = (d.heard topicPrefix).toList ∧ ∀ u ∈ d.records, u.type ∈ side.types := by
  have hrecords := Delivery.records_eq_heard (made_of_deliver h.daemon hstep)
  refine ⟨hrecords, fun u hu => ?_⟩
  rw [hrecords, Option.mem_toList] at hu
  exact hside ▸ Delivery.type_mem_of_heard hu

omit [MosquittoLibrary] in
/-- The message in hand and those to come are of the types of the side. -/
theorem typed_hand (h : s.Sound topicPrefix) {side : Side} {d : Dispatched} {event : Vda5050Event}
    {rest : List (Dispatched × Vda5050Event)} (hhand : s.db.hand side = (d, event) :: rest) :
    ∀ u ∈ d :: s.pending side, u.type ∈ side.types := by
  intro u hu
  refine h.typed side u ?_
  rwa [onTheWay_eq_cons hhand]

theorem step (h : s.Sound topicPrefix) (hobjects : DumpsObjects) (harrays : DumpsArrays) {a : PipelineAction}
    (ha : s.Parses a) (hs : s.step topicPrefix a = some s') : s'.Sound topicPrefix := by
  have hdb : s'.db.Inv := by
    rcases db_of_step ha hs with heq | ⟨b, hb, hstep⟩
    · exact heq ▸ h.db
    · exact (h.db.step hobjects harrays hb hstep).1
  cases outcome_of_step hs with
  | daemon hstep => exact ⟨h.daemon.step ha hstep, hdb, h.typed⟩
  | delivered hside hidle hstep =>
    refine ⟨h.daemon, hdb, ?_⟩
    rw [(onTheWay_delivered _ _ hidle).2]
    exact h.typed.update (h.typed_delivered hside hstep).2
  | @dispatched side d rest db hpending hstep =>
    obtain ⟨hbefore, hafter⟩ := onTheWay_dispatched hpending hstep
    refine ⟨h.daemon, hdb, ?_⟩
    rw [hafter]
    refine h.typed.update fun u hu => h.typed side u ?_
    rw [hbefore]
    split at hu
    · exact List.mem_cons_of_mem d hu
    · exact hu
  | restarted hstep =>
    obtain rfl := Option.some.inj hstep
    exact ⟨.init rfl, hdb, fun side u hu => by simp [onTheWay] at hu⟩
  | @inserted side now db hstep =>
    obtain ⟨d, event, rest, hhand, hhand', -⟩ := Cqrs.insert_cases hobjects h.db hstep
    refine ⟨h.daemon, hdb, ?_⟩
    rw [(onTheWay_hand hhand (h.hand_same hhand) hhand').2]
    refine h.typed.update fun u hu => h.typed_hand hhand u ?_
    split at hu
    · exact List.mem_cons_of_mem d hu
    · exact hu
  | threw hstep =>
    obtain ⟨d, event, rest, hhand, rfl⟩ := Cqrs.insertThrows_cases hstep
    refine ⟨h.daemon, hdb, ?_⟩
    rw [(onTheWay_hand hhand (List.forall_mem_nil _) rfl).2]
    exact h.typed.update fun u hu => h.typed_hand hhand u (List.mem_cons_of_mem d hu)
  | @projection b db hb hstep =>
    obtain ⟨hhand, -⟩ := Cqrs.hand_of_step hb hstep
    have hsame : onTheWay { s with db } = s.onTheWay := funext fun side => by simp [onTheWay, hhand]
    refine ⟨h.daemon, hdb, ?_⟩
    rw [hsame]
    exact h.typed

end Sound

theorem sound_of_reach (hobjects : DumpsObjects) (harrays : DumpsArrays) (h : (system topicPrefix).Reach Parses s) :
    s.Sound topicPrefix := by
  refine h.invariant (fun s hs => ?_) fun s a s' _ hI ha hs => hI.step hobjects harrays ha hs
  obtain rfl : s = {} := hs
  exact ⟨.init rfl, Cqrs.inv_init, fun side u hu => by simp [onTheWay] at hu⟩

/-! ### What is recorded -/

/-- What the recorder has been told is recorded or on the way, as far as robots and orders show it. -/
def Told (topicPrefix : String) (s : Pipeline) : Prop :=
  ∀ side, (s.db.recorded ++ s.onTheWay side).filter (shownOn side) = (s.heard topicPrefix).filter (shownOn side)

namespace Told

/-- A message is handed over. -/
theorem deliver (h : s.Told topicPrefix) (hsound : s.Sound topicPrefix) {side : Side} {msg : MqttMessage}
    {throws : Dispatched → Bool} {d : Delivery} (hside : d.side = side) (hidle : s.Idle side)
    (hstep : s.traffic.deliver side msg throws = some ⟨s.traffic.daemon, s.traffic.deliveries ++ [d]⟩) :
    Told topicPrefix { s with
      traffic := ⟨s.traffic.daemon, s.traffic.deliveries ++ [d]⟩
      pending := Function.update s.pending side d.records } := by
  obtain ⟨hrecords, htypes⟩ := hsound.typed_delivered hside hstep
  obtain ⟨hbefore, hafter⟩ :=
    onTheWay_delivered ⟨s.traffic.daemon, s.traffic.deliveries ++ [d]⟩ d.records hidle
  intro side'
  have htold := h side'
  have hheard : heard topicPrefix { s with
      traffic := ⟨s.traffic.daemon, s.traffic.deliveries ++ [d]⟩
      pending := Function.update s.pending side d.records } = s.heard topicPrefix ++ d.records := by
    rw [heard, List.filterMap_append, hrecords]
    cases hheard : d.heard topicPrefix <;> simp [heard, hheard]
  rw [hheard, hafter, List.filter_append (s.heard topicPrefix), ← htold]
  by_cases hside' : side' = side
  · subst hside'
    rw [Function.update_self, hbefore, List.append_nil, List.filter_append]
  · rw [Function.update_of_ne hside', filter_shownOn_of_ne hside' htypes, List.append_nil]

omit [MosquittoLibrary] in
/-- The listener is called. -/
theorem dispatch (h : s.Told topicPrefix) {side : Side} {d : Dispatched} {rest : List Dispatched} {db : Cqrs}
    (hpending : s.pending side = d :: rest) (hstep : s.db.step (.dispatch side d) = some db) :
    Told topicPrefix { s with db, pending := Function.update s.pending side rest } := by
  obtain ⟨hbefore, hafter⟩ := onTheWay_dispatched hpending hstep
  obtain ⟨-, rfl⟩ := Cqrs.dispatch_cases hstep
  intro side'
  refine Eq.trans ?_ (h side')
  rw [hafter]
  by_cases hside : side' = side
  · subst hside
    rw [Function.update_self, hbefore, List.filter_append, List.filter_append]
    refine congrArg _ ?_
    split
    · next hevents =>
      -- a message that is shown has an event
      have hhidden : ¬ shownOn side' d = true := fun hshown => by
        obtain ⟨e, he⟩ := events_of_shown (of_shownOn hshown).2
        simp [hevents] at he
      rw [List.filter_cons_of_neg hhidden]
    · rfl
  · rw [Function.update_of_ne hside]

omit [MosquittoLibrary] in
/-- An event is inserted. -/
theorem insert (h : s.Told topicPrefix) (hsound : s.Sound topicPrefix) (hobjects : DumpsObjects) {side : Side}
    {now : String} {db : Cqrs} (hstep : s.db.step (.insert side now) = some db) :
    Told topicPrefix { s with db } := by
  obtain ⟨d, event, rest, hhand, hhand', hrecorded, -⟩ := Cqrs.insert_cases hobjects hsound.db hstep
  obtain ⟨hbefore, hafter⟩ := onTheWay_hand hhand (hsound.hand_same hhand) hhand'
  have hd : d.type ∈ side.types := hsound.typed_hand hhand d List.mem_cons_self
  intro side'
  refine Eq.trans ?_ (h side')
  rw [hafter, hrecorded]
  by_cases hside : side' = side
  · subst hside
    rw [Function.update_self, hbefore]
    split <;> simp
  · rw [Function.update_of_ne hside]
    split
    · have hhidden : [d].filter (shownOn side') = [] :=
        filter_shownOn_of_ne hside fun u hu => List.mem_singleton.1 hu ▸ hd
      rw [List.filter_append, List.filter_append, List.filter_append, hhidden, List.append_nil]
    · rfl

theorem step (h : s.Told topicPrefix) (hsound : s.Sound topicPrefix) (hobjects : DumpsObjects) {a : PipelineAction}
    (ha : s.Works a) (hs : s.step topicPrefix a = some s') : s'.Told topicPrefix := by
  cases outcome_of_step hs with
  | daemon => exact h
  | delivered hside hidle hstep => exact h.deliver hsound hside hidle hstep
  | dispatched hpending hstep => exact h.dispatch hpending hstep
  | restarted hstep =>
    have hidle : ∀ side, s.Idle side := ha
    obtain rfl := Option.some.inj hstep
    intro side
    have htold := h side
    rwa [show s.onTheWay side = [] by simp [onTheWay, (hidle side).1, (hidle side).2]] at htold
  | inserted hstep => exact h.insert hsound hobjects hstep
  | threw => exact ha.elim
  | @projection b db hb hstep =>
    obtain ⟨hhand, hrecorded, -⟩ := Cqrs.hand_of_step hb hstep
    have hsame : ∀ side, onTheWay { s with db } side = s.onTheWay side := fun side => by simp [onTheWay, hhand]
    intro side
    rw [hsame, hrecorded]
    exact h side

end Told

theorem told_of_reach (hobjects : DumpsObjects) (harrays : DumpsArrays) (h : (system topicPrefix).Reach Works s) :
    s.Told topicPrefix := by
  refine h.invariant (fun s hs => ?_) fun s a s' hreach hI ha hs =>
    hI.step (sound_of_reach hobjects harrays (hreach.mono fun _ _ => parses_of_works)) hobjects ha hs
  obtain rfl : s = {} := hs
  exact fun _ => rfl

/-! ### What the lookups tell -/

omit [JsonLibrary] [MosquittoLibrary] [Library] in
/-- What a part of the fleet tells only depends on the messages that it is about. -/
private theorem part_receiveAll {γ : Type} (part : Fleet → γ) (about : Dispatched → Bool)
    (hcongr : ∀ (f g : Fleet) (d : Dispatched), part f = part g →
      part (f.receive d.context d.type d.message) = part (g.receive d.context d.type d.message))
    (hskip : ∀ (f : Fleet) (d : Dispatched), about d = false → part (f.receive d.context d.type d.message) = part f)
    (ds : List Dispatched) : part (Fleet.receiveAll {} ds) = part (Fleet.receiveAll {} (ds.filter about)) := by
  induction ds using List.reverseRecOn with
  | nil => rfl
  | append_singleton ds d ih =>
    rw [Fleet.receiveAll_append, List.filter_append]
    cases habout : about d with
    | true =>
      rw [List.filter_cons_of_pos habout, List.filter_nil, Fleet.receiveAll_append]
      exact hcongr _ _ d ih
    | false =>
      rw [List.filter_cons_of_neg (by simp [habout]), List.filter_nil, List.append_nil, hskip _ _ habout]
      exact ih

omit [JsonLibrary] [MosquittoLibrary] [Library] in
/-- The order between messages of different sides does not matter. -/
private theorem receiveAll_congr {ds ds' : List Dispatched}
    (h : ∀ side, ds.filter (shownOn side) = ds'.filter (shownOn side)) :
    Fleet.receiveAll {} ds = Fleet.receiveAll {} ds' := by
  let robots : Fleet → (String → Option Connection) × (String → Option State) × (String → Option FactSheet) :=
    fun f => (f.connection, f.state, f.factsheet)
  have hrobots : ∀ ds, robots (Fleet.receiveAll {} ds) =
      robots (Fleet.receiveAll {} (ds.filter (shownOn .localSide))) := by
    refine part_receiveAll robots _ (fun f g d hfg => ?_) fun f d habout => ?_
    · obtain ⟨context, t, m⟩ := d
      simp only [robots, Prod.mk.injEq] at hfg ⊢
      cases t <;> simp [Fleet.receive, hfg]
    · obtain ⟨context, t, m⟩ := d
      cases t with
      | connection | state | factsheet => simp [shownOn, shownTypes] at habout
      | _ => rfl
  have horders : ∀ ds, (Fleet.receiveAll {} ds).order =
      (Fleet.receiveAll {} (ds.filter (shownOn .cloudSide))).order := by
    refine part_receiveAll Fleet.order _ (fun f g d hfg => ?_) fun f d habout => ?_
    · obtain ⟨context, t, m⟩ := d
      cases t <;> simp [Fleet.receive, hfg]
    · obtain ⟨context, t, m⟩ := d
      cases t with
      | order => simp [shownOn, shownTypes] at habout
      | _ => rfl
  have hsame : robots (Fleet.receiveAll {} ds) = robots (Fleet.receiveAll {} ds') := by
    rw [hrobots ds, hrobots ds', h]
  have horder : (Fleet.receiveAll {} ds).order = (Fleet.receiveAll {} ds').order := by
    rw [horders ds, horders ds', h]
  simp only [robots, Prod.mk.injEq] at hsame
  obtain ⟨hconnection, hstate, hfactsheet⟩ := hsame
  cases hf : Fleet.receiveAll {} ds
  cases hg : Fleet.receiveAll {} ds'
  simp_all

/-- When the threads have done with all messages, what is recorded tells what the recorder has been told. -/
private theorem receiveAll_recorded (hobjects : DumpsObjects) (harrays : DumpsArrays)
    (h : (system topicPrefix).Reach Works s)
    (hidle : ∀ side, s.Idle side) :
    Fleet.receiveAll {} s.db.recorded = Fleet.receiveAll {} (s.heard topicPrefix) := by
  refine receiveAll_congr fun side => ?_
  have htold := told_of_reach hobjects harrays h side
  have hnone : s.onTheWay side = [] := by simp [onTheWay, (hidle side).1, (hidle side).2]
  rwa [hnone, List.append_nil] at htold

/-- A projection cycle in which nothing fails has been run, and nothing has been inserted since its start. -/
def Settled (topicPrefix : String) (u : Pipeline) : Prop :=
  ∃ s s', (system topicPrefix).Reach Works s ∧ ((system topicPrefix).startingAt s).Reach Works s' ∧
    s.db.CompleteCycle s'.db ∧ ((system topicPrefix).startingAt s').Reach Works u ∧ u.db.events = s.db.events

theorem Settled.reach {u : Pipeline} (h : u.Settled topicPrefix) : (system topicPrefix).Reach Works u := by
  obtain ⟨s, s', hs, hs', -, hu, -⟩ := h
  exact (hs.trans hs').trans hu

theorem Settled.db {u : Pipeline} (h : u.Settled topicPrefix) : u.db.Settled := by
  obtain ⟨s, s', hs, -, hcycle, hu, hevents⟩ := h
  have hlater : (Cqrs.system.startingAt s'.db).Reach Cqrs.ParsesMessages u.db :=
    hu.map Pipeline.db (fun s hs => congrArg Pipeline.db hs) fun s a s' ha hs => db_of_step (parses_of_works ha) hs
  exact ⟨s.db, s'.db, db_of_reach hs, hcycle, hlater, hevents⟩

private theorem answers_of_settled (hobjects : DumpsObjects) (harrays : DumpsArrays) {u : Pipeline}
    (h : (system topicPrefix).Reach Works u) (hsettled : u.db.Settled) (hidle : ∀ side, u.Idle side) :
    u.db.Answers (Fleet.receiveAll {} (u.heard topicPrefix)) := by
  rw [← receiveAll_recorded hobjects harrays h hidle]
  exact hsettled.answers hobjects harrays

/-- When the network threads have done with all messages and a cycle has been run to its end, the lookups tell what the
messages tell that were delivered while the recorder was registered, read one after another, and no other robots and
orders are listed. -/
theorem lookups_eq_heard (hobjects : DumpsObjects) (harrays : DumpsArrays) {u : Pipeline} (h : u.Settled topicPrefix)
    (hidle : ∀ side, u.Idle side) :
    u.db.Answers (Fleet.receiveAll {} (u.heard topicPrefix)) ∧
      (∀ robot ∈ RobotsRepository.listAll u.db.tables.robots,
        (Fleet.receiveAll {} (u.heard topicPrefix)).robotColumns robot.robotId = some robot.robotColumns) ∧
      ∀ order ∈ OrdersRepository.listAll u.db.tables.orders,
        (Fleet.receiveAll {} (u.heard topicPrefix)).orderColumns order.orderId = some order.orderColumns := by
  have hanswers := answers_of_settled hobjects harrays h.reach h.db hidle
  exact ⟨hanswers, fun _ => hanswers.listed_robot, fun _ => hanswers.listed_order⟩

end Pipeline

/-! ### When no more messages are delivered -/

namespace PipelineAction

/-- The steps of the thread of a client that record messages. -/
def Records (side : Side) : PipelineAction → Prop
  | .record side' | .db (.insert side' _) => side' = side
  | .daemon _ | .deliver .. | .db _ => False

/-- The steps while no message is delivered, the projection does not fail and the process goes on. -/
def Calm : PipelineAction → Prop
  | .deliver .. | .db .queryThrows | .db (.projectThrows _) | .db .restart => False
  | .daemon _ | .record _ | .db _ => True

def Projects : PipelineAction → Prop
  | .db b => b.Projects
  | .daemon _ | .deliver .. | .record _ => False

end PipelineAction

namespace Pipeline

variable [MosquittoLibrary] {topicPrefix : String} {s s' : Pipeline}

/-- The steps that the thread of a client has left to take. -/
def left (s : Pipeline) (side : Side) : Nat :=
  (s.db.hand side).length + ((s.pending side).map fun d => d.events.length + 1).sum

/-- A calm step of the thread of a client brings it nearer to the end, and no other step touches what it has to do. -/
private theorem left_of_step (hobjects : DumpsObjects) (hdb : s.db.Inv) {a : PipelineAction} (hworks : s.Works a)
    (hcalm : a.Calm) (hs : s.step topicPrefix a = some s') (side : Side) :
    a.Records side ∧ s'.left side < s.left side ∨
      ¬ a.Records side ∧ s'.pending side = s.pending side ∧ s'.db.hand side = s.db.hand side := by
  cases outcome_of_step hs with
  | daemon => exact .inr ⟨id, rfl, rfl⟩
  | delivered | restarted => exact hcalm.elim
  | @dispatched side' d rest db hpending hstep =>
    obtain ⟨hhand, rfl⟩ := Cqrs.dispatch_cases hstep
    by_cases hside : side = side'
    · subst hside
      refine .inl ⟨rfl, ?_⟩
      simp [left, hhand, hpending]
    · exact .inr ⟨fun heq => hside heq.symm, Function.update_of_ne hside _ _, Function.update_of_ne hside _ _⟩
  | @inserted side' now db hstep =>
    obtain ⟨d, event, rest, hhand, hhand', -⟩ := Cqrs.insert_cases hobjects hdb hstep
    by_cases hside : side = side'
    · subst hside
      exact .inl ⟨rfl, by simp [left, hhand, hhand']⟩
    · refine .inr ⟨fun heq => hside heq.symm, rfl, ?_⟩
      rw [hhand', Function.update_of_ne hside]
  | threw => exact hworks.elim
  | @projection b db hb hstep =>
    obtain ⟨hhand, -⟩ := Cqrs.hand_of_step hb hstep
    refine .inr ⟨fun hrecords => ?_, rfl, congrFun hhand side⟩
    cases b with
    | insert => exact hb
    | _ => exact hrecords

/-- Nothing is delivered in a calm step. -/
private theorem heard_of_step {a : PipelineAction} (hcalm : a.Calm) (hs : s.step topicPrefix a = some s') :
    s'.heard topicPrefix = s.heard topicPrefix := by
  cases outcome_of_step hs with
  | delivered | restarted => exact hcalm.elim
  | _ => rfl

variable {r : (system topicPrefix).Run} {start : Nat}

/-- Each step does what it should, and from a time on all steps are calm. -/
structure CalmFrom (r : (system topicPrefix).Run) (start : Nat) : Prop where
  reach : (system topicPrefix).Reach Works (r.state 0)
  works : ∀ n, (r.state n).Works (r.action n)
  calm : ∀ n, start ≤ n → (r.action n).Calm

namespace CalmFrom

theorem reached (h : CalmFrom r start) (n : Nat) : (system topicPrefix).Reach Works (r.state n) :=
  h.reach.trans (r.reach (Nat.zero_le n) fun i _ _ => h.works i)

private theorem heard_eq (h : CalmFrom r start) {n : Nat} (hn : start ≤ n) :
    (r.state n).heard topicPrefix = (r.state start).heard topicPrefix := by
  induction n, hn using Nat.le_induction with
  | base => rfl
  | succ n hn ih => exact (heard_of_step (h.calm n hn) (r.step n)).trans ih

variable (hobjects : DumpsObjects) (harrays : DumpsArrays)
include hobjects harrays

theorem db (h : CalmFrom r start) (n : Nat) : (r.state n).db.Inv :=
  (sound_of_reach hobjects harrays ((h.reached n).mono fun _ _ => parses_of_works)).db

private theorem idle_succ (h : CalmFrom r start) {n : Nat} (hn : start ≤ n) {side : Side}
    (hidle : (r.state n).Idle side) :
    (r.state (n + 1)).Idle side ∧ ¬ (r.action n).Records side := by
  rcases left_of_step hobjects (h.db hobjects harrays n) (h.works n) (h.calm n hn) (r.step n) side with
    ⟨-, hlt⟩ | ⟨hnot, hpending, hhand⟩
  · simp [left, hidle.1, hidle.2] at hlt
  · exact ⟨⟨hpending.trans hidle.1, hhand.trans hidle.2⟩, hnot⟩

/-- The thread of a client comes to the end of what it has to do, and nothing is added to it. -/
private theorem eventually_idle (h : CalmFrom r start) {side : Side}
    (hfair : r.Fair (fun s => ¬ s.Idle side) (PipelineAction.Records side)) :
    ∃ m, start ≤ m ∧ ∀ n, m ≤ n → (r.state n).Idle side := by
  have hleft := fun n hn => left_of_step hobjects (h.db hobjects harrays n) (h.works n) (h.calm n hn)
    (r.step n) side
  obtain ⟨m, hm, hidle⟩ := r.eventually_of_rank (fun s => s.left side) (fun s => s.Idle side) hfair
    (fun _ _ hbusy => hbusy)
    (fun n hn _ => by
      rcases hleft n hn with ⟨-, hlt⟩ | ⟨-, hpending, hhand⟩
      · exact .inr hlt.le
      · exact .inr (by simp [left, hpending, hhand]))
    (fun n hn _ hrecords => by
      rcases hleft n hn with ⟨-, hlt⟩ | ⟨hnot, -⟩
      · exact .inr hlt
      · exact absurd hrecords hnot)
    (le_refl start)
  refine ⟨m, hm, fun n hn => ?_⟩
  induction n, hn using Nat.le_induction with
  | base => exact hidle
  | succ n hn ih => exact (h.idle_succ hobjects harrays (hm.trans hn) ih).1

end CalmFrom

/-- The step of the database, if it is one of its own. -/
def dbStep : PipelineAction → Option CqrsAction
  | .db b => some b
  | .daemon _ | .deliver .. | .record _ => none

/-- While the network threads have nothing to do, the projection thread has the database for itself. -/
private theorem projects_of_step {a : PipelineAction} (hidle : ∀ side, ¬ a.Records side) (hworks : s.Works a)
    (hcalm : a.Calm)
    (hs : s.step topicPrefix a = some s') :
    (∃ b, dbStep a = some b ∧ b.Projects ∧ s.db.step b = some s'.db) ∨ dbStep a = none ∧ s'.db = s.db := by
  cases outcome_of_step hs with
  | daemon => exact .inr ⟨rfl, rfl⟩
  | delivered | restarted => exact hcalm.elim
  | @dispatched side => exact absurd rfl (hidle side)
  | @inserted side => exact absurd rfl (hidle side)
  | threw => exact hworks.elim
  | @projection b db hb hstep =>
    refine .inl ⟨b, rfl, ?_, hstep⟩
    cases b with
    | dispatch | insert | insertThrows | restart => exact hb
    | queryThrows | projectThrows => exact hcalm
    | _ => trivial

/-- In every run in which the subscriptions succeed, no message is lost by a failure, from a time on no message is
delivered and the projection does not fail, and the threads go on as long as they have something to do, the lookups at
some time tell what the messages tell that were delivered while the recorder was registered, and they do so for good. -/
theorem eventually_told (hobjects : DumpsObjects) (harrays : DumpsArrays) (hcalm : CalmFrom r start)
    (hthreads : ∀ side, r.Fair (fun s => ¬ s.Idle side) (PipelineAction.Records side))
    (hruns : r.Recurs PipelineAction.Projects) :
    ∃ m, ∀ n, m ≤ n → (r.state n).db.Answers (Fleet.receiveAll {} ((r.state start).heard topicPrefix)) := by
  obtain ⟨m₁, hm₁, hlocal⟩ := hcalm.eventually_idle hobjects harrays (hthreads .localSide)
  obtain ⟨m₂, -, hcloud⟩ := hcalm.eventually_idle hobjects harrays (hthreads .cloudSide)
  obtain ⟨b, hb₁, hb₂⟩ : ∃ b, m₁ ≤ b ∧ m₂ ≤ b := ⟨max m₁ m₂, le_max_left _ _, le_max_right _ _⟩
  have hstart : ∀ n, start ≤ b + n := fun n => (hm₁.trans hb₁).trans (Nat.le_add_right b n)
  have hidle : ∀ n side, (r.state (b + n)).Idle side := by
    intro n side
    cases side with
    | localSide => exact hlocal _ (hb₁.trans (Nat.le_add_right b n))
    | cloudSide => exact hcloud _ (hb₂.trans (Nat.le_add_right b n))
  have hstep := fun n => projects_of_step
    (fun side => (hcalm.idle_succ hobjects harrays (hstart n) (hidle n side)).2) (hcalm.works (b + n))
    (hcalm.calm (b + n) (hstart n)) (r.step (b + n))
  -- from here on the database is seen to take the steps of the projection thread only
  obtain ⟨v, time, hmono, hview, htime⟩ := (r.drop b).exists_view (T := Cqrs.system) Pipeline.db dbStep
    (fun n a ha => by
      rcases hstep n with ⟨a', ha', -, hdb⟩ | ⟨hnone, -⟩
      · obtain rfl := Option.some.inj (ha.symm.trans ha')
        exact hdb
      · cases hnone.symm.trans ha)
    (fun n ha => by
      rcases hstep n with ⟨a', ha', -, -⟩ | ⟨-, hdb⟩
      · cases ha.symm.trans ha'
      · exact hdb)
    (fun n => by
      obtain ⟨m, hm, hprojects⟩ := hruns (b + n)
      obtain ⟨k, rfl⟩ := Nat.exists_eq_add_of_le hm
      refine ⟨n + k, Nat.le_add_right n k, ?_⟩
      show (dbStep (r.action (b + (n + k)))).isSome = true
      rw [← Nat.add_assoc]
      cases ha : r.action (b + n + k) with
      | db => rfl
      | _ => simp [ha, PipelineAction.Projects] at hprojects)
  have hprojects : ∀ n, (v.action n).Projects := by
    intro n
    rcases hstep (time n) with ⟨a, ha, hprojects, -⟩ | ⟨hnone, -⟩
    · exact Option.some.inj (ha.symm.trans (hview n).1) ▸ hprojects
    · cases hnone.symm.trans (hview n).1
  have hreach : Cqrs.system.Reach Cqrs.ParsesMessages (v.state 0) := by
    rw [(hview 0).2]
    exact db_of_reach (hcalm.reached _)
  have hquiet : Cqrs.CalmFrom v 0 := fun n _ => CqrsAction.calm_of_projects (hprojects n)
  obtain ⟨m, hm⟩ := Cqrs.exists_settled hreach (fun n => Cqrs.parsesMessages_of_projects (hprojects n)) hquiet
    fun n => ⟨n, le_refl n, hprojects n⟩
  refine ⟨b + time m, fun n hn => ?_⟩
  obtain ⟨k, rfl⟩ := Nat.exists_eq_add_of_le ((Nat.le_add_right b _).trans hn)
  obtain ⟨i, hk, hdb⟩ := htime k
  have hsettled : (r.state (b + k)).db.Settled := by
    have hi : m ≤ i := hmono.le_iff_le.1 ((Nat.le_of_add_le_add_left hn).trans hk)
    have hdb : (r.state (b + k)).db = v.state i := hdb
    exact hdb ▸ (hm i hi).1
  rw [← hcalm.heard_eq (hstart k)]
  exact answers_of_settled hobjects harrays (hcalm.reached _) hsettled (hidle k)

/-! ### A robot goes online and offline -/

/-- The projection thread can take its steps at any time. -/
private theorem step_projects {b : CqrsAction} (hb : b.Projects) {db : Cqrs} (hs : s.db.step b = some db) :
    s.Works (.db b) ∧ s.step topicPrefix (.db b) = some { s with db } := by
  cases b with
  | dispatch | insert | insertThrows | queryThrows | projectThrows | restart => exact hb.elim
  | _ =>
    refine ⟨trivial, ?_⟩
    simp only [step, hs]
    rfl

private theorem reach_undisturbed {db : Cqrs} (h : (Cqrs.system.startingAt s.db).Reach Cqrs.Undisturbed db) :
    ((system topicPrefix).startingAt s).Reach Works { s with db } := by
  refine h.map (fun db => { s with db }) (fun db hdb => ?_) fun db b db' hb hs => ?_
  · obtain rfl : db = s.db := hdb
    rfl
  · obtain ⟨hworks, hstep⟩ := step_projects (s := { s with db }) hb.2 hs
    exact .inr ⟨.db b, hworks, hstep⟩

/-- The daemon before anything is delivered. -/
def quiet (daemon : Daemon) : Pipeline := { traffic := { daemon } }

theorem reach_quiet {daemon : Daemon} (h : (Daemon.system topicPrefix).Reach Daemon.Succeeds daemon) :
    (system topicPrefix).Reach Works (quiet daemon) := by
  refine h.map quiet (fun daemon hinit => ?_) fun daemon a daemon' ha hs => ?_
  · obtain rfl : daemon = {} := hinit
    rfl
  · refine .inr ⟨.daemon a, ha, ?_⟩
    have hidle : ∀ side ∈ a.thread, Idle (quiet daemon) side := fun side _ => ⟨rfl, rfl⟩
    have hs : (quiet daemon).traffic.daemon.step topicPrefix a = some daemon' := hs
    show step topicPrefix (quiet daemon) (.daemon a) = some (quiet daemon')
    simp only [step, if_neg (not_not.2 hidle), hs]
    rfl

/-- A message that the thread of a client can be handed, and that says `u` to the recorder. -/
structure Speaks (topicPrefix : String) (daemon : Daemon) (side : Side) (msg : MqttMessage) (u : Dispatched) :
    Prop where
  loops : daemon.loopsRunning = true
  callback : side = .cloudSide → daemon.callback = .idle
  hears : daemon.hears side = true
  valid : ValidTopic msg.topic
  read : ∀ calls, Delivery.read topicPrefix ⟨daemon, side, msg, calls⟩ = some u
  parses : ParsesBack (json u.message)

/-- The message is delivered, and the listener of the recorder is called. -/
theorem exists_dispatched (hobjects : DumpsObjects) (harrays : DumpsArrays) {side : Side} {msg : MqttMessage}
    {u : Dispatched} {db : Cqrs} (hs : (system topicPrefix).Reach Works s) (hidle : s.Idle side)
    (hspeaks : Speaks topicPrefix s.traffic.daemon side msg u) (hdb : s.db.step (.dispatch side u) = some db) :
    ∃ d : Delivery, d.side = side ∧ d.heard topicPrefix = some u ∧ (system topicPrefix).Reach Works
      { s with traffic := ⟨s.traffic.daemon, s.traffic.deliveries ++ [d]⟩, db } := by
  obtain ⟨d, hdaemon, hside, hmessage, hdelivered⟩ : ∃ d : Delivery, d.daemon = s.traffic.daemon ∧ d.side = side ∧
      d.message = msg ∧ s.traffic.deliver side msg (fun _ => false) =
        some ⟨s.traffic.daemon, s.traffic.deliveries ++ [d]⟩ := by
    unfold Traffic.deliver
    have hcallback := hspeaks.callback
    rw [if_neg (by simpa [hspeaks.loops, hspeaks.valid] using hcallback)]
    exact ⟨_, rfl, rfl, rfl, rfl⟩
  have hheard : d.heard topicPrefix = some u := by
    rw [Delivery.heard, hdaemon, hside, hspeaks.hears, if_pos rfl]
    obtain ⟨daemon, side, msg, calls⟩ := d
    subst hdaemon hside hmessage
    exact hspeaks.read calls
  have hmade := made_of_deliver (sound_of_reach hobjects harrays (hs.mono fun _ _ => parses_of_works)).daemon hdelivered
  have hrecords : d.records = [u] := by
    rw [Delivery.records_eq_heard hmade, hheard]
    rfl
  let s₁ : Pipeline := { s with
    traffic := ⟨s.traffic.daemon, s.traffic.deliveries ++ [d]⟩
    pending := Function.update s.pending side [u] }
  have hdeliver : s.step topicPrefix (.deliver side msg fun _ => false) = some s₁ := by
    simp only [step, deliver, if_neg (not_not.2 hidle), hdelivered, Option.map_some, List.getLast?_concat,
      Option.elim_some, hrecords]
    rfl
  have hpending : s₁.pending side = [u] := Function.update_self ..
  have hback : Function.update s₁.pending side [] = s.pending := by simp [s₁, ← hidle.1]
  have hrecord : s₁.step topicPrefix (.record side) =
      some { s with traffic := ⟨s.traffic.daemon, s.traffic.deliveries ++ [d]⟩, db } := by
    have hstep : s₁.db.step (.dispatch side u) = some db := hdb
    simp only [step, record, hpending, hstep, Option.map_some, hback]
    rfl
  have hdelivers : s.Works (.deliver side msg fun _ => false) := trivial
  have hparses : s₁.Works (.record side) := by
    intro v hv
    obtain rfl : u = v := by simpa [hpending] using hv
    exact hspeaks.parses
  exact ⟨d, hside, hheard, (hs.step hdelivers hdeliver).step hparses hrecord⟩

/-- A message with one event is delivered and recorded. -/
theorem exists_recorded (hobjects : DumpsObjects) (harrays : DumpsArrays) {side : Side} {msg : MqttMessage}
    {u : Dispatched} {event : Vda5050Event} (hs : (system topicPrefix).Reach Works s) (hidle : ∀ side, s.Idle side)
    (hspeaks : Speaks topicPrefix s.traffic.daemon side msg u) (hevents : u.events = [event]) (now : String) :
    ∃ s', (system topicPrefix).Reach Works s' ∧ s'.heard topicPrefix = s.heard topicPrefix ++ [u] ∧
      (∀ side, s'.Idle side) ∧ s'.db.phase = s.db.phase ∧ s'.traffic.daemon = s.traffic.daemon ∧
      Vda5050EventsRepository.log s'.db.events = (Vda5050EventsRepository.log s.db.events).insert now event := by
  obtain ⟨db, events, hlog, hdispatch, hinsert⟩ := Cqrs.exists_recorded hobjects (hidle side).2 hevents now
  obtain ⟨d, -, hheard, hreach⟩ := exists_dispatched hobjects harrays hs (hidle side) hspeaks hdispatch
  let s₁ : Pipeline := { s with traffic := ⟨s.traffic.daemon, s.traffic.deliveries ++ [d]⟩, db }
  let s₂ : Pipeline := { s₁ with db := { s.db with events, recorded := s.db.recorded ++ [u] } }
  have hworks : s₁.Works (.db (.insert side now)) := trivial
  have hstored : s₁.step topicPrefix (.db (.insert side now)) = some s₂ := by
    simp only [step, s₁, hinsert]
    rfl
  refine ⟨s₂, hreach.step hworks hstored, ?_, hidle, rfl, rfl, hlog⟩
  show (s.traffic.deliveries ++ [d]).filterMap (Delivery.heard topicPrefix) = _
  rw [List.filterMap_append, List.filterMap_cons_some hheard, List.filterMap_nil]
  rfl

omit [Library] [MosquittoLibrary] in
/-- A daemon whose recorder is attached hears a connection message. -/
theorem speaks_connection {daemon : Daemon} (hloops : daemon.loopsRunning = true) (hlistening : daemon.listening = true)
    {m : Connection} {payload : String} (hdecode : decode payload = .ok m)
    (hparse : ParsesBack (json (t := .connection) m)) :
    Speaks "uagv/v3" daemon .localSide ⟨"uagv/v3/acme/7/connection", payload⟩
      ⟨⟨"uagv", "v3", "acme", "7"⟩, .connection, m⟩ := by
  have htemplate : parseTopicPrefix "uagv/v3" = some ⟨"uagv", "v3", "", ""⟩ := by decide
  have hcontext : VDA5050TopicContext.parseTopicContext ⟨"uagv", "v3", "", ""⟩ "uagv/v3/acme/7/connection"
      "connection" = some ⟨"uagv", "v3", "acme", "7"⟩ := by decide
  have htype : MessageType.connection ∈ Side.localSide.types := by decide
  have hvalid : ValidTopic "uagv/v3/acme/7/connection" := by decide
  exact ⟨hloops, nofun, hlistening, hvalid, fun calls => Delivery.read_eq htemplate htype hcontext hdecode, hparse⟩

omit [JsonLibrary] [Library] [MosquittoLibrary] in
/-- Both messages of the robot are delivered after the recorder has been attached, and recorded. -/
theorem reach_acme :
    letI := JsonLibrary.ofTexts connectionTexts
    letI := Library.ofDigits
    letI := MosquittoLibrary.levelwise
    ∃ s : Pipeline, (system "uagv/v3").Reach Works s ∧ s.heard "uagv/v3" = [wentOnline, wentOffline] ∧
      (∀ side, s.Idle side) ∧ s.db.phase = .waiting := by
  let lib := JsonLibrary.ofTexts connectionTexts
  let sqlLib := Library.ofDigits
  let mosquitto := MosquittoLibrary.levelwise
  have hrun : (replay (guarded (Daemon.step "uagv/v3") Daemon.Succeeds) {} attachedRun).any
      (fun s => s.loopsRunning && s.listening) = true := by decide
  obtain ⟨daemon, hdaemon, hholds⟩ := (Option.any_eq_true _ _).1 hrun
  rw [Bool.and_eq_true] at hholds
  obtain ⟨hloops, hlistening⟩ := hholds
  obtain ⟨hobjects, harrays⟩ := Cqrs.dumps_acme
  obtain ⟨online, honline⟩ : ∃ event, wentOnline.events = [event] := ⟨_, rfl⟩
  obtain ⟨offline, hoffline⟩ : ∃ event, wentOffline.events = [event] := ⟨_, rfl⟩
  have hquiet : (system "uagv/v3").Reach Works (quiet daemon) := reach_quiet (reach_of_replay (.init rfl) hdaemon)
  have hspeaks : Speaks "uagv/v3" daemon .localSide ⟨"uagv/v3/acme/7/connection", onlineText.2.1⟩ wentOnline :=
    speaks_connection hloops hlistening decode_acme.1 parsesBack_acme.1
  have hspeaks' : Speaks "uagv/v3" daemon .localSide ⟨"uagv/v3/acme/7/connection", offlineText.2.1⟩ wentOffline :=
    speaks_connection hloops hlistening decode_acme.2 parsesBack_acme.2
  obtain ⟨s, hs, hheard, hidle, hphase, hsame, -⟩ := exists_recorded hobjects harrays hquiet (fun _ => ⟨rfl, rfl⟩)
    hspeaks honline "2026-01-01T00:00:05Z"
  have hdaemon : s.traffic.daemon = daemon := hsame
  rw [← hdaemon] at hspeaks'
  obtain ⟨s', hs', hheard', hidle', hphase', -⟩ := exists_recorded hobjects harrays hs hidle hspeaks' hoffline
    "2026-01-01T01:00:00Z"
  refine ⟨s', hs', ?_, hidle', hphase'.trans hphase⟩
  rw [hheard', hheard]
  rfl

omit [JsonLibrary] [Library] [MosquittoLibrary] in
/-- A cycle, and the robot is offline. -/
theorem lookups_eq_heard_offline :
    letI := JsonLibrary.ofTexts connectionTexts
    letI := Library.ofDigits
    letI := MosquittoLibrary.levelwise
    ∃ u : Pipeline, u.Settled "uagv/v3" ∧ u.heard "uagv/v3" = [wentOnline, wentOffline] ∧
      u.db.Answers (Fleet.receiveAll {} [wentOnline, wentOffline]) := by
  let lib := JsonLibrary.ofTexts connectionTexts
  let sqlLib := Library.ofDigits
  let mosquitto := MosquittoLibrary.levelwise
  obtain ⟨s, hs, hheard, hidle, hphase⟩ := reach_acme
  obtain ⟨db₁, db₂, db, hwake, hcycle, hfinish, hkept⟩ := Cqrs.exists_undisturbed hphase
  let s₁ : Pipeline := { s with db := db₁ }
  let s₂ : Pipeline := { s with db := db₂ }
  let u : Pipeline := { s with db }
  have hprojects : CqrsAction.wake.Projects ∧ CqrsAction.finish.Projects := ⟨trivial, trivial⟩
  have hwakes : s.Works (.db .wake) ∧ s.step "uagv/v3" (.db .wake) = some s₁ := step_projects hprojects.1 hwake
  have hfinishes : s₂.Works (.db .finish) ∧ s₂.step "uagv/v3" (.db .finish) = some u :=
    step_projects hprojects.2 hfinish
  have hwoken : ((system "uagv/v3").startingAt s).Reach Works s₁ :=
    System.Reach.step (a := .db .wake) (.init rfl) hwakes.1 hwakes.2
  have hcycled : ((system "uagv/v3").startingAt s₁).Reach Works s₂ := reach_undisturbed (s := s₁) hcycle
  have hfinished : ((system "uagv/v3").startingAt s).Reach Works u :=
    (hwoken.trans hcycled).step (a := .db .finish) hfinishes.1 hfinishes.2
  obtain ⟨-, hrest⟩ := Prod.mk.inj hkept
  obtain ⟨hevents, hhand⟩ := Prod.mk.inj hrest
  have hcomplete : s.db.CompleteCycle u.db := ⟨db₁, db₂, hwake, hcycle.mono fun _ _ h => h.1, hfinish⟩
  have hsettled : u.Settled "uagv/v3" := ⟨s, u, hs, hfinished, hcomplete, .init rfl, hevents⟩
  have hdone : ∀ side, u.Idle side := fun side => ⟨(hidle side).1, (congrFun hhand side).trans (hidle side).2⟩
  have hsame : u.heard "uagv/v3" = [wentOnline, wentOffline] := hheard
  refine ⟨u, hsettled, hsame, ?_⟩
  rw [← hsame]
  exact (lookups_eq_heard Cqrs.dumps_acme.1 Cqrs.dumps_acme.2 hsettled hdone).1

/-- What the projection thread does next, while nothing else happens. -/
def next (s : Pipeline) : PipelineAction × Pipeline := (.db s.db.next.1, { s with db := s.db.next.2 })

theorem step_next (topicPrefix : String) (s : Pipeline) :
    s.Works s.next.1 ∧ s.step topicPrefix s.next.1 = some s.next.2 :=
  step_projects (Cqrs.step_next s.db).1 (Cqrs.step_next s.db).2

omit [JsonLibrary] [Library] [MosquittoLibrary] in
/-- Cycles for good, and the robot is offline for good. -/
theorem eventually_told_offline :
    letI := JsonLibrary.ofTexts connectionTexts
    letI := Library.ofDigits
    letI := MosquittoLibrary.levelwise
    ∃ r : (system "uagv/v3").Run, (r.state 0).heard "uagv/v3" = [wentOnline, wentOffline] ∧
      ∃ m, ∀ n, m ≤ n → (r.state n).db.Answers (Fleet.receiveAll {} [wentOnline, wentOffline]) := by
  let lib := JsonLibrary.ofTexts connectionTexts
  let sqlLib := Library.ofDigits
  let mosquitto := MosquittoLibrary.levelwise
  obtain ⟨hobjects, harrays⟩ := Cqrs.dumps_acme
  obtain ⟨s, hs, hheard, hidle, -⟩ := reach_acme
  let r : (system "uagv/v3").Run := .iterate next (fun s => (step_next _ s).2) s
  have hprojects : ∀ n, (r.action n).Projects := fun n => (Cqrs.step_next (r.state n).db).1
  have hcalm : CalmFrom r 0 := by
    refine ⟨hs, fun n => (step_next "uagv/v3" (r.state n)).1, fun n _ => ?_⟩
    have hn := hprojects n
    cases ha : r.action n with
    | db b =>
      rw [ha] at hn
      cases b with
      | queryThrows | projectThrows | restart => exact hn.elim
      | _ => trivial
    | _ => simp [ha, PipelineAction.Projects] at hn
  have hdone : ∀ n side, (r.state n).Idle side := by
    intro n side
    induction n with
    | zero => exact hidle side
    | succ n ih => exact (hcalm.idle_succ hobjects harrays (Nat.zero_le n) ih).1
  have hthreads : ∀ side, r.Fair (fun s => ¬ s.Idle side) (PipelineAction.Records side) := fun side n hbusy =>
    absurd (hdone n side) (hbusy n (le_refl n))
  have hruns : r.Recurs PipelineAction.Projects := fun n => ⟨n, le_refl n, hprojects n⟩
  have hsame : (r.state 0).heard "uagv/v3" = [wentOnline, wentOffline] := hheard
  refine ⟨r, hsame, ?_⟩
  rw [← hsame]
  exact eventually_told hobjects harrays hcalm hthreads hruns

end Pipeline

end SyriusOrbit

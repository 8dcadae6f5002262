import SyriusOrbit.Projection.Freshness
import SyriusOrbit.Recorder

/-!
# The read model as a function of the messages

What robots and orders are for: of each robot they tell the last connection, state and factsheet, and of each order the
last message.  `Fleet` says this without a database, one message after another.  If the events of the log tell a fleet
(`Tells`), then the tables of a settled engine have the columns of the fleet (`columns_eq_of_tells`).
-/

namespace SyriusOrbit.Projection

open JsonFormat Vda5050 Mqtt Db Sql Transition

variable [JsonLibrary]

/-! ### The fleet -/

/-- The last message of each robot for each topic, and of each order with the robot it was sent to. -/
structure Fleet where
  connection : String → Option Connection := fun _ => none
  state : String → Option State := fun _ => none
  factsheet : String → Option FactSheet := fun _ => none
  order : String → Option (String × Vda5050.Order) := fun _ => none

namespace Fleet

/-- One more message. -/
def receive (f : Fleet) (context : VDA5050TopicContext) : (t : MessageType) → t.Message → Fleet
  | .connection, (m : Connection) => { f with connection := Function.update f.connection (robotId context) (some m) }
  | .state, (m : State) => { f with state := Function.update f.state (robotId context) (some m) }
  | .factsheet, (m : FactSheet) => { f with factsheet := Function.update f.factsheet (robotId context) (some m) }
  | .order, (m : Vda5050.Order) => { f with order := Function.update f.order m.orderId (some (robotId context, m)) }
  | .visualization, _ | .instantActions, _ | .responses, _ | .zoneSet, _ => f

def receiveAll (f : Fleet) (ds : List Dispatched) : Fleet :=
  ds.foldl (fun f d => f.receive d.context d.type d.message) f

/-- The columns for a robot, if there is a message from it. -/
def robotColumns (f : Fleet) (k : String) : Option RobotColumns :=
  if (f.connection k).isNone && (f.state k).isNone && (f.factsheet k).isNone then none
  else some {
    connectionState := ((f.connection k).map fun m => JsonEnum.name m.connectionState).getD "OFFLINE"
    stateColumns := ((f.state k).map fun m => ⟨some (JsonEnum.name m.operatingMode), m.driving, m.paused.getD false,
      realColumn m.powerSupply.stateOfCharge, m.powerSupply.charging⟩).getD {}
    factsheet := (f.factsheet k).map fun m => payloadOf (t := .factsheet) m }

/-- The columns for an order, if there is a message with it. -/
def orderColumns (f : Fleet) (k : String) : Option OrderColumns :=
  (f.order k).map fun (robot, m) => {
    orderUpdateId := m.orderUpdateId
    orderDescription := nonEmpty (m.orderDescription.getD "")
    assignedRobotId := robot
    nodes := JsonLibrary.dump (toJson m.nodes).canon
    edges := JsonLibrary.dump (toJson m.edges).canon }

end Fleet

/-! ### The last event of an item -/

/-- The last of the events that are filed under a topic and an item. -/
def lastFiled (es : List Vda5050Event) (topic item : String) : Option Vda5050Event :=
  (es.filter fun e => e.topic == topic && e.itemId == item).getLast?

omit [JsonLibrary] in
private theorem lastFiled_append (es es' : List Vda5050Event) (topic item : String) :
    lastFiled (es ++ es') topic item = (lastFiled es' topic item).or (lastFiled es topic item) := by
  rw [lastFiled, List.filter_append, List.getLast?_append]
  rfl

omit [JsonLibrary] in
private theorem lastFiled_singleton (e : Vda5050Event) (topic item : String) :
    lastFiled [e] topic item = if e.topic = topic ∧ e.itemId = item then some e else none := by
  unfold lastFiled
  by_cases ht : e.topic = topic <;> by_cases hi : e.itemId = item <;> simp [ht, hi]

omit [JsonLibrary] in
private theorem map_content_newest (log : EventLog) (topic item : String) :
    (log.newest topic item).map Vda5050Event.content =
      lastFiled (log.events.map Vda5050Event.content) topic item := by
  unfold lastFiled
  rw [List.filter_map, List.getLast?_map]
  rfl

private theorem lastFiled_of_ne {d : Dispatched} {topic : String} (h : recordedTopic d.type ≠ topic) (item : String) :
    lastFiled d.events topic item = none := by
  unfold lastFiled
  rw [List.getLast?_eq_none_iff, List.filter_eq_nil_iff]
  intro e he hkey
  have htopic := (topic_of_mem_recordedEvents he).1
  rw [Bool.and_eq_true, beq_iff_eq] at hkey
  exact h (htopic.symm.trans hkey.1)

/-! ### The events tell the fleet -/

/-- The last events of all items hold the messages of the fleet. -/
structure Tells (es : List Vda5050Event) (f : Fleet) : Prop where
  connection : ∀ k, (lastFiled es ConnectionProjector.topic k).map (fun e => decode e.payload) =
    (f.connection k).map .ok
  state : ∀ k, (lastFiled es StateProjector.topic k).map (fun e => decode e.payload) = (f.state k).map .ok
  factsheet : ∀ k, (lastFiled es FactsheetProjector.topic k).map Vda5050Event.payload =
    (f.factsheet k).map fun m => payloadOf (t := .factsheet) m
  order : ∀ k, (lastFiled es OrderProjector.topic k).map (fun e => (e.robotId, decode e.payload)) =
    (f.order k).map fun (robot, m) => (robot, .ok m)

private theorem decode_payloadOf {t : MessageType} {m : t.Message} (h : ParsesBack (json m)) :
    decode (payloadOf m) = .ok m := by
  rw [payloadOf, decode_dump h]
  exact fromJson_json m

omit [JsonLibrary] in
/-- One more event of an item, and one more entry under its key. -/
private theorem map_lastFiled_append {γ δ : Type} {es : List Vda5050Event} {e : Vda5050Event} {topic k : String}
    (htopic : e.topic = topic) {value : Vda5050Event → δ} {entries : String → Option γ} {entry : γ → δ} {m : γ}
    (hm : value e = entry m) (h : (lastFiled es topic k).map value = (entries k).map entry) :
    (lastFiled (es ++ [e]) topic k).map value = (Function.update entries e.itemId (some m) k).map entry := by
  rw [lastFiled_append, lastFiled_singleton]
  by_cases hk : k = e.itemId
  · subst hk
    rw [if_pos ⟨htopic, rfl⟩, Function.update_self]
    exact congrArg some hm
  · rw [if_neg fun hkey => hk hkey.2.symm, Function.update_of_ne hk]
    exact h

private theorem lastFiled_append_of_ne (es : List Vda5050Event) {d : Dispatched} {topic : String}
    (h : recordedTopic d.type ≠ topic) (item : String) :
    lastFiled (es ++ d.events) topic item = lastFiled es topic item := by
  rw [lastFiled_append, lastFiled_of_ne h]
  rfl

/-- One more message is recorded. -/
theorem Tells.receive {es : List Vda5050Event} {f : Fleet} (h : Tells es f) {d : Dispatched}
    (hparse : ParsesBack (json d.message)) :
    Tells (es ++ d.events) (f.receive d.context d.type d.message) := by
  obtain ⟨context, t, m⟩ := d
  have hdecode : decode (payloadOf m) = .ok m := decode_payloadOf hparse
  constructor
  · intro k
    cases t with
    | connection => exact map_lastFiled_append rfl hdecode (h.connection k)
    | _ =>
      rw [lastFiled_append_of_ne es (by simp [recordedTopic, ConnectionProjector.topic])]
      exact h.connection k
  · intro k
    cases t with
    | state => exact map_lastFiled_append rfl hdecode (h.state k)
    | _ =>
      rw [lastFiled_append_of_ne es (by simp [recordedTopic, StateProjector.topic])]
      exact h.state k
  · intro k
    cases t with
    | factsheet => exact map_lastFiled_append rfl rfl (h.factsheet k)
    | _ =>
      rw [lastFiled_append_of_ne es (by simp [recordedTopic, FactsheetProjector.topic])]
      exact h.factsheet k
  · intro k
    cases t with
    | order => exact map_lastFiled_append rfl (Prod.ext rfl hdecode) (h.order k)
    | _ =>
      rw [lastFiled_append_of_ne es (by simp [recordedTopic, OrderProjector.topic])]
      exact h.order k

/-- An event of another topic tells nothing. -/
theorem Tells.append_of_not_mem {es : List Vda5050Event} {f : Fleet} (h : Tells es f) {e : Vda5050Event}
    (he : e.topic ∉ shownTopics) : Tells (es ++ [e]) f := by
  have hlast : ∀ topic ∈ shownTopics, ∀ k, lastFiled (es ++ [e]) topic k = lastFiled es topic k := by
    intro topic htopic k
    have hne : e.topic ≠ topic := fun heq => he (heq ▸ htopic)
    rw [lastFiled_append, lastFiled_singleton, if_neg fun hkey => hne hkey.1]
    rfl
  constructor
  · intro k
    rw [hlast _ (by simp [shownTopics, robotTopics])]
    exact h.connection k
  · intro k
    rw [hlast _ (by simp [shownTopics, robotTopics])]
    exact h.state k
  · intro k
    rw [hlast _ (by simp [shownTopics, robotTopics])]
    exact h.factsheet k
  · intro k
    rw [hlast _ (by simp [shownTopics, orderTopics])]
    exact h.order k

/-- A message that robots or orders show has one event. -/
theorem events_of_shown {d : Dispatched} (h : recordedTopic d.type ∈ shownTopics) : ∃ e, d.events = [e] := by
  obtain ⟨context, t, m⟩ := d
  cases t with
  | instantActions => exact absurd h (by decide : recordedTopic .instantActions ∉ shownTopics)
  | responses => exact absurd h (by decide : recordedTopic .responses ∉ shownTopics)
  | _ => exact ⟨_, rfl⟩

omit [JsonLibrary] in
theorem Fleet.receive_of_not_shown {d : Dispatched} (h : recordedTopic d.type ∉ shownTopics) (f : Fleet) :
    f.receive d.context d.type d.message = f := by
  obtain ⟨context, t, m⟩ := d
  cases t with
  | connection => exact absurd (by decide : recordedTopic .connection ∈ shownTopics) h
  | state => exact absurd (by decide : recordedTopic .state ∈ shownTopics) h
  | factsheet => exact absurd (by decide : recordedTopic .factsheet ∈ shownTopics) h
  | order => exact absurd (by decide : recordedTopic .order ∈ shownTopics) h
  | _ => rfl

omit [JsonLibrary] in
theorem Fleet.receiveAll_append (ds : List Dispatched) (d : Dispatched) :
    receiveAll {} (ds ++ [d]) = (receiveAll {} ds).receive d.context d.type d.message := by
  rw [receiveAll, List.foldl_append]
  rfl

theorem tells_nil : Tells [] {} := ⟨fun _ => rfl, fun _ => rfl, fun _ => rfl, fun _ => rfl⟩

/-! ### The tables of a settled engine -/

/-- What the recorder inserts can be read. -/
theorem readable_of_mem_events {d : Dispatched} (hparse : ParsesBack (json d.message)) {e : Vda5050Event}
    (he : e ∈ d.events) : Readable e := by
  obtain ⟨context, t, m⟩ := d
  have hdecode : decode e.payload = .ok m := decode_of_mem_recordedEvents hparse he
  have htopic : e.topic = recordedTopic t := (topic_of_mem_recordedEvents he).1
  refine ⟨⟨fun hrobot => ?_, fun horder m' hm' => ?_⟩, ?_⟩
  · rw [htopic] at hrobot
    cases t with
    | state | connection | factsheet =>
      rw [List.mem_singleton.1 he]
      rfl
    | _ => exact absurd hrobot (by simp [recordedTopic, robotTopics, ConnectionProjector.topic, StateProjector.topic,
        FactsheetProjector.topic])
  · rw [htopic] at horder
    cases t with
    | order =>
      have hm : m = m' := Except.ok.inj (hdecode.symm.trans hm')
      rw [List.mem_singleton.1 he, ← hm]
      rfl
    | _ => exact absurd horder (by simp [recordedTopic, OrderProjector.topic])
  · rw [htopic]
    unfold decodes
    cases t with
    | instantActions | visualization | zoneSet | factsheet => rfl
    | connection | state | order | responses =>
      show (decode e.payload).isOk = true
      rw [hdecode]
      rfl

private theorem bind_decode {α γ : Type} [JsonCodec α] {o : Option Vda5050Event} {message : Option α}
    (h : o.map (fun e => decode e.payload) = message.map .ok) (g : α → γ) :
    (o.bind fun e => (decode e.payload).toOption.map g) = message.map g := by
  cases o with
  | none =>
    cases message with
    | none => rfl
    | some m => cases h
  | some e =>
    cases message with
    | none => cases h
    | some m =>
      have hdecode : decode e.payload = .ok m := Option.some.inj h
      rw [Option.bind_some, hdecode]
      rfl

omit [JsonLibrary] in
private theorem isSome_of_map_eq {γ δ ε : Type} {o : Option γ} {o' : Option δ} {g : γ → ε} {g' : δ → ε}
    (h : o.map g = o'.map g') : o.isSome = o'.isSome := by
  rw [← Option.isSome_map (f := g), h, Option.isSome_map]

/-- The row of a robot that is new and shows the last events of the messages. -/
private theorem RobotShown.robotColumns_eq {shown : String × String → Option Vda5050Event} {k : String}
    {after : Option Robot}
    (h : RobotShown shown k none after) {f : Fleet}
    (hconnection : (shown (ConnectionProjector.topic, k)).map (fun e => decode e.payload) = (f.connection k).map .ok)
    (hstate : (shown (StateProjector.topic, k)).map (fun e => decode e.payload) = (f.state k).map .ok)
    (hfactsheet : (shown (FactsheetProjector.topic, k)).map Vda5050Event.payload =
      (f.factsheet k).map fun m => payloadOf (t := .factsheet) m) :
    after.map Robot.robotColumns = f.robotColumns k := by
  have hconnectionSome := isSome_of_map_eq hconnection
  have hstateSome := isSome_of_map_eq hstate
  have hfactsheetSome := isSome_of_map_eq hfactsheet
  unfold Fleet.robotColumns
  split
  · next hnone =>
    rw [Bool.and_eq_true, Bool.and_eq_true, Option.isNone_iff_eq_none, Option.isNone_iff_eq_none,
      Option.isNone_iff_eq_none] at hnone
    obtain ⟨⟨hc, hs⟩, hf⟩ := hnone
    rw [hc] at hconnectionSome
    rw [hs] at hstateSome
    rw [hf] at hfactsheetSome
    have hevents : ∀ topic ∈ robotTopics, shown (topic, k) = none := by
      simp only [robotTopics, List.mem_cons, List.not_mem_nil, or_false]
      rintro topic (rfl | rfl | rfl)
      · simpa using hconnectionSome
      · simpa using hstateSome
      · simpa using hfactsheetSome
    rw [h.noEvent hevents]
    rfl
  · next hsome =>
    have hafter : after.isSome = true := by
      by_contra hnone
      refine hsome ?_
      have hevents : ∀ topic ∈ robotTopics, ¬ (shown (topic, k)).isSome = true :=
        fun topic htopic he => hnone (h.row topic htopic he)
      have hc := hevents _ (by simp [robotTopics] : ConnectionProjector.topic ∈ robotTopics)
      have hs := hevents _ (by simp [robotTopics] : StateProjector.topic ∈ robotTopics)
      have hf := hevents _ (by simp [robotTopics] : FactsheetProjector.topic ∈ robotTopics)
      rw [hconnectionSome] at hc
      rw [hstateSome] at hs
      rw [hfactsheetSome] at hf
      simp [Option.not_isSome_iff_eq_none.1 hc, Option.not_isSome_iff_eq_none.1 hs,
        Option.not_isSome_iff_eq_none.1 hf]
    obtain ⟨r, rfl⟩ := Option.isSome_iff_exists.1 hafter
    have hc := h.connectionState r rfl
    have hs := h.stateColumns r rfl
    have hf := h.factsheet r rfl
    unfold connectionStateOf at hc
    unfold stateColumnsOf at hs
    rw [bind_decode hconnection] at hc
    rw [bind_decode hstate] at hs
    have hpayload : (shown (FactsheetProjector.topic, k)).bind factsheetOf =
        ((shown (FactsheetProjector.topic, k)).map Vda5050Event.payload).map some := by
      cases shown (FactsheetProjector.topic, k) <;> rfl
    rw [hpayload, hfactsheet] at hf
    refine congrArg some ?_
    unfold Robot.robotColumns
    rw [hc, hs, hf]
    cases f.factsheet k <;> rfl

/-- The row of an order that is new and shows the last event of the messages. -/
private theorem OrderShown.orderColumns_eq {shown : String × String → Option Vda5050Event} {k : String}
    {after : Option Db.Order} (h : OrderShown shown k none after) {f : Fleet}
    (horder : (shown (OrderProjector.topic, k)).map (fun e => (e.robotId, decode e.payload)) =
      (f.order k).map fun (robot, m) => (robot, .ok m)) : after.map Db.Order.orderColumns = f.orderColumns k := by
  unfold Fleet.orderColumns
  cases he : shown (OrderProjector.topic, k) with
  | none =>
    rw [he] at horder
    rw [h.noEvent he]
    cases hf : f.order k with
    | none => rfl
    | some entry => simp [hf] at horder
  | some e =>
    rw [he] at horder
    obtain ⟨r, rfl, hr⟩ := h.order e he
    cases hf : f.order k with
    | none => simp [hf] at horder
    | some entry =>
      obtain ⟨robot, m⟩ := entry
      rw [hf] at horder
      have hpair : (e.robotId, decode e.payload) = (robot, .ok m) := Option.some.inj horder
      obtain ⟨rfl, hdecode⟩ := Prod.mk.inj hpair
      unfold orderColumnsOf at hr
      rw [hdecode] at hr
      exact hr.symm

/-- The robots and orders of a settled engine have the columns of the fleet that the log tells. -/
theorem columns_eq_of_tells {log₀ : EventLog} {t : Engine} (h : Settled log₀ .empty t)
    (hlog : ∀ e ∈ t.log.events, Readable e) {f : Fleet} (htells : Tells (t.log.events.map Vda5050Event.content) f)
    (k : String) :
    (t.db.robots.find? k).map Robot.robotColumns = f.robotColumns k ∧
      (t.db.orders.find? k).map Db.Order.orderColumns = f.orderColumns k := by
  obtain ⟨shown, hshows, hnewest⟩ := h.shown_eq_newest hlog
  have hshown : ∀ topic ∈ shownTopics, (shown (topic, k)).map Vda5050Event.content =
      lastFiled (t.log.events.map Vda5050Event.content) topic k := by
    intro topic htopic
    rw [hnewest topic htopic, map_content_newest]
  refine ⟨(hshows.robots k).robotColumns_eq ?_ ?_ ?_, (hshows.orders k).orderColumns_eq ?_⟩
  · rw [← htells.connection k, ← hshown _ (by simp [shownTopics, robotTopics]), Option.map_map]
    rfl
  · rw [← htells.state k, ← hshown _ (by simp [shownTopics, robotTopics]), Option.map_map]
    rfl
  · rw [← htells.factsheet k, ← hshown _ (by simp [shownTopics, robotTopics]), Option.map_map]
    rfl
  · rw [← htells.order k, ← hshown _ (by simp [shownTopics, orderTopics]), Option.map_map]
    rfl

end SyriusOrbit.Projection

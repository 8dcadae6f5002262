import SyriusOrbit.Vda5050.Message
import SyriusOrbit.Mqtt.Topic
import Mathlib.Logic.Function.Basic

/-!
# Endpoints

An MQTT client with the subscriptions its broker holds, and the two sides of the proxy: `VDA5050EndPoint` with its
`VDA5050Subscriber`.  An endpoint keeps the listeners registered for each message type; `dispatch` says which of them
a message is passed to.
-/

namespace SyriusOrbit.Mqtt

open Vda5050

/-! ### MQTT clients -/

/-- The connection of a client to its broker; `pending` until `on_connect` has been called. -/
inductive Link where
  | down | pending | up
  deriving DecidableEq

/-- An entry of `subscriptions_`: messages that match the filter go to the handler of an endpoint for a type. -/
structure SubscriptionEntry where
  topicFilter : String
  endpoint : Nat
  type : MessageType
  deriving DecidableEq

/-- A client; `held` are the filters the broker holds for its session. -/
structure MqttSubscriber where
  link : Link := .down
  held : List String := []
  subscriptions : List SubscriptionEntry := []

namespace MqttSubscriber

/-- `MqttSubscriber::Subscribe`, with `accepted` whether the library accepts the packet.  It never does without a
connection. -/
def subscribe (client : MqttSubscriber) (entry : SubscriptionEntry) (accepted : Bool) : Bool × MqttSubscriber :=
  if entry.topicFilter = "" then (false, client)
  else if !accepted || client.link = .down then (false, client)
  else (true, { client with
    held := entry.topicFilter :: client.held
    subscriptions := client.subscriptions ++ [entry] })

/-- The connection ends, and with it the clean session. -/
def disconnected (client : MqttSubscriber) : MqttSubscriber := { client with link := .down, held := [] }

theorem held_subscribe {client client' : MqttSubscriber} {entry : SubscriptionEntry} {accepted : Bool}
    (h : client.subscribe entry accepted = (true, client')) : client'.held = entry.topicFilter :: client.held := by
  unfold subscribe at h
  split at h
  · simp at h
  · split at h
    · simp at h
    · simp only [Prod.mk.injEq, true_and] at h
      rw [← h]

theorem subscriptions_subscribe {client client' : MqttSubscriber} {entry : SubscriptionEntry} {accepted : Bool}
    (h : client.subscribe entry accepted = (true, client')) :
    client'.subscriptions = client.subscriptions ++ [entry] := by
  unfold subscribe at h
  split at h
  · simp at h
  · split at h
    · simp at h
    · simp only [Prod.mk.injEq, true_and] at h
      rw [← h]

theorem subscribe_of_failed {client client' : MqttSubscriber} {entry : SubscriptionEntry} {accepted : Bool}
    (h : client.subscribe entry accepted = (false, client')) : client' = client := by
  unfold subscribe at h
  split at h
  · exact (congrArg Prod.snd h).symm
  · split at h
    · exact (congrArg Prod.snd h).symm
    · simp at h

private theorem link_subscribe (client : MqttSubscriber) (entry : SubscriptionEntry) (accepted : Bool) :
    (client.subscribe entry accepted).2.link = client.link := by
  unfold subscribe
  split
  · rfl
  · split <;> rfl

/-- Without a connection there is no session. -/
def Closed (client : MqttSubscriber) : Prop := client.link = .down → client.held = []

theorem Closed.of_ne {client : MqttSubscriber} (h : client.link ≠ .down) : client.Closed := fun hdown => absurd hdown h

theorem Closed.subscribe {client : MqttSubscriber} (h : client.Closed) (entry : SubscriptionEntry) (accepted : Bool) :
    (client.subscribe entry accepted).2.Closed := by
  unfold MqttSubscriber.subscribe
  split
  · exact h
  · split
    · exact h
    · next hopen =>
      intro hdown
      simp [show client.link = .down from hdown] at hopen

end MqttSubscriber

/-! ### Endpoints -/

inductive Side where
  | localSide | cloudSide
  deriving DecidableEq

/-- A registered callback: one that forwards to the other side, or one of the event recorder. -/
inductive Listener where
  | bridge | recorder
  deriving DecidableEq

/-- The last level of the topics of a message type. -/
def suffix : MessageType → String
  | .state => "state"
  | .visualization => "visualization"
  | .connection => "connection"
  | .factsheet => "factsheet"
  | .order => "order"
  | .instantActions => "instantActions"
  | .responses => "responses"
  | .zoneSet => "zoneSet"

/-- The message types an endpoint subscribes to, in their order. -/
def Side.types : Side → List MessageType
  | .localSide => [.state, .visualization, .connection, .factsheet]
  | .cloudSide => [.order, .instantActions, .responses, .zoneSet]

theorem suffix_injective : Function.Injective suffix := by
  intro t t' h
  cases t <;> cases t' <;> first | rfl | simp [suffix] at h

theorem Side.eq_cloudSide {side : Side} (h : side ≠ .localSide) : side = .cloudSide := by
  cases side with
  | localSide => exact absurd rfl h
  | cloudSide => rfl

theorem Side.eq_localSide {side : Side} (h : side ≠ .cloudSide) : side = .localSide := by
  cases side with
  | localSide => rfl
  | cloudSide => exact absurd rfl h

theorem nodup_types (side : Side) : side.types.Nodup := by cases side <;> decide

/-- An endpoint with its subscriber; `id` tells the endpoints apart that were created one after another. -/
structure VDA5050EndPoint where
  id : Nat
  side : Side
  topicTemplate : VDA5050TopicContext
  initialized : Bool := false
  stopped : Bool := false
  callbacks : MessageType → List Listener := fun _ => []

namespace VDA5050EndPoint

/-- The filter of a message type. -/
def filter (ep : VDA5050EndPoint) (t : MessageType) : String := ep.topicTemplate.buildFilter (suffix t)

theorem filter_injective (ep : VDA5050EndPoint) : Function.Injective ep.filter := by
  intro t t' h
  have hlevels := congrArg levels h
  unfold filter at hlevels
  rw [VDA5050TopicContext.levels_buildFilter, VDA5050TopicContext.levels_buildFilter] at hlevels
  exact suffix_injective (levels_injective (List.append_cancel_left hlevels))

/-- `VDA5050Subscriber::Init`. -/
def initSubscriber (ep : VDA5050EndPoint) : Bool × VDA5050EndPoint :=
  if ep.stopped then (false, ep)
  else if ep.initialized then (true, ep)
  else if ep.topicTemplate.interfaceName = "" ∨ ep.topicTemplate.majorVersion = "" then (false, ep)
  else (true, { ep with initialized := true })

/-- The calls of `VDA5050Subscriber::subscribe`, up to the first that fails. -/
def subscribeAll (ep : VDA5050EndPoint) (accepted : MessageType → Bool) :
    List MessageType → MqttSubscriber → Bool × MqttSubscriber
  | [], client => (true, client)
  | t :: ts, client =>
    if ep.stopped then (false, client)
    else
      match client.subscribe ⟨ep.filter t, ep.id, t⟩ (accepted t) with
      | (true, client') => ep.subscribeAll accepted ts client'
      | (false, client') => (false, client')

/-- `VDA5050EndPoint::Init` on the client of its side. -/
def init (ep : VDA5050EndPoint) (client : MqttSubscriber) (accepted : MessageType → Bool) :
    Bool × VDA5050EndPoint × MqttSubscriber :=
  match ep.initSubscriber with
  | (false, ep') => (false, ep', client)
  | (true, ep') =>
    match ep'.subscribeAll accepted ep'.side.types client with
    | (ok, client') => (ok, ep', client')

/-- Registers a callback for a type that belongs to a side: `OnState`, `OnOrder` and so on. -/
def on (side : Side) (t : MessageType) (callback : Listener) (ep : VDA5050EndPoint) : Bool × VDA5050EndPoint :=
  if ep.side ≠ side then (false, ep)
  else if ep.stopped then (false, ep)
  else (true, { ep with callbacks := Function.update ep.callbacks t (ep.callbacks t ++ [callback]) })

def onState : Listener → VDA5050EndPoint → Bool × VDA5050EndPoint := on .localSide .state

def onVisualization : Listener → VDA5050EndPoint → Bool × VDA5050EndPoint := on .localSide .visualization

def onConnection : Listener → VDA5050EndPoint → Bool × VDA5050EndPoint := on .localSide .connection

def onFactSheet : Listener → VDA5050EndPoint → Bool × VDA5050EndPoint := on .localSide .factsheet

def onOrder : Listener → VDA5050EndPoint → Bool × VDA5050EndPoint := on .cloudSide .order

def onInstantActions : Listener → VDA5050EndPoint → Bool × VDA5050EndPoint := on .cloudSide .instantActions

def onResponses : Listener → VDA5050EndPoint → Bool × VDA5050EndPoint := on .cloudSide .responses

def onZoneSet : Listener → VDA5050EndPoint → Bool × VDA5050EndPoint := on .cloudSide .zoneSet

/-- `VDA5050Subscriber::dispatch`: the calls made for a message that arrives on a topic. -/
def dispatch (ep : VDA5050EndPoint) (t : MessageType) (topic : String) : List (Listener × VDA5050TopicContext) :=
  if ep.stopped then []
  else
    match ep.topicTemplate.parseTopicContext topic (suffix t) with
    | none => []
    | some context => (ep.callbacks t).map fun callback => (callback, context)

/-! ### Registration -/

/-- The endpoints differ at most in their callbacks. -/
def SameSetup (ep ep' : VDA5050EndPoint) : Prop := ep' = { ep with callbacks := ep'.callbacks }

theorem SameSetup.refl (ep : VDA5050EndPoint) : ep.SameSetup ep := rfl

theorem SameSetup.trans {ep ep' ep'' : VDA5050EndPoint} (h : ep.SameSetup ep') (h' : ep'.SameSetup ep'') :
    ep.SameSetup ep'' := by
  unfold SameSetup at *
  rw [h', h]

theorem sameSetup_on (side : Side) (t : MessageType) (callback : Listener) (ep : VDA5050EndPoint) :
    ep.SameSetup (on side t callback ep).2 := by
  unfold on
  split
  · rfl
  · split <;> rfl

theorem SameSetup.id {ep ep' : VDA5050EndPoint} (h : ep.SameSetup ep') : ep'.id = ep.id := congrArg (·.id) h

theorem SameSetup.side {ep ep' : VDA5050EndPoint} (h : ep.SameSetup ep') : ep'.side = ep.side := congrArg (·.side) h

theorem SameSetup.initialized {ep ep' : VDA5050EndPoint} (h : ep.SameSetup ep') : ep'.initialized = ep.initialized :=
  congrArg (·.initialized) h

theorem SameSetup.stopped {ep ep' : VDA5050EndPoint} (h : ep.SameSetup ep') : ep'.stopped = ep.stopped :=
  congrArg (·.stopped) h

/-- The endpoint without its callbacks. -/
def bare (ep : VDA5050EndPoint) : VDA5050EndPoint := { ep with callbacks := fun _ => [] }

theorem SameSetup.bare {ep ep' : VDA5050EndPoint} (h : ep.SameSetup ep') : ep'.bare = ep.bare := by
  rw [SameSetup] at h
  rw [h]
  rfl

@[simp] theorem side_on (side : Side) (t : MessageType) (callback : Listener) (ep : VDA5050EndPoint) :
    (on side t callback ep).2.side = ep.side := (sameSetup_on side t callback ep).side

@[simp] theorem stopped_on (side : Side) (t : MessageType) (callback : Listener) (ep : VDA5050EndPoint) :
    (on side t callback ep).2.stopped = ep.stopped := (sameSetup_on side t callback ep).stopped

/-- How often a listener is registered after a registration. -/
theorem count_on (side : Side) (t : MessageType) (callback : Listener) (ep : VDA5050EndPoint) (t' : MessageType)
    (listener : Listener) : ((on side t callback ep).2.callbacks t').count listener = (ep.callbacks t').count listener +
      if ep.side = side ∧ ep.stopped = false ∧ t' = t ∧ callback = listener then 1 else 0 := by
  unfold on
  split
  · next hside => simp [hside]
  · next hside =>
    split
    · next hstopped => simp [hstopped]
    · next hstopped =>
      by_cases ht : t' = t
      · subst ht
        simp [not_not.1 hside, hstopped, List.count_singleton]
      · simp [ht]

/-- A listener that is registered once is called once. -/
theorem filter_dispatch {ep : VDA5050EndPoint} {t : MessageType} {listener : Listener} {topic : String}
    {context : VDA5050TopicContext} (hstopped : ep.stopped = false)
    (hcontext : ep.topicTemplate.parseTopicContext topic (suffix t) = some context) :
    (ep.dispatch t topic).filter (·.1 = listener) =
      List.replicate ((ep.callbacks t).count listener) (listener, context) := by
  unfold dispatch
  rw [hcontext]
  simp only [hstopped, Bool.false_eq_true, if_false, List.filter_map, Function.comp_def]
  rw [List.filter_eq, List.map_replicate]

/-- Only callbacks that are registered for the type are called. -/
theorem mem_callbacks_of_dispatch {ep : VDA5050EndPoint} {t : MessageType} {listener : Listener} {topic : String}
    {context : VDA5050TopicContext} (h : (listener, context) ∈ ep.dispatch t topic) : listener ∈ ep.callbacks t := by
  unfold dispatch at h
  split at h
  · cases h
  · split at h
    · cases h
    · obtain ⟨callback, hcallback, heq⟩ := List.mem_map.1 h
      obtain rfl : callback = listener := congrArg Prod.fst heq
      exact hcallback

/-! ### Initialisation -/

theorem initSubscriber_eq {ep ep' : VDA5050EndPoint} (h : ep.initSubscriber = (true, ep')) :
    ep' = { ep with initialized := true } := by
  unfold initSubscriber at h
  split at h
  · simp at h
  · split at h
    · next hinit =>
      obtain rfl := congrArg Prod.snd h
      simp [← hinit]
    · split at h
      · simp at h
      · exact (congrArg Prod.snd h).symm

/-- A successful `Init` marks the endpoint. -/
theorem init_eq {ep ep' : VDA5050EndPoint} {client client' : MqttSubscriber} {accepted : MessageType → Bool}
    (h : ep.init client accepted = (true, ep', client')) : ep' = { ep with initialized := true } := by
  unfold init at h
  split at h
  · simp at h
  · next hsubscriber =>
    simp only [Prod.mk.injEq] at h
    obtain ⟨-, rfl, -⟩ := h
    exact initSubscriber_eq hsubscriber

private theorem initSubscriber_template {ep ep' : VDA5050EndPoint} (h : ep.initSubscriber = (true, ep'))
    (hinit : ep.initialized = false) : ep.topicTemplate.interfaceName ≠ "" ∧ ep.topicTemplate.majorVersion ≠ "" := by
  unfold initSubscriber at h
  rw [hinit] at h
  split at h
  · simp at h
  · rw [if_neg Bool.false_ne_true] at h
    split at h
    · simp at h
    · next hempty => exact not_or.1 hempty

/-- An endpoint can only be initialized with a prefix. -/
theorem init_template {ep ep' : VDA5050EndPoint} {client client' : MqttSubscriber} {accepted : MessageType → Bool}
    (h : ep.init client accepted = (true, ep', client')) (hinit : ep.initialized = false) :
    ep.topicTemplate.interfaceName ≠ "" ∧ ep.topicTemplate.majorVersion ≠ "" := by
  unfold init at h
  split at h
  · simp at h
  · next hsubscriber => exact initSubscriber_template hsubscriber hinit

/-- The entry with which an endpoint subscribes to a type. -/
def entry (ep : VDA5050EndPoint) (t : MessageType) : SubscriptionEntry := ⟨ep.filter t, ep.id, t⟩

/-- The calls of `subscribe` append an entry for each type up to the first that fails. -/
private theorem subscriptions_subscribeAll {ep : VDA5050EndPoint} {accepted : MessageType → Bool}
    {ts : List MessageType}
    {client client' : MqttSubscriber} {ok : Bool} (h : ep.subscribeAll accepted ts client = (ok, client')) :
    ∃ done, done <+: ts ∧ client'.subscriptions = client.subscriptions ++ done.map ep.entry ∧
      (ok = true → done = ts) := by
  induction ts generalizing client with
  | nil =>
    cases h
    exact ⟨[], List.prefix_refl _, by simp, fun _ => rfl⟩
  | cons t ts ih =>
    unfold subscribeAll at h
    split at h
    · cases h
      exact ⟨[], List.nil_prefix, by simp, by simp⟩
    · split at h
      · next client₁ hsub =>
        obtain ⟨done, hdone, heq, hok⟩ := ih h
        refine ⟨t :: done, List.cons_prefix_cons.2 ⟨rfl, hdone⟩, ?_, fun h => by rw [hok h]⟩
        rw [heq, MqttSubscriber.subscriptions_subscribe hsub, List.append_assoc]
        rfl
      · next client₁ hsub =>
        cases h
        refine ⟨[], List.nil_prefix, ?_, by simp⟩
        rw [MqttSubscriber.subscribe_of_failed hsub]
        simp

/-- `Init` appends the entries of the endpoint to the routing table, all of them if it succeeds. -/
theorem subscriptions_init {ep ep' : VDA5050EndPoint} {client client' : MqttSubscriber}
    {accepted : MessageType → Bool} {ok : Bool} (h : ep.init client accepted = (ok, ep', client')) :
    ∃ done, done <+: ep.side.types ∧ client'.subscriptions = client.subscriptions ++ done.map ep.entry ∧
      (ok = true → done = ep.side.types) := by
  unfold init at h
  split at h
  · cases h
    exact ⟨[], List.nil_prefix, by simp, by simp⟩
  · next ep₁ hsubscriber =>
    obtain rfl := initSubscriber_eq hsubscriber
    cases hall : VDA5050EndPoint.subscribeAll { ep with initialized := true } accepted ep.side.types client with
    | mk ok₁ client₁ =>
      simp only [hall] at h
      cases h
      have hentries := subscriptions_subscribeAll hall
      exact hentries

private theorem link_subscribeAll (ep : VDA5050EndPoint) (accepted : MessageType → Bool) (ts : List MessageType)
    (client : MqttSubscriber) : (ep.subscribeAll accepted ts client).2.link = client.link := by
  induction ts generalizing client with
  | nil => rfl
  | cons t ts ih =>
    have hlink := client.link_subscribe ⟨ep.filter t, ep.id, t⟩ (accepted t)
    unfold subscribeAll
    split
    · rfl
    · split
      · next hsub =>
        rw [hsub] at hlink
        exact (ih _).trans hlink
      · next hsub => rwa [hsub] at hlink

/-- `Init` does not touch the connection. -/
theorem link_init {ep ep' : VDA5050EndPoint} {client client' : MqttSubscriber} {accepted : MessageType → Bool}
    {ok : Bool} (h : ep.init client accepted = (ok, ep', client')) : client'.link = client.link := by
  unfold init at h
  split at h
  · cases h
    rfl
  · cases h
    exact link_subscribeAll _ accepted _ client

private theorem closed_subscribeAll (ep : VDA5050EndPoint) (accepted : MessageType → Bool) (ts : List MessageType)
    {client : MqttSubscriber} (h : client.Closed) : (ep.subscribeAll accepted ts client).2.Closed := by
  induction ts generalizing client with
  | nil => exact h
  | cons t ts ih =>
    unfold subscribeAll
    split
    · exact h
    · have hclosed := h.subscribe ⟨ep.filter t, ep.id, t⟩ (accepted t)
      split
      · next hsub => exact ih (by rwa [hsub] at hclosed)
      · next hsub => rwa [hsub] at hclosed

theorem closed_init {ep ep' : VDA5050EndPoint} {client client' : MqttSubscriber} {accepted : MessageType → Bool}
    {ok : Bool} (h : client.Closed) (hinit : ep.init client accepted = (ok, ep', client')) : client'.Closed := by
  unfold init at hinit
  split at hinit
  · cases hinit
    exact h
  · cases hinit
    exact closed_subscribeAll _ accepted _ h

private theorem held_subscribeAll {ep : VDA5050EndPoint} {accepted : MessageType → Bool} {ts : List MessageType}
    {client client' : MqttSubscriber} (h : ep.subscribeAll accepted ts client = (true, client')) :
    (∀ t ∈ ts, ep.filter t ∈ client'.held) ∧ client.held ⊆ client'.held := by
  induction ts generalizing client with
  | nil =>
    cases h
    simp
  | cons t ts ih =>
    unfold subscribeAll at h
    split at h
    · simp at h
    · split at h
      · next client₁ hsub =>
        obtain ⟨hrest, hheld⟩ := ih h
        rw [MqttSubscriber.held_subscribe hsub, List.cons_subset] at hheld
        exact ⟨List.forall_mem_cons.2 ⟨hheld.1, hrest⟩, hheld.2⟩
      · simp at h

/-- A successful `Init` leaves the filters of the endpoint with the broker. -/
theorem held_init {ep ep' : VDA5050EndPoint} {client client' : MqttSubscriber} {accepted : MessageType → Bool}
    (h : ep.init client accepted = (true, ep', client')) : ∀ t ∈ ep'.side.types, ep'.filter t ∈ client'.held := by
  unfold init at h
  split at h
  · simp at h
  · simp only [Prod.mk.injEq] at h
    obtain ⟨hok, rfl, rfl⟩ := h
    exact (held_subscribeAll (Prod.ext hok rfl)).1

end VDA5050EndPoint

end SyriusOrbit.Mqtt

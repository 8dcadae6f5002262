import SyriusOrbit.Effect.Program
import SyriusOrbit.Mqtt.Proxy
import SyriusOrbit.Mqtt.TypedPublisher
import SyriusOrbit.Recorder

/-!
# Deliveries

`MqttSubscriber::handle_message` with all that it calls: the entries of the routing table, the decoding of the
payload, the dispatch of the endpoint, and the callbacks, each of which may throw.  A message that an endpoint is
subscribed to reaches each callback registered for its type once, whichever of them throw (`runOn_handleMessage`).
-/

namespace SyriusOrbit.Mqtt

open JsonFormat Vda5050 Transition Effect

/-- The part of the client library that finds the subscriptions a message is for.  A topic matches a filter that has
its levels, with wildcards for any but the first. -/
class MosquittoLibrary where
  topicMatchesSub : String → String → Bool
  topicMatchesSub_of_levelsMatch {topicFilter topic : String} : ValidTopic topic → LevelsMatch topicFilter topic →
    (levels topicFilter).head? = (levels topic).head? → topicMatchesSub topicFilter topic = true

/-- The library for filters without `#`. -/
@[reducible] def MosquittoLibrary.levelwise : MosquittoLibrary where
  topicMatchesSub topicFilter topic := (levels topicFilter).length == (levels topic).length &&
    ((levels topicFilter).zip (levels topic)).all fun (f, l) => f == l || f == ['+']
  topicMatchesSub_of_levelsMatch _ hlevels _ := by
    obtain ⟨hlength, hzip⟩ := List.forall₂_iff_zip.1 hlevels
    rw [Bool.and_eq_true, beq_iff_eq, List.all_eq_true]
    refine ⟨hlength, fun ⟨f, l⟩ hmem => ?_⟩
    simpa using hzip hmem

/-- A message as the client library hands it over. -/
structure MqttMessage where
  topic : String
  payload : String

def Side.other : Side → Side
  | .localSide => .cloudSide
  | .cloudSide => .localSide

/-- What a callback does: it calls `Publish` on the endpoint of a side, with what is handed on to the client, or the
recorder is called; `dangling` is a call through a pointer to an endpoint that is not there. -/
inductive Call where
  | publish (side : Side) (type : MessageType) (out : Option Outgoing)
  | record (d : Dispatched)
  | dangling

/-- The side on which messages of a type are published. -/
def publisher : MessageType → Side
  | .order | .instantActions | .responses | .zoneSet => .localSide
  | .state | .visualization | .connection | .factsheet => .cloudSide

/-- The quality of service with which messages of a type are published. -/
def qos : MessageType → Int
  | .connection => 1
  | .order | .instantActions | .responses | .zoneSet | .state | .visualization | .factsheet => 0

theorem publisher_of_mem_types {side : Side} {t : MessageType} (h : t ∈ side.types) : publisher t = side.other := by
  cases side <;> cases t <;> first | rfl | simp [Side.types] at h

namespace VDA5050EndPoint

variable [JsonLibrary]

/-- `VDA5050Publisher::publish`, up to the call of the client. -/
def publisherPublish (ep : VDA5050EndPoint) (d : Dispatched) : Option Outgoing :=
  if ep.stopped then none
  else
    match d.context.buildTopic (suffix d.type) with
    | none => none
    | some topic => outgoing topic d.message (qos d.type) false

/-- The overloads of `VDA5050EndPoint::Publish`. -/
def publish (ep : VDA5050EndPoint) (d : Dispatched) : Option Outgoing :=
  if ep.side ≠ publisher d.type then none else ep.publisherPublish d

/-- A message is published on the topic it was read from. -/
theorem publish_of_topicOf {ep : VDA5050EndPoint} {t : MessageType} (hside : ep.side = publisher t)
    (hstopped : ep.stopped = false) {template context : VDA5050TopicContext} {topic : String}
    (htopic : template.TopicOf context topic (suffix t)) (hinterface : template.interfaceName ≠ "")
    (hversion : template.majorVersion ≠ "") (m : t.Message) :
    ep.publish ⟨context, t, m⟩ =
      some ⟨topic, JsonLibrary.dump (pruneTopLevelFields (toJson m)), qos t, false⟩ := by
  have hsuffix : suffix t ≠ "" := by cases t <;> simp [suffix]
  have hnonempty : topic.isEmpty = false := by
    rw [htopic.topic_eq]
    simp
  unfold publish publisherPublish
  rw [if_neg (not_not.2 hside), hstopped, htopic.buildTopic hinterface hversion hsuffix]
  simp [outgoing, hnonempty]

/-- The routing table of a client has the entries of the endpoint and no others. -/
def Serves (ep : VDA5050EndPoint) (client : MqttSubscriber) : Prop :=
  client.subscriptions = ep.side.types.map ep.entry

end VDA5050EndPoint

namespace Daemon

variable [JsonLibrary] [MosquittoLibrary]

/-- The callbacks of `bridge_local_to_cloud` and `bridge_cloud_to_local`, for messages that reach a side. -/
def forward (s : Daemon) (side : Side) (d : Dispatched) : Program Unit (List Call) Unit :=
  match s.endpoint side.other with
  | none => emit .dangling
  | some ep => emit (.publish side.other d.type (ep.publish d))

/-- A registered callback; `throws` says for which messages the recorder does not return. -/
def invoke (s : Daemon) (throws : Dispatched → Bool) (side : Side) (d : Dispatched) :
    Listener → Program Unit (List Call) Unit
  | .bridge => s.forward side d
  | .recorder => do
    emit (.record d)
    if throws d then throw () else pure ()

/-- `handleState`, `handleOrder` and so on, for the endpoint that has subscribed. -/
def handle (s : Daemon) (throws : Dispatched → Bool) (side : Side) (entry : SubscriptionEntry) (topic : String)
    (m : entry.type.Message) : Program Unit (List Call) Unit :=
  match s.endpoint side with
  | none => emit .dangling
  | some ep =>
    if entry.endpoint ≠ ep.id then emit .dangling
    else (ep.dispatch entry.type topic).forM fun (listener, context) =>
      catching (s.invoke throws side ⟨context, entry.type, m⟩ listener)

/-- What `TypedSubscriber::Subscribe` wraps around a handler. -/
def typedCallback (s : Daemon) (throws : Dispatched → Bool) (side : Side) (msg : MqttMessage)
    (entry : SubscriptionEntry) : Program Unit (List Call) Unit :=
  match decode (α := entry.type.Message) msg.payload with
  | .error _ => pure ()
  | .ok m => catching (s.handle throws side entry msg.topic m)

/-- `MqttSubscriber::handle_message`. -/
def handleMessage (s : Daemon) (throws : Dispatched → Bool) (side : Side) (msg : MqttMessage) :
    Program Unit (List Call) Unit :=
  let callbacks := (s.client side).subscriptions.filter fun entry =>
    MosquittoLibrary.topicMatchesSub entry.topicFilter msg.topic
  callbacks.forM fun entry => catching (s.typedCallback throws side msg entry)

/-! ### The calls -/

/-- The call of a callback. -/
def callOf (s : Daemon) (side : Side) (d : Dispatched) : Listener → Call
  | .bridge =>
    match s.endpoint side.other with
    | none => .dangling
    | some ep => .publish side.other d.type (ep.publish d)
  | .recorder => .record d

/-- The calls made through an entry of the routing table. -/
def entryCalls (s : Daemon) (side : Side) (msg : MqttMessage) (entry : SubscriptionEntry) : List Call :=
  match decode (α := entry.type.Message) msg.payload with
  | .error _ => []
  | .ok m =>
    match s.endpoint side with
    | none => [.dangling]
    | some ep =>
      if entry.endpoint ≠ ep.id then [.dangling]
      else (ep.dispatch entry.type msg.topic).map fun (listener, context) =>
        s.callOf side ⟨context, entry.type, m⟩ listener

omit [MosquittoLibrary]

private theorem emits_invoke (s : Daemon) (throws : Dispatched → Bool) (side : Side) (d : Dispatched)
    (listener : Listener) :
    Emits (s.invoke throws side d listener) [s.callOf side d listener] := by
  cases listener with
  | bridge =>
    simp only [invoke, forward, callOf]
    split
    · exact (returns_emit _).emits
    · exact (returns_emit _).emits
  | recorder =>
    refine (returns_emit (Call.record d)).emits_bind ?_
    split
    · exact emits_throw ()
    · exact returns_pure.emits

private theorem returns_typedCallback (s : Daemon) (throws : Dispatched → Bool) (side : Side) (msg : MqttMessage)
    (entry : SubscriptionEntry) : Returns (s.typedCallback throws side msg entry) (s.entryCalls side msg entry) := by
  unfold typedCallback entryCalls
  split
  · exact returns_pure
  · next m hm =>
    refine returns_catching ?_
    unfold handle
    split
    · exact (returns_emit _).emits
    · next ep hep =>
      split
      · exact (returns_emit _).emits
      · rw [List.map_eq_flatMap]
        exact (returns_forM fun c _ => returns_catching (s.emits_invoke throws side _ c.1)).emits

variable [MosquittoLibrary]

theorem returns_handleMessage (s : Daemon) (throws : Dispatched → Bool) (side : Side) (msg : MqttMessage) :
    Returns (s.handleMessage throws side msg) (((s.client side).subscriptions.filter fun entry =>
      MosquittoLibrary.topicMatchesSub entry.topicFilter msg.topic).flatMap (s.entryCalls side msg)) :=
  returns_forM fun entry _ => returns_catching (s.returns_typedCallback throws side msg entry).emits

omit [JsonLibrary] [MosquittoLibrary] in
private theorem flatMap_filter_eq {γ δ : Type} {l : List γ} {p : γ → Bool} {f : γ → List δ} {a : γ} (hl : l.Nodup)
    (ha : a ∈ l) (hp : p a = true) (hf : ∀ b ∈ l, b ≠ a → f b = []) : (l.filter p).flatMap f = f a := by
  obtain ⟨before, after, rfl⟩ := List.append_of_mem ha
  rw [List.nodup_middle, List.nodup_cons, List.mem_append, not_or] at hl
  have hbefore : (before.filter p).flatMap f = [] := by
    refine List.flatMap_eq_nil_iff.2 fun b hb => ?_
    have hmem := List.mem_of_mem_filter hb
    exact hf b (by simp [hmem]) fun heq => hl.1.1 (heq ▸ hmem)
  have hafter : (after.filter p).flatMap f = [] := by
    refine List.flatMap_eq_nil_iff.2 fun b hb => ?_
    have hmem := List.mem_of_mem_filter hb
    exact hf b (by simp [hmem]) fun heq => hl.1.2 (heq ▸ hmem)
  rw [List.filter_append, List.filter_cons_of_pos hp, List.flatMap_append, List.flatMap_cons, hbefore, hafter,
    List.append_nil, List.nil_append]

omit [MosquittoLibrary] in
private theorem entryCalls_entry {s : Daemon} {side : Side} {ep : VDA5050EndPoint} (hep : s.endpoint side = some ep)
    (hstopped : ep.stopped = false) {msg : MqttMessage} {t : MessageType} {context : VDA5050TopicContext}
    (hcontext : ep.topicTemplate.parseTopicContext msg.topic (suffix t) = some context) {m : t.Message}
    (hm : decode msg.payload = .ok m) :
    s.entryCalls side msg (ep.entry t) = (ep.callbacks t).map (s.callOf side ⟨context, t, m⟩) := by
  have hdispatch : ep.dispatch t msg.topic = (ep.callbacks t).map fun listener => (listener, context) := by
    rw [VDA5050EndPoint.dispatch, hstopped, hcontext]
    rfl
  unfold VDA5050EndPoint.entry entryCalls
  simp only [hm, hep, hdispatch, ne_eq, not_true_eq_false, if_false, List.map_map]
  rfl

omit [MosquittoLibrary] in
/-- The entry of another type calls nothing: the topic would have two suffixes. -/
private theorem entryCalls_of_ne {s : Daemon} {side : Side} {ep : VDA5050EndPoint} (hep : s.endpoint side = some ep)
    {msg : MqttMessage} {t t' : MessageType} {context : VDA5050TopicContext}
    (hcontext : ep.topicTemplate.parseTopicContext msg.topic (suffix t) = some context) (hne : t' ≠ t) :
    s.entryCalls side msg (ep.entry t') = [] := by
  have hdispatch : ep.dispatch (ep.entry t').type msg.topic = [] := by
    unfold VDA5050EndPoint.dispatch
    split
    · rfl
    · split
      · rfl
      · next context' hcontext' =>
        have htopic := VDA5050TopicContext.topicOf_of_parseTopicContext hcontext
        have htopic' := VDA5050TopicContext.topicOf_of_parseTopicContext hcontext'
        exact absurd (suffix_injective (htopic'.suffix_eq htopic)) hne
  simp only [entryCalls, hep, hdispatch]
  split
  · rfl
  · exact if_neg (not_not.2 rfl)

/-- Each callback that is registered for the type of a message is called once, whether or not others throw. -/
theorem runOn_handleMessage {s : Daemon} {side : Side} {ep : VDA5050EndPoint} (hep : s.endpoint side = some ep)
    (hserves : ep.Serves (s.client side)) (hstopped : ep.stopped = false) {msg : MqttMessage}
    (hvalid : ValidTopic msg.topic) {t : MessageType} (ht : t ∈ ep.side.types) {context : VDA5050TopicContext}
    (hcontext : ep.topicTemplate.parseTopicContext msg.topic (suffix t) = some context) {m : t.Message}
    (hm : decode msg.payload = .ok m) (throws : Dispatched → Bool) :
    runOn (s.handleMessage throws side msg) [] =
      (.ok (), (ep.callbacks t).map (s.callOf side ⟨context, t, m⟩)) := by
  have htopic := VDA5050TopicContext.topicOf_of_parseTopicContext hcontext
  have hentry := entryCalls_entry hep hstopped hcontext hm
  have hother : ∀ e ∈ ep.side.types.map ep.entry, e ≠ ep.entry t → s.entryCalls side msg e = [] := by
    intro e he hne
    obtain ⟨t', -, rfl⟩ := List.mem_map.1 he
    exact entryCalls_of_ne hep hcontext fun ht' => hne (congrArg ep.entry ht')
  rw [s.returns_handleMessage throws side msg [], List.nil_append, hserves, ← hentry]
  have hnodup : (ep.side.types.map ep.entry).Nodup :=
    (nodup_types ep.side).map fun t t' h => congrArg SubscriptionEntry.type h
  have hmatches : MosquittoLibrary.topicMatchesSub (ep.filter t) msg.topic = true :=
    MosquittoLibrary.topicMatchesSub_of_levelsMatch hvalid htopic.levelsMatch htopic.head?_levels
  rw [flatMap_filter_eq hnodup (List.mem_map_of_mem ht) hmatches hother]

end Daemon

/-! ### Runs with deliveries -/

/-- A message that has been handed over, with the daemon as it was then and the calls that were made. -/
structure Delivery where
  daemon : Daemon
  side : Side
  message : MqttMessage
  calls : List Call

/-- The daemon and the messages that its clients have been handed. -/
structure Traffic where
  daemon : Daemon := {}
  deliveries : List Delivery := []

inductive TrafficAction where
  | daemon (a : Action)
  | deliver (side : Side) (msg : MqttMessage) (throws : Dispatched → Bool)

namespace Traffic

/-- The condition on the steps of the daemon; messages may be delivered whenever they can be. -/
def Lift (allowed : Daemon → Action → Prop) (s : Traffic) : TrafficAction → Prop
  | .daemon a => allowed s.daemon a
  | .deliver .. => True

variable [JsonLibrary] [MosquittoLibrary]

/-- Messages are handed over by the network threads; that of the cloud client may be in the connect callback. -/
def deliver (side : Side) (msg : MqttMessage) (throws : Dispatched → Bool) (s : Traffic) : Option Traffic :=
  if !s.daemon.loopsRunning || (side = .cloudSide && s.daemon.callback ≠ .idle) || ¬ValidTopic msg.topic then none
  else some { s with
    deliveries := s.deliveries ++ [⟨s.daemon, side, msg, (runOn (s.daemon.handleMessage throws side msg) []).2⟩] }

def step (topicPrefix : String) (s : Traffic) : TrafficAction → Option Traffic
  | .daemon a => (s.daemon.step topicPrefix a).map fun daemon => { s with daemon }
  | .deliver side msg throws => s.deliver side msg throws

def system (topicPrefix : String) : System Traffic TrafficAction := .ofStep {} (step topicPrefix)

theorem deliver_cases {s s' : Traffic} {side : Side} {msg : MqttMessage} {throws : Dispatched → Bool}
    (h : s.deliver side msg throws = some s') :
    s.daemon.loopsRunning = true ∧ (side = .cloudSide → s.daemon.callback = .idle) ∧ ValidTopic msg.topic ∧
      s' = { s with
        deliveries := s.deliveries ++
          [⟨s.daemon, side, msg, (runOn (s.daemon.handleMessage throws side msg) []).2⟩] } := by
  unfold deliver at h
  split at h
  · cases h
  · next hguard =>
    simp only [Bool.or_eq_true, Bool.not_eq_true', Bool.and_eq_true, decide_eq_true_eq, not_or, not_and, not_not,
      Bool.not_eq_false] at hguard
    exact ⟨hguard.1.1, hguard.1.2, hguard.2, (Option.some.inj h).symm⟩

variable {topicPrefix : String} {allowed : Daemon → Action → Prop} {s : Traffic}

theorem daemon_of_reach (h : (system topicPrefix).Reach (Lift allowed) s) :
    (Daemon.system topicPrefix).Reach allowed s.daemon := by
  refine h.map Traffic.daemon (fun s hs => ?_) fun s a s' ha hs => ?_
  · obtain rfl : s = {} := hs
    rfl
  · cases a with
    | daemon a =>
      obtain ⟨daemon, hdaemon, rfl⟩ := Option.map_eq_some_iff.1 hs
      exact .inr ⟨a, ha, hdaemon⟩
    | deliver side msg throws =>
      obtain ⟨-, -, -, rfl⟩ := deliver_cases hs
      exact .inl rfl

/-- A run of the daemon in which a message is delivered at the end. -/
theorem reach_deliver {daemon : Daemon} (h : (Daemon.system topicPrefix).Reach allowed daemon) {side : Side}
    (msg : MqttMessage) (throws : Dispatched → Bool) (hloops : daemon.loopsRunning = true)
    (hidle : side = .cloudSide → daemon.callback = .idle) (hvalid : ValidTopic msg.topic) :
    (system topicPrefix).Reach (Lift allowed)
      ⟨daemon, [⟨daemon, side, msg, (runOn (daemon.handleMessage throws side msg) []).2⟩]⟩ := by
  have hquiet : (system topicPrefix).Reach (Lift allowed) ⟨daemon, []⟩ := by
    refine h.map (Traffic.mk · []) (fun daemon hinit => ?_) fun daemon a daemon' ha hs => ?_
    · obtain rfl : daemon = {} := hinit
      rfl
    · exact .inr ⟨.daemon a, ha, Option.map_eq_some_iff.2 ⟨daemon', hs, rfl⟩⟩
  have hdeliver : Traffic.deliver side msg throws ⟨daemon, []⟩ = some
      ⟨daemon, [⟨daemon, side, msg, (runOn (daemon.handleMessage throws side msg) []).2⟩]⟩ := by
    unfold deliver
    rw [if_neg]
    · rfl
    · simpa [hloops, hvalid] using hidle
  exact hquiet.step (a := .deliver side msg throws) trivial hdeliver

/-- What is known of a message that has been handed over in a run. -/
structure Made (d : Delivery) (topicPrefix : String)
    (allowed : Daemon → Action → Prop) : Prop where
  reach : (Daemon.system topicPrefix).Reach allowed d.daemon
  loops : d.daemon.loopsRunning = true
  idle : d.side = .cloudSide → d.daemon.callback = .idle
  valid : ValidTopic d.message.topic
  calls : ∃ throws, d.calls = (runOn (d.daemon.handleMessage throws d.side d.message) []).2

theorem made_of_reach (h : (system topicPrefix).Reach (Lift allowed) s) :
    ∀ d ∈ s.deliveries, Made d topicPrefix allowed := by
  refine System.Reach.invariant (I := fun s => ∀ d ∈ s.deliveries, Made d topicPrefix allowed) (fun s hs => ?_)
    (fun s a s' hreach hI _ hs => ?_) h
  · obtain rfl : s = {} := hs
    exact fun d hd => by cases hd
  · cases a with
    | daemon a =>
      obtain ⟨daemon, -, rfl⟩ := Option.map_eq_some_iff.1 hs
      exact hI
    | deliver side msg throws =>
      obtain ⟨hloops, hidle, hvalid, rfl⟩ := deliver_cases hs
      intro d hd
      rcases List.mem_append.1 hd with hold | hnew
      · exact hI d hold
      · obtain rfl := List.mem_singleton.1 hnew
        exact ⟨daemon_of_reach hreach, hloops, hidle, hvalid, throws, rfl⟩

end Traffic

end SyriusOrbit.Mqtt

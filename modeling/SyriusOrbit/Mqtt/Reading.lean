import SyriusOrbit.Mqtt.Uplink

/-!
# What the recorder hears

What a delivered message says depends on its topic, its payload and the configured prefix alone (`Delivery.read`).  The
recorder is called with it once if it is registered with the endpoint of that side, and with nothing at all if it is
not or if the message cannot be read (`Delivery.records_eq_heard`).
-/

namespace SyriusOrbit.Mqtt

open JsonFormat Vda5050 Transition Effect VDA5050EndPoint

namespace Daemon

variable {topicPrefix : String} {s s' : Daemon}

/-! ### The prefix of the endpoints -/

/-- The endpoints have the configured prefix. -/
def Configured (topicPrefix : String) (s : Daemon) : Prop :=
  ∀ side ep, s.setUp side = some ep → parseTopicPrefix topicPrefix = some ep.topicTemplate

private theorem template_of_initLocal {accepted : MessageType → Bool} (h : s.initLocal topicPrefix accepted = some s')
    {ep : VDA5050EndPoint} (hep : s'.endpoint .localSide = some ep) :
    parseTopicPrefix topicPrefix = some ep.topicTemplate := by
  obtain ⟨-, h⟩ := of_guard h
  split at h
  · cases h
  · next topicTemplate htemplate =>
    dsimp only at h
    split at h
    · next ep' client' hinit =>
      obtain rfl := Option.some.inj h
      obtain rfl : ep' = ep := by simpa [setEndpoint] using hep
      rw [htemplate, init_eq hinit]
    · obtain rfl := Option.some.inj h
      cases hep

namespace Configured

theorem congr (h : s.Configured topicPrefix) (hsetUp : s'.setUp = s.setUp) : s'.Configured topicPrefix := by
  unfold Configured
  rwa [hsetUp]

/-- One endpoint changes. -/
theorem update (h : s.Configured topicPrefix) {side : Side} {endpoint : Option VDA5050EndPoint}
    (hsetUp : s'.setUp = Function.update s.setUp side endpoint)
    (hendpoint : ∀ ep, endpoint = some ep → parseTopicPrefix topicPrefix = some ep.topicTemplate) :
    s'.Configured topicPrefix := by
  intro side' ep hep
  rw [hsetUp] at hep
  by_cases hside : side' = side
  · subst hside
    rw [Function.update_self] at hep
    exact hendpoint ep hep
  · rw [Function.update_of_ne hside] at hep
    exact h side' ep hep

theorem step {a : Action} (h : s.Configured topicPrefix) (hs : s.step topicPrefix a = some s') :
    s'.Configured topicPrefix := by
  cases outcome_of_step hs with
  | noPrefix | localConnecting | loopsStarted | recorderConstructed | callbackSet | connecting | lost | refused
  | connected => exact h
  | connectFailed | localInitFailed | loopsFailed => exact fun side ep hep => by cases hep
  | @localInitialized accepted topicTemplate ep client =>
    refine h.update (setUp_setEndpoint (s.setClient .localSide client) .localSide (some ep)) ?_
    rintro _ ⟨⟩
    show parseTopicPrefix topicPrefix = some ep.topicTemplate
    exact template_of_initLocal hs (endpoint_setEndpoint (s.setClient .localSide client) .localSide (some ep))
  | @attached r => exact h.congr (setUp_attached s r.localEp)
  | @cloudCreated topicTemplate _ _ htemplate =>
    have hset := setUp_setEndpoint (s.setClient .cloudSide { s.client .cloudSide with link := .up }) .cloudSide
      (some { id := s.allocated, side := .cloudSide, topicTemplate })
    refine h.update hset ?_
    rintro _ ⟨⟩
    exact htemplate
  | @cloudInitialized accepted ep ep' client _ hep hinit =>
    refine h.update (setUp_setEndpoint (s.setClient .cloudSide client) .cloudSide (some ep')) ?_
    rintro _ ⟨⟩
    rw [init_eq hinit]
    exact h .cloudSide ep.bare (by simp [setUp, hep])
  | @cloudInitFailed accepted ep ep' client =>
    exact h.update (setUp_setEndpoint (s.setClient .cloudSide client) .cloudSide none) fun ep hep => by cases hep
  | @bridged localEp cloudEp _ hlocal hcloud =>
    have hlocal' := setUp_register hlocal (sameSetup_bridgeLocalToCloud localEp)
    have hcloud' := setUp_register (cloud_of_setEndpoint hcloud (some (bridgeLocalToCloud localEp).2))
      (sameSetup_bridgeCloudToLocal cloudEp)
    exact h.congr (hcloud'.trans hlocal')
  | @bridgeFailed s₁ _ hlocal =>
    have hkept : s₁.Configured topicPrefix := by
      obtain rfl | ⟨localEp, hlocalEp, rfl⟩ := hlocal
      · exact h
      · exact h.congr (setUp_register hlocalEp (sameSetup_bridgeLocalToCloud localEp))
    exact hkept.update (setUp_setEndpoint s₁ .cloudSide none) fun ep hep => by cases hep
  | notified => exact h.congr (setUp_notified s)

end Configured

theorem configured_of_reachable (h : (system topicPrefix).Reachable s) : s.Configured topicPrefix := by
  refine h.invariant (I := Configured topicPrefix) (fun s hs => ?_) fun s a s' _ hI _ hs => hI.step hs
  obtain rfl : s = {} := hs
  exact fun side ep hep => by cases hep

/-! ### The listeners of the recorder -/

/-- The recorder is registered with the endpoint of the side. -/
def hears (s : Daemon) : Side → Bool
  | .localSide => s.listening
  | .cloudSide => (s.endpoint .cloudSide).any fun ep => s.recordings ep.id = 1

private theorem recordings_le (s : Daemon) (pointer : Nat) : s.recordings pointer = 0 ∨ s.recordings pointer = 1 := by
  unfold recordings
  split
  · split
    · exact .inr rfl
    · exact .inl rfl
  · exact .inl rfl

theorem count_recorder (h : (system topicPrefix).Reachable s) {side : Side} {ep : VDA5050EndPoint}
    (hep : s.endpoint side = some ep) {t : MessageType} (ht : t ∈ side.types) :
    (ep.callbacks t).count .recorder = if s.hears side then 1 else 0 := by
  cases side with
  | localSide => exact records_of_reachable h ep hep t ht
  | cloudSide =>
    have hfits := (wired_of_reachable h).2.fits _ _ hep
    rw [hfits.listeners rfl t ht]
    rcases s.recordings_le ep.id with hnone | hone
    · simp [hears, hep, hnone]
    · simp [hears, hep, hone]

end Daemon

/-! ### Readings -/

/-- The message that the recorder is called with. -/
def Call.recorded? : Call → Option Dispatched
  | .record d => some d
  | .publish .. | .dangling => none

namespace Delivery

variable [JsonLibrary]

/-- The messages that the recorder is called with. -/
def records (d : Delivery) : List Dispatched := d.calls.filterMap Call.recorded?

/-- What a message that reaches a side says, if its topic and its payload can be read. -/
def read (topicPrefix : String) (d : Delivery) : Option Dispatched :=
  (parseTopicPrefix topicPrefix).bind fun topicTemplate => d.side.types.findSome? fun t =>
    match topicTemplate.parseTopicContext d.message.topic (suffix t), decode (α := t.Message) d.message.payload with
    | some context, .ok m => some ⟨context, t, m⟩
    | _, _ => none

/-- What the recorder is told. -/
def heard (topicPrefix : String) (d : Delivery) : Option Dispatched :=
  if d.daemon.hears d.side then d.read topicPrefix else none

variable {topicPrefix : String} {d : Delivery} {topicTemplate : VDA5050TopicContext}

theorem of_read (htemplate : parseTopicPrefix topicPrefix = some topicTemplate) {u : Dispatched}
    (h : d.read topicPrefix = some u) :
    u.type ∈ d.side.types ∧ topicTemplate.parseTopicContext d.message.topic (suffix u.type) = some u.context ∧
      decode d.message.payload = .ok u.message := by
  rw [read, htemplate, Option.bind_some] at h
  obtain ⟨t, ht, hu⟩ := List.exists_of_findSome?_eq_some h
  split at hu
  · next context m hcontext hm =>
    obtain rfl := Option.some.inj hu
    exact ⟨ht, hcontext, hm⟩
  · cases hu

theorem unread (htemplate : parseTopicPrefix topicPrefix = some topicTemplate) (h : d.read topicPrefix = none)
    {t : MessageType} (ht : t ∈ d.side.types) {context : VDA5050TopicContext}
    (hcontext : topicTemplate.parseTopicContext d.message.topic (suffix t) = some context) (m : t.Message) :
    decode d.message.payload ≠ .ok m := by
  intro hm
  rw [read, htemplate, Option.bind_some, List.findSome?_eq_none_iff] at h
  have hnone := h t ht
  simp [hcontext, hm] at hnone

/-- What a topic and a payload say, they say for one type only. -/
theorem read_eq (htemplate : parseTopicPrefix topicPrefix = some topicTemplate) {u : Dispatched}
    (ht : u.type ∈ d.side.types)
    (hcontext : topicTemplate.parseTopicContext d.message.topic (suffix u.type) = some u.context)
    (hm : decode d.message.payload = .ok u.message) : d.read topicPrefix = some u := by
  cases hread : d.read topicPrefix with
  | none => exact absurd hm (unread htemplate hread ht hcontext u.message)
  | some u' =>
    obtain ⟨-, hcontext', hm'⟩ := of_read htemplate hread
    obtain ⟨context, t, m⟩ := u
    obtain ⟨context', t', m'⟩ := u'
    have htopic := VDA5050TopicContext.topicOf_of_parseTopicContext hcontext
    have htopic' := VDA5050TopicContext.topicOf_of_parseTopicContext hcontext'
    obtain rfl := suffix_injective (htopic'.suffix_eq htopic)
    obtain rfl := Option.some.inj (hcontext'.symm.trans hcontext)
    obtain rfl := Except.ok.inj (hm'.symm.trans hm)
    rfl

/-- The type of a message that is heard belongs to the side it has reached. -/
theorem type_mem_of_heard {u : Dispatched} (h : d.heard topicPrefix = some u) : u.type ∈ d.side.types := by
  unfold heard at h
  split at h
  · obtain ⟨topicTemplate, htemplate, -⟩ := Option.bind_eq_some_iff.1 h
    exact (of_read htemplate h).1
  · cases h

end Delivery

variable [JsonLibrary]

/-- The entry of an endpoint that cannot read the topic or the payload calls nothing. -/
private theorem Daemon.entryCalls_of_unread {s : Daemon} {side : Side} {ep : VDA5050EndPoint}
    (hep : s.endpoint side = some ep) {msg : MqttMessage} {t : MessageType}
    (hunread : ∀ context, ep.topicTemplate.parseTopicContext msg.topic (suffix t) = some context →
      ∀ m : t.Message, decode msg.payload ≠ .ok m) : s.entryCalls side msg (ep.entry t) = [] := by
  unfold VDA5050EndPoint.entry entryCalls
  split
  · rfl
  · next m hm =>
    have hdispatch : ep.dispatch t msg.topic = [] := by
      unfold VDA5050EndPoint.dispatch
      split
      · rfl
      · split
        · rfl
        · next context hcontext => exact absurd hm (hunread context hcontext m)
    simp [hep, hdispatch]

private theorem filterMap_recorded_map (s : Daemon) (side : Side) (u : Dispatched) (listeners : List Listener) :
    (listeners.map (s.callOf side u)).filterMap Call.recorded? = List.replicate (listeners.count .recorder) u := by
  induction listeners with
  | nil => rfl
  | cons listener listeners ih =>
    cases listener with
    | bridge =>
      have hother : (s.callOf side u .bridge).recorded? = none := by
        simp only [Daemon.callOf]
        split <;> rfl
      rw [List.map_cons, List.filterMap_cons_none hother, ih, List.count_cons_of_ne (by simp)]
    | recorder =>
      have hrecorded : (s.callOf side u .recorder).recorded? = some u := rfl
      rw [List.map_cons, List.filterMap_cons_some hrecorded, ih, List.count_cons_self, List.replicate_succ]

variable [MosquittoLibrary]

namespace Traffic.Made

variable {topicPrefix : String} {d : Delivery}

theorem routed (hmade : Made d topicPrefix Daemon.Succeeds) : d.daemon.Routed d.side := by
  cases hside : d.side with
  | localSide => exact Daemon.routed_of_reachable hmade.reach.reachable
  | cloudSide => exact Daemon.routed_of_reach hmade.reach

/-- The routing table is that of the endpoint, which has the configured prefix. -/
theorem served (hmade : Made d topicPrefix Daemon.Succeeds) {ep : VDA5050EndPoint}
    (hep : d.daemon.endpoint d.side = some ep) :
    ep.Serves (d.daemon.client d.side) ∧ ep.topicTemplate.interfaceName ≠ "" ∧ ep.topicTemplate.majorVersion ≠ "" ∧
      parseTopicPrefix topicPrefix = some ep.topicTemplate := by
  have hreach := hmade.reach.reachable
  have hset : d.daemon.setUp d.side = some ep.bare := by simp [Daemon.setUp, hep]
  have hinitialized :=
    (Daemon.ready_of_reachable hreach).initialized hmade.loops hep fun hside => by simp [hmade.idle hside]
  obtain ⟨hserves, hinterface, hversion⟩ := hmade.routed.serves ep.bare hset hinitialized
  exact ⟨hserves, hinterface, hversion, Daemon.configured_of_reachable hreach d.side ep.bare hset⟩

/-- Without an endpoint, which only the cloud client can have, nothing is registered. -/
theorem unregistered (hmade : Made d topicPrefix Daemon.Succeeds) (hnone : d.daemon.endpoint d.side = none) :
    d.daemon.bridged = false ∧ d.daemon.hears d.side = false := by
  cases hside : d.side with
  | localSide =>
    obtain ⟨ep, hep, -⟩ := (Daemon.ready_of_reachable hmade.reach.reachable).localEp (.inr hmade.loops)
    rw [hside] at hnone
    simp [Daemon.setUp, hnone] at hep
  | cloudSide =>
    rw [hside] at hnone
    exact ⟨Daemon.bridged_of_none hnone, by simp [Daemon.hears, hnone]⟩

end Traffic.Made

/-- A delivery calls what the endpoint has registered for the type of the message, and nothing if there is no endpoint
or the message cannot be read. -/
theorem Delivery.calls_eq {topicPrefix : String} {d : Delivery}
    (hmade : Traffic.Made d topicPrefix Daemon.Succeeds) :
    d.daemon.endpoint d.side = none ∧ d.calls = [] ∨
      ∃ ep, d.daemon.endpoint d.side = some ep ∧ d.calls = (d.read topicPrefix).toList.flatMap fun u =>
        (ep.callbacks u.type).map (d.daemon.callOf d.side u) := by
  obtain ⟨throws, hcalls⟩ := hmade.calls
  rw [hcalls]
  cases hep : d.daemon.endpoint d.side with
  | none =>
    have hempty := hmade.routed.vacant (Daemon.run_ne_failed hmade.loops) (by simp [Daemon.setUp, hep])
    refine .inl ⟨rfl, ?_⟩
    rw [Daemon.returns_handleMessage, hempty]
    rfl
  | some ep =>
    have hfits := (Daemon.wired_of_reachable hmade.reach.reachable).2.fits d.side ep hep
    obtain ⟨hserves, -, -, htemplate⟩ := hmade.served hep
    refine .inr ⟨ep, rfl, ?_⟩
    cases hread : d.read topicPrefix with
    | some u =>
      obtain ⟨ht, hcontext, hm⟩ := of_read htemplate hread
      rw [Daemon.runOn_handleMessage hep hserves hfits.stopped hmade.valid (hfits.side_eq ▸ ht) hcontext hm]
      simp
    | none =>
      have hnone : ∀ entry ∈ (d.daemon.client d.side).subscriptions,
          d.daemon.entryCalls d.side d.message entry = [] := by
        intro entry hentry
        rw [hserves] at hentry
        obtain ⟨t, ht, rfl⟩ := List.mem_map.1 hentry
        exact Daemon.entryCalls_of_unread hep fun context => unread htemplate hread (hfits.side_eq ▸ ht)
      rw [Daemon.returns_handleMessage, List.nil_append,
        List.flatMap_eq_nil_iff.2 fun entry hentry => hnone entry (List.mem_of_mem_filter hentry)]
      rfl

/-- The recorder is called once with what it hears, and with nothing else. -/
theorem Delivery.records_eq_heard {topicPrefix : String} {d : Delivery}
    (hmade : Traffic.Made d topicPrefix Daemon.Succeeds) : d.records = (d.heard topicPrefix).toList := by
  unfold records heard
  rcases calls_eq hmade with ⟨hnone, hcalls⟩ | ⟨ep, hep, hcalls⟩
  · rw [hcalls, (hmade.unregistered hnone).2]
    rfl
  · rw [hcalls]
    cases hread : d.read topicPrefix with
    | none =>
      split <;> rfl
    | some u =>
      obtain ⟨topicTemplate, htemplate, -⟩ := Option.bind_eq_some_iff.1 hread
      have ht := (of_read htemplate hread).1
      rw [Option.toList_some, List.flatMap_singleton, filterMap_recorded_map,
        Daemon.count_recorder hmade.reach.reachable hep ht]
      split <;> rfl

end SyriusOrbit.Mqtt

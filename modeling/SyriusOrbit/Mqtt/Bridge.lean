import SyriusOrbit.Mqtt.SetUp
import SyriusOrbit.Mqtt.Reconnect
import SyriusOrbit.Mqtt.Delivery

/-!
# The bridge

The routing tables and the registered callbacks along the runs of the daemon.  As long as the subscriptions of the
connect callback succeed, each table has the entries of the installed endpoint only, and from the end of
`setup_bridge_callbacks` on each endpoint has one callback that forwards to the other side.
-/

namespace SyriusOrbit.Mqtt

open JsonFormat Vda5050 Transition Effect VDA5050EndPoint

namespace Daemon

variable {topicPrefix : String} {s s' : Daemon}

/-! ### Routing tables -/

/-- The calls of the library that `cloud_endpoint_->Init()` makes in this step. -/
def subscribes : Action → Option (MessageType → Bool)
  | .initCloud accepted => some accepted
  | _ => none

/-- The subscriptions of the connect callback succeed. -/
def Succeeds (s : Daemon) (a : Action) : Prop :=
  ∀ accepted ∈ subscribes a, ∀ ep ∈ s.endpoint .cloudSide, (ep.init (s.client .cloudSide) accepted).1 = true

instance (s : Daemon) (a : Action) : Decidable (s.Succeeds a) :=
  inferInstanceAs (Decidable (∀ accepted ∈ subscribes a, ∀ ep ∈ s.endpoint .cloudSide,
    (ep.init (s.client .cloudSide) accepted).1 = true))

/-- The routing table of a side has the entries of its endpoint once that is initialized, and no others. -/
structure Routed (s : Daemon) (side : Side) : Prop where
  vacant : s.run ≠ .failed → s.setUp side = none → (s.client side).subscriptions = []
  fresh : ∀ ep, s.setUp side = some ep → ep.initialized = false → (s.client side).subscriptions = []
  serves : ∀ ep, s.setUp side = some ep → ep.initialized = true → ep.Serves (s.client side) ∧
    ep.topicTemplate.interfaceName ≠ "" ∧ ep.topicTemplate.majorVersion ≠ ""

namespace Routed

variable {side : Side}

theorem congr (h : s.Routed side) (hsetUp : s'.setUp side = s.setUp side)
    (hclient : (s'.client side).subscriptions = (s.client side).subscriptions)
    (hrun : s.run = .failed → s'.run = .failed) : s'.Routed side where
  vacant hrun' hnone := by
    rw [hclient]
    exact h.vacant (fun hfailed => hrun' (hrun hfailed)) (hsetUp ▸ hnone)
  fresh ep hep hfresh := by
    rw [hclient]
    exact h.fresh ep (hsetUp ▸ hep) hfresh
  serves ep hep hinitialized := by
    unfold Serves
    rw [hclient]
    exact h.serves ep (hsetUp ▸ hep) hinitialized

/-- A client changes, but not its routing table. -/
theorem link (h : s.Routed side) {side' : Side} {client : MqttSubscriber}
    (hclient : client.subscriptions = (s.client side').subscriptions) : (s.setClient side' client).Routed side := by
  refine h.congr rfl ?_ id
  by_cases hside : side = side'
  · subst hside
    rw [client_setClient, hclient]
  · rw [client_setClient_of_ne hside]

theorem failed (hendpoint : s'.endpoint = fun _ => none) (hrun : s'.run = .failed) : s'.Routed side where
  vacant hrun' := absurd hrun hrun'
  fresh ep hep := by simp [setUp, hendpoint] at hep
  serves ep hep := by simp [setUp, hendpoint] at hep

/-- An endpoint has subscribed with an empty table. -/
theorem init {ep ep' : VDA5050EndPoint} {client : MqttSubscriber} {accepted : MessageType → Bool}
    (hempty : (s.client side).subscriptions = []) (hfresh : ep.initialized = false)
    (hinit : ep.init (s.client side) accepted = (true, ep', client)) :
    ((s.setClient side client).setEndpoint side (some ep')).Routed side := by
  obtain ⟨done, -, hsubscriptions, hall⟩ := subscriptions_init hinit
  have htemplate := init_template hinit hfresh
  have hset : ((s.setClient side client).setEndpoint side (some ep')).setUp side = some ep'.bare := by
    simp [setUp_setEndpoint]
  have hep' := init_eq hinit
  refine ⟨fun _ hnone => ?_, fun ep₁ hep₁ hfresh₁ => ?_, fun ep₁ hep₁ _ => ⟨?_, ?_⟩⟩
  · simp [hset] at hnone
  · obtain rfl := Option.some.inj (hset.symm.trans hep₁)
    rw [hep'] at hfresh₁
    cases hfresh₁
  · obtain rfl := Option.some.inj (hset.symm.trans hep₁)
    have hclient : ((s.setClient side client).setEndpoint side (some ep')).client side = client :=
      client_setClient s side client
    unfold Serves
    rw [hclient, hsubscriptions, hempty, hall rfl, List.nil_append, hep']
    rfl
  · obtain rfl := Option.some.inj (hset.symm.trans hep₁)
    rw [hep']
    exact htemplate

/-- The cloud endpoint is created. -/
theorem create (h : s.Routed .cloudSide) (hloops : s.loopsRunning = true) (hnone : s.endpoint .cloudSide = none)
    {client : MqttSubscriber} (hclient : client.subscriptions = (s.client .cloudSide).subscriptions)
    {topicTemplate : VDA5050TopicContext} {callback : CallbackStep} :
    ({ (s.setClient .cloudSide client).createEndpoint .cloudSide topicTemplate with callback } : Daemon).Routed
      .cloudSide := by
  have hempty := h.vacant (run_ne_failed hloops) (by simp [setUp, hnone])
  have hset : ((s.setClient .cloudSide client).createEndpoint .cloudSide topicTemplate).setUp .cloudSide =
      some { id := s.allocated, side := .cloudSide, topicTemplate } := by
    simp [setUp, createEndpoint, bare, setClient, Daemon.setEndpoint]
  refine ⟨fun _ hvacant => ?_, fun ep hep _ => ?_, fun ep hep hinitialized => ?_⟩
  · cases hset.symm.trans hvacant
  · rw [← hempty, ← hclient]
    exact congrArg _ (client_setClient s .cloudSide client)
  · obtain rfl := Option.some.inj (hset.symm.trans hep)
    cases hinitialized

/-- The other side changes. -/
theorem other (h : s.Routed side) {side' : Side} (hne : side ≠ side') {client : MqttSubscriber}
    {endpoint : Option VDA5050EndPoint} : ((s.setClient side' client).setEndpoint side' endpoint).Routed side := by
  refine h.congr ?_ ?_ id
  · rw [setUp_setEndpoint, Function.update_of_ne hne]
    rfl
  · exact congrArg _ (client_setClient_of_ne hne s client)

theorem step {a : Action} (h : s.Routed side) (hr : s.Ready) (hw : s.Wired)
    (hs : s.step topicPrefix a = some s') (ha : side = .cloudSide → s.Succeeds a) : s'.Routed side := by
  cases outcome_of_step hs with
  | noPrefix => exact h.congr rfl rfl fun _ => rfl
  | connectFailed => exact failed rfl rfl
  | localConnecting hrun =>
    have hlink : (s.setClient .localSide { s.client .localSide with link := .pending }).Routed side := h.link rfl
    exact hlink.congr rfl rfl fun hfailed => absurd (hrun.symm.trans hfailed) (by simp)
  | localInitialized hrun hinit =>
    by_cases hside : side = .localSide
    · subst hside
      have hempty := h.vacant (by simp [hrun]) (hr.noLocal (.inr hrun))
      exact (init hempty rfl hinit).congr rfl rfl fun hfailed => absurd (hrun.symm.trans hfailed) (by simp)
    · exact (h.other hside).congr rfl rfl fun hfailed => absurd (hrun.symm.trans hfailed) (by simp)
  | localInitFailed => exact failed rfl rfl
  | loopsFailed => exact failed rfl rfl
  | loopsStarted hrun => exact h.congr rfl rfl (by simp [hrun])
  | recorderConstructed hrun => exact h.congr rfl rfl (by simp [hrun])
  | @attached r hrun _ =>
    have hclient := client_attachCloud (s.registerAt .localSide r.localEp attachLocal)
    exact h.congr (congrFun (setUp_attached s r.localEp) side)
      (congrArg (fun client => (client side).subscriptions) hclient)
      fun hfailed => absurd (hrun.symm.trans hfailed) (by simp)
  | callbackSet hrun => exact h.congr rfl rfl (by simp [hrun])
  | connecting => exact h.link rfl
  | lost => exact h.link rfl
  | refused => exact h.link rfl
  | connected => exact h.link rfl
  | @cloudCreated topicTemplate hloops hnone =>
    by_cases hside : side = .cloudSide
    · subst hside
      have hclient : ({ s.client .cloudSide with link := .up } : MqttSubscriber).subscriptions =
        (s.client .cloudSide).subscriptions := rfl
      exact h.create hloops hnone hclient
    · exact (h.other hside).congr rfl rfl id
  | @cloudInitialized accepted ep ep' client hcallback hep hinit =>
    by_cases hside : side = .cloudSide
    · subst hside
      have hset : s.setUp .cloudSide = some ep.bare := by simp [setUp, hep]
      have hfresh : ep.initialized = false := by
        rw [← Bool.not_eq_true]
        exact fun hinitialized => (hr.cloudEp _ hset).1 hinitialized hcallback
      exact (init (h.fresh _ hset hfresh) hfresh hinit).congr rfl rfl id
    · exact (h.other hside).congr rfl rfl id
  | cloudInitFailed hcallback hep hinit =>
    by_cases hside : side = .cloudSide
    · have hok := ha hside _ rfl _ hep
      rw [hinit] at hok
      cases hok
    · exact (h.other hside).congr rfl rfl id
  | @bridged localEp cloudEp _ hlocal hcloud =>
    have hlocal' := setUp_register hlocal (sameSetup_bridgeLocalToCloud localEp)
    have hcloud' := setUp_register (cloud_of_setEndpoint hcloud (some (bridgeLocalToCloud localEp).2))
      (sameSetup_bridgeCloudToLocal cloudEp)
    exact h.congr (congrFun (hcloud'.trans hlocal') side) rfl id
  | bridgeFailed hcallback _ hfailed => exact (hr.not_bridgeFailed hw hcallback hfailed).elim
  | notified =>
    exact h.congr (congrFun (setUp_notified s) side)
      (congrArg (fun client => (client side).subscriptions) (client_notified s))
      fun hfailed => (run_notified s).trans hfailed

end Routed

/-- The table of the local client has the entries of the local endpoint in every run. -/
theorem routed_of_reachable (h : (system topicPrefix).Reachable s) : s.Routed .localSide := by
  refine System.Reach.invariant (I := fun s => s.Routed .localSide) (fun s hs => ?_)
    (fun s a s' hreach hI _ hs => ?_) h
  · obtain rfl : s = {} := hs
    exact ⟨fun _ _ => rfl, fun _ _ _ => rfl, fun _ hep => by cases hep⟩
  · exact hI.step (ready_of_reachable hreach) (wired_of_reachable hreach).2 hs nofun

/-- That of the cloud client has the entries of the cloud endpoint as long as the subscriptions succeed. -/
theorem routed_of_reach (h : (system topicPrefix).Reach Succeeds s) : s.Routed .cloudSide := by
  refine System.Reach.invariant (I := fun s => s.Routed .cloudSide) (fun s hs => ?_)
    (fun s a s' hreach hI ha hs => ?_) h
  · obtain rfl : s = {} := hs
    exact ⟨fun _ _ => rfl, fun _ _ _ => rfl, fun _ hep => by cases hep⟩
  · exact hI.step (ready_of_reachable hreach.reachable) (wired_of_reachable hreach.reachable).2 hs fun _ => ha

/-! ### Listeners -/

private theorem count_attachLocal_of_ne {listener : Listener} (h : listener ≠ .recorder) (ep : VDA5050EndPoint)
    (t : MessageType) : ((attachLocal ep).callbacks t).count listener = (ep.callbacks t).count listener := by
  simp [attachLocal, onState, onVisualization, onConnection, onFactSheet, count_on, h.symm]

private theorem count_attachDownlink_of_ne {listener : Listener} (h : listener ≠ .recorder) (ep : VDA5050EndPoint)
    (t : MessageType) : ((attachDownlink ep).callbacks t).count listener = (ep.callbacks t).count listener := by
  simp [attachDownlink, onOrder, onInstantActions, onResponses, onZoneSet, count_on, h.symm]

/-- `attach` registers the recorder once for each uplink type. -/
theorem count_attachLocal {ep : VDA5050EndPoint} (hside : ep.side = .localSide) (hstopped : ep.stopped = false)
    {t : MessageType} (ht : t ∈ Side.localSide.types) :
    ((attachLocal ep).callbacks t).count .recorder = (ep.callbacks t).count .recorder + 1 := by
  simp only [Side.types, List.mem_cons, List.not_mem_nil, or_false] at ht
  simp only [attachLocal, onState, onVisualization, onConnection, onFactSheet, count_on, side_on, stopped_on]
  rcases ht with rfl | rfl | rfl | rfl <;> simp [hside, hstopped]

/-- `bridge_local_to_cloud` registers a callback that forwards for each uplink type. -/
private theorem count_bridgeLocalToCloud {ep : VDA5050EndPoint} (hside : ep.side = .localSide)
    (hstopped : ep.stopped = false)
    {t : MessageType} (ht : t ∈ Side.localSide.types) :
    ((bridgeLocalToCloud ep).2.callbacks t).count .bridge = (ep.callbacks t).count .bridge + 1 := by
  rw [bridgeLocalToCloud_eq hside hstopped]
  simp only [Side.types, List.mem_cons, List.not_mem_nil, or_false] at ht
  simp only [onState, onVisualization, onConnection, onFactSheet, count_on, side_on, stopped_on]
  rcases ht with rfl | rfl | rfl | rfl <;> simp [hside, hstopped]

/-- `bridge_cloud_to_local` registers one for each downlink type. -/
private theorem count_forward_bridgeCloudToLocal {ep : VDA5050EndPoint} (hside : ep.side = .cloudSide)
    (hstopped : ep.stopped = false) {t : MessageType} (ht : t ∈ Side.cloudSide.types) :
    ((bridgeCloudToLocal ep).2.callbacks t).count .bridge = (ep.callbacks t).count .bridge + 1 := by
  rw [bridgeCloudToLocal_eq hside hstopped]
  simp only [Side.types, List.mem_cons, List.not_mem_nil, or_false] at ht
  simp only [onOrder, onInstantActions, onResponses, onZoneSet, count_on, side_on, stopped_on]
  rcases ht with rfl | rfl | rfl | rfl <;> simp [hside, hstopped]

/-- A listener is registered so many times for each type of the side. -/
def Counts (s : Daemon) (side : Side) (listener : Listener) (n : Nat) : Prop :=
  ∀ ep, s.endpoint side = some ep → ∀ t ∈ side.types, (ep.callbacks t).count listener = n

namespace Counts

variable {side : Side} {listener : Listener} {n : Nat}

theorem congr (h : s.Counts side listener n) (hendpoint : s'.endpoint side = s.endpoint side) :
    s'.Counts side listener n := fun ep hep => h ep (hendpoint ▸ hep)

theorem of_none (hendpoint : s.endpoint side = none) : s.Counts side listener n := by
  intro ep hep
  rw [hendpoint] at hep
  cases hep

theorem setEndpoint_of_ne (h : s.Counts side listener n) {side' : Side} (hne : side ≠ side')
    (endpoint : Option VDA5050EndPoint) : (s.setEndpoint side' endpoint).Counts side listener n :=
  h.congr (endpoint_setEndpoint_of_ne hne s endpoint)

/-- An endpoint that was just created has no callbacks. -/
theorem new {ep : VDA5050EndPoint} (hcallbacks : ep.callbacks = fun _ => []) :
    (s.setEndpoint side (some ep)).Counts side listener 0 := by
  intro ep' hep' t _
  obtain rfl := Option.some.inj ((endpoint_setEndpoint s side _).symm.trans hep')
  rw [hcallbacks, List.count_nil]

/-- The callbacks of the endpoint change. -/
theorem register (h : s.Counts side listener n) {ep ep' : VDA5050EndPoint} (hep : s.endpoint side = some ep)
    {k : Nat} (hcount : ∀ t ∈ side.types, (ep'.callbacks t).count listener = (ep.callbacks t).count listener + k) :
    (s.setEndpoint side (some ep')).Counts side listener (n + k) := by
  intro ep₁ hep₁ t ht
  obtain rfl := Option.some.inj ((endpoint_setEndpoint s side _).symm.trans hep₁)
  rw [hcount t ht, h ep hep t ht]

theorem registerAt (h : s.Counts side listener n) {side' : Side} (pointer : Option Nat)
    {f : VDA5050EndPoint → VDA5050EndPoint}
    (hf : side = side' → ∀ (ep : VDA5050EndPoint) (t : MessageType),
      ((f ep).callbacks t).count listener = (ep.callbacks t).count listener) :
    (s.registerAt side' pointer f).Counts side listener n := by
  intro ep' hep' t ht
  by_cases hside : side = side'
  · subst hside
    obtain ⟨ep, hep, rfl⟩ := of_endpoint_registerAt hep'
    split
    · rw [hf rfl, h ep hep t ht]
    · exact h ep hep t ht
  · exact h.setEndpoint_of_ne hside _ ep' hep' t ht

theorem attachCloud (h : s.Counts side listener n) (hother : side = .cloudSide → listener ≠ .recorder) :
    s.attachCloud.Counts side listener n := by
  rcases attachCloud_cases s with ⟨heq, -⟩ | ⟨r, -, -, heq⟩
  · rwa [heq]
  · rw [heq]
    refine (h.registerAt r.cloudEp (f := attachDownlink) fun hside ep t => ?_).congr rfl
    exact count_attachDownlink_of_ne (hother hside) ep t

end Counts

/-- The connect callback has registered the bridge with the cloud endpoint that is installed. -/
def bridged (s : Daemon) : Bool := (s.setUp .cloudSide).isSome && (s.callback == .idle || s.callback == .bridged)

theorem bridged_of_none (h : s.endpoint .cloudSide = none) : s.bridged = false := by simp [bridged, setUp, h]

private theorem bridged_of_busy (h : s.callback = .created ∨ s.callback = .initialized) : s.bridged = false := by
  unfold bridged
  rcases h with h | h <;> rw [h] <;> exact Bool.and_false _

private theorem bridged_of_idle {ep : VDA5050EndPoint} (hep : s.endpoint .cloudSide = some ep)
    (hidle : s.callback = .idle) :
    s.bridged = true := by simp [bridged, setUp, hep, hidle]

/-- With the bridge there are both endpoints. -/
theorem Ready.endpoint_of_bridged (h : s.Ready) (hloops : s.loopsRunning = true) (hbridged : s.bridged = true)
    (side : Side) : ∃ ep, s.endpoint side = some ep := by
  have hset : (s.setUp side).isSome = true := by
    cases side with
    | localSide =>
      obtain ⟨ep, hep, -⟩ := h.localEp (.inr hloops)
      rw [hep]
      rfl
    | cloudSide =>
      simp only [bridged, Bool.and_eq_true] at hbridged
      exact hbridged.1
  rw [setUp, Option.isSome_map] at hset
  exact Option.isSome_iff_exists.1 hset

/-- Each endpoint has one callback that forwards, from the time the bridge is registered. -/
def Forwards (s : Daemon) : Prop := ∀ side, s.Counts side .bridge (if s.bridged then 1 else 0)

namespace Forwards

theorem of (h : s.Forwards) (hbridged : s'.bridged = s.bridged)
    (hcounts : ∀ side n, s.Counts side .bridge n → s'.Counts side .bridge n) : s'.Forwards := by
  intro side
  rw [hbridged]
  exact hcounts side _ (h side)

theorem congr (h : s.Forwards) (hendpoint : s'.endpoint = s.endpoint) (hcallback : s'.callback = s.callback) :
    s'.Forwards := by
  refine h.of ?_ fun side n hn => hn.congr (by rw [hendpoint])
  simp [bridged, setUp, hendpoint, hcallback]

theorem of_none (hendpoint : s.endpoint = fun _ => none) : s.Forwards := fun side => .of_none (by rw [hendpoint])

theorem attachCloud (h : s.Forwards) : s.attachCloud.Forwards := by
  refine h.of ?_ fun side n hn => hn.attachCloud (by simp)
  rw [bridged, setUp_attachCloud, callback_attachCloud]
  rfl

theorem new (h : ∀ side, s.Counts side .bridge 0) (hbridged : s'.bridged = false) (side : Side)
    {ep : VDA5050EndPoint} (hcallbacks : ep.callbacks = fun _ => [])
    (hendpoint : s'.endpoint = (s.setEndpoint side (some ep)).endpoint) : s'.Forwards := by
  intro side'
  rw [hbridged]
  by_cases hside : side' = side
  · subst hside
    exact (Counts.new hcallbacks).congr (congrFun hendpoint _)
  · exact ((h side').setEndpoint_of_ne hside (some ep)).congr (congrFun hendpoint _)

theorem counts (h : s.Forwards) (hbridged : s.bridged = false) (side : Side) : s.Counts side .bridge 0 := by
  have hside := h side
  rwa [hbridged] at hside

theorem step {a : Action} (h : s.Forwards) (hr : s.Ready) (hw : s.Wired) (hs : s.step topicPrefix a = some s') :
    s'.Forwards := by
  cases outcome_of_step hs with
  | noPrefix => exact h.congr rfl rfl
  | connectFailed => exact of_none rfl
  | localConnecting => exact h.congr rfl rfl
  | @localInitialized accepted topicTemplate ep client hrun hinit =>
    have hnone : s.endpoint .cloudSide = none := Option.map_eq_none_iff.1 (hr.early (by rw [loopsRunning, hrun]))
    have hcallbacks : ep.callbacks = fun _ => [] := by rw [init_eq hinit]
    refine new (h.counts (bridged_of_none hnone)) (bridged_of_none ?_) .localSide hcallbacks rfl
    have hne : Side.cloudSide ≠ .localSide := by simp
    exact (endpoint_setEndpoint_of_ne hne s (some ep)).trans hnone
  | localInitFailed => exact of_none rfl
  | loopsFailed => exact of_none rfl
  | loopsStarted => exact h.congr rfl rfl
  | recorderConstructed => exact h.congr rfl rfl
  | @attached r =>
    have hlocal : (s.registerAt .localSide r.localEp attachLocal).Forwards := by
      refine h.of ?_ fun side n hn => hn.registerAt _ fun _ => count_attachLocal_of_ne (by simp)
      rw [bridged, setUp_registerAt s _ _ sameSetup_attachLocal]
      rfl
    exact hlocal.attachCloud.congr rfl rfl
  | callbackSet => exact h.congr rfl rfl
  | connecting => exact h.congr rfl rfl
  | lost => exact h.congr rfl rfl
  | refused => exact h.congr rfl rfl
  | connected => exact h.congr rfl rfl
  | @cloudCreated topicTemplate _ hnone =>
    have hcallbacks : ({ id := s.allocated, side := .cloudSide, topicTemplate } : VDA5050EndPoint).callbacks =
      fun _ => [] := rfl
    exact new (h.counts (bridged_of_none hnone)) (bridged_of_busy (.inl rfl)) .cloudSide hcallbacks rfl
  | @cloudInitialized accepted ep ep' client hcallback hep hinit =>
    refine h.of ((bridged_of_busy (.inr rfl)).trans (bridged_of_busy (.inl hcallback)).symm) fun side n hn => ?_
    by_cases hside : side = .cloudSide
    · subst hside
      exact (hn.register hep (k := 0) fun t _ => by rw [init_eq hinit, Nat.add_zero]).congr rfl
    · exact (hn.setEndpoint_of_ne hside (some ep')).congr rfl
  | cloudInitFailed hcallback =>
    have hnone := endpoint_setEndpoint s .cloudSide none
    refine h.of ((bridged_of_none hnone).trans (bridged_of_busy (.inl hcallback)).symm) fun side n hn => ?_
    by_cases hside : side = .cloudSide
    · subst hside
      exact .of_none hnone
    · exact (hn.setEndpoint_of_ne hside none).congr rfl
  | @bridged localEp cloudEp hcallback hlocal hcloud =>
    have hcounts := h.counts (bridged_of_busy (.inr hcallback))
    have hlocalFits := hw.fits _ _ hlocal
    have hcloudFits := hw.fits _ _ hcloud
    have hne : Side.cloudSide ≠ .localSide := by simp
    have hcloud' := cloud_of_setEndpoint hcloud (some (bridgeLocalToCloud localEp).2)
    have htoCloud : (s.setEndpoint .localSide (some (bridgeLocalToCloud localEp).2)).Counts .localSide .bridge 1 :=
      (hcounts .localSide).register hlocal (k := 1) fun t ht =>
        count_bridgeLocalToCloud hlocalFits.side_eq hlocalFits.stopped ht
    have htoLocal := ((hcounts .cloudSide).setEndpoint_of_ne hne _).register hcloud' (k := 1) fun t ht =>
      count_forward_bridgeCloudToLocal hcloudFits.side_eq hcloudFits.stopped ht
    intro side
    rw [if_pos (by simp [bridged, setUp, Daemon.setEndpoint])]
    cases side with
    | localSide => exact (htoCloud.setEndpoint_of_ne hne.symm (some (bridgeCloudToLocal cloudEp).2)).congr rfl
    | cloudSide => exact htoLocal.congr rfl
  | bridgeFailed hcallback _ hfailed => exact (hr.not_bridgeFailed hw hcallback hfailed).elim
  | notified hcallback =>
    have hnotified : (if s.onCloudConnected then s.attachCloud else s).Forwards := by
      split
      · exact h.attachCloud
      · exact h
    have hbridged := (callback_notified s).trans hcallback
    refine hnotified.of ?_ fun side n hn => hn.congr rfl
    rw [bridged, bridged, hbridged]
    simp [setUp]

end Forwards

theorem forwards_of_reachable (h : (system topicPrefix).Reachable s) : s.Forwards := by
  refine System.Reach.invariant (I := Forwards) (fun s hs => ?_) (fun s a s' hreach hI _ hs => ?_) h
  · obtain rfl : s = {} := hs
    exact .of_none rfl
  · exact hI.step (ready_of_reachable hreach) (wired_of_reachable hreach).2 hs

end Daemon

/-! ### Messages that are forwarded -/

/-- Whether the call is a call of `Publish` on the endpoint of a side. -/
def Call.publishesOn (side : Side) : Call → Bool
  | .publish side' _ _ => side' = side
  | _ => false

namespace Delivery

variable [JsonLibrary]

/-- If the topic and the payload of the message can be read, there has been one call of `Publish` on the endpoint of the
other side, with the topic of the message, and none on the endpoint of its own side. -/
def Forwarded (d : Delivery) : Prop :=
  ∀ ep, d.daemon.endpoint d.side = some ep → ∀ t ∈ d.side.types, ∀ context,
    ep.topicTemplate.parseTopicContext d.message.topic (suffix t) = some context →
      ∀ m : t.Message, decode d.message.payload = .ok m →
        d.calls.filter (Call.publishesOn d.side.other) = [.publish d.side.other t (some
          ⟨d.message.topic, JsonLibrary.dump (pruneTopLevelFields (toJson m)), qos t, false⟩)] ∧
        d.calls.filter (Call.publishesOn d.side) = []

/-- The message is forwarded if the bridge was registered when it reached the local endpoint. -/
def ForwardedOnce (d : Delivery) : Prop := (d.side = .localSide → d.daemon.bridged = true) → d.Forwarded

/-- The message is forwarded if the cloud endpoint was installed when it reached the local endpoint. -/
def ForwardedOnceInstalled (d : Delivery) : Prop :=
  (d.side = .localSide → (d.daemon.endpoint .cloudSide).isSome = true) → d.Forwarded

end Delivery

theorem filter_map_eq_replicate {γ δ : Type} [DecidableEq γ] (l : List γ) (a : γ) {f : γ → δ} {p : δ → Bool}
    (hp : ∀ b, p (f b) = decide (b = a)) : (l.map f).filter p = List.replicate (l.count a) (f a) := by
  have hfilter : (l.filter fun b => p (f b)) = l.filter (· = a) := List.filter_congr fun b _ => hp b
  rw [List.filter_map, Function.comp_def, hfilter, List.filter_eq, List.map_replicate]

variable [JsonLibrary] [MosquittoLibrary]

/-- In every run in which the subscriptions of the connect callback succeed, each message that can be read is forwarded
exactly once, whatever the recorder does. -/
theorem forwardedOnce_of_reach {topicPrefix : String} {s : Traffic}
    (h : (Traffic.system topicPrefix).Reach (Traffic.Lift Daemon.Succeeds) s) :
    ∀ d ∈ s.deliveries, d.ForwardedOnce := by
  intro d hd hbridged ep hep t ht context hcontext m hm
  have hmade := Traffic.made_of_reach h d hd
  have hready := Daemon.ready_of_reachable hmade.reach.reachable
  have hwired := (Daemon.wired_of_reachable hmade.reach.reachable).2
  have hfits := hwired.fits _ _ hep
  have hbridged : d.daemon.bridged = true := by
    cases hside : d.side with
    | localSide => exact hbridged hside
    | cloudSide => exact Daemon.bridged_of_idle (hside ▸ hep) (hmade.idle hside)
  have hinitialized := hready.initialized hmade.loops hep fun hside => by simp [hmade.idle hside]
  obtain ⟨ep', hep'⟩ := hready.endpoint_of_bridged hmade.loops hbridged d.side.other
  have hfits' := hwired.fits _ _ hep'
  -- the table of the client routes the message to this endpoint
  have hrouted : d.daemon.Routed d.side := by
    cases hside : d.side with
    | localSide => exact Daemon.routed_of_reachable hmade.reach.reachable
    | cloudSide => exact Daemon.routed_of_reach hmade.reach
  obtain ⟨hserves, hinterface, hversion⟩ := hrouted.serves ep.bare (by simp [Daemon.setUp, hep]) hinitialized
  obtain ⟨throws, hcalls⟩ := hmade.calls
  have hside : t ∈ ep.side.types := hfits.side_eq ▸ ht
  have hpublish := publish_of_topicOf (hfits'.side_eq.trans (publisher_of_mem_types ht).symm) hfits'.stopped
    (VDA5050TopicContext.topicOf_of_parseTopicContext hcontext) hinterface hversion m
  have hcount : (ep.callbacks t).count .bridge = 1 := by
    have hforwards := Daemon.forwards_of_reachable hmade.reach.reachable d.side
    rw [hbridged] at hforwards
    exact hforwards ep hep t ht
  have hother : d.side ≠ d.side.other := by cases d.side <;> simp [Side.other]
  rw [hcalls, Daemon.runOn_handleMessage hep hserves hfits.stopped hmade.valid hside hcontext hm]
  constructor
  · rw [filter_map_eq_replicate _ Listener.bridge fun listener => ?_, hcount]
    · simp [Daemon.callOf, hep', hpublish]
    · cases listener <;> simp [Daemon.callOf, Call.publishesOn, hep']
  · rw [List.filter_eq_nil_iff]
    intro call hcall
    obtain ⟨listener, -, rfl⟩ := List.mem_map.1 hcall
    cases listener <;> simp [Daemon.callOf, Call.publishesOn, hep', hother.symm]

omit [JsonLibrary] [MosquittoLibrary] in
/-- Both clients have connected, and the recorder throws at a connection message. -/
theorem forwardedOnce_connected :
    letI := JsonLibrary.ofTexts connectionTexts
    letI := MosquittoLibrary.levelwise
    ∃ s, (Traffic.system "uagv/v3").Reach (Traffic.Lift Daemon.Succeeds) s ∧ ∃ d ∈ s.deliveries,
      d.side = .localSide ∧ d.message = ⟨"uagv/v3/acme/7/connection", onlineText.2.1⟩ ∧
      d.calls.filter (Call.publishesOn .cloudSide) =
        [.publish .cloudSide .connection (some ⟨"uagv/v3/acme/7/connection", onlineText.2.1, 1, false⟩)] := by
  let lib := JsonLibrary.ofTexts connectionTexts
  let mosquitto := MosquittoLibrary.levelwise
  have hrun : (replay (guarded (Daemon.step "uagv/v3") Daemon.Succeeds) {} Daemon.connectedRun).any (fun s =>
      s.loopsRunning && s.bridged && (s.endpoint .localSide).any fun ep =>
        ep.topicTemplate.parseTopicContext "uagv/v3/acme/7/connection" "connection" ==
          some ⟨"uagv", "v3", "acme", "7"⟩) = true := by decide
  obtain ⟨daemon, hdaemon, hholds⟩ := (Option.any_eq_true _ _).1 hrun
  simp only [Bool.and_eq_true, Option.any_eq_true, beq_iff_eq] at hholds
  obtain ⟨⟨hloops, hbridged⟩, ep, hep, hcontext⟩ := hholds
  have hvalid : ValidTopic "uagv/v3/acme/7/connection" := by decide
  have hdelivered := Traffic.reach_deliver (reach_of_replay (.init rfl) hdaemon)
    ⟨"uagv/v3/acme/7/connection", onlineText.2.1⟩ (fun _ => true) hloops
    (nofun : Side.localSide = .cloudSide → _) hvalid
  have ht : MessageType.connection ∈ Side.localSide.types := by decide
  refine ⟨_, hdelivered, _, List.mem_singleton_self _, rfl, rfl, ?_⟩
  have hforwarded := forwardedOnce_of_reach hdelivered _ (List.mem_singleton_self _) (fun _ => hbridged) ep hep
    .connection ht _ hcontext _ decode_acme.1
  exact hforwarded.1

/-- A message of a type for which no callback is registered calls nothing. -/
private theorem calls_of_unregistered {topicPrefix : String} {s : Daemon}
    (h : (Daemon.system topicPrefix).Reachable s) (hloops : s.loopsRunning = true) {ep : VDA5050EndPoint}
    (hep : s.endpoint .localSide = some ep) {msg : MqttMessage} (hvalid : ValidTopic msg.topic) {t : MessageType}
    (ht : t ∈ Side.localSide.types) {context : VDA5050TopicContext}
    (hcontext : ep.topicTemplate.parseTopicContext msg.topic (suffix t) = some context) {m : t.Message}
    (hm : decode msg.payload = .ok m) (hcallbacks : ep.callbacks t = []) (throws : Dispatched → Bool) :
    (runOn (s.handleMessage throws .localSide msg) []).2 = [] := by
  have hfits := (Daemon.wired_of_reachable h).2.fits _ _ hep
  have hinitialized := (Daemon.ready_of_reachable h).initialized hloops hep nofun
  obtain ⟨hserves, -⟩ :=
    (Daemon.routed_of_reachable h).serves ep.bare (by simp [Daemon.setUp, hep]) hinitialized
  rw [Daemon.runOn_handleMessage hep hserves hfits.stopped hvalid (hfits.side_eq ▸ ht) hcontext hm throws, hcallbacks]
  rfl

/-- The start up to the point where the connect callback has installed the cloud endpoint and `Init` has returned. -/
def installedRun : List Action :=
  [.connectLocal true, .initLocal fun _ => true, .startLoops true, .onConnect .localSide true, .connecting .cloudSide,
    .onConnect .cloudSide true, .initCloud fun _ => true]

omit [JsonLibrary] [MosquittoLibrary] in
/-- A message that the local endpoint gets then, before `setup_bridge_callbacks`, is not forwarded. -/
theorem not_forwardedOnce_of_installed :
    ¬ ∀ [JsonLibrary] [MosquittoLibrary] (topicPrefix : String) (s : Traffic),
      (Traffic.system topicPrefix).Reach (Traffic.Lift Daemon.Succeeds) s →
        ∀ d ∈ s.deliveries, d.ForwardedOnceInstalled := by
  intro h
  let lib := JsonLibrary.ofTexts connectionTexts
  let mosquitto := MosquittoLibrary.levelwise
  have hrun : (replay (guarded (Daemon.step "uagv/v3") Daemon.Succeeds) {} installedRun).any (fun s =>
      s.loopsRunning && (s.endpoint .cloudSide).isSome && (s.endpoint .localSide).any fun ep =>
        ep.topicTemplate.parseTopicContext "uagv/v3/acme/7/connection" "connection" ==
          some ⟨"uagv", "v3", "acme", "7"⟩ && ep.callbacks .connection == []) = true := by decide
  obtain ⟨daemon, hdaemon, hholds⟩ := (Option.any_eq_true _ _).1 hrun
  simp only [Bool.and_eq_true, Option.any_eq_true, beq_iff_eq] at hholds
  obtain ⟨⟨hloops, hinstalled⟩, ep, hep, hcontext, hcallbacks⟩ := hholds
  have hvalid : ValidTopic "uagv/v3/acme/7/connection" := by decide
  have hreach : (Daemon.system "uagv/v3").Reach Daemon.Succeeds daemon := reach_of_replay (.init rfl) hdaemon
  let msg : MqttMessage := ⟨"uagv/v3/acme/7/connection", onlineText.2.1⟩
  have ht : MessageType.connection ∈ Side.localSide.types := by decide
  have hdecode : decode msg.payload = .ok acmeOnline := decode_acme.1
  have hnone := calls_of_unregistered hreach.reachable hloops hep hvalid ht hcontext hdecode hcallbacks fun _ => false
  have hdelivered := Traffic.reach_deliver hreach msg (fun _ => false) hloops (nofun : Side.localSide = .cloudSide → _)
    hvalid
  rw [hnone] at hdelivered
  have hforwarded := h "uagv/v3" _ hdelivered _ (List.mem_singleton_self _) (fun _ => hinstalled) ep hep .connection ht
    _ hcontext _ hdecode
  cases hforwarded.1

end SyriusOrbit.Mqtt

import Mathlib.Data.List.ReduceOption
import SyriusOrbit.Mqtt.Bridge
import SyriusOrbit.Mqtt.TopicFilter
import SyriusOrbit.RuntimeConfig

/-!
# The brokers

The daemon together with the brokers its two clients are connected to.  A broker passes a message on to each client
with a filter that matches.  As long as the clients are at different brokers, what the daemon publishes reaches no
endpoint, so a message is forwarded once at most (`forwarded_of_reach`).
-/

namespace SyriusOrbit.Mqtt

open JsonFormat Vda5050 Transition Effect VDA5050EndPoint

/-! ### What the clients hold -/

/-- `Init` leaves only filters of the endpoint with the broker, besides those that were there. -/
private theorem VDA5050EndPoint.mem_held_subscribeAll {ep : VDA5050EndPoint} {accepted : MessageType → Bool}
    {ts : List MessageType} {client : MqttSubscriber} {f : String}
    (h : f ∈ (ep.subscribeAll accepted ts client).2.held) : f ∈ client.held ∨ ∃ t ∈ ts, f = ep.filter t := by
  induction ts generalizing client with
  | nil => exact .inl h
  | cons t ts ih =>
    unfold subscribeAll at h
    split at h
    · exact .inl h
    · split at h
      · next client₁ hsub =>
        rcases ih h with hheld | ⟨t', ht', heq⟩
        · rw [MqttSubscriber.held_subscribe hsub] at hheld
          rcases List.mem_cons.1 hheld with heq | hheld
          · exact .inr ⟨t, List.mem_cons_self, heq⟩
          · exact .inl hheld
        · exact .inr ⟨t', List.mem_cons_of_mem t ht', heq⟩
      · next client₁ hsub =>
        rw [MqttSubscriber.subscribe_of_failed hsub] at h
        exact .inl h

private theorem VDA5050EndPoint.mem_held_init {ep ep' : VDA5050EndPoint} {client client' : MqttSubscriber}
    {accepted : MessageType → Bool} {ok : Bool} (h : ep.init client accepted = (ok, ep', client')) {f : String}
    (hf : f ∈ client'.held) : f ∈ client.held ∨ ∃ t ∈ ep.side.types, f = ep.filter t := by
  unfold init at h
  split at h
  · cases h
    exact .inl hf
  · next ep₁ hsubscriber =>
    obtain rfl := initSubscriber_eq hsubscriber
    cases h
    have hheld := mem_held_subscribeAll hf
    exact hheld

namespace Daemon

variable {topicPrefix : String} {s s' : Daemon}

/-- The entries of the routing table of a side for an endpoint and a type. -/
def entriesOf (s : Daemon) (side : Side) (id : Nat) (t : MessageType) : List SubscriptionEntry :=
  (s.client side).subscriptions.filter fun e => e.endpoint = id ∧ e.type = t

/-- The routing table of a side has one entry at most for the installed endpoint and a type, and its broker holds
filters for the types of the side only. -/
structure Tabled (s : Daemon) (side : Side) : Prop where
  created : s.run ≠ .failed → ∀ e ∈ (s.client side).subscriptions, e.endpoint < s.allocated
  fresh : ∀ ep, s.setUp side = some ep → ep.initialized = false → ∀ t, s.entriesOf side ep.id t = []
  once : ∀ ep, s.setUp side = some ep → ∀ t, (s.entriesOf side ep.id t).length ≤ 1
  held : ∀ f ∈ (s.client side).held, ∃ template, ∃ t ∈ side.types,
    f = VDA5050TopicContext.buildFilter template (suffix t)

namespace Tabled

variable {side : Side}

theorem congr (h : s.Tabled side) (hsetUp : s'.setUp side = s.setUp side)
    (hsubscriptions : (s'.client side).subscriptions = (s.client side).subscriptions)
    (hheld : (s'.client side).held ⊆ (s.client side).held) (hallocated : s.allocated ≤ s'.allocated)
    (hrun : s.run = .failed → s'.run = .failed) : s'.Tabled side where
  created hrun' e he := by
    rw [hsubscriptions] at he
    exact (h.created (fun hfailed => hrun' (hrun hfailed)) e he).trans_le hallocated
  fresh ep hep := by
    unfold entriesOf
    rw [hsubscriptions]
    exact h.fresh ep (hsetUp ▸ hep)
  once ep hep := by
    unfold entriesOf
    rw [hsubscriptions]
    exact h.once ep (hsetUp ▸ hep)
  held f hf := h.held f (hheld hf)

/-- A connection changes. -/
theorem link (h : s.Tabled side) {side' : Side} {client : MqttSubscriber}
    (hsubscriptions : client.subscriptions = (s.client side').subscriptions)
    (hheld : client.held ⊆ (s.client side').held) : (s.setClient side' client).Tabled side := by
  by_cases hside : side = side'
  · subst hside
    refine h.congr rfl ?_ ?_ le_rfl id
    · rw [client_setClient, hsubscriptions]
    · rw [client_setClient]
      exact hheld
  · refine h.congr rfl ?_ ?_ le_rfl id
    · rw [client_setClient_of_ne hside]
    · rw [client_setClient_of_ne hside]
      exact List.Subset.refl _

theorem failed (hendpoint : s'.endpoint = fun _ => none) (hheld : (s'.client side).held = [])
    (hrun : s'.run = .failed) : s'.Tabled side where
  created hrun' := absurd hrun hrun'
  fresh ep hep := by simp [setUp, hendpoint] at hep
  once ep hep := by simp [setUp, hendpoint] at hep
  held f hf := by simp [hheld] at hf

/-- The other side changes. -/
theorem other (h : s.Tabled side) {side' : Side} (hne : side ≠ side') {client : MqttSubscriber}
    {endpoint : Option VDA5050EndPoint} : ((s.setClient side' client).setEndpoint side' endpoint).Tabled side := by
  have hclient : ((s.setClient side' client).setEndpoint side' endpoint).client side = s.client side :=
    client_setClient_of_ne hne s client
  refine h.congr ?_ ?_ ?_ le_rfl id
  · rw [setUp_setEndpoint, Function.update_of_ne hne]
    rfl
  · rw [hclient]
  · rw [hclient]
    exact List.Subset.refl _

/-- Of the entries that `Init` appends there is one at most for a type, and none for another endpoint. -/
private theorem length_filter_entry (ep : VDA5050EndPoint) {done : List MessageType} (hdone : done <+: ep.side.types)
    (id : Nat) (t : MessageType) :
    ((done.map ep.entry).filter fun e => e.endpoint = id ∧ e.type = t).length ≤ 1 := by
  have hnodup : done.Nodup := (nodup_types ep.side).sublist hdone.sublist
  have hcount : done.countP ((fun e : SubscriptionEntry => decide (e.endpoint = id ∧ e.type = t)) ∘ ep.entry) ≤
      done.count t := by
    refine List.countP_mono_left fun t' _ ht' => ?_
    have htype : ep.id = id ∧ t' = t := of_decide_eq_true ht'
    rw [beq_iff_eq]
    exact htype.2
  rw [List.filter_map, List.length_map, ← List.countP_eq_length_filter]
  exact hcount.trans (List.nodup_iff_count_le_one.1 hnodup t)

/-- `Init` of an endpoint that has no entries yet, and the endpoint is kept. -/
theorem init (h : s.Tabled side) (hrun : s.run ≠ .failed) {ep ep' : VDA5050EndPoint} {client : MqttSubscriber}
    {accepted : MessageType → Bool} (hside : ep.side = side) (hid : ep.id < s'.allocated)
    (hallocated : s.allocated ≤ s'.allocated) (hempty : ∀ t, s.entriesOf side ep.id t = [])
    (hinit : ep.init (s.client side) accepted = (true, ep', client)) (hclient : s'.client side = client)
    (hsetUp : s'.setUp side = some ep'.bare) : s'.Tabled side := by
  obtain ⟨done, hdone, hsubscriptions, -⟩ := subscriptions_init hinit
  have hep' := init_eq hinit
  refine ⟨fun _ e he => ?_, fun ep₁ hep₁ hfresh₁ => ?_, fun ep₁ hep₁ t => ?_, fun f hf => ?_⟩
  · rw [hclient, hsubscriptions] at he
    rcases List.mem_append.1 he with hold | hnew
    · exact (h.created hrun e hold).trans_le hallocated
    · obtain ⟨t, -, rfl⟩ := List.mem_map.1 hnew
      exact hid
  · obtain rfl := Option.some.inj (hsetUp.symm.trans hep₁)
    rw [hep'] at hfresh₁
    cases hfresh₁
  · obtain rfl := Option.some.inj (hsetUp.symm.trans hep₁)
    have hidEq : ep'.bare.id = ep.id := by
      rw [hep']
      rfl
    have hold := hempty t
    unfold entriesOf at hold ⊢
    rw [hclient, hsubscriptions, hidEq, List.filter_append, hold, List.nil_append]
    exact length_filter_entry ep hdone ep.id t
  · rw [hclient] at hf
    rcases mem_held_init hinit hf with hold | ⟨t, ht, rfl⟩
    · exact h.held f hold
    · exact ⟨ep.topicTemplate, t, hside ▸ ht, rfl⟩

/-- `Init` of the cloud endpoint fails and the endpoint is reset; its entries stay. -/
private theorem initFailed (h : s.Tabled side) (hrun : s.run ≠ .failed) {ep ep' : VDA5050EndPoint}
    {client : MqttSubscriber}
    {accepted : MessageType → Bool} (hside : ep.side = side) (hid : ep.id < s.allocated)
    (hinit : ep.init (s.client side) accepted = (false, ep', client)) (hclient : s'.client side = client)
    (hallocated : s'.allocated = s.allocated) (hsetUp : s'.setUp side = none) : s'.Tabled side := by
  obtain ⟨done, -, hsubscriptions, -⟩ := subscriptions_init hinit
  refine ⟨fun _ e he => ?_, fun ep₁ hep₁ => ?_, fun ep₁ hep₁ => ?_, fun f hf => ?_⟩
  · rw [hclient, hsubscriptions] at he
    rw [hallocated]
    rcases List.mem_append.1 he with hold | hnew
    · exact h.created hrun e hold
    · obtain ⟨t, -, rfl⟩ := List.mem_map.1 hnew
      exact hid
  · simp [hsetUp] at hep₁
  · simp [hsetUp] at hep₁
  · rw [hclient] at hf
    rcases mem_held_init hinit hf with hold | ⟨t, ht, rfl⟩
    · exact h.held f hold
    · exact ⟨ep.topicTemplate, t, hside ▸ ht, rfl⟩

/-- The next endpoint has no entries. -/
private theorem entriesOf_allocated (h : s.Tabled side) (hrun : s.run ≠ .failed) (t : MessageType) :
    s.entriesOf side s.allocated t = [] := by
  rw [entriesOf, List.filter_eq_nil_iff]
  intro e he hmatch
  have hlt := h.created hrun e he
  simp only [decide_eq_true_eq] at hmatch
  omega

/-- The cloud endpoint is created. -/
theorem create (h : s.Tabled .cloudSide) (hrun : s.run ≠ .failed) {client : MqttSubscriber}
    (hsubscriptions : client.subscriptions = (s.client .cloudSide).subscriptions)
    (hheld : client.held ⊆ (s.client .cloudSide).held) {topicTemplate : VDA5050TopicContext}
    {callback : CallbackStep} :
    ({ (s.setClient .cloudSide client).createEndpoint .cloudSide topicTemplate with callback } : Daemon).Tabled
      .cloudSide := by
  have hlinked : (s.setClient .cloudSide client).Tabled .cloudSide := h.link hsubscriptions hheld
  have hset : ({ (s.setClient .cloudSide client).createEndpoint .cloudSide topicTemplate with callback } :
      Daemon).setUp .cloudSide = some { id := s.allocated, side := .cloudSide, topicTemplate } := by
    simp [setUp, createEndpoint, bare, setClient, Daemon.setEndpoint]
  refine ⟨fun _ e he => (hlinked.created hrun e he).trans_le (Nat.le_succ _), fun ep hep _ t => ?_,
    fun ep hep t => ?_, hlinked.held⟩
  · obtain rfl := Option.some.inj (hset.symm.trans hep)
    exact hlinked.entriesOf_allocated hrun t
  · obtain rfl := Option.some.inj (hset.symm.trans hep)
    have hnone := hlinked.entriesOf_allocated hrun t
    have hsame : ({ (s.setClient .cloudSide client).createEndpoint .cloudSide topicTemplate with callback } :
        Daemon).entriesOf .cloudSide s.allocated t = [] := hnone
    rw [hsame]
    exact Nat.zero_le 1

theorem step {a : Action} (h : s.Tabled side) (hr : s.Ready) (hw : s.Wired) (hs : s.step topicPrefix a = some s') :
    s'.Tabled side := by
  have hsame : (s.client side).held ⊆ (s.client side).held := List.Subset.refl _
  cases outcome_of_step hs with
  | noPrefix => exact h.congr rfl rfl hsame le_rfl fun _ => rfl
  | connectFailed => exact failed rfl rfl rfl
  | localConnecting hrun =>
    have hlink : (s.setClient .localSide { s.client .localSide with link := .pending }).Tabled side :=
      h.link rfl (List.Subset.refl _)
    exact hlink.congr rfl rfl (List.Subset.refl _) le_rfl fun hfailed => absurd (hrun.symm.trans hfailed) (by simp)
  | @localInitialized accepted topicTemplate ep client hrun hinit =>
    have hne : s.run ≠ .failed := by simp [hrun]
    by_cases hside : side = .localSide
    · subst hside
      refine h.init hne rfl (Nat.lt_succ_self _) (Nat.le_succ _) (h.entriesOf_allocated hne) hinit ?_ ?_
      · exact client_setClient s .localSide client
      · simp [setUp, Daemon.setEndpoint]
    · exact (h.other hside).congr rfl rfl (List.Subset.refl _) (Nat.le_succ _) fun hfailed => absurd hfailed hne
  | localInitFailed => exact failed rfl rfl rfl
  | loopsFailed => exact failed rfl rfl rfl
  | loopsStarted hrun => exact h.congr rfl rfl hsame le_rfl (by simp [hrun])
  | recorderConstructed hrun => exact h.congr rfl rfl hsame le_rfl (by simp [hrun])
  | @attached r hrun _ =>
    have hclient : (s.registerAt .localSide r.localEp attachLocal).attachCloud.client = s.client :=
      client_attachCloud _
    have hallocated : (s.registerAt .localSide r.localEp attachLocal).attachCloud.allocated = s.allocated :=
      allocated_attachCloud _
    have hheld : ((s.registerAt .localSide r.localEp attachLocal).attachCloud.client side).held ⊆
        (s.client side).held := by
      rw [congrFun hclient side]
      exact hsame
    exact h.congr (congrFun (setUp_attached s r.localEp) side) (congrArg _ (congrFun hclient side)) hheld
      hallocated.ge fun hfailed => absurd (hrun.symm.trans hfailed) (by simp)
  | callbackSet hrun => exact h.congr rfl rfl hsame le_rfl (by simp [hrun])
  | connecting => exact h.link rfl (List.Subset.refl _)
  | lost => exact h.link rfl (List.nil_subset _)
  | refused => exact h.link rfl (List.nil_subset _)
  | connected => exact h.link rfl (List.Subset.refl _)
  | @cloudCreated topicTemplate hloops hnone =>
    have hheld : ({ s.client .cloudSide with link := .up } : MqttSubscriber).held ⊆ (s.client .cloudSide).held :=
      List.Subset.refl _
    have hsubscriptions : ({ s.client .cloudSide with link := .up } : MqttSubscriber).subscriptions =
      (s.client .cloudSide).subscriptions := rfl
    by_cases hside : side = .cloudSide
    · subst hside
      exact h.create (run_ne_failed hloops) hsubscriptions hheld
    · exact (h.other hside).congr rfl rfl (List.Subset.refl _) (Nat.le_succ _) id
  | @cloudInitialized accepted ep ep' client hcallback hep hinit =>
    by_cases hside : side = .cloudSide
    · subst hside
      have hfits := hw.fits _ _ hep
      have hset : s.setUp .cloudSide = some ep.bare := by simp [setUp, hep]
      have hfresh : ep.initialized = false := by
        rw [← Bool.not_eq_true]
        exact fun hinitialized => (hr.cloudEp _ hset).1 hinitialized hcallback
      refine h.init (run_ne_failed (hr.busy (by simp [hcallback])).1) hfits.side_eq hfits.id_lt le_rfl
        (h.fresh ep.bare hset hfresh) hinit ?_ ?_
      · exact client_setClient s .cloudSide client
      · simp [setUp, Daemon.setEndpoint]
    · exact (h.other hside).congr rfl rfl (List.Subset.refl _) le_rfl id
  | @cloudInitFailed accepted ep ep' client hcallback hep hinit =>
    by_cases hside : side = .cloudSide
    · subst hside
      have hfits := hw.fits _ _ hep
      refine h.initFailed (run_ne_failed (hr.busy (by simp [hcallback])).1) hfits.side_eq hfits.id_lt hinit ?_ rfl ?_
      · exact client_setClient s .cloudSide client
      · simp [setUp, Daemon.setEndpoint]
    · exact (h.other hside).congr rfl rfl (List.Subset.refl _) le_rfl id
  | @bridged localEp cloudEp _ hlocal hcloud =>
    have hlocal' := setUp_register hlocal (sameSetup_bridgeLocalToCloud localEp)
    have hcloud' := setUp_register (cloud_of_setEndpoint hcloud (some (bridgeLocalToCloud localEp).2))
      (sameSetup_bridgeCloudToLocal cloudEp)
    exact h.congr (congrFun (hcloud'.trans hlocal') side) rfl hsame le_rfl id
  | bridgeFailed hcallback _ hfailed => exact (hr.not_bridgeFailed hw hcallback hfailed).elim
  | notified =>
    have hheld : ((if s.onCloudConnected then s.attachCloud else s).client side).held ⊆ (s.client side).held := by
      rw [client_notified s]
      exact hsame
    exact h.congr (congrFun (setUp_notified s) side)
      (congrArg (fun client => (client side).subscriptions) (client_notified s)) hheld (allocated_notified s).ge
      fun hfailed => (run_notified s).trans hfailed

end Tabled

theorem tabled_of_reachable (h : (system topicPrefix).Reachable s) (side : Side) : s.Tabled side := by
  refine System.Reach.invariant (I := fun s => s.Tabled side) (fun s hs => ?_)
    (fun s a s' hreach hI _ hs => hI.step (ready_of_reachable hreach) (wired_of_reachable hreach).2 hs) h
  obtain rfl : s = {} := hs
  exact ⟨fun _ _ he => (by cases he), fun _ hep => (by cases hep), fun _ hep => (by cases hep),
    fun _ hf => (by cases hf)⟩

end Daemon

/-! ### What a delivery makes the daemon publish -/

/-- What a call hands to the client of a side to be published.  Nothing is known of a call through a pointer to an
endpoint that is not there, and runs with such a call are told apart (`Network.dangling`). -/
def Call.sent : Call → Option (Side × Outgoing)
  | .publish side _ out => out.map fun out => (side, out)
  | .record _ | .dangling => none

def Call.isDangling : Call → Bool
  | .dangling => true
  | .publish .. | .record _ => false

section

variable [JsonLibrary]

/-- A message that is published goes out on the topic of its context. -/
private theorem VDA5050EndPoint.of_publish {ep : VDA5050EndPoint} {d : Dispatched} {out : Outgoing}
    (h : ep.publish d = some out) :
    ep.side = publisher d.type ∧ d.context.buildTopic (suffix d.type) = some out.topic := by
  unfold VDA5050EndPoint.publish at h
  split at h
  · cases h
  · next hside =>
    refine ⟨not_not.1 hside, ?_⟩
    unfold publisherPublish at h
    split at h
    · cases h
    · split at h
      · cases h
      · next topic htopic =>
        unfold outgoing at h
        split at h
        · cases h
        · obtain rfl := Option.some.inj h
          exact htopic

omit [JsonLibrary] in
private theorem VDA5050TopicContext.TopicOf.eq_of_buildTopic {template context : VDA5050TopicContext}
    {topic topic' suffix : String} (h : template.TopicOf context topic suffix)
    (hbuild : context.buildTopic suffix = some topic') : topic' = topic := by
  unfold VDA5050TopicContext.buildTopic at hbuild
  split at hbuild
  · cases hbuild
  · obtain rfl := Option.some.inj hbuild
    rw [h.topic_eq, h.interfaceName, h.majorVersion]

omit [JsonLibrary] in
private theorem mem_types_of_publisher {side : Side} {t : MessageType} (h : publisher t = side.other) :
    t ∈ side.types := by
  cases side <;> cases t <;> simp_all [publisher, Side.other, Side.types]

namespace Daemon

variable {topicPrefix : String} {s : Daemon} {side : Side} {ep : VDA5050EndPoint}

private theorem sent_callOf_bridge (s : Daemon) (side : Side) (d : Dispatched) :
    (s.callOf side d .bridge).sent =
      (s.endpoint side.other).bind fun ep => (ep.publish d).map fun out => (side.other, out) := by
  unfold callOf
  cases s.endpoint side.other <;> rfl

private theorem sent_callOf_recorder (s : Daemon) (side : Side) (d : Dispatched) :
    (s.callOf side d .recorder).sent = none := rfl

/-- Only the callbacks that forward publish, each the same. -/
private theorem sent_callbacks (s : Daemon) (side : Side) (d : Dispatched) (listeners : List Listener) :
    (listeners.map (s.callOf side d)).filterMap Call.sent =
      (List.replicate (listeners.count .bridge) (s.callOf side d .bridge).sent).reduceOption := by
  induction listeners with
  | nil => rfl
  | cons listener listeners ih =>
    rw [List.map_cons]
    cases listener with
    | recorder =>
      rw [List.filterMap_cons_none (s.sent_callOf_recorder side d), List.count_cons_of_ne (by simp), ih]
    | bridge =>
      rw [List.count_cons_self, List.replicate_succ]
      cases hsent : (s.callOf side d .bridge).sent with
      | none => rw [List.filterMap_cons_none hsent, List.reduceOption_cons_of_none, ih, hsent]
      | some x => rw [List.filterMap_cons_some hsent, List.reduceOption_cons_of_some, ih, hsent]

/-- What is published through an entry of the routing table of a side. -/
private theorem of_mem_sent (hw : s.Wired) (hep : s.endpoint side = some ep) {msg : MqttMessage} {e : SubscriptionEntry}
    {x : Side × Outgoing} (hx : x ∈ (s.entryCalls side msg e).filterMap Call.sent) :
    e.endpoint = ep.id ∧ e.type ∈ side.types ∧ x.1 = side.other ∧ x.2.topic = msg.topic ∧
      ∃ context, ep.topicTemplate.TopicOf context msg.topic (suffix e.type) := by
  obtain ⟨call, hcall, hsent⟩ := List.mem_filterMap.1 hx
  unfold entryCalls at hcall
  split at hcall
  · cases hcall
  · next m hm =>
    rw [hep] at hcall
    dsimp only at hcall
    split at hcall
    · obtain rfl := List.mem_singleton.1 hcall
      cases hsent
    · next hid =>
      obtain ⟨⟨listener, context⟩, hdispatch, rfl⟩ := List.mem_map.1 hcall
      unfold dispatch at hdispatch
      split at hdispatch
      · cases hdispatch
      · split at hdispatch
        · cases hdispatch
        · next context' hcontext =>
          obtain ⟨_, -, hpair⟩ := List.mem_map.1 hdispatch
          cases hpair
          have htopic := VDA5050TopicContext.topicOf_of_parseTopicContext hcontext
          cases listener with
          | recorder => cases hsent
          | bridge =>
            have hpublished := (s.sent_callOf_bridge side ⟨context, e.type, m⟩).symm.trans hsent
            obtain ⟨ep', hep', hmap⟩ := Option.bind_eq_some_iff.1 hpublished
            obtain ⟨out, hout, rfl⟩ := Option.map_eq_some_iff.1 hmap
            obtain ⟨hpublisher, hbuild⟩ := of_publish hout
            have hside := (hw.fits _ _ hep').side_eq
            exact ⟨not_not.1 hid, mem_types_of_publisher (hpublisher.symm.trans hside), rfl,
              htopic.eq_of_buildTopic hbuild, context, htopic⟩

private theorem length_sent_le (s : Daemon) (side : Side) (ep : VDA5050EndPoint) (hep : s.endpoint side = some ep)
    (msg : MqttMessage) (e : SubscriptionEntry) :
    ((s.entryCalls side msg e).filterMap Call.sent).length ≤ (ep.callbacks e.type).count .bridge := by
  have hcallback : ∀ (d : Dispatched) (listeners : List Listener),
      ((listeners.map (s.callOf side d)).filterMap Call.sent).length ≤ listeners.count .bridge := by
    intro d listeners
    rw [sent_callbacks]
    exact (List.reduceOption_length_le _).trans List.length_replicate.le
  unfold entryCalls
  split
  · simp
  · next m hm =>
    rw [hep]
    dsimp only
    split
    · exact Nat.zero_le _
    · unfold dispatch
      split
      · simp
      · split
        · simp
        · next context hcontext =>
          rw [List.map_map]
          exact hcallback ⟨context, e.type, m⟩ (ep.callbacks e.type)

omit [JsonLibrary] in
private theorem length_flatMap_le {γ δ : Type} {l : List γ} {p : γ → Bool} {f : γ → List δ}
    (hzero : ∀ a ∈ l, p a = false → f a = []) (hone : ∀ a ∈ l, p a = true → (f a).length ≤ 1) :
    (l.flatMap f).length ≤ (l.filter p).length := by
  induction l with
  | nil => exact le_rfl
  | cons a l ih =>
    have hrest := ih (fun b hb => hzero b (List.mem_cons_of_mem a hb)) fun b hb => hone b (List.mem_cons_of_mem a hb)
    rw [List.flatMap_cons, List.length_append]
    by_cases hp : p a = true
    · have hhead := hone a List.mem_cons_self hp
      rw [List.filter_cons_of_pos hp, List.length_cons]
      omega
    · rw [hzero a List.mem_cons_self (by simpa using hp), List.filter_cons_of_neg hp, List.length_nil, Nat.zero_add]
      exact hrest

section

variable [MosquittoLibrary]

/-- What is called while a message is handed over on a side. -/
def callsOn (s : Daemon) (throws : Dispatched → Bool) (side : Side) (msg : MqttMessage) : List Call :=
  (runOn (s.handleMessage throws side msg) []).2

/-- What the daemon publishes then. -/
def sentOn (s : Daemon) (throws : Dispatched → Bool) (side : Side) (msg : MqttMessage) : List (Side × Outgoing) :=
  (s.callsOn throws side msg).filterMap Call.sent

private theorem sentOn_eq (s : Daemon) (throws : Dispatched → Bool) (side : Side) (msg : MqttMessage) :
    s.sentOn throws side msg = ((s.client side).subscriptions.filter fun entry =>
      MosquittoLibrary.topicMatchesSub entry.topicFilter msg.topic).flatMap fun entry =>
        (s.entryCalls side msg entry).filterMap Call.sent := by
  unfold sentOn callsOn
  rw [s.returns_handleMessage throws side msg [], List.nil_append, List.filterMap_flatMap]

/-- What is published goes to the other side, on the topic of the message, which belongs to a type of this side. -/
private theorem of_mem_sentOn (hw : s.Wired) {throws : Dispatched → Bool} {msg : MqttMessage} {x : Side × Outgoing}
    (hx : x ∈ s.sentOn throws side msg) : x.1 = side.other ∧ x.2.topic = msg.topic ∧
      ∃ ep, s.endpoint side = some ep ∧ ∃ t ∈ side.types, ∃ context,
        ep.topicTemplate.TopicOf context msg.topic (suffix t) := by
  rw [sentOn_eq] at hx
  obtain ⟨e, -, hsent⟩ := List.mem_flatMap.1 hx
  cases hep : s.endpoint side with
  | none =>
    obtain ⟨call, hcall, hcallSent⟩ := List.mem_filterMap.1 hsent
    unfold entryCalls at hcall
    rw [hep] at hcall
    split at hcall
    · cases hcall
    · obtain rfl := List.mem_singleton.1 hcall
      cases hcallSent
  | some ep =>
    obtain ⟨-, htype, hside, htopic, context, hcontext⟩ := of_mem_sent hw hep hsent
    exact ⟨hside, htopic, ep, rfl, e.type, htype, context, hcontext⟩

/-- A message makes the daemon publish once at most. -/
private theorem length_sentOn_le (h : (system topicPrefix).Reachable s) (throws : Dispatched → Bool) (side : Side)
    (msg : MqttMessage) : (s.sentOn throws side msg).length ≤ 1 := by
  have hw := (wired_of_reachable h).2
  by_cases hnone : s.sentOn throws side msg = []
  · rw [hnone]
    exact Nat.zero_le 1
  · obtain ⟨x, hx⟩ := List.exists_mem_of_ne_nil _ hnone
    obtain ⟨-, -, ep, hep, t, ht, context, hcontext⟩ := of_mem_sentOn hw hx
    have hset : s.setUp side = some ep.bare := by simp [setUp, hep]
    have hcount : (ep.callbacks t).count .bridge ≤ 1 := by
      rw [forwards_of_reachable h side ep hep t ht]
      split <;> omega
    -- only the entry of this endpoint for the type of the topic is read
    have hother : ∀ e : SubscriptionEntry, decide (e.endpoint = ep.id ∧ e.type = t) = false →
        (s.entryCalls side msg e).filterMap Call.sent = [] := by
      intro e he
      rw [List.eq_nil_iff_forall_not_mem]
      intro y hy
      obtain ⟨hid, -, -, -, context', hcontext'⟩ := of_mem_sent hw hep hy
      have htype := suffix_injective (hcontext'.suffix_eq hcontext)
      exact of_decide_eq_false he ⟨hid, htype⟩
    rw [sentOn_eq]
    refine (length_flatMap_le (fun e _ he => hother e he) fun e _ he => ?_).trans ?_
    · obtain ⟨-, rfl⟩ := of_decide_eq_true he
      exact (length_sent_le s side ep hep msg e).trans hcount
    · refine le_trans ?_ ((tabled_of_reachable h side).once ep.bare hset t)
      exact (List.filter_sublist.filter _).length_le

/-- An uplink message that can be read is published once the bridge is there. -/
private theorem sentOn_uplink (h : (system topicPrefix).Reachable s) (hloops : s.loopsRunning = true)
    (hbridged : s.bridged = true) (hep : s.endpoint .localSide = some ep) {t : MessageType}
    (ht : t ∈ Side.localSide.types) {msg : MqttMessage} (hvalid : ValidTopic msg.topic)
    {context : VDA5050TopicContext} (hcontext : ep.topicTemplate.parseTopicContext msg.topic (suffix t) = some context)
    {m : t.Message} (hm : decode msg.payload = .ok m) (throws : Dispatched → Bool) :
    s.sentOn throws .localSide msg =
      [(.cloudSide, ⟨msg.topic, JsonLibrary.dump (pruneTopLevelFields (toJson m)), qos t, false⟩)] := by
  have hready := ready_of_reachable h
  have hw := (wired_of_reachable h).2
  have hfits := hw.fits _ _ hep
  have hinitialized := hready.initialized hloops hep (by simp)
  obtain ⟨ep', hep'⟩ := hready.endpoint_of_bridged hloops hbridged .cloudSide
  have hfits' := hw.fits _ _ hep'
  obtain ⟨hserves, hinterface, hversion⟩ :=
    (routed_of_reachable h).serves ep.bare (by simp [setUp, hep]) hinitialized
  have hcount : (ep.callbacks t).count .bridge = 1 := by
    have hforwards := forwards_of_reachable h .localSide ep hep t ht
    rwa [hbridged] at hforwards
  have hpublish := publish_of_topicOf (hfits'.side_eq.trans (publisher_of_mem_types ht).symm) hfits'.stopped
    (VDA5050TopicContext.topicOf_of_parseTopicContext hcontext) hinterface hversion m
  have hsent : (s.callOf .localSide ⟨context, t, m⟩ .bridge).sent =
      some (.cloudSide, ⟨msg.topic, JsonLibrary.dump (pruneTopLevelFields (toJson m)), qos t, false⟩) := by
    rw [sent_callOf_bridge, show Side.other .localSide = .cloudSide from rfl, hep', Option.bind_some, hpublish]
    rfl
  have hside : t ∈ ep.side.types := hfits.side_eq ▸ ht
  rw [sentOn, callsOn, runOn_handleMessage hep hserves hfits.stopped hvalid hside hcontext hm, sent_callbacks, hcount,
    hsent]
  rfl

/-- As long as the subscriptions succeed, nothing is called through a pointer to an endpoint that is not there. -/
private theorem isDangling_eq_false (h : (system topicPrefix).Reach Succeeds s) (hloops : s.loopsRunning = true)
    (hidle : side = .cloudSide → s.callback = .idle) (throws : Dispatched → Bool) (msg : MqttMessage) :
    ∀ call ∈ s.callsOn throws side msg, call.isDangling = false := by
  intro call hcall
  rw [callsOn, s.returns_handleMessage throws side msg [], List.nil_append] at hcall
  obtain ⟨entry, hentry, hcall⟩ := List.mem_flatMap.1 hcall
  have hmem := List.mem_of_mem_filter hentry
  have hready := ready_of_reachable h.reachable
  have hrouted : s.Routed side := by
    cases side with
    | localSide => exact routed_of_reachable h.reachable
    | cloudSide => exact routed_of_reach h
  cases hep : s.endpoint side with
  | none =>
    rw [hrouted.vacant (run_ne_failed hloops) (by simp [setUp, hep])] at hmem
    cases hmem
  | some ep =>
    -- the table has the entries of this endpoint only
    have hfits := (wired_of_reachable h.reachable).2.fits _ _ hep
    have hinitialized := hready.initialized hloops hep fun hside => by simp [hidle hside]
    have hserves : (s.client side).subscriptions = ep.side.types.map ep.entry :=
      (hrouted.serves ep.bare (by simp [setUp, hep]) hinitialized).1
    rw [hserves] at hmem
    obtain ⟨t, ht, rfl⟩ := List.mem_map.1 hmem
    unfold entryCalls at hcall
    split at hcall
    · cases hcall
    · next m hm =>
      simp only [hep, VDA5050EndPoint.entry, ne_eq, not_true_eq_false, if_false] at hcall
      obtain ⟨⟨listener, context⟩, hdispatch, rfl⟩ := List.mem_map.1 hcall
      cases listener with
      | recorder => rfl
      | bridge =>
        have hcount := forwards_of_reachable h.reachable side ep hep t (hfits.side_eq ▸ ht)
        have hregistered := List.count_pos_iff.2 (mem_callbacks_of_dispatch hdispatch)
        have hbridged : s.bridged = true := by
          by_contra hnone
          rw [if_neg hnone] at hcount
          omega
        obtain ⟨ep', hep'⟩ := hready.endpoint_of_bridged hloops hbridged side.other
        simp only [callOf, hep', Call.isDangling]

end

end Daemon

/-! ### The daemon with its brokers -/

/-- A message that a broker has accepted for the client of a side; `origin` numbers the message, published by a robot
or by the cloud, that it comes from. -/
structure Transit where
  origin : Nat
  side : Side
  message : MqttMessage

/-- The daemon, the number of messages that robots and the cloud have published, the messages on their way to its
clients, and the origin of each message it has published itself; `dangling` tells whether anything has been called
through a pointer to an endpoint that is not there, after which the state means nothing. -/
structure Network where
  daemon : Daemon := {}
  origins : Nat := 0
  transit : List Transit := []
  forwarded : List Nat := []
  dangling : Bool := false

inductive NetworkAction (Broker : Type) where
  | daemon (a : Action)
  /-- A robot or the cloud publishes. -/
  | publish (broker : Broker) (msg : MqttMessage)
  /-- A message is handed over; `accepted` tells whether the library takes what is published then. -/
  | deliver (i : Nat) (throws : Dispatched → Bool) (accepted : Bool)
  /-- A message gets lost. -/
  | drop (i : Nat)

namespace Network

variable {Broker : Type} [DecidableEq Broker]

omit [JsonLibrary] in
/-- The clients to which a broker passes a message on. -/
def receivers (broker : Side → Broker) (s : Daemon) (b : Broker) (topic : String) : List Side :=
  [.localSide, .cloudSide].filter fun side =>
    broker side = b ∧ (s.client side).held.any fun topicFilter => topicMatches topicFilter topic

def pass (broker : Side → Broker) (s : Daemon) (origin : Nat) (b : Broker) (msg : MqttMessage) : List Transit :=
  (receivers broker s b msg.topic).map fun side => ⟨origin, side, msg⟩

def publish (broker : Side → Broker) (b : Broker) (msg : MqttMessage) (s : Network) : Option Network :=
  if ¬ValidTopic msg.topic then none
  else some { s with
    origins := s.origins + 1
    transit := s.transit ++ pass broker s.daemon s.origins b msg }

def deliver [MosquittoLibrary] (broker : Side → Broker) (i : Nat) (throws : Dispatched → Bool) (accepted : Bool)
    (s : Network) : Option Network :=
  match s.transit[i]? with
  | none => none
  | some m =>
    if !s.daemon.loopsRunning || (m.side = .cloudSide && s.daemon.callback ≠ .idle) then none
    else
      let sent := s.daemon.sentOn throws m.side m.message
      some { s with
        transit := s.transit.eraseIdx i ++ if accepted then sent.flatMap fun (side, out) =>
          pass broker s.daemon m.origin (broker side) ⟨out.topic, out.payload⟩ else []
        forwarded := s.forwarded ++ sent.map fun _ => m.origin
        dangling := s.dangling || (s.daemon.callsOn throws m.side m.message).any Call.isDangling }

/-- The brokers of the two clients; `brokerAt` says which broker answers at a host and a port. -/
def brokerOf (brokerAt : String → UInt16 → Broker) (config : RuntimeConfig) : Side → Broker
  | .localSide => brokerAt config.mqttHost config.mqttPort
  | .cloudSide => brokerAt config.cloudMqttHost config.cloudMqttPort

def step [MosquittoLibrary] (brokerAt : String → UInt16 → Broker) (config : RuntimeConfig) (s : Network) :
    NetworkAction Broker → Option Network
  | .daemon a => (s.daemon.step config.mqttTopicPrefix a).map fun daemon => { s with daemon }
  | .publish broker msg => s.publish (brokerOf brokerAt config) broker msg
  | .deliver i throws accepted => s.deliver (brokerOf brokerAt config) i throws accepted
  | .drop i => some { s with transit := s.transit.eraseIdx i }

def system [MosquittoLibrary] (brokerAt : String → UInt16 → Broker) (config : RuntimeConfig) :
    System Network (NetworkAction Broker) := .ofStep {} (step brokerAt config)

omit [JsonLibrary] [DecidableEq Broker] in
/-- The condition on the steps of the daemon; the brokers and the network do as they like. -/
def Lift (allowed : Daemon → Action → Prop) (s : Network) : NetworkAction Broker → Prop
  | .daemon a => allowed s.daemon a
  | .publish .. | .deliver .. | .drop _ => True

/-! ### No way back -/

/-- How often a message is on its way to a client or has been forwarded. -/
def copies (s : Network) (origin : Nat) : Nat :=
  s.transit.countP (fun m => m.origin = origin) + s.forwarded.count origin

/-- No message has two copies, and those to come have none. -/
structure Single (s : Network) : Prop where
  fresh : ∀ origin, s.origins ≤ origin → s.copies origin = 0
  once : ∀ origin, s.copies origin ≤ 1

variable {broker : Side → Broker} {s s' : Network}

omit [JsonLibrary] [DecidableEq Broker] in
private theorem Single.of_le (h : s.Single) (horigins : s.origins ≤ s'.origins)
    (hcopies : ∀ origin, s'.copies origin ≤ s.copies origin) : s'.Single where
  fresh origin hle := Nat.eq_zero_of_le_zero ((hcopies origin).trans (h.fresh origin (horigins.trans hle)).le)
  once origin := (hcopies origin).trans (h.once origin)

omit [JsonLibrary] in
/-- Only one of the clients is at a broker. -/
private theorem length_receivers_le (hne : broker .localSide ≠ broker .cloudSide) (d : Daemon) (b : Broker)
    (topic : String) : (receivers broker d b topic).length ≤ 1 := by
  unfold receivers
  by_cases hlocal : broker .localSide = b
  · have hcloud : broker .cloudSide ≠ b := fun hcloud => hne (hlocal.trans hcloud.symm)
    rw [List.filter_cons, List.filter_cons]
    simp only [hcloud, false_and, decide_false, Bool.false_eq_true, if_false, List.filter_nil]
    split <;> simp
  · rw [List.filter_cons_of_neg (by simp [hlocal])]
    exact List.length_filter_le _ _

omit [JsonLibrary] in
private theorem countP_pass (d : Daemon) (origin : Nat) (b : Broker) (msg : MqttMessage) (origin' : Nat) :
    (pass broker d origin b msg).countP (fun m => m.origin = origin') =
      if origin = origin' then (receivers broker d b msg.topic).length else 0 := by
  rw [pass, List.countP_map]
  split
  · next heq => exact List.countP_eq_length.2 fun side _ => decide_eq_true heq
  · next hne => exact List.countP_eq_zero.2 fun side _ => by simp [hne]

omit [JsonLibrary] in
theorem Single.publish (h : s.Single) (hne : broker .localSide ≠ broker .cloudSide) {b : Broker}
    {msg : MqttMessage} (hs : s.publish broker b msg = some s') : s'.Single := by
  obtain ⟨-, hs⟩ := of_guard hs
  obtain rfl := Option.some.inj hs
  have hcopies : ∀ origin, (Network.copies { s with
      origins := s.origins + 1
      transit := s.transit ++ pass broker s.daemon s.origins b msg } origin) = s.copies origin +
        if s.origins = origin then (receivers broker s.daemon b msg.topic).length else 0 := by
    intro origin
    simp only [copies, List.countP_append, countP_pass]
    omega
  refine ⟨fun origin hle => ?_, fun origin => ?_⟩
  · have hnew : s.origins ≠ origin := by
      have : s.origins + 1 ≤ origin := hle
      omega
    rw [hcopies, if_neg hnew, h.fresh origin ((Nat.le_succ _).trans hle)]
  · rw [hcopies]
    by_cases hnew : s.origins = origin
    · rw [if_pos hnew, h.fresh origin hnew.le, Nat.zero_add]
      exact length_receivers_le hne s.daemon b msg.topic
    · rw [if_neg hnew]
      exact h.once origin

omit [JsonLibrary] in
/-- A message leaves the transit. -/
private theorem countP_eraseIdx {m : Transit} {l : List Transit} {i : Nat} (hm : l[i]? = some m) (origin : Nat) :
    l.countP (fun m => m.origin = origin) =
      (l.eraseIdx i).countP (fun m => m.origin = origin) + if m.origin = origin then 1 else 0 := by
  obtain ⟨hi, rfl⟩ := List.getElem?_eq_some_iff.1 hm
  rw [← (List.getElem_cons_eraseIdx_perm hi).countP_eq, List.countP_cons]
  simp

variable [MosquittoLibrary]

theorem deliver_cases {i : Nat} {throws : Dispatched → Bool} {accepted : Bool}
    (h : s.deliver broker i throws accepted = some s') :
    ∃ m, s.transit[i]? = some m ∧ s.daemon.loopsRunning = true ∧
      (m.side = .cloudSide → s.daemon.callback = .idle) ∧ s'.daemon = s.daemon ∧ s'.origins = s.origins ∧
      s'.dangling = (s.dangling || (s.daemon.callsOn throws m.side m.message).any Call.isDangling) ∧
      s'.forwarded = s.forwarded ++ (s.daemon.sentOn throws m.side m.message).map (fun _ => m.origin) ∧
      (s'.transit = s.transit.eraseIdx i ∨
        s'.transit = s.transit.eraseIdx i ++ (s.daemon.sentOn throws m.side m.message).flatMap fun (side, out) =>
          pass broker s.daemon m.origin (broker side) ⟨out.topic, out.payload⟩) := by
  unfold deliver at h
  split at h
  · cases h
  · next m hm =>
    obtain ⟨hguard, h⟩ := of_guard h
    obtain rfl := Option.some.inj h
    simp only [Bool.or_eq_true, Bool.not_eq_true', Bool.and_eq_true, decide_eq_true_eq, not_or, not_and, not_not,
      Bool.not_eq_false] at hguard
    refine ⟨m, hm, hguard.1, hguard.2, rfl, rfl, rfl, rfl, ?_⟩
    cases accepted with
    | true => exact .inr rfl
    | false => exact .inl (List.append_nil _)

/-- At different brokers no client holds a filter for what the daemon publishes. -/
private theorem receivers_sentOn (hne : broker .localSide ≠ broker .cloudSide) {topicPrefix : String} {d : Daemon}
    (hd : (Daemon.system topicPrefix).Reachable d) {throws : Dispatched → Bool} {side : Side} {msg : MqttMessage}
    {x : Side × Outgoing} (hx : x ∈ d.sentOn throws side msg) : receivers broker d (broker x.1) x.2.topic = [] := by
  obtain ⟨hside, htopic, ep, -, t, ht, context, hcontext⟩ :=
    Daemon.of_mem_sentOn (Daemon.wired_of_reachable hd).2 hx
  rw [receivers, List.filter_eq_nil_iff]
  intro side' _ hreceives
  simp only [Bool.decide_and, Bool.and_eq_true, decide_eq_true_eq, List.any_eq_true] at hreceives
  obtain ⟨hbroker, topicFilter, hheld, hmatches⟩ := hreceives
  -- the only client at this broker is that of the other side
  obtain rfl : side' = side.other := by
    rw [hside] at hbroker
    cases side <;> cases side' <;> simp_all [Side.other]
  obtain ⟨template, t', ht', rfl⟩ := (Daemon.tabled_of_reachable hd side.other).held topicFilter hheld
  rw [htopic] at hmatches
  obtain rfl := hcontext.type_eq hmatches
  cases side <;> cases t' <;> simp [Side.types, Side.other] at ht ht'

theorem Single.deliver (h : s.Single) (hne : broker .localSide ≠ broker .cloudSide) {topicPrefix : String}
    (hd : (Daemon.system topicPrefix).Reachable s.daemon) {i : Nat} {throws : Dispatched → Bool} {accepted : Bool}
    (hs : s.deliver broker i throws accepted = some s') : s'.Single := by
  obtain ⟨m, hm, -, -, -, horigins, -, hforwarded, htransit⟩ := deliver_cases hs
  have hback : (s.daemon.sentOn throws m.side m.message).flatMap (fun (side, out) =>
      pass broker s.daemon m.origin (broker side) ⟨out.topic, out.payload⟩) = [] := by
    rw [List.flatMap_eq_nil_iff]
    rintro ⟨side, out⟩ hx
    have hnone : receivers broker s.daemon (broker side) out.topic = [] := receivers_sentOn hne hd hx
    exact congrArg (List.map _) hnone
  have htransit : s'.transit = s.transit.eraseIdx i := by
    rcases htransit with heq | heq
    · exact heq
    · rw [heq, hback, List.append_nil]
  refine h.of_le horigins.ge fun origin => ?_
  have hsent := Daemon.length_sentOn_le hd throws m.side m.message
  have hcount : ((s.daemon.sentOn throws m.side m.message).map fun _ => m.origin).count origin ≤
      if m.origin = origin then 1 else 0 := by
    rw [List.map_const', List.count_replicate]
    by_cases horigin : m.origin = origin
    · simpa [horigin] using hsent
    · simp [horigin]
  rw [copies, copies, htransit, hforwarded, List.count_append, countP_eraseIdx hm origin]
  omega

section

variable {brokerAt : String → UInt16 → Broker} {config : RuntimeConfig} {allowed : Daemon → Action → Prop}

theorem daemon_of_reach (h : (system brokerAt config).Reach (Lift allowed) s) :
    (Daemon.system config.mqttTopicPrefix).Reach allowed s.daemon := by
  refine h.map Network.daemon (fun s hs => ?_) fun s a s' ha hs => ?_
  · obtain rfl : s = {} := hs
    rfl
  · cases a with
    | daemon a =>
      obtain ⟨daemon, hdaemon, rfl⟩ := Option.map_eq_some_iff.1 hs
      exact .inr ⟨a, ha, hdaemon⟩
    | publish b msg =>
      obtain ⟨-, hs⟩ := of_guard hs
      obtain rfl := Option.some.inj hs
      exact .inl rfl
    | deliver i throws accepted =>
      obtain ⟨m, -, -, -, hdaemon, -⟩ := deliver_cases hs
      exact .inl hdaemon
    | drop i =>
      obtain rfl := Option.some.inj hs
      exact .inl rfl

theorem single_of_reach (hne : brokerOf brokerAt config .localSide ≠ brokerOf brokerAt config .cloudSide)
    (h : (system brokerAt config).Reach (Lift allowed) s) : s.Single := by
  refine System.Reach.invariant (I := Single) (fun s hs => ?_) (fun s a s' hreach hI _ hs => ?_) h
  · obtain rfl : s = {} := hs
    exact ⟨fun _ _ => rfl, fun _ => Nat.zero_le 1⟩
  · cases a with
    | daemon a =>
      obtain ⟨daemon, -, rfl⟩ := Option.map_eq_some_iff.1 hs
      exact hI.of_le le_rfl fun _ => le_rfl
    | publish b msg => exact hI.publish hne hs
    | deliver i throws accepted => exact hI.deliver hne (daemon_of_reach hreach).reachable hs
    | drop i =>
      obtain rfl := Option.some.inj hs
      refine hI.of_le le_rfl fun origin => ?_
      exact Nat.add_le_add_right (List.Sublist.countP_le (List.eraseIdx_sublist _ _)) _

private theorem dangling_eq_false (h : (system brokerAt config).Reach (Lift Daemon.Succeeds) s) :
    s.dangling = false := by
  refine System.Reach.invariant (I := fun s => s.dangling = false) (fun s hs => ?_)
    (fun s a s' hreach hI _ hs => ?_) h
  · obtain rfl : s = {} := hs
    rfl
  · cases a with
    | daemon a =>
      obtain ⟨daemon, -, rfl⟩ := Option.map_eq_some_iff.1 hs
      exact hI
    | publish b msg =>
      obtain ⟨-, hs⟩ := of_guard hs
      obtain rfl := Option.some.inj hs
      exact hI
    | deliver i throws accepted =>
      obtain ⟨m, -, hloops, hidle, -, -, hdangling, -⟩ := deliver_cases hs
      rw [hdangling, hI, Bool.false_or, List.any_eq_false]
      intro call hcall
      simp [Daemon.isDangling_eq_false (daemon_of_reach hreach) hloops hidle throws m.message call hcall]
    | drop i =>
      obtain rfl := Option.some.inj hs
      exact hI

/-- A message is published that the broker passes on to the local client. -/
private theorem reach_published {d : Daemon} (hd : (Daemon.system config.mqttTopicPrefix).Reach allowed d) {b : Broker}
    {msg : MqttMessage} (hvalid : ValidTopic msg.topic)
    (hreceivers : receivers (brokerOf brokerAt config) d b msg.topic = [.localSide]) :
    (system brokerAt config).Reach (Lift allowed) ⟨d, 1, [⟨0, .localSide, msg⟩], [], false⟩ := by
  have hquiet : (system brokerAt config).Reach (Lift allowed) ⟨d, 0, [], [], false⟩ := by
    refine hd.map (Network.mk · 0 [] [] false) (fun d hinit => ?_) fun d a d' ha hs => ?_
    · obtain rfl : d = {} := hinit
      rfl
    · exact .inr ⟨.daemon a, ha, Option.map_eq_some_iff.2 ⟨d', hs, rfl⟩⟩
  refine hquiet.step (a := .publish b msg) trivial ?_
  have hpass : pass (brokerOf brokerAt config) d 0 b msg = [⟨0, .localSide, msg⟩] :=
    congrArg (List.map _) hreceivers
  show Network.publish (brokerOf brokerAt config) b msg ⟨d, 0, [], [], false⟩ = _
  rw [Network.publish, if_neg (not_not.2 hvalid)]
  simp only [hpass, List.nil_append]

/-- It is handed over and the daemon publishes. -/
private theorem reach_delivered {d : Daemon} {msg : MqttMessage} {fs : List Nat}
    (h : (system brokerAt config).Reach (Lift Daemon.Succeeds) ⟨d, 1, [⟨0, .localSide, msg⟩], fs, false⟩)
    (hloops : d.loopsRunning = true) {out : Outgoing}
    (hsent : d.sentOn (fun _ => false) .localSide msg = [(.cloudSide, out)]) :
    (system brokerAt config).Reach (Lift Daemon.Succeeds) ⟨d, 1, pass (brokerOf brokerAt config) d 0
      (brokerOf brokerAt config .cloudSide) ⟨out.topic, out.payload⟩, fs ++ [0], false⟩ := by
  have hreach : (Daemon.system config.mqttTopicPrefix).Reach Daemon.Succeeds d := daemon_of_reach h
  have hlocal : Side.localSide = .cloudSide → d.callback = .idle := fun h => by cases h
  have hdangling : (d.callsOn (fun _ => false) .localSide msg).any Call.isDangling = false := by
    rw [List.any_eq_false]
    intro call hcall
    simp [Daemon.isDangling_eq_false hreach hloops hlocal (fun _ => false) msg call hcall]
  refine h.step (a := .deliver 0 (fun _ => false) true) trivial ?_
  show Network.deliver (brokerOf brokerAt config) 0 (fun _ => false) true
    ⟨d, 1, [⟨0, .localSide, msg⟩], fs, false⟩ = _
  simp [Network.deliver, hloops, hsent, hdangling]

/-- With the clients at different brokers, in every run in which the subscriptions of the connect callback succeed, a
message that a robot or the cloud publishes once is forwarded once at most, and what the daemon publishes for it is on
its way to none of the endpoints; nothing is called through an endpoint that is not there. -/
theorem forwarded_of_reach
    (hne : brokerAt config.mqttHost config.mqttPort ≠ brokerAt config.cloudMqttHost config.cloudMqttPort)
    (h : (system brokerAt config).Reach (Lift Daemon.Succeeds) s) (origin : Nat) :
    s.dangling = false ∧ s.forwarded.count origin ≤ 1 ∧
      (origin ∈ s.forwarded → ∀ m ∈ s.transit, m.origin ≠ origin) := by
  have honce := (single_of_reach hne h).once origin
  unfold copies at honce
  refine ⟨dangling_eq_false h, by omega, fun hforwarded m hm heq => ?_⟩
  have hcount : 0 < s.forwarded.count origin := List.count_pos_iff.2 hforwarded
  have htransit : 0 < s.transit.countP fun m => m.origin = origin :=
    List.countP_pos_iff.2 ⟨m, hm, decide_eq_true heq⟩
  omega

end

/-- Both clients have connected, and the broker of the local client passes the message on to it alone. -/
private def Receives (config : RuntimeConfig) (topic : String) (d : Daemon) : Bool :=
  d.loopsRunning && d.bridged &&
    receivers (brokerOf Prod.mk config) d (config.mqttHost, config.mqttPort) topic == [.localSide] &&
    (d.endpoint .localSide).any fun ep =>
      ep.topicTemplate.parseTopicContext topic "connection" == some ⟨"vda5050", "v3", "acme", "7"⟩

omit [JsonLibrary] [MosquittoLibrary] in
/-- A robot publishes, and the daemon is going to forward. -/
private theorem exists_published (config : RuntimeConfig) (hstart : config.mqttTopicPrefix = "vda5050/v3")
    (hrun : (replay (guarded (Daemon.step "vda5050/v3") Daemon.Succeeds) {} Daemon.connectedRun).any
      (Receives config "vda5050/v3/acme/7/connection") = true) :
    letI := JsonLibrary.ofTexts connectionTexts
    letI := MosquittoLibrary.levelwise
    ∃ d : Daemon, d.loopsRunning = true ∧
      receivers (brokerOf Prod.mk config) d (config.mqttHost, config.mqttPort) "vda5050/v3/acme/7/connection" =
        [.localSide] ∧
      d.sentOn (fun _ => false) .localSide ⟨"vda5050/v3/acme/7/connection", onlineText.2.1⟩ =
        [(.cloudSide, ⟨"vda5050/v3/acme/7/connection", onlineText.2.1, 1, false⟩)] ∧
      (system Prod.mk config).Reach (Lift Daemon.Succeeds)
        ⟨d, 1, [⟨0, .localSide, ⟨"vda5050/v3/acme/7/connection", onlineText.2.1⟩⟩], [], false⟩ := by
  let lib := JsonLibrary.ofTexts connectionTexts
  let mosquitto := MosquittoLibrary.levelwise
  obtain ⟨d, hd, hholds⟩ := (Option.any_eq_true _ _).1 hrun
  simp only [Receives, Bool.and_eq_true, Option.any_eq_true, beq_iff_eq] at hholds
  obtain ⟨⟨⟨hloops, hbridged⟩, hreceivers⟩, ep, hep, hcontext⟩ := hholds
  have hreach : (Daemon.system "vda5050/v3").Reach Daemon.Succeeds d := reach_of_replay (.init rfl) hd
  let msg : MqttMessage := ⟨"vda5050/v3/acme/7/connection", onlineText.2.1⟩
  have hvalid : ValidTopic msg.topic := by decide
  have hdecode : decode msg.payload = .ok acmeOnline := decode_acme.1
  have ht : MessageType.connection ∈ Side.localSide.types := by decide
  have hsent := Daemon.sentOn_uplink hreach.reachable hloops hbridged hep ht hvalid hcontext hdecode fun _ => false
  refine ⟨d, hloops, hreceivers, hsent, ?_⟩
  exact reach_published (hstart ▸ hreach) hvalid hreceivers

omit [JsonLibrary] [MosquittoLibrary] in
theorem forwarded_different_brokers :
    letI := JsonLibrary.ofTexts connectionTexts
    letI := MosquittoLibrary.levelwise
    ∃ s, (system Prod.mk {}).Reach (Lift Daemon.Succeeds) s ∧ s.forwarded = [0] ∧ s.dangling = false ∧
      ∀ m ∈ s.transit, m.origin ≠ 0 := by
  let lib := JsonLibrary.ofTexts connectionTexts
  let mosquitto := MosquittoLibrary.levelwise
  obtain ⟨d, hloops, -, hsent, hreach⟩ := exists_published {} rfl (by decide)
  have hdelivered := reach_delivered hreach hloops hsent
  have hne : Prod.mk "127.0.0.1" (1883 : UInt16) ≠ Prod.mk "127.0.0.1" (1884 : UInt16) := by decide
  obtain ⟨hdangling, -, htransit⟩ := forwarded_of_reach hne hdelivered 0
  exact ⟨_, hdelivered, rfl, hdangling, htransit List.mem_cons_self⟩

omit [JsonLibrary] [MosquittoLibrary] in
/-- At one broker the local endpoint gets what the daemon publishes for it, and so on without end. -/
private theorem forwarded_without_end :
    letI := JsonLibrary.ofTexts connectionTexts
    letI := MosquittoLibrary.levelwise
    ∀ n, ∃ s, (system Prod.mk { cloudMqttPort := 1883 }).Reach (Lift Daemon.Succeeds) s ∧ s.dangling = false ∧
      s.origins = 1 ∧ s.forwarded.count 0 = n := by
  let lib := JsonLibrary.ofTexts connectionTexts
  let mosquitto := MosquittoLibrary.levelwise
  intro n
  obtain ⟨d, hloops, hreceivers, hsent, hreach⟩ := exists_published { cloudMqttPort := 1883 } rfl (by decide)
  let msg : MqttMessage := ⟨"vda5050/v3/acme/7/connection", onlineText.2.1⟩
  have hpass : pass (brokerOf Prod.mk { cloudMqttPort := 1883 }) d 0 ("127.0.0.1", 1883) msg =
      [⟨0, .localSide, msg⟩] := congrArg (List.map _) hreceivers
  have hall : (system Prod.mk { cloudMqttPort := 1883 }).Reach (Lift Daemon.Succeeds)
      ⟨d, 1, [⟨0, .localSide, msg⟩], List.replicate n 0, false⟩ := by
    induction n with
    | zero => exact hreach
    | succ n ih =>
      have hdelivered := reach_delivered ih hloops hsent
      rw [List.replicate_succ']
      exact hpass ▸ hdelivered
  exact ⟨_, hall, rfl, rfl, by simp⟩

omit [JsonLibrary] [MosquittoLibrary] in
/-- A message that was published once is forwarded twice. -/
theorem forwarded_same_broker :
    letI := JsonLibrary.ofTexts connectionTexts
    letI := MosquittoLibrary.levelwise
    ∃ s, (system Prod.mk { cloudMqttPort := 1883 }).Reach (Lift Daemon.Succeeds) s ∧ s.dangling = false ∧
      s.origins = 1 ∧ s.forwarded.count 0 = 2 :=
  forwarded_without_end 2

end Network

end

end SyriusOrbit.Mqtt

import SyriusOrbit.Mqtt.Lifecycle
import Mathlib.Data.List.Nodup

/-!
# Routing tables

The tables of the two clients along the runs of the proxy.  As long as no endpoint is reset that has subscribed, the
table of a client has the entries with which the installed endpoint has subscribed so far (`live_of_reach`).
-/

namespace SyriusOrbit.Mqtt

open Vda5050 Transition

namespace VDA5050EndPoint

/-- What decides about the entries of an endpoint. -/
def plain (ep : VDA5050EndPoint) : VDA5050EndPoint :=
  { id := ep.id, side := ep.side, topicTemplate := ep.topicTemplate }

theorem plain_initSubscriber (ep : VDA5050EndPoint) : ep.initSubscriber.2.plain = ep.plain := by
  unfold initSubscriber
  split
  · rfl
  · split
    · rfl
    · split <;> rfl

theorem SameSetup.plain {ep ep' : VDA5050EndPoint} (h : ep.SameSetup ep') : ep'.plain = ep.plain := by
  rw [SameSetup] at h
  rw [h]
  rfl

end VDA5050EndPoint

namespace VDA5050Proxy

theorem subscriptions_setClient_self (s : VDA5050Proxy) (side : Side) (client : MqttSubscriber) :
    ((s.setClient side client).client side).subscriptions = client.subscriptions :=
  congrArg _ (Function.update_self ..)

/-- A client changes, but not its routing table. -/
theorem subscriptions_setClient {s : VDA5050Proxy} {side : Side} {client : MqttSubscriber}
    (hclient : client.subscriptions = (s.client side).subscriptions) (side' : Side) :
    ((s.setClient side client).client side').subscriptions = (s.client side').subscriptions := by
  by_cases hside : side' = side
  · subst hside
    exact (subscriptions_setClient_self ..).trans hclient
  · exact congrArg _ (Function.update_of_ne hside ..)

/-! ### The property -/

/-- The endpoints whose callbacks `handle_message` collects for a topic that matches some of the filters. -/
def recipients (s : VDA5050Proxy) (side : Side) (matched : String → Bool) : List Nat :=
  ((s.client side).subscriptions.filter fun entry => matched entry.topicFilter).map SubscriptionEntry.endpoint

/-- The routing table of each client has at most one entry for a filter, and only entries of the endpoint that is
installed; a message is passed to no other endpoint. -/
structure Live (s : VDA5050Proxy) : Prop where
  nodup : ∀ side, ((s.client side).subscriptions.map SubscriptionEntry.topicFilter).Nodup
  installed : ∀ side, ∀ entry ∈ (s.client side).subscriptions, ∃ ep, s.endpoint side = some ep ∧ entry.endpoint = ep.id
  handed : ∀ side matched, ∀ id ∈ s.recipients side matched, ∃ ep, s.endpoint side = some ep ∧ id = ep.id

/-- Whether the endpoint of a side is reset: by `stop`, or by the connect callback where a call of `Init` or the bridge
fails. -/
def resets (s : VDA5050Proxy) (side : Side) : ProxyAction → Bool
  | .reset => true
  | .initCloud => side = .cloudSide && (s.endpoint .cloudSide).any fun ep => !ep.initSubscriber.1
  | .subscribeCloud accepted =>
    match s.connect, s.endpoint .cloudSide with
    | .subscribing (t :: _), some ep =>
      side = .cloudSide && !(ep.subscribeNext (s.client .cloudSide) t accepted).1
    | _, _ => false
  | .setupBridge =>
    match s.endpoint .localSide, s.endpoint .cloudSide with
    | some localEp, some cloudEp =>
      side = .cloudSide && !((Daemon.bridgeLocalToCloud localEp).1 && (Daemon.bridgeCloudToLocal cloudEp).1)
    | _, _ => side = .cloudSide
  | _ => false

/-- No endpoint is reset that has subscribed. -/
def NoResetSubscribed (s : VDA5050Proxy) (a : ProxyAction) : Prop :=
  ∀ side ∈ [Side.localSide, .cloudSide], s.resets side a = true → (s.client side).subscriptions = []

instance (s : VDA5050Proxy) (a : ProxyAction) : Decidable (s.NoResetSubscribed a) :=
  inferInstanceAs (Decidable (∀ side ∈ [Side.localSide, .cloudSide], _ → _))

variable {s s' : VDA5050Proxy}

private theorem resets_setupBridge
    (hfailed : ∀ localEp cloudEp, s.endpoint .localSide = some localEp → s.endpoint .cloudSide = some cloudEp →
      (Daemon.bridgeLocalToCloud localEp).1 = false ∨ (Daemon.bridgeCloudToLocal cloudEp).1 = false) :
    s.resets .cloudSide .setupBridge = true := by
  unfold resets
  dsimp only
  split
  · next localEp cloudEp hlocal hcloud =>
    have hfalse := hfailed localEp cloudEp hlocal hcloud
    simpa [Bool.and_eq_false_iff] using hfalse
  · rfl

/-! ### The entries of the installed endpoints -/

/-- What decides about the entries of the endpoint of a side. -/
def owner (s : VDA5050Proxy) (side : Side) : Option VDA5050EndPoint := (s.endpoint side).map VDA5050EndPoint.plain

theorem owner_setEndpoint (s : VDA5050Proxy) (side : Side) (endpoint : Option VDA5050EndPoint) :
    (s.setEndpoint side endpoint).owner =
      Function.update s.owner side (endpoint.map VDA5050EndPoint.plain) := by
  funext side'
  by_cases hside : side' = side
  · subst hside
    simp [owner, setEndpoint]
  · simp [owner, setEndpoint, Function.update_of_ne hside]

/-- The endpoint of a side changes, but not what decides about its entries. -/
theorem owner_kept {side : Side} {ep ep' : VDA5050EndPoint} (hep : s.endpoint side = some ep)
    (hplain : ep'.plain = ep.plain) : (s.setEndpoint side (some ep')).owner = s.owner := by
  have hkept : s.owner side = some ep'.plain := by simp [owner, hep, hplain]
  rw [owner_setEndpoint, Option.map_some, ← hkept]
  exact Function.update_eq_self side s.owner

theorem owner_initialized (s : VDA5050Proxy) (side : Side) (ep : VDA5050EndPoint) :
    (s.setEndpoint side (some ep.initSubscriber.2)).owner = Function.update s.owner side (some ep.plain) := by
  rw [owner_setEndpoint, Option.map_some, ep.plain_initSubscriber]

theorem owner_bridgeLocalToCloud {localEp : VDA5050EndPoint} (hlocal : s.endpoint .localSide = some localEp) :
    (s.setEndpoint .localSide (some (Daemon.bridgeLocalToCloud localEp).2)).owner = s.owner :=
  owner_kept hlocal (Daemon.sameSetup_bridgeLocalToCloud localEp).plain

theorem owner_bridged {localEp cloudEp : VDA5050EndPoint} (hlocal : s.endpoint .localSide = some localEp)
    (hcloud : s.endpoint .cloudSide = some cloudEp) :
    ((s.setEndpoint .localSide (some (Daemon.bridgeLocalToCloud localEp).2)).setEndpoint .cloudSide
      (some (Daemon.bridgeCloudToLocal cloudEp).2)).owner = s.owner := by
  have hne : Side.cloudSide ≠ .localSide := by simp
  have hcloud' := (endpoint_setEndpoint_of_ne hne s (some (Daemon.bridgeLocalToCloud localEp).2)).trans hcloud
  exact (owner_kept hcloud' (Daemon.sameSetup_bridgeCloudToLocal cloudEp).plain).trans (owner_bridgeLocalToCloud hlocal)

theorem owner_stopEndpoints (s : VDA5050Proxy) : s.stopEndpoints.owner = s.owner := by
  funext side
  unfold owner stopEndpoints
  rw [Option.map_map]
  rfl

/-- The types that the endpoint of a side has yet to subscribe to, while that is in progress. -/
def pending (s : VDA5050Proxy) : Side → Option (List MessageType)
  | .localSide =>
    match s.call with
    | .subscribing rest => some rest
    | _ => none
  | .cloudSide =>
    match s.connect with
    | .idle => none
    | .created => some Side.cloudSide.types
    | .subscribing rest => some rest

/-- There is no local endpoint at this point. -/
def early (s : VDA5050Proxy) : Bool :=
  match s.call with
  | .idle => !s.running
  | .libraryInitialized | .configured | .connected => true
  | _ => false

/-- The table of each client has the entries with which its endpoint has subscribed so far. -/
structure Owned (s : VDA5050Proxy) : Prop where
  side_eq : ∀ side ep, s.owner side = some ep → ep.side = side
  vacant : ∀ side, s.owner side = none → (s.client side).subscriptions = []
  listed : ∀ side ep, s.owner side = some ep → ∃ done, (s.client side).subscriptions = done.map ep.entry ∧
    done <+: side.types ∧ ∀ rest, s.pending side = some rest → done ++ rest = side.types
  early : s.early = true → s.owner .localSide = none

theorem Owned.nodup (h : s.Owned) (side : Side) :
    ((s.client side).subscriptions.map SubscriptionEntry.topicFilter).Nodup := by
  cases hep : s.owner side with
  | none =>
    rw [h.vacant side hep]
    exact List.nodup_nil
  | some ep =>
    obtain ⟨done, hentries, hdone, -⟩ := h.listed side ep hep
    have hfilters : (done.map ep.entry).map SubscriptionEntry.topicFilter = done.map ep.filter := List.map_map ..
    rw [hentries, hfilters]
    exact ((nodup_types side).sublist hdone.sublist).map ep.filter_injective

theorem Owned.installed (h : s.Owned) {side : Side} {entry : SubscriptionEntry}
    (hentry : entry ∈ (s.client side).subscriptions) : ∃ ep, s.endpoint side = some ep ∧ entry.endpoint = ep.id := by
  cases hep : s.endpoint side with
  | none =>
    rw [h.vacant side (by simp [owner, hep])] at hentry
    cases hentry
  | some ep =>
    obtain ⟨done, hentries, -, -⟩ := h.listed side ep.plain (by simp [owner, hep])
    rw [hentries] at hentry
    obtain ⟨t, -, rfl⟩ := List.mem_map.1 hentry
    exact ⟨ep, rfl, rfl⟩

private theorem Owned.live (h : s.Owned) : s.Live := by
  refine ⟨h.nodup, fun side entry => h.installed, fun side matched id hid => ?_⟩
  obtain ⟨entry, hentry, rfl⟩ := List.mem_map.1 hid
  exact h.installed (List.mem_of_mem_filter hentry)

namespace Owned

theorem congr (h : s.Owned) (howner : s'.owner = s.owner)
    (hsubscriptions : ∀ side, (s'.client side).subscriptions = (s.client side).subscriptions)
    (hpending : ∀ side rest, s'.pending side = some rest → s.pending side = some rest)
    (hearly : s'.early = true → s.early = true) : s'.Owned where
  side_eq := howner ▸ h.side_eq
  vacant side hnone := by
    rw [hsubscriptions]
    exact h.vacant side (howner ▸ hnone)
  listed side ep hep := by
    obtain ⟨done, hentries, hdone, hrest⟩ := h.listed side ep (howner ▸ hep)
    exact ⟨done, (hsubscriptions side).trans hentries, hdone, fun rest hr => hrest rest (hpending side rest hr)⟩
  early he := howner ▸ h.early (hearly he)

/-- An endpoint is installed where there was none. -/
private theorem install (h : s.Owned) {side : Side} (ep : VDA5050EndPoint) (hside : ep.side = side)
    (hnone : s.owner side = none) (howner : s'.owner = Function.update s.owner side (some ep))
    (hsubscriptions : ∀ side, (s'.client side).subscriptions = (s.client side).subscriptions)
    (hfirst : ∀ rest, s'.pending side = some rest → rest = side.types)
    (hpending : ∀ side', side' ≠ side → s'.pending side' = s.pending side')
    (hearly : s'.early = true → s.early = true ∧ side ≠ .localSide) : s'.Owned := by
  have hself : s'.owner side = some ep := by rw [howner, Function.update_self]
  have hother : ∀ side', side' ≠ side → s'.owner side' = s.owner side' := fun side' hne => by
    rw [howner, Function.update_of_ne hne]
  refine ⟨fun side' ep' hep' => ?_, fun side' hnone' => ?_, fun side' ep' hep' => ?_, fun he => ?_⟩
  · by_cases hne : side' = side
    · subst hne
      rw [← Option.some.inj (hself.symm.trans hep'), hside]
    · exact h.side_eq side' ep' ((hother side' hne).symm.trans hep')
  · by_cases hne : side' = side
    · subst hne
      cases hself.symm.trans hnone'
    · rw [hsubscriptions]
      exact h.vacant side' ((hother side' hne).symm.trans hnone')
  · by_cases hne : side' = side
    · subst hne
      refine ⟨[], ?_, List.nil_prefix, fun rest hr => hfirst rest hr⟩
      rw [hsubscriptions, h.vacant side' hnone, List.map_nil]
    · obtain ⟨done, hentries, hdone, hrest⟩ := h.listed side' ep' ((hother side' hne).symm.trans hep')
      exact ⟨done, (hsubscriptions side').trans hentries, hdone, fun rest hr => hrest rest (hpending side' hne ▸ hr)⟩
  · obtain ⟨he, hne⟩ := hearly he
    exact (hother .localSide hne.symm).trans (h.early he)

/-- The cloud endpoint is reset with an empty table. -/
private theorem remove (h : s.Owned) (hempty : (s.client .cloudSide).subscriptions = [])
    (howner : s'.owner = Function.update s.owner .cloudSide none)
    (hsubscriptions : ∀ side, (s'.client side).subscriptions = (s.client side).subscriptions)
    (hcall : s'.call = s.call) (hrunning : s'.running = s.running) : s'.Owned := by
  have hne : Side.localSide ≠ .cloudSide := by simp
  have hlocal : s'.owner .localSide = s.owner .localSide := by rw [howner, Function.update_of_ne hne]
  have hcloud : s'.owner .cloudSide = none := by rw [howner, Function.update_self]
  refine ⟨fun side ep hep => ?_, fun side hnone => ?_, fun side ep hep => ?_, fun he => ?_⟩
  · cases side with
    | localSide => exact h.side_eq _ ep (hlocal.symm.trans hep)
    | cloudSide => cases hcloud.symm.trans hep
  · rw [hsubscriptions]
    cases side with
    | localSide => exact h.vacant _ (hlocal.symm.trans hnone)
    | cloudSide => exact hempty
  · cases side with
    | localSide =>
      obtain ⟨done, hentries, hdone, hrest⟩ := h.listed _ ep (hlocal.symm.trans hep)
      refine ⟨done, (hsubscriptions _).trans hentries, hdone, fun rest hr => hrest rest ?_⟩
      rwa [pending, hcall] at hr
    | cloudSide => cases hcloud.symm.trans hep
  · rw [hlocal]
    refine h.early ?_
    rwa [VDA5050Proxy.early, hcall, hrunning] at he

/-- The endpoint of a side subscribes to the next type. -/
theorem subscribe (h : s.Owned) {side : Side} {ep : VDA5050EndPoint} {t : MessageType} {rest : List MessageType}
    (hep : s.owner side = some ep) (hnext : s.pending side = some (t :: rest)) (howner : s'.owner = s.owner)
    (hself : (s'.client side).subscriptions = (s.client side).subscriptions ++ [ep.entry t])
    (hother : ∀ side', side' ≠ side → (s'.client side').subscriptions = (s.client side').subscriptions)
    (hrest : s'.pending side = some rest) (hpending : ∀ side', side' ≠ side → s'.pending side' = s.pending side')
    (hearly : s'.early = true → s.early = true) : s'.Owned := by
  refine ⟨howner ▸ h.side_eq, fun side' hnone => ?_, fun side' ep' hep' => ?_, fun he => howner ▸ h.early (hearly he)⟩
  · rw [howner] at hnone
    have hne : side' ≠ side := by
      rintro rfl
      cases hep.symm.trans hnone
    rw [hother side' hne]
    exact h.vacant side' hnone
  · rw [howner] at hep'
    obtain ⟨done, hentries, hdone, hall⟩ := h.listed side' ep' hep'
    by_cases hne : side' = side
    · subst hne
      obtain rfl := Option.some.inj (hep.symm.trans hep')
      have hsplit : (done ++ [t]) ++ rest = side'.types := by
        rw [List.append_assoc]
        exact hall _ hnext
      refine ⟨done ++ [t], ?_, ⟨rest, hsplit⟩, fun rest' hr => ?_⟩
      · rw [hself, hentries, List.map_append]
        rfl
      · rw [← Option.some.inj (hrest.symm.trans hr)]
        exact hsplit
    · exact ⟨done, (hother side' hne).trans hentries, hdone, fun rest hr => hall rest (hpending side' hne ▸ hr)⟩

/-- A step of `start` or `stop` after which the local endpoint does not subscribe. -/
theorem advance (h : s.Owned) (howner : s'.owner = s.owner)
    (hsubscriptions : ∀ side, (s'.client side).subscriptions = (s.client side).subscriptions)
    (hpending : s'.pending .localSide = none) (hconnect : s'.connect = s.connect ∨ s'.connect = .idle)
    (hearly : s'.early = false ∨ s.early = true) : s'.Owned := by
  refine h.congr howner hsubscriptions (fun side rest hr => ?_) fun he => hearly.resolve_left (by simp [he])
  cases side with
  | localSide => cases hpending.symm.trans hr
  | cloudSide =>
    unfold pending at hr ⊢
    rcases hconnect with heq | hidle
    · rwa [heq] at hr
    · rw [hidle] at hr
      cases hr

/-- The endpoints are stopped. -/
theorem stopEndpoints (h : s.Owned) : s.stopEndpoints.Owned :=
  h.advance (owner_stopEndpoints s) (fun _ => rfl) rfl (.inl rfl) (.inl rfl)

/-- A client changes, but not its routing table. -/
theorem link (h : s.Owned) {side : Side} {client : MqttSubscriber}
    (hclient : client.subscriptions = (s.client side).subscriptions) : (s.setClient side client).Owned :=
  h.congr rfl (subscriptions_setClient hclient) (fun _ _ => id) id

/-- The local endpoint is created. -/
theorem createLocal (h : s.Owned) (hcall : s.call = .connected) {topicTemplate : VDA5050TopicContext}
    {ep : VDA5050EndPoint} (hep : ep = s.newEndpoint .localSide topicTemplate)
    (howner : s'.owner = (s.setEndpoint .localSide (some ep.initSubscriber.2)).owner)
    (hclient : s'.client = s.client)
    (hfirst : ∀ rest, s'.pending .localSide = some rest → rest = Side.localSide.types)
    (hconnect : s'.connect = s.connect) (hearly : s'.early = false) : s'.Owned := by
  have hnone : s.owner .localSide = none := h.early (by simp [VDA5050Proxy.early, hcall])
  have hnew : s'.owner = Function.update s.owner .localSide (some (s.newEndpoint .localSide topicTemplate)) := by
    rw [howner, owner_initialized, hep]
    rfl
  have hside : (s.newEndpoint .localSide topicTemplate).side = .localSide := rfl
  refine h.install (s.newEndpoint .localSide topicTemplate) hside hnone hnew (fun side => by rw [hclient])
    hfirst (fun side hne => ?_) (by simp [hearly])
  obtain rfl := Side.eq_cloudSide hne
  unfold pending
  rw [hconnect]

theorem step {a : ProxyAction} (h : s.Owned) (ha : s.NoResetSubscribed a) (hs : s.step a = some s') : s'.Owned := by
  cases outcome_of_step hs with
  | initialized => exact h.congr rfl (fun _ => rfl) (fun _ _ => id) id
  | returned => exact h
  | libraryInitialized hcall _ hrunning =>
    exact h.advance rfl (fun _ => rfl) rfl (.inl rfl) (.inr (by simp [VDA5050Proxy.early, hcall, hrunning]))
  | configureFailed hcall hlocal =>
    obtain rfl | rfl := hlocal
    · exact h.stopEndpoints
    · have hlink : (s.setClient .localSide (s.client .localSide).disconnected).Owned := h.link rfl
      exact hlink.stopEndpoints
  | configured hcall =>
    have hlocal : (s.setClient .localSide (s.client .localSide).disconnected).Owned := h.link rfl
    have hboth : ((s.setClient .localSide (s.client .localSide).disconnected).setClient .cloudSide
      (s.client .cloudSide).disconnected).Owned := hlocal.link rfl
    exact hboth.advance rfl (fun _ => rfl) rfl (.inl rfl) (.inr (by simp [VDA5050Proxy.early, setClient, hcall]))
  | connectFailed => exact h.stopEndpoints
  | localConnecting hcall =>
    have hlink : (s.setClient .localSide { s.client .localSide with link := .pending }).Owned := h.link rfl
    exact hlink.advance rfl (fun _ => rfl) rfl (.inl rfl) (.inr (by simp [VDA5050Proxy.early, setClient, hcall]))
  | localInitFailed hcall hep =>
    exact h.createLocal hcall hep (owner_stopEndpoints _) rfl (fun rest hr => by cases hr) rfl rfl
  | localCreated hcall hep =>
    exact h.createLocal hcall hep rfl rfl (fun rest hr => (Option.some.inj hr).symm) rfl rfl
  | @localSubscribed _ t rest ep client hcall hep hsubscribed =>
    have howner : s.owner .localSide = some ep.plain := by simp [owner, hep]
    have hnext : s.pending .localSide = some (t :: rest) := by simp [pending, hcall]
    refine h.subscribe howner hnext rfl ?_ (fun side hne => ?_) rfl (fun side hne => ?_)
      fun he => absurd he Bool.false_ne_true
    · exact (subscriptions_setClient_self ..).trans (ep.subscriptions_subscribeNext hsubscribed)
    · exact congrArg _ (Function.update_of_ne hne ..)
    · obtain rfl := Side.eq_cloudSide hne
      rfl
  | localSubscribeFailed => exact h.stopEndpoints
  | localLoopFailed => exact h.stopEndpoints
  | localLooping => exact h.advance rfl (fun _ => rfl) rfl (.inl rfl) (.inl rfl)
  | cloudLooping => exact h.advance rfl (fun _ => rfl) rfl (.inl rfl) (.inl rfl)
  | started => exact h.advance rfl (fun _ => rfl) rfl (.inl rfl) (.inl rfl)
  | stopped => exact h.stopEndpoints
  | disconnected => exact h.advance rfl (fun _ => rfl) rfl (.inl rfl) (.inl rfl)
  | joined => exact h.advance rfl (fun _ => rfl) rfl (.inr rfl) (.inl rfl)
  | endpointsReset =>
    refine ⟨fun side ep hep => ?_, fun side _ => ?_, fun side ep hep => ?_, fun _ => rfl⟩
    · cases hep
    · exact ha side (by cases side <;> simp) rfl
    · cases hep
  | connecting => exact h.link rfl
  | lost => exact h.link rfl
  | refused => exact h.link rfl
  | connected => exact h.link rfl
  | @cloudCreated topicTemplate _ hidle hnone =>
    have hlink : (s.setClient .cloudSide { s.client .cloudSide with link := .up }).Owned := h.link rfl
    have hvacant : s.owner .cloudSide = none := congrArg (Option.map VDA5050EndPoint.plain) hnone
    have hside : (s.newEndpoint .cloudSide topicTemplate).side = .cloudSide := rfl
    refine hlink.install (s.newEndpoint .cloudSide topicTemplate) hside hvacant (owner_setEndpoint _ .cloudSide _)
      (fun _ => rfl) (fun rest hr => (Option.some.inj hr).symm) (fun side hne => ?_) fun he => ⟨he, by simp⟩
    obtain rfl := Side.eq_localSide hne
    rfl
  | cloudInitFailed _ hep hfailed =>
    have hempty := ha .cloudSide (by simp) (by simp [resets, hep, hfailed])
    exact h.remove hempty (owner_setEndpoint s .cloudSide none) (fun _ => rfl) rfl rfl
  | @cloudInitialized ep hconnect hep =>
    refine h.congr (owner_kept hep ep.plain_initSubscriber) (fun _ => rfl) (fun side rest hr => ?_) id
    cases side with
    | localSide => exact hr
    | cloudSide => rwa [pending, hconnect]
  | @cloudSubscribed _ t rest ep client hconnect hep hsubscribed =>
    have howner : s.owner .cloudSide = some ep.plain := by simp [owner, hep]
    have hnext : s.pending .cloudSide = some (t :: rest) := by simp [pending, hconnect]
    refine h.subscribe howner hnext rfl ?_ (fun side hne => ?_) rfl (fun side hne => ?_) id
    · exact (subscriptions_setClient_self ..).trans (ep.subscriptions_subscribeNext hsubscribed)
    · exact congrArg _ (Function.update_of_ne hne ..)
    · obtain rfl := Side.eq_localSide hne
      rfl
  | cloudSubscribeFailed hconnect hep hfailed =>
    have hempty := ha .cloudSide (by simp) (by simp [resets, hconnect, hep, hfailed])
    exact h.remove hempty (owner_setEndpoint s .cloudSide none) (fun _ => rfl) rfl rfl
  | bridged _ hlocal hcloud =>
    refine h.congr (owner_bridged hlocal hcloud) (fun _ => rfl) (fun side rest hr => ?_) id
    cases side with
    | localSide => exact hr
    | cloudSide => cases hr
  | bridgeFailed _ hlocal hfailed =>
    have hempty := ha .cloudSide (by simp) (resets_setupBridge hfailed)
    obtain rfl | ⟨localEp, hlocal, rfl⟩ := hlocal
    · exact h.remove hempty (owner_setEndpoint _ .cloudSide none) (fun _ => rfl) rfl rfl
    · have hregistered : (s.setEndpoint .localSide (some (Daemon.bridgeLocalToCloud localEp).2)).Owned :=
        h.congr (owner_bridgeLocalToCloud hlocal) (fun _ => rfl) (fun _ _ => id) id
      exact hregistered.remove hempty (owner_setEndpoint _ .cloudSide none) (fun _ => rfl) rfl rfl

end Owned

/-- The tables are right in every run in which no endpoint is reset that has subscribed. -/
theorem live_of_reach (h : system.Reach NoResetSubscribed s) : s.Live := by
  have howned : s.Owned := by
    refine h.invariant (fun s₀ h₀ => ?_) fun _ _ _ _ howned ha hs => howned.step ha hs
    obtain rfl : s₀ = {} := h₀
    exact ⟨nofun, fun _ _ => rfl, nofun, fun _ => rfl⟩
  exact howned.live

end VDA5050Proxy

end SyriusOrbit.Mqtt

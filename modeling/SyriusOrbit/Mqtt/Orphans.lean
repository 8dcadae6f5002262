import SyriusOrbit.Mqtt.Routing

/-!
# Entries of endpoints that are gone

Nothing is ever removed from the routing table of a client, and no two endpoints have the same id.  From the first reset
of an endpoint that has subscribed on there is an entry of an endpoint that is gone (`reach_or_orphaned`), and so the
tables are right exactly as long as there is no such reset (`live_iff_reach`).
-/

namespace SyriusOrbit.Mqtt

open Vda5050 Transition

namespace VDA5050Proxy

variable {s s' : VDA5050Proxy}

/-! ### What a step does to the tables -/

/-- Tables only grow, by entries of the installed endpoint, and a new endpoint has a new id. -/
structure Grows (s s' : VDA5050Proxy) : Prop where
  allocated : s.allocated ≤ s'.allocated
  tables : ∀ side, ∃ new, (s'.client side).subscriptions = (s.client side).subscriptions ++ new ∧
    ∀ entry ∈ new, ∃ ep, s.owner side = some ep ∧ entry.endpoint = ep.id
  endpoints : ∀ side ep, s'.owner side = some ep →
    s.owner side = some ep ∨ ep.id = s.allocated ∧ s.allocated < s'.allocated

namespace Grows

private theorem of_kept (hsubscriptions : ∀ side, (s'.client side).subscriptions = (s.client side).subscriptions)
    (howner : ∀ side ep, s'.owner side = some ep → s.owner side = some ep) (hallocated : s'.allocated = s.allocated) :
    s.Grows s' where
  allocated := hallocated.ge
  tables side := ⟨[], by rw [hsubscriptions, List.append_nil], by simp⟩
  endpoints side ep hep := .inl (howner side ep hep)

private theorem of_removed {side : Side}
    (hsubscriptions : ∀ side, (s'.client side).subscriptions = (s.client side).subscriptions)
    (howner : s'.owner = Function.update s.owner side none) (hallocated : s'.allocated = s.allocated) : s.Grows s' := by
  refine .of_kept hsubscriptions (fun side' ep hep => ?_) hallocated
  by_cases hside : side' = side
  · subst hside
    rw [howner, Function.update_self] at hep
    cases hep
  · rwa [howner, Function.update_of_ne hside] at hep

private theorem of_created {side : Side} {ep : VDA5050EndPoint}
    (hsubscriptions : ∀ side, (s'.client side).subscriptions = (s.client side).subscriptions)
    (howner : s'.owner = Function.update s.owner side (some ep)) (hid : ep.id = s.allocated)
    (hallocated : s'.allocated = s.allocated + 1) : s.Grows s' where
  allocated := by omega
  tables side := ⟨[], by rw [hsubscriptions, List.append_nil], by simp⟩
  endpoints side' ep' hep' := by
    by_cases hside : side' = side
    · subst hside
      rw [howner, Function.update_self] at hep'
      obtain rfl := Option.some.inj hep'
      exact .inr ⟨hid, by omega⟩
    · rw [howner, Function.update_of_ne hside] at hep'
      exact .inl hep'

private theorem of_subscribed {side : Side} {ep : VDA5050EndPoint} {t : MessageType} {client : MqttSubscriber}
    (hep : s.endpoint side = some ep) (hclient : client.subscriptions = (s.client side).subscriptions ++ [ep.entry t]) :
    s.Grows (s.setClient side client) where
  allocated := le_rfl
  tables side' := by
    by_cases hside : side' = side
    · subst hside
      refine ⟨[ep.entry t], (subscriptions_setClient_self ..).trans hclient, fun entry hentry => ?_⟩
      rw [List.mem_singleton.1 hentry]
      exact ⟨ep.plain, by simp [owner, hep], rfl⟩
    · exact ⟨[], by simp [setClient, Function.update_of_ne hside], by simp⟩
  endpoints _ _ hep := .inl hep

private theorem of_owner (hsubscriptions : ∀ side, (s'.client side).subscriptions = (s.client side).subscriptions)
    (howner : s'.owner = s.owner) (hallocated : s'.allocated = s.allocated) : s.Grows s' :=
  .of_kept hsubscriptions (fun _ _ hep => howner ▸ hep) hallocated

private theorem of_step {a : ProxyAction} (hs : s.step a = some s') : s.Grows s' := by
  cases outcome_of_step hs with
  | initialized => exact .of_owner (fun _ => rfl) rfl rfl
  | returned => exact .of_owner (fun _ => rfl) rfl rfl
  | libraryInitialized => exact .of_owner (fun _ => rfl) rfl rfl
  | configureFailed _ hlocal =>
    obtain rfl | rfl := hlocal
    · exact .of_owner (fun _ => rfl) (owner_stopEndpoints _) rfl
    · exact .of_owner (subscriptions_setClient rfl) (owner_stopEndpoints _) rfl
  | configured =>
    have hlocal : (s.client .localSide).disconnected.subscriptions = (s.client .localSide).subscriptions := rfl
    have hcloud : (s.client .cloudSide).disconnected.subscriptions =
      ((s.setClient .localSide (s.client .localSide).disconnected).client .cloudSide).subscriptions := rfl
    refine .of_owner (fun side => ?_) rfl rfl
    exact (subscriptions_setClient hcloud side).trans (subscriptions_setClient hlocal side)
  | connectFailed => exact .of_owner (fun _ => rfl) (owner_stopEndpoints _) rfl
  | localConnecting => exact .of_owner (subscriptions_setClient rfl) rfl rfl
  | @localInitFailed ep _ _ hep =>
    have hid : ep.plain.id = s.allocated := by rw [hep]; rfl
    have howner : (s.setEndpoint .localSide (some ep.initSubscriber.2)).stopEndpoints.owner =
        Function.update s.owner .localSide (some ep.plain) :=
      (owner_stopEndpoints _).trans (owner_initialized s .localSide ep)
    exact .of_created (fun _ => rfl) howner hid rfl
  | @localCreated ep _ _ hep =>
    have hid : ep.plain.id = s.allocated := by rw [hep]; rfl
    exact .of_created (fun _ => rfl) (owner_initialized s .localSide ep) hid rfl
  | localSubscribed _ hep hsubscribed =>
    have hgrows := of_subscribed hep (VDA5050EndPoint.subscriptions_subscribeNext _ hsubscribed)
    exact ⟨hgrows.allocated, hgrows.tables, hgrows.endpoints⟩
  | localSubscribeFailed => exact .of_owner (fun _ => rfl) (owner_stopEndpoints _) rfl
  | localLoopFailed => exact .of_owner (fun _ => rfl) (owner_stopEndpoints _) rfl
  | localLooping => exact .of_owner (fun _ => rfl) rfl rfl
  | cloudLooping => exact .of_owner (fun _ => rfl) rfl rfl
  | started => exact .of_owner (fun _ => rfl) rfl rfl
  | stopped => exact .of_owner (fun _ => rfl) (owner_stopEndpoints _) rfl
  | disconnected => exact .of_owner (fun _ => rfl) rfl rfl
  | joined => exact .of_owner (fun _ => rfl) rfl rfl
  | endpointsReset => exact .of_kept (fun _ => rfl) (fun _ _ hep => by cases hep) rfl
  | connecting => exact .of_owner (subscriptions_setClient rfl) rfl rfl
  | lost => exact .of_owner (subscriptions_setClient rfl) rfl rfl
  | refused => exact .of_owner (subscriptions_setClient rfl) rfl rfl
  | connected => exact .of_owner (subscriptions_setClient rfl) rfl rfl
  | @cloudCreated topicTemplate =>
    have hid : (s.newEndpoint .cloudSide topicTemplate).id = s.allocated := rfl
    exact .of_created (subscriptions_setClient rfl) (owner_setEndpoint _ .cloudSide _) hid rfl
  | cloudInitFailed => exact .of_removed (fun _ => rfl) (owner_setEndpoint s .cloudSide none) rfl
  | @cloudInitialized ep _ hep => exact .of_owner (fun _ => rfl) (owner_kept hep ep.plain_initSubscriber) rfl
  | cloudSubscribed _ hep hsubscribed =>
    have hgrows := of_subscribed hep (VDA5050EndPoint.subscriptions_subscribeNext _ hsubscribed)
    exact ⟨hgrows.allocated, hgrows.tables, hgrows.endpoints⟩
  | cloudSubscribeFailed => exact .of_removed (fun _ => rfl) (owner_setEndpoint s .cloudSide none) rfl
  | bridged _ hlocal hcloud => exact .of_owner (fun _ => rfl) (owner_bridged hlocal hcloud) rfl
  | bridgeFailed _ hlocal =>
    obtain rfl | ⟨localEp, hlocal, rfl⟩ := hlocal
    · exact .of_removed (fun _ => rfl) (owner_setEndpoint _ .cloudSide none) rfl
    · have howner := owner_bridgeLocalToCloud hlocal
      exact .of_removed (fun _ => rfl) (howner ▸ owner_setEndpoint _ .cloudSide none) rfl

end Grows

/-! ### Entries of other endpoints -/

/-- The ids that occur are those of endpoints that have been created. -/
structure Numbered (s : VDA5050Proxy) : Prop where
  entries : ∀ side, ∀ entry ∈ (s.client side).subscriptions, entry.endpoint < s.allocated
  endpoints : ∀ side ep, s.owner side = some ep → ep.id < s.allocated

theorem Numbered.step {a : ProxyAction} (h : s.Numbered) (hs : s.step a = some s') : s'.Numbered := by
  have hgrows := Grows.of_step hs
  have hle := hgrows.allocated
  refine ⟨fun side entry hentry => ?_, fun side ep hep => ?_⟩
  · obtain ⟨new, htable, hnew⟩ := hgrows.tables side
    rw [htable, List.mem_append] at hentry
    rcases hentry with hold | hentry
    · have hlt := h.entries side entry hold
      omega
    · obtain ⟨ep, hep, hid⟩ := hnew entry hentry
      have hlt := h.endpoints side ep hep
      omega
  · rcases hgrows.endpoints side ep hep with hold | ⟨hid, hlt⟩
    · have hlt := h.endpoints side ep hold
      omega
    · omega

/-- A table has an entry of an endpoint that is not installed and will not be. -/
def Orphaned (s : VDA5050Proxy) : Prop :=
  ∃ side, ∃ entry ∈ (s.client side).subscriptions, entry.endpoint < s.allocated ∧
    ∀ ep, s.owner side = some ep → ep.id ≠ entry.endpoint

theorem Orphaned.step {a : ProxyAction} (h : s.Orphaned) (hs : s.step a = some s') : s'.Orphaned := by
  obtain ⟨side, entry, hentry, hlt, hgone⟩ := h
  have hgrows := Grows.of_step hs
  obtain ⟨new, htable, -⟩ := hgrows.tables side
  refine ⟨side, entry, ?_, lt_of_lt_of_le hlt hgrows.allocated, fun ep hep => ?_⟩
  · rw [htable]
    exact List.mem_append_left new hentry
  · rcases hgrows.endpoints side ep hep with hold | ⟨hid, -⟩
    · exact hgone ep hold
    · omega

private theorem Orphaned.not_live (h : s.Orphaned) : ¬s.Live := by
  obtain ⟨side, entry, hentry, -, hgone⟩ := h
  intro hlive
  obtain ⟨ep, hep, hid⟩ := hlive.installed side entry hentry
  exact hgone ep.plain (by simp [owner, hep]) hid.symm

/-! ### Resets -/

/-- A step that resets the endpoint of a side removes nothing from the table of its client. -/
private theorem removed_of_resets {a : ProxyAction} {side : Side} (hs : s.step a = some s')
    (hresets : s.resets side a = true) :
    s'.owner side = none ∧ (s'.client side).subscriptions = (s.client side).subscriptions := by
  cases outcome_of_step hs with
  | endpointsReset => exact ⟨rfl, rfl⟩
  | cloudInitFailed _ hep =>
    simp only [resets, Bool.and_eq_true, decide_eq_true_eq] at hresets
    obtain ⟨rfl, -⟩ := hresets
    exact ⟨by simp [owner, setEndpoint], rfl⟩
  | cloudInitialized _ hep hinit => simp [resets, hep, hinit] at hresets
  | cloudSubscribed hconnect hep hsubscribed => simp [resets, hconnect, hep, hsubscribed] at hresets
  | cloudSubscribeFailed hconnect hep =>
    simp only [resets, hconnect, hep, Bool.and_eq_true, decide_eq_true_eq] at hresets
    obtain ⟨rfl, -⟩ := hresets
    exact ⟨by simp [owner, setEndpoint], rfl⟩
  | bridged _ hlocal hcloud htoCloud htoLocal => simp [resets, hlocal, hcloud, htoCloud, htoLocal] at hresets
  | @bridgeFailed s₁ _ hlocal =>
    have hside : side = .cloudSide := by
      unfold resets at hresets
      dsimp only at hresets
      split at hresets <;> simp_all
    have hclient : s₁.client = s.client := by
      obtain rfl | ⟨localEp, -, rfl⟩ := hlocal <;> rfl
    rw [hside]
    exact ⟨by simp [owner, setEndpoint], congrArg (fun client => (client .cloudSide).subscriptions) hclient⟩
  | _ => cases hresets

/-- The endpoint of a side is gone after a step that resets it, but its entries are not. -/
private theorem orphaned_of_resets {a : ProxyAction} {side : Side} (h : s.Numbered) (hs : s.step a = some s')
    (hresets : s.resets side a = true) (hsubscribed : (s.client side).subscriptions ≠ []) : s'.Orphaned := by
  obtain ⟨hnone, htable⟩ := removed_of_resets hs hresets
  obtain ⟨entry, hentry⟩ := List.exists_mem_of_ne_nil _ hsubscribed
  refine ⟨side, entry, htable ▸ hentry, ?_, fun ep hep => ?_⟩
  · exact lt_of_lt_of_le (h.entries side entry hentry) (Grows.of_step hs).allocated
  · cases hnone.symm.trans hep

theorem numbered_of_reachable (h : system.Reachable s) : s.Numbered := by
  refine System.Reach.invariant (I := Numbered) (fun s₀ h₀ => ?_) (fun _ _ _ _ hI _ hs => hI.step hs) h
  obtain rfl : s₀ = {} := h₀
  exact ⟨nofun, nofun⟩

/-- An endpoint that has subscribed has been reset in the run, or not. -/
theorem reach_or_orphaned (h : system.Reachable s) : system.Reach NoResetSubscribed s ∨ s.Orphaned := by
  induction h with
  | init h => exact .inl (.init h)
  | @step s s' a h _ hs ih =>
    rcases ih with hreach | horphaned
    · by_cases ha : s.NoResetSubscribed a
      · exact .inl (hreach.step ha hs)
      · unfold NoResetSubscribed at ha
        push Not at ha
        obtain ⟨side, -, hresets, hsubscribed⟩ := ha
        exact .inr (orphaned_of_resets (numbered_of_reachable h) hs hresets hsubscribed)
    · exact .inr (horphaned.step hs)

/-- The tables are right if and only if no endpoint has been reset that had subscribed. -/
theorem live_iff_reach (h : system.Reachable s) : s.Live ↔ system.Reach NoResetSubscribed s := by
  constructor
  · intro hlive
    rcases reach_or_orphaned h with hreach | horphaned
    · exact hreach
    · exact absurd hlive horphaned.not_live
  · exact live_of_reach

/-- A start in which every call succeeds. -/
def startedRun : List ProxyAction :=
  [.init "uagv/v3", .start true, .configure fun _ => true, .connectLocal true, .createLocal] ++
    List.replicate 4 (.subscribeLocal true) ++ [.startLocalLoop true, .startCloudLoop true, .connectCloud]

/-- The cloud client connects, and its endpoint is initialized with the given results of the subscribe calls. -/
def cloudRun (accepted : List Bool) : List ProxyAction :=
  [.connecting .cloudSide, .onConnect .cloudSide true, .initCloud] ++ accepted.map .subscribeCloud

/-- Both endpoints have subscribed to their four types. -/
theorem live_iff_reach_started :
    ∃ s, system.Reachable s ∧ (∀ side ∈ [Side.localSide, .cloudSide], (s.client side).subscriptions.length = 4) ∧
      s.Live := by
  have hrun : (replay (guarded step NoResetSubscribed) {}
      (startedRun ++ cloudRun [true, true, true, true] ++ [.setupBridge])).any (fun s =>
        [Side.localSide, .cloudSide].all fun side => (s.client side).subscriptions.length == 4) = true := by decide
  obtain ⟨s, hs, hlength⟩ := (Option.any_eq_true _ _).1 hrun
  simp only [List.all_eq_true, beq_iff_eq] at hlength
  have hreach : system.Reach NoResetSubscribed s := reach_of_replay (.init rfl) hs
  exact ⟨s, hreach.reachable, hlength, (live_iff_reach hreach.reachable).2 hreach⟩

/-- The second subscribe call of the cloud endpoint fails, and it is initialized again at the next connection: its first
filter is there twice, once with the endpoint that has been reset. -/
theorem not_live_of_retried : ¬ ∀ s, system.Reachable s → s.Live := by
  intro h
  have hrun : (replay step {} (startedRun ++ cloudRun [true, false] ++ [.lost .cloudSide] ++
      cloudRun [true, true, true, true] ++ [.setupBridge])).any (fun s =>
        !((s.client .cloudSide).subscriptions.map SubscriptionEntry.topicFilter).Nodup) = true := by decide
  obtain ⟨s, hs, hduplicate⟩ := (Option.any_eq_true _ _).1 hrun
  have hlive := h s (reachable_of_replay (.init rfl) hs)
  simp [hlive.nodup .cloudSide] at hduplicate

end VDA5050Proxy

end SyriusOrbit.Mqtt

import SyriusOrbit.Mqtt.Startup

/-!
# The order of the set-up

Which endpoints there are, and which of them are initialized, at each point of `Daemon::run` and of the connect
callback.  Once the loops run there is an initialized local endpoint, and the bridge cannot fail.
-/

namespace SyriusOrbit.Mqtt

open Vda5050 Transition VDA5050EndPoint

namespace Daemon

variable {topicPrefix : String} {s s' : Daemon}

/-! ### Endpoints without their callbacks -/

/-- The endpoint of a side without its callbacks. -/
def setUp (s : Daemon) (side : Side) : Option VDA5050EndPoint := (s.endpoint side).map VDA5050EndPoint.bare

theorem setUp_setEndpoint (s : Daemon) (side : Side) (endpoint : Option VDA5050EndPoint) :
    (s.setEndpoint side endpoint).setUp =
      Function.update s.setUp side (endpoint.map VDA5050EndPoint.bare) := by
  funext side'
  by_cases hside : side' = side
  · subst hside
    simp [setUp]
  · simp [setUp, endpoint_setEndpoint_of_ne hside, Function.update_of_ne hside]

theorem setUp_register {side : Side} {ep ep' : VDA5050EndPoint} (hep : s.endpoint side = some ep)
    (hsame : ep.SameSetup ep') : (s.setEndpoint side (some ep')).setUp = s.setUp := by
  have hkept : s.setUp side = some ep'.bare := by simp [setUp, hep, hsame.bare]
  rw [setUp_setEndpoint, Option.map_some, ← hkept]
  exact Function.update_eq_self side s.setUp

theorem setUp_registerAt (s : Daemon) (side : Side) (pointer : Option Nat) {f : VDA5050EndPoint → VDA5050EndPoint}
    (hf : ∀ ep : VDA5050EndPoint, ep.SameSetup (f ep)) : (s.registerAt side pointer f).setUp = s.setUp := by
  unfold registerAt
  cases hep : s.endpoint side with
  | some ep => exact setUp_register hep (sameSetup_registerAt hf pointer ep)
  | none =>
    have hnone : s.setUp side = none := by simp [setUp, hep]
    rw [setUp_setEndpoint, Option.map_none, Option.map_none, ← hnone]
    exact Function.update_eq_self side s.setUp

theorem setUp_attachCloud (s : Daemon) : s.attachCloud.setUp = s.setUp := by
  rcases attachCloud_cases s with ⟨heq, -⟩ | ⟨r, -, -, heq⟩
  · rw [heq]
  · rw [heq]
    exact setUp_registerAt s .cloudSide r.cloudEp sameSetup_attachDownlink

/-- Neither `attachLocal` nor `attachCloud` changes how the endpoints are set up. -/
theorem setUp_attached (s : Daemon) (pointer : Option Nat) :
    (s.registerAt .localSide pointer attachLocal).attachCloud.setUp = s.setUp :=
  (setUp_attachCloud _).trans (setUp_registerAt s .localSide pointer sameSetup_attachLocal)

theorem setUp_notified (s : Daemon) : (if s.onCloudConnected then s.attachCloud else s).setUp = s.setUp := by
  split
  · exact setUp_attachCloud s
  · rfl

theorem bridgeLocalToCloud_eq {ep : VDA5050EndPoint} (hside : ep.side = .localSide) (hstopped : ep.stopped = false) :
    bridgeLocalToCloud ep = (true, (onFactSheet .bridge (onConnection .bridge
      (onVisualization .bridge (onState .bridge ep).2).2).2).2) := by
  simp [bridgeLocalToCloud, andThen, onState, onVisualization, onConnection, onFactSheet, on, hside, hstopped]

theorem bridgeCloudToLocal_eq {ep : VDA5050EndPoint} (hside : ep.side = .cloudSide) (hstopped : ep.stopped = false) :
    bridgeCloudToLocal ep = (true, (onZoneSet .bridge (onResponses .bridge
      (onInstantActions .bridge (onOrder .bridge ep).2).2).2).2) := by
  simp [bridgeCloudToLocal, andThen, onOrder, onInstantActions, onResponses, onZoneSet, on, hside, hstopped]

/-! ### The order of the steps -/

/-- How far the endpoints are set up at the points of `Daemon::run` and of the connect callback. -/
structure Ready (s : Daemon) : Prop where
  busy : s.callback ≠ .idle → s.loopsRunning = true ∧ s.setUp .cloudSide ≠ none
  early : s.loopsRunning = false → s.setUp .cloudSide = none
  noLocal : s.run = .begin ∨ s.run = .connected → s.setUp .localSide = none
  localEp : s.run = .subscribed ∨ s.loopsRunning = true → ∃ ep, s.setUp .localSide = some ep ∧ ep.initialized = true
  cloudEp : ∀ ep, s.setUp .cloudSide = some ep → (ep.initialized = true ↔ s.callback ≠ .created)
  recorder : ∀ r, s.recorder = some r → r.localEp = (s.setUp .localSide).map (·.id)

namespace Ready

theorem idle (h : s.Ready) (hloops : s.loopsRunning = false) : s.callback = .idle := by
  by_contra hbusy
  have hrunning := (h.busy hbusy).1
  simp [hloops] at hrunning

theorem congr (h : s.Ready) (hsetUp : s'.setUp = s.setUp) (hcallback : s'.callback = s.callback)
    (hrecorder : ∀ r', s'.recorder = some r' → ∃ r, s.recorder = some r ∧ r'.localEp = r.localEp)
    (hloops : s'.loopsRunning = s.loopsRunning)
    (hbegin : s'.run = .begin ∨ s'.run = .connected → s.run = .begin ∨ s.run = .connected)
    (hsubscribed : s'.run = .subscribed → s.run = .subscribed) : s'.Ready where
  busy := by
    rw [hsetUp, hcallback, hloops]
    exact h.busy
  early := by
    rw [hsetUp, hloops]
    exact h.early
  noLocal hrun := hsetUp ▸ h.noLocal (hbegin hrun)
  localEp hrun := by
    rw [hsetUp]
    exact h.localEp (hrun.imp hsubscribed fun hl => hloops ▸ hl)
  cloudEp := by
    rw [hsetUp, hcallback]
    exact h.cloudEp
  recorder r' hr' := by
    obtain ⟨r, hr, hlocal⟩ := hrecorder r' hr'
    rw [hsetUp, hlocal, h.recorder r hr]

/-- `VDA5050Proxy::start` gives up before the loops run. -/
theorem failed (h : s.Ready) (hloops : s.loopsRunning = false) (hnone : s.recorder = none)
    (hendpoint : s'.endpoint = fun _ => none) (hcallback : s'.callback = s.callback)
    (hrecorder : s'.recorder = s.recorder) (hrun : s'.run = .failed) : s'.Ready where
  busy hbusy := absurd (hcallback.trans (h.idle hloops)) hbusy
  early _ := by simp [setUp, hendpoint]
  noLocal _ := by simp [setUp, hendpoint]
  localEp hlocal := by simp [hrun, loopsRunning] at hlocal
  cloudEp _ hcloud := by simp [setUp, hendpoint] at hcloud
  recorder r hr := by simp [hrecorder, hnone] at hr

/-- The local endpoint is initialized. -/
theorem subscribed (h : s.Ready) (hloops : s.loopsRunning = false) (hnone : s.recorder = none)
    {ep : VDA5050EndPoint} (hep : ep.initialized = true)
    (hsetUp : s'.setUp = Function.update s.setUp .localSide (some ep)) (hcallback : s'.callback = s.callback)
    (hrecorder : s'.recorder = s.recorder) (hrun : s'.run = .subscribed) : s'.Ready := by
  have hcloud : s'.setUp .cloudSide = none := by rw [hsetUp, Function.update_of_ne (by simp), h.early hloops]
  refine ⟨fun hbusy => absurd (hcallback.trans (h.idle hloops)) hbusy, fun _ => hcloud, fun hbegin => ?_,
    fun _ => ⟨ep, ?_, hep⟩, fun ep' hep' => ?_, fun r hr => ?_⟩
  · simp [hrun] at hbegin
  · rw [hsetUp, Function.update_self]
  · simp [hcloud] at hep'
  · simp [hrecorder, hnone] at hr

/-- The connect callback changes the cloud endpoint. -/
theorem cloud (h : s.Ready) (hloops : s.loopsRunning = true) {endpoint : Option VDA5050EndPoint}
    {callback : CallbackStep} (hbusy : callback ≠ .idle → endpoint ≠ none)
    (hendpoint : ∀ ep, endpoint = some ep → (ep.initialized = true ↔ callback ≠ .created)) :
    ({ s.setEndpoint .cloudSide endpoint with callback } : Daemon).Ready := by
  have hlocal : (s.setEndpoint .cloudSide endpoint).setUp .localSide = s.setUp .localSide := by
    simp [setUp_setEndpoint]
  have hcloud : (s.setEndpoint .cloudSide endpoint).setUp .cloudSide = endpoint.map VDA5050EndPoint.bare := by
    simp [setUp_setEndpoint]
  refine ⟨fun hcallback => ⟨hloops, ?_⟩, fun hearly => ?_, fun hrun => ?_, fun hrun => ?_, fun ep' hep' => ?_,
    fun r hr => ?_⟩
  · show (s.setEndpoint .cloudSide endpoint).setUp .cloudSide ≠ none
    simpa [hcloud] using hbusy hcallback
  · have hstopped : s.loopsRunning = false := hearly
    simp [hloops] at hstopped
  · exact hlocal.trans (h.noLocal hrun)
  · obtain ⟨ep, hep, hinitialized⟩ := h.localEp hrun
    exact ⟨ep, hlocal.trans hep, hinitialized⟩
  · obtain ⟨ep, hep, rfl⟩ := Option.map_eq_some_iff.1 (hcloud.symm.trans hep')
    exact hendpoint ep hep
  · exact (h.recorder r hr).trans (congrArg _ hlocal.symm)

theorem attachCloud (h : s.Ready) : s.attachCloud.Ready := by
  have hsetUp := setUp_attachCloud s
  rcases attachCloud_cases s with ⟨heq, -⟩ | ⟨r, hr, -, heq⟩
  · rwa [heq]
  · rw [heq] at hsetUp ⊢
    refine h.congr hsetUp rfl (fun r' hr' => ⟨r, hr, ?_⟩) rfl id id
    rw [← Option.some.inj hr']

/-- The bridge cannot fail: both endpoints are there, and neither is stopped. -/
theorem not_bridgeFailed (h : s.Ready) (hw : s.Wired) (hcallback : s.callback = .initialized)
    (hfailed : ∀ localEp cloudEp, s.endpoint .localSide = some localEp → s.endpoint .cloudSide = some cloudEp →
      (bridgeLocalToCloud localEp).1 = false ∨ (bridgeCloudToLocal cloudEp).1 = false) : False := by
  obtain ⟨hloops, hcloud⟩ := h.busy (by simp [hcallback])
  obtain ⟨ep, hep, -⟩ := h.localEp (.inr hloops)
  obtain ⟨localEp, hlocalEp, -⟩ := Option.map_eq_some_iff.1 hep
  obtain ⟨cloudEp, hcloudEp⟩ : ∃ ep, s.endpoint .cloudSide = some ep := by
    cases hep : s.endpoint .cloudSide with
    | none => simp [setUp, hep] at hcloud
    | some ep => exact ⟨ep, rfl⟩
  have hlocalFits := hw.fits _ _ hlocalEp
  have hcloudFits := hw.fits _ _ hcloudEp
  rcases hfailed localEp cloudEp hlocalEp hcloudEp with hfalse | hfalse
  · rw [bridgeLocalToCloud_eq hlocalFits.side_eq hlocalFits.stopped] at hfalse
    cases hfalse
  · rw [bridgeCloudToLocal_eq hcloudFits.side_eq hcloudFits.stopped] at hfalse
    cases hfalse

theorem step {a : Action} (h : s.Ready) (hp : s.Progress) (hw : s.Wired) (hs : s.step topicPrefix a = some s') :
    s'.Ready := by
  have hsame : ∀ r', s.recorder = some r' → ∃ r, s.recorder = some r ∧ r'.localEp = r.localEp :=
    fun r hr => ⟨r, hr, rfl⟩
  cases outcome_of_step hs with
  | noPrefix hrun => exact h.congr rfl rfl hsame (by simp [loopsRunning, hrun]) (by simp) (by simp)
  | connectFailed hrun =>
    exact h.failed (by rw [loopsRunning, hrun]) (hp.recorder_eq (by rw [hrun]; rfl)) rfl rfl rfl rfl
  | localConnecting hrun => exact h.congr rfl rfl hsame (by simp [loopsRunning, hrun]) (by simp [hrun]) (by simp)
  | @localInitialized accepted topicTemplate ep client hrun hinit =>
    have hloops : s.loopsRunning = false := by rw [loopsRunning, hrun]
    have hnone := hp.recorder_eq (by rw [hrun]; rfl)
    have hinitialized : ep.initialized = true := by rw [init_eq hinit]
    have hset := setUp_setEndpoint (s.setClient .localSide client) .localSide (some ep)
    exact h.subscribed hloops hnone (show ep.bare.initialized = true from hinitialized) hset rfl rfl rfl
  | localInitFailed hrun =>
    exact h.failed (by rw [loopsRunning, hrun]) (hp.recorder_eq (by rw [hrun]; rfl)) rfl rfl rfl rfl
  | loopsFailed hrun =>
    exact h.failed (by rw [loopsRunning, hrun]) (hp.recorder_eq (by rw [hrun]; rfl)) rfl rfl rfl rfl
  | loopsStarted hrun =>
    have hloops : s.loopsRunning = false := by rw [loopsRunning, hrun]
    exact ⟨fun hbusy => absurd (h.idle hloops) hbusy, fun hearly => by simp [loopsRunning] at hearly, by simp,
      fun _ => h.localEp (.inl hrun), h.cloudEp, h.recorder⟩
  | recorderConstructed hrun =>
    refine ⟨fun hbusy => ⟨rfl, (h.busy hbusy).2⟩, fun hearly => by simp [loopsRunning] at hearly, by simp,
      fun _ => h.localEp (.inr (by simp [loopsRunning, hrun])), h.cloudEp, fun r hr => ?_⟩
    rw [← Option.some.inj hr]
    show (s.endpoint .localSide).map (·.id) = ((s.endpoint .localSide).map bare).map (·.id)
    rw [Option.map_map]
    rfl
  | @attached r hrun hr =>
    have hregistered : (s.registerAt .localSide r.localEp attachLocal).Ready :=
      h.congr (setUp_registerAt s _ _ sameSetup_attachLocal) rfl hsame rfl id id
    refine hregistered.attachCloud.congr rfl rfl (fun r hr => ⟨r, hr, rfl⟩) ?_ (by simp) (by simp)
    have hrun' : (s.registerAt .localSide r.localEp attachLocal).attachCloud.run = s.run := run_attachCloud _
    simp [loopsRunning, hrun', hrun]
  | callbackSet hrun => exact h.congr rfl rfl hsame (by simp [loopsRunning, hrun]) (by simp) (by simp)
  | connecting => exact h.congr rfl rfl hsame rfl id id
  | lost => exact h.congr rfl rfl hsame rfl id id
  | refused => exact h.congr rfl rfl hsame rfl id id
  | connected => exact h.congr rfl rfl hsame rfl id id
  | cloudCreated hloops =>
    exact (h.cloud hloops (fun _ => by simp) (by simp)).congr rfl rfl (fun r hr => ⟨r, hr, rfl⟩) rfl id id
  | cloudInitialized hcallback hep hinit =>
    have hloops := (h.busy (by simp [hcallback])).1
    refine (h.cloud hloops (fun _ => by simp) fun ep hep => ?_).congr rfl rfl (fun r hr => ⟨r, hr, rfl⟩) rfl id id
    rw [← Option.some.inj hep, init_eq hinit]
    simp
  | cloudInitFailed hcallback =>
    have hloops := (h.busy (by simp [hcallback])).1
    exact (h.cloud hloops (by simp) (by simp)).congr rfl rfl (fun r hr => ⟨r, hr, rfl⟩) rfl id id
  | @bridged localEp cloudEp hcallback hlocal hcloud =>
    have hlocal' : (s.setEndpoint .localSide (some (bridgeLocalToCloud localEp).2)).Ready :=
      h.congr (setUp_register hlocal (sameSetup_bridgeLocalToCloud localEp)) rfl hsame rfl id id
    have hloops := (h.busy (by simp [hcallback])).1
    have hinitialized : cloudEp.initialized = true :=
      (h.cloudEp cloudEp.bare (by simp [setUp, hcloud])).2 (by simp [hcallback])
    refine hlocal'.cloud hloops (fun _ => by simp) fun ep hep => ?_
    rw [← Option.some.inj hep, (sameSetup_bridgeCloudToLocal cloudEp).initialized, hinitialized]
    simp
  | bridgeFailed hcallback _ hfailed => exact (h.not_bridgeFailed hw hcallback hfailed).elim
  | notified hcallback =>
    have hnotified : (if s.onCloudConnected then s.attachCloud else s).Ready := by
      split
      · exact h.attachCloud
      · exact h
    have hbridged := (callback_notified s).trans hcallback
    refine ⟨fun hbusy => absurd rfl hbusy, hnotified.early, hnotified.noLocal, hnotified.localEp,
      fun ep hep => (hnotified.cloudEp ep hep).trans ?_, hnotified.recorder⟩
    simp [hbridged]

end Ready

theorem ready_of_reachable (h : (system topicPrefix).Reachable s) : s.Ready := by
  refine System.Reach.invariant (I := Ready) (fun s hs => ?_) (fun s a s' hreach hI _ hs => ?_) h
  · obtain rfl : s = {} := hs
    exact ⟨by simp, fun _ => rfl, fun _ => rfl, by simp [loopsRunning], by simp [setUp], by simp⟩
  · obtain ⟨hp, hw⟩ := wired_of_reachable hreach
    exact hI.step hp hw hs

/-- The endpoints that messages can reach are initialized. -/
theorem Ready.initialized (h : s.Ready) (hloops : s.loopsRunning = true) {side : Side} {ep : VDA5050EndPoint}
    (hep : s.endpoint side = some ep) (hcallback : side = .cloudSide → s.callback ≠ .created) :
    ep.initialized = true := by
  have hset : s.setUp side = some ep.bare := by simp [setUp, hep]
  cases side with
  | localSide =>
    obtain ⟨ep', hep', hinitialized⟩ := h.localEp (.inr hloops)
    obtain rfl := Option.some.inj (hset.symm.trans hep')
    exact hinitialized
  | cloudSide => exact (h.cloudEp _ hset).2 (hcallback rfl)

end Daemon

end SyriusOrbit.Mqtt

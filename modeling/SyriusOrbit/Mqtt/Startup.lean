import SyriusOrbit.Mqtt.Proxy

/-!
# The event recorder and the time of the cloud connection

The constructor of the event recorder takes the pointer to the cloud endpoint once, and `attachCloud` does nothing
without it.  The four downlink listeners are therefore on the installed cloud endpoint if and only if that endpoint
is the one there was when the recorder was constructed (`count_recorder_of_reachable`).  Recording is complete in every
run that creates no cloud endpoint afterwards (`downlinkComplete_of_reach`); it is not when the cloud connects after
the start.
-/

namespace SyriusOrbit.Mqtt.Daemon

open Vda5050 Transition VDA5050EndPoint

/-- Once the start is over and a cloud endpoint is installed, the recorder is registered once for each downlink type
on that endpoint, and is called once for each message that is dispatched on a valid topic. -/
def DownlinkComplete (s : Daemon) : Prop :=
  s.run = .waiting → s.callback = .idle → ∀ ep, s.endpoint .cloudSide = some ep → ∀ t ∈ Side.cloudSide.types,
    (ep.callbacks t).count .recorder = 1 ∧
      ∀ topic context, ep.topicTemplate.parseTopicContext topic (suffix t) = some context →
        (ep.dispatch t topic).filter (·.1 = .recorder) = [(.recorder, context)]

/-- Whether the action is the call of the connect callback for an accepted connection. -/
def cloudAccepted : Action → Bool
  | .onConnect .cloudSide true => true
  | _ => false

/-- No cloud endpoint is created once there is a recorder. -/
def CloudFirst (s : Daemon) (a : Action) : Prop :=
  cloudAccepted a = true → s.endpoint .cloudSide = none → s.recorder = none

instance (s : Daemon) (a : Action) : Decidable (s.CloudFirst a) := inferInstanceAs (Decidable (_ → _ → _))

/-! ### The order of the start -/

/-- The recorder has not been constructed at this point of `Daemon::run`. -/
def unconstructed : RunStep → Bool
  | .constructed | .attached | .waiting => false
  | _ => true

/-- What `Daemon::run` has done with the recorder. -/
structure Progress (s : Daemon) : Prop where
  recorder_eq : unconstructed s.run = true → s.recorder = none
  attached : s.run = .attached ∨ s.run = .waiting →
    ∃ r, s.recorder = some r ∧ (r.cloudEp.isSome = true → r.attachedCloud = true)

/-- `attachCloud` leaves a recorder with the same pointer; if there is one it counts as attached. -/
private theorem recorder_attachCloud {s : Daemon} {r : Vda5050EventRecorder} (hr : s.recorder = some r) :
    ∃ r', s.attachCloud.recorder = some r' ∧ (r'.cloudEp.isSome = true → r'.attachedCloud = true) := by
  rcases attachCloud_cases s with ⟨heq, hdone⟩ | ⟨r', hr', -, heq⟩
  · rw [heq]
    refine ⟨r, hr, fun hsome => (hdone r hr).resolve_left fun hnone => ?_⟩
    simp [hnone] at hsome
  · rw [heq]
    exact ⟨_, rfl, fun _ => rfl⟩

namespace Progress

variable {s s' : Daemon}

theorem congr (h : s.Progress) (hrun : s'.run = s.run) (hrecorder : s'.recorder = s.recorder) : s'.Progress where
  recorder_eq := by
    rw [hrun, hrecorder]
    exact h.recorder_eq
  attached := by
    rw [hrun, hrecorder]
    exact h.attached

/-- A step of `Daemon::run` before the recorder is constructed. -/
theorem before (h : s.Progress) (hrun : unconstructed s.run = true) (hrun' : unconstructed s'.run = true)
    (hrecorder : s'.recorder = s.recorder) : s'.Progress where
  recorder_eq _ := hrecorder.trans (h.recorder_eq hrun)
  attached hattached := by rcases hattached with h' | h' <;> simp [h', unconstructed] at hrun'

theorem attachCloud (h : s.Progress) : s.attachCloud.Progress := by
  rcases attachCloud_cases s with ⟨heq, -⟩ | ⟨r, hr, -, heq⟩
  · rwa [heq]
  · rw [heq]
    refine ⟨fun hrun => ?_, fun _ => ⟨_, rfl, fun _ => rfl⟩⟩
    cases (h.recorder_eq hrun).symm.trans hr

theorem step {topicPrefix : String} {a : Action} (h : s.Progress) (hs : s.step topicPrefix a = some s') :
    s'.Progress := by
  cases outcome_of_step hs with
  | noPrefix hrun => exact h.before (by rw [hrun]; rfl) rfl rfl
  | connectFailed hrun => exact h.before (by rw [hrun]; rfl) rfl rfl
  | localConnecting hrun => exact h.before (by rw [hrun]; rfl) rfl rfl
  | localInitialized hrun => exact h.before (by rw [hrun]; rfl) rfl rfl
  | localInitFailed hrun => exact h.before (by rw [hrun]; rfl) rfl rfl
  | loopsFailed hrun => exact h.before (by rw [hrun]; rfl) rfl rfl
  | loopsStarted hrun => exact h.before (by rw [hrun]; rfl) rfl rfl
  | recorderConstructed hrun => exact ⟨nofun, by simp⟩
  | @attached r hrun hr =>
    exact ⟨nofun, fun _ => recorder_attachCloud (s := s.registerAt .localSide r.localEp attachLocal) hr⟩
  | callbackSet hrun => exact ⟨nofun, fun _ => h.attached (.inl hrun)⟩
  | connecting => exact h.congr rfl rfl
  | lost => exact h.congr rfl rfl
  | refused => exact h.congr rfl rfl
  | connected => exact h.congr rfl rfl
  | cloudCreated => exact h.congr rfl rfl
  | cloudInitialized => exact h.congr rfl rfl
  | cloudInitFailed => exact h.congr rfl rfl
  | bridged => exact h.congr rfl rfl
  | bridgeFailed _ hlocal =>
    obtain rfl | ⟨_, _, rfl⟩ := hlocal
    · exact h.congr rfl rfl
    · exact h.congr rfl rfl
  | notified =>
    refine Progress.congr (s := if s.onCloudConnected then s.attachCloud else s) ?_ rfl rfl
    split
    · exact h.attachCloud
    · exact h

end Progress

/-! ### What registration does to the listeners of the recorder -/

/-- `attachCloud` registers the recorder once for each downlink type. -/
private theorem count_attachDownlink {ep : VDA5050EndPoint} (hside : ep.side = .cloudSide)
    (hstopped : ep.stopped = false)
    {t : MessageType} (ht : t ∈ Side.cloudSide.types) :
    ((attachDownlink ep).callbacks t).count .recorder = (ep.callbacks t).count .recorder + 1 := by
  simp only [Side.types, List.mem_cons, List.not_mem_nil, or_false] at ht
  simp only [attachDownlink, onOrder, onInstantActions, onResponses, onZoneSet, count_on, side_on, stopped_on]
  rcases ht with rfl | rfl | rfl | rfl <;> simp [hside, hstopped]

private theorem count_bridgeCloudToLocal (ep : VDA5050EndPoint) (t : MessageType) :
    ((bridgeCloudToLocal ep).2.callbacks t).count .recorder = (ep.callbacks t).count .recorder := by
  refine rel_bridgeCloudToLocal (fun ep ep' => (ep'.callbacks t).count .recorder = (ep.callbacks t).count .recorder)
    (fun _ _ _ h h' => h'.trans h) (fun side t' ep => ?_) ep
  simp [count_on]

/-! ### The listeners of the recorder -/

/-- How often the recorder has registered on an endpoint with the given identity for each downlink type. -/
def recordings (s : Daemon) (pointer : Nat) : Nat :=
  match s.recorder with
  | some r => if r.cloudEp = some pointer ∧ r.attachedCloud = true then 1 else 0
  | none => 0

/-- An endpoint that may be installed on a side: it belongs to the side, is not stopped, has an identity that was given
to it, and if it is a cloud endpoint its listeners are those that the recorder has registered. -/
structure Fits (s : Daemon) (side : Side) (ep : VDA5050EndPoint) : Prop where
  side_eq : ep.side = side
  stopped : ep.stopped = false
  id_lt : ep.id < s.allocated
  listeners : side = .cloudSide → ∀ t ∈ side.types, (ep.callbacks t).count .recorder = s.recordings ep.id

structure Wired (s : Daemon) : Prop where
  fits : ∀ side ep, s.endpoint side = some ep → s.Fits side ep
  captured : ∀ r pointer, s.recorder = some r → r.cloudEp = some pointer → pointer < s.allocated

theorem Fits.congr {s s' : Daemon} {side : Side} {ep : VDA5050EndPoint} (h : s.Fits side ep)
    (hallocated : s.allocated ≤ s'.allocated) (hrecorder : s'.recorder = s.recorder) : s'.Fits side ep where
  side_eq := h.side_eq
  stopped := h.stopped
  id_lt := h.id_lt.trans_le hallocated
  listeners := by
    unfold recordings
    rw [hrecorder]
    exact h.listeners

/-- Registering callbacks other than those of the recorder. -/
theorem Fits.register {s : Daemon} {side : Side} {ep ep' : VDA5050EndPoint} (h : s.Fits side ep)
    (hsame : ep.SameSetup ep') (hcount : side = .cloudSide → ∀ t, (ep'.callbacks t).count .recorder =
      (ep.callbacks t).count .recorder) : s.Fits side ep' where
  side_eq := hsame.side.trans h.side_eq
  stopped := hsame.stopped.trans h.stopped
  id_lt := hsame.id ▸ h.id_lt
  listeners hside t ht := by rw [hcount hside t, hsame.id, h.listeners hside t ht]

namespace Wired

variable {s s' : Daemon}

theorem congr (h : s.Wired) (hendpoint : s'.endpoint = s.endpoint) (hallocated : s.allocated ≤ s'.allocated)
    (hrecorder : s'.recorder = s.recorder) : s'.Wired where
  fits := by
    rw [hendpoint]
    exact fun side ep hep => (h.fits side ep hep).congr hallocated hrecorder
  captured r pointer hr hpointer := (h.captured r pointer (hrecorder ▸ hr) hpointer).trans_le hallocated

theorem setEndpoint (h : s.Wired) {side : Side} {endpoint : Option VDA5050EndPoint}
    (hendpoint : ∀ ep, endpoint = some ep → s.Fits side ep) : (s.setEndpoint side endpoint).Wired where
  fits side' ep hep := by
    by_cases hside : side' = side
    · subst hside
      rw [endpoint_setEndpoint] at hep
      exact (hendpoint ep hep).congr le_rfl rfl
    · rw [endpoint_setEndpoint_of_ne hside] at hep
      exact (h.fits side' ep hep).congr le_rfl rfl
  captured := h.captured

theorem stop (h : s.Wired) : s.stop.Wired where
  fits _ _ hep := by cases hep
  captured := h.captured

/-- The next endpoint is not the one whose pointer the recorder has. -/
private theorem recordings_allocated (h : s.Wired) : s.recordings s.allocated = 0 := by
  unfold recordings
  split
  · next r hr =>
    refine if_neg fun hpointer => ?_
    exact absurd (h.captured r _ hr hpointer.1) (lt_irrefl _)
  · rfl

/-- The constructor, with the pointers to the endpoints there are. -/
private theorem construct (h : s.Wired) (hnone : s.recorder = none) {localEp : Option Nat} :
    ({ s with recorder := some { localEp, cloudEp := (s.endpoint .cloudSide).map (·.id) } } : Daemon).Wired where
  fits side ep hep := by
    have hfits := h.fits side ep hep
    refine ⟨hfits.side_eq, hfits.stopped, hfits.id_lt, fun hside t ht => ?_⟩
    rw [hfits.listeners hside t ht]
    simp [recordings, hnone]
  captured r pointer hr hpointer := by
    obtain rfl := Option.some.inj hr
    obtain ⟨ep, hep, rfl⟩ := Option.map_eq_some_iff.1 hpointer
    exact (h.fits _ ep hep).id_lt

/-- A new endpoint is installed. -/
theorem create (h : s.Wired) {side : Side} (ep : VDA5050EndPoint) (hside : ep.side = side)
    (hstopped : ep.stopped = false) (hid : ep.id = s.allocated) (hcallbacks : ep.callbacks = fun _ => []) :
    (({ s with allocated := s.allocated + 1 } : Daemon).setEndpoint side (some ep)).Wired := by
  have hgrown : ({ s with allocated := s.allocated + 1 } : Daemon).Wired := h.congr rfl (Nat.le_succ _) rfl
  refine hgrown.setEndpoint fun ep' hep => ?_
  obtain rfl := Option.some.inj hep
  refine ⟨hside, hstopped, by simp [hid], fun _ t _ => ?_⟩
  rw [hcallbacks, hid]
  exact h.recordings_allocated.symm

/-- Callbacks other than those of the recorder are registered on an installed endpoint. -/
theorem register (h : s.Wired) {side : Side} {ep ep' : VDA5050EndPoint} (hep : s.endpoint side = some ep)
    (hsame : ep.SameSetup ep') (hcount : side = .cloudSide → ∀ t, (ep'.callbacks t).count .recorder =
      (ep.callbacks t).count .recorder) : (s.setEndpoint side (some ep')).Wired :=
  h.setEndpoint fun _ heq => Option.some.inj heq ▸ (h.fits side ep hep).register hsame hcount

theorem attachLocal (h : s.Wired) (pointer : Option Nat) :
    (s.registerAt .localSide pointer Daemon.attachLocal).Wired := by
  refine h.setEndpoint fun ep' hep' => ?_
  obtain ⟨ep, hep, rfl⟩ := Option.map_eq_some_iff.1 hep'
  exact (h.fits _ ep hep).register (sameSetup_registerAt sameSetup_attachLocal pointer ep) (by simp)

/-- A cloud endpoint after the recorder has registered through its pointer. -/
private theorem fits_attachCloud (h : s.Wired) {r : Vda5050EventRecorder} (hr : s.recorder = some r)
    (hattached : r.attachedCloud = false) {ep : VDA5050EndPoint} (hep : s.endpoint .cloudSide = some ep) :
    ({ s with recorder := some { r with attachedCloud := true } } : Daemon).Fits .cloudSide
      (if r.cloudEp = some ep.id then attachDownlink ep else ep) := by
  have hfits := h.fits _ _ hep
  -- the recorder has not registered anywhere before
  have hcount : ∀ t ∈ Side.cloudSide.types, (ep.callbacks t).count .recorder = 0 := by
    intro t ht
    rw [hfits.listeners rfl t ht]
    simp [recordings, hr, hattached]
  have hsame := sameSetup_registerAt sameSetup_attachDownlink r.cloudEp ep
  refine ⟨hsame.side.trans hfits.side_eq, hsame.stopped.trans hfits.stopped, hsame.id.trans_lt hfits.id_lt,
    fun _ t ht => ?_⟩
  rw [hsame.id]
  by_cases hpointer : r.cloudEp = some ep.id
  · rw [if_pos hpointer, count_attachDownlink hfits.side_eq hfits.stopped ht, hcount t ht]
    simp [recordings, hpointer]
  · rw [if_neg hpointer, hcount t ht]
    simp [recordings, hpointer]

theorem attachCloud (h : s.Wired) : s.attachCloud.Wired := by
  rcases attachCloud_cases s with ⟨heq, -⟩ | ⟨r, hr, hattached, heq⟩
  · rwa [heq]
  · rw [heq]
    refine ⟨fun side ep hep => ?_, fun r' pointer hr' hpointer => ?_⟩
    · by_cases hside : side = .cloudSide
      · subst hside
        have hep : (s.registerAt .cloudSide r.cloudEp attachDownlink).endpoint .cloudSide = some ep := hep
        obtain ⟨ep₀, hep₀, rfl⟩ := of_endpoint_registerAt hep
        exact (h.fits_attachCloud hr hattached hep₀).congr le_rfl rfl
      · have hfits := h.fits side ep ((endpoint_setEndpoint_of_ne hside s _).symm.trans hep)
        exact ⟨hfits.side_eq, hfits.stopped, hfits.id_lt, fun h => absurd h hside⟩
    · obtain rfl := Option.some.inj hr'
      exact h.captured r pointer hr hpointer

theorem step {topicPrefix : String} {a : Action} (h : s.Wired) (hp : s.Progress)
    (hs : s.step topicPrefix a = some s') : s'.Wired := by
  cases outcome_of_step hs with
  | noPrefix => exact h.congr rfl le_rfl rfl
  | connectFailed => exact h.stop.congr rfl le_rfl rfl
  | localConnecting => exact h.congr rfl le_rfl rfl
  | localInitialized hrun hinit =>
    have hep := init_eq hinit
    exact (h.create _ (by rw [hep]) (by rw [hep]) (by rw [hep]) (by rw [hep])).congr rfl le_rfl rfl
  | localInitFailed => exact h.stop.congr rfl (Nat.le_succ _) rfl
  | loopsFailed => exact h.stop.congr rfl le_rfl rfl
  | loopsStarted => exact h.congr rfl le_rfl rfl
  | recorderConstructed hrun =>
    exact (h.construct (hp.recorder_eq (by rw [hrun]; rfl))).congr rfl le_rfl rfl
  | attached => exact (h.attachLocal _).attachCloud.congr rfl le_rfl rfl
  | callbackSet => exact h.congr rfl le_rfl rfl
  | connecting => exact h.congr rfl le_rfl rfl
  | lost => exact h.congr rfl le_rfl rfl
  | refused => exact h.congr rfl le_rfl rfl
  | connected => exact h.congr rfl le_rfl rfl
  | @cloudCreated topicTemplate =>
    exact (h.create { id := s.allocated, side := .cloudSide, topicTemplate } rfl rfl rfl rfl).congr rfl le_rfl rfl
  | cloudInitialized _ hep hinit =>
    have hfits := h.fits _ _ hep
    refine (h.setEndpoint fun ep' hep' => ?_).congr rfl le_rfl rfl
    rw [← Option.some.inj hep', init_eq hinit]
    exact ⟨hfits.side_eq, hfits.stopped, hfits.id_lt, hfits.listeners⟩
  | cloudInitFailed => exact (h.setEndpoint fun _ hep => by cases hep).congr rfl le_rfl rfl
  | bridged _ hlocal hcloud =>
    have h' := h.register hlocal (sameSetup_bridgeLocalToCloud _) (by simp)
    exact (h'.register (cloud_of_setEndpoint hcloud _) (sameSetup_bridgeCloudToLocal _)
      fun _ => count_bridgeCloudToLocal _).congr rfl le_rfl rfl
  | bridgeFailed _ hlocal =>
    obtain rfl | ⟨localEp, hep, rfl⟩ := hlocal
    · exact (h.setEndpoint fun _ hep => by cases hep).congr rfl le_rfl rfl
    · have h' := h.register hep (sameSetup_bridgeLocalToCloud localEp) (by simp)
      exact (h'.setEndpoint fun _ hep => by cases hep).congr rfl le_rfl rfl
  | notified =>
    refine Wired.congr (s := if s.onCloudConnected then s.attachCloud else s) ?_ rfl le_rfl rfl
    split
    · exact h.attachCloud
    · exact h

end Wired

variable {topicPrefix : String} {s s' : Daemon}

theorem wired_of_reachable (h : (system topicPrefix).Reachable s) : s.Progress ∧ s.Wired := by
  refine System.Reach.invariant (I := fun s => s.Progress ∧ s.Wired) (fun s hs => ?_)
    (fun _ _ _ _ hI _ hs => ⟨hI.1.step hs, hI.2.step hI.1 hs⟩) h
  obtain rfl : s = {} := hs
  exact ⟨⟨fun _ => rfl, by simp⟩, ⟨fun _ _ hep => (by cases hep), fun _ _ hr => (by cases hr)⟩⟩

/-- After the start the recorder is on the installed cloud endpoint, once for each downlink type, if it has the pointer
to this endpoint, and not at all if it has none or that of an earlier one. -/
theorem count_recorder_of_reachable (h : (system topicPrefix).Reachable s) (hrun : s.run = .waiting)
    {ep : VDA5050EndPoint} (hep : s.endpoint .cloudSide = some ep) {t : MessageType} (ht : t ∈ Side.cloudSide.types) :
    ∃ r, s.recorder = some r ∧ (ep.callbacks t).count .recorder = if r.cloudEp = some ep.id then 1 else 0 := by
  obtain ⟨hprogress, hwired⟩ := wired_of_reachable h
  obtain ⟨r, hr, hattached⟩ := hprogress.attached (.inr hrun)
  refine ⟨r, hr, ?_⟩
  rw [(hwired.fits _ ep hep).listeners rfl t ht, recordings, hr]
  by_cases hpointer : r.cloudEp = some ep.id
  · simp [hpointer, hattached (by simp [hpointer])]
  · simp [hpointer]

/-! ### Runs without late cloud endpoints -/

/-- The recorder has the pointer to the installed cloud endpoint. -/
def Captured (s : Daemon) : Prop :=
  ∀ r ep, s.recorder = some r → s.endpoint .cloudSide = some ep → r.cloudEp = some ep.id

theorem Captured.of (h : s.Captured)
    (hrecorder : ∀ r', s'.recorder = some r' → ∃ r, s.recorder = some r ∧ r'.cloudEp = r.cloudEp)
    (hendpoint : ∀ ep', s'.endpoint .cloudSide = some ep' → ∃ ep, s.endpoint .cloudSide = some ep ∧ ep'.id = ep.id) :
    s'.Captured := by
  intro r' ep' hr' hep'
  obtain ⟨r, hr, hcloudEp⟩ := hrecorder r' hr'
  obtain ⟨ep, hep, hid⟩ := hendpoint ep' hep'
  rw [hcloudEp, hid]
  exact h r ep hr hep

theorem Captured.setEndpoint (h : s.Captured) {side : Side} {endpoint : Option VDA5050EndPoint}
    (hendpoint : side = .cloudSide → ∀ ep', endpoint = some ep' →
      ∃ ep, s.endpoint .cloudSide = some ep ∧ ep'.id = ep.id) : (s.setEndpoint side endpoint).Captured := by
  refine h.of (fun r hr => ⟨r, hr, rfl⟩) fun ep' hep' => ?_
  by_cases hside : side = .cloudSide
  · subst hside
    exact hendpoint rfl ep' ((endpoint_setEndpoint s _ _).symm.trans hep')
  · rw [endpoint_setEndpoint_of_ne (Ne.symm hside)] at hep'
    exact ⟨ep', hep', rfl⟩

private theorem captured_remove (s : Daemon) : (s.setEndpoint .cloudSide none).Captured := by
  intro r ep _ hep
  simp at hep

theorem Captured.register (h : s.Captured) {side : Side} {ep ep' : VDA5050EndPoint} (hep : s.endpoint side = some ep)
    (hid : ep'.id = ep.id) : (s.setEndpoint side (some ep')).Captured := by
  refine h.setEndpoint fun hside ep'' heq => ⟨ep, hside ▸ hep, ?_⟩
  rw [← Option.some.inj heq, hid]

theorem Captured.attachCloud (h : s.Captured) : s.attachCloud.Captured := by
  rcases attachCloud_cases s with ⟨heq, -⟩ | ⟨r, hr, -, heq⟩
  · rwa [heq]
  · rw [heq]
    refine h.of (fun r' hr' => ⟨r, hr, ?_⟩) fun ep' hep' => ?_
    · rw [← Option.some.inj hr']
    · have hep' : (s.registerAt .cloudSide r.cloudEp attachDownlink).endpoint .cloudSide = some ep' := hep'
      obtain ⟨ep, hep, rfl⟩ := of_endpoint_registerAt hep'
      exact ⟨ep, hep, (sameSetup_registerAt sameSetup_attachDownlink r.cloudEp ep).id⟩

theorem Captured.step {a : Action} (h : s.Captured) (ha : s.CloudFirst a) (hs : s.step topicPrefix a = some s') :
    s'.Captured := by
  cases outcome_of_step hs with
  | noPrefix => exact h
  | connectFailed => exact fun _ _ _ hep => by cases hep
  | localConnecting => exact h
  | localInitialized => exact h.of (fun r hr => ⟨r, hr, rfl⟩) fun ep hep => ⟨ep, hep, rfl⟩
  | localInitFailed => exact fun _ _ _ hep => by cases hep
  | loopsFailed => exact fun _ _ _ hep => by cases hep
  | loopsStarted => exact h
  | recorderConstructed =>
    intro r ep hr hep
    rw [← Option.some.inj hr]
    exact congrArg (Option.map (·.id)) hep
  | attached => exact (h.setEndpoint nofun : (s.registerAt .localSide _ attachLocal).Captured).attachCloud
  | callbackSet => exact h
  | connecting => exact h
  | lost => exact h
  | refused => exact h
  | connected => exact h
  | cloudCreated _ hnone =>
    -- the only step that installs an endpoint the recorder cannot know
    intro r ep hr
    have hrecorder : s.recorder = none := ha rfl hnone
    cases hrecorder.symm.trans hr
  | cloudInitialized _ hep hinit => exact h.register hep (by rw [init_eq hinit])
  | cloudInitFailed => exact captured_remove s
  | bridged _ hlocal hcloud =>
    have h' := h.register hlocal (sameSetup_bridgeLocalToCloud _).id
    exact h'.register (cloud_of_setEndpoint hcloud _) (sameSetup_bridgeCloudToLocal _).id
  | @bridgeFailed s₁ => exact captured_remove s₁
  | notified =>
    show (if s.onCloudConnected then s.attachCloud else s).Captured
    split
    · exact h.attachCloud
    · exact h

/-- After the start, downlink recording is complete if and only if the recorder has the pointer to the installed cloud
endpoint. -/
theorem downlinkComplete_iff (h : (system topicPrefix).Reachable s) (hrun : s.run = .waiting)
    (hidle : s.callback = .idle) {ep : VDA5050EndPoint} (hep : s.endpoint .cloudSide = some ep) :
    s.DownlinkComplete ↔ ∃ r, s.recorder = some r ∧ r.cloudEp = some ep.id := by
  constructor
  · intro hcomplete
    obtain ⟨r, hr, hcount⟩ := count_recorder_of_reachable h hrun hep (t := .order) (by simp [Side.types])
    rw [(hcomplete hrun hidle ep hep .order (by simp [Side.types])).1] at hcount
    refine ⟨r, hr, ?_⟩
    by_contra hpointer
    simp [hpointer] at hcount
  · rintro ⟨r, hr, hpointer⟩ - - ep' hep' t ht
    obtain rfl := Option.some.inj (hep.symm.trans hep')
    obtain ⟨r', hr', hcount⟩ := count_recorder_of_reachable h hrun hep ht
    obtain rfl := Option.some.inj (hr.symm.trans hr')
    rw [if_pos hpointer] at hcount
    refine ⟨hcount, fun topic context hcontext => ?_⟩
    rw [filter_dispatch ((wired_of_reachable h).2.fits _ ep hep).stopped hcontext, hcount, List.replicate_one]

/-- In runs that create no cloud endpoint once there is a recorder, downlink recording is complete. -/
theorem downlinkComplete_of_reach (h : (system topicPrefix).Reach CloudFirst s) : s.DownlinkComplete := by
  have hcaptured : s.Captured := by
    refine h.invariant (fun s hs r ep hr => ?_) fun _ _ _ _ hI ha hs => hI.step ha hs
    obtain rfl : s = {} := hs
    cases hr
  intro hrun hidle ep hep
  obtain ⟨r, hr, -⟩ := (wired_of_reachable h.reachable).1.attached (.inr hrun)
  exact (downlinkComplete_iff h.reachable hrun hidle hep).2 ⟨r, hr, hcaptured r ep hr hep⟩ hrun hidle ep hep

/-- The cloud connects before the recorder is constructed. -/
def earlyCloud : List Action :=
  [.connectLocal true, .initLocal fun _ => true, .startLoops true, .connecting .cloudSide, .onConnect .cloudSide true,
    .initCloud fun _ => true, .setupBridge, .notify, .constructRecorder, .attach, .setOnCloudConnected]

/-- The cloud connects when the start is over. -/
def lateCloud : List Action :=
  [.connectLocal true, .initLocal fun _ => true, .startLoops true, .constructRecorder, .attach, .setOnCloudConnected,
    .connecting .cloudSide, .onConnect .cloudSide true, .initCloud fun _ => true, .setupBridge, .notify]

/-- The start is over, and the recorder is registered on the cloud endpoint a number of times for orders. -/
def recordsOrders (n : Nat) (s : Daemon) : Bool :=
  s.run == .waiting && s.callback == .idle &&
    (s.endpoint .cloudSide).any fun ep => (ep.callbacks .order).count .recorder == n

theorem downlinkComplete_earlyCloud :
    ∃ s, replay (guarded (step "uagv/v3") CloudFirst) {} earlyCloud = some s ∧ recordsOrders 1 s = true ∧
      s.DownlinkComplete := by
  have hrun : (replay (guarded (step "uagv/v3") CloudFirst) {} earlyCloud).any (recordsOrders 1) = true := by decide
  obtain ⟨s, hs, hrecords⟩ := (Option.any_eq_true _ _).1 hrun
  exact ⟨s, hs, hrecords, downlinkComplete_of_reach (reach_of_replay (.init rfl) hs)⟩

/-- The recorder has no pointer to an endpoint that is created when the start is over. -/
theorem not_downlinkComplete_of_lateCloud :
    ¬ ∀ topicPrefix s, (system topicPrefix).Reachable s → s.DownlinkComplete := by
  intro h
  have hrun : (replay (step "uagv/v3") {} lateCloud).any (recordsOrders 0) = true := by decide
  obtain ⟨s, hs, hrecords⟩ := (Option.any_eq_true _ _).1 hrun
  simp only [recordsOrders, Bool.and_eq_true, beq_iff_eq, Option.any_eq_true] at hrecords
  obtain ⟨⟨hwaiting, hidle⟩, ep, hep, hcount⟩ := hrecords
  have hcomplete := h "uagv/v3" s (reachable_of_replay (.init rfl) hs) hwaiting hidle ep hep .order (by decide)
  rw [hcount] at hcomplete
  exact absurd hcomplete.1 (by decide)

end SyriusOrbit.Mqtt.Daemon

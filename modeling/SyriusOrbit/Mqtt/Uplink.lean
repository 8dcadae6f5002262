import SyriusOrbit.Mqtt.Bridge

/-!
# The event recorder and early messages

The local client subscribes and its loop starts in `VDA5050Proxy::start`; the recorder registers its listeners later,
in `attach`.  A message that can be read is passed to the recorder once if it is delivered after that, and not at all
if it is delivered before (`recordedOnce_iff`).
-/

namespace SyriusOrbit.Mqtt

open JsonFormat Vda5050 Transition Effect VDA5050EndPoint

namespace Daemon

variable {topicPrefix : String} {s s' : Daemon}

/-- The listeners of the recorder are registered at this point of `Daemon::run`. -/
def listening (s : Daemon) : Bool :=
  match s.run with
  | .attached | .waiting => true
  | _ => false

private theorem count_recorder_bridgeLocalToCloud (ep : VDA5050EndPoint) (t : MessageType) :
    ((bridgeLocalToCloud ep).2.callbacks t).count .recorder = (ep.callbacks t).count .recorder := by
  refine rel_bridgeLocalToCloud (fun ep ep' => (ep'.callbacks t).count .recorder = (ep.callbacks t).count .recorder)
    (fun _ _ _ h h' => h'.trans h) (fun side t' ep => ?_) ep
  simp [count_on]

/-- The recorder is on the local endpoint once for each type from the time it is attached. -/
def Records (s : Daemon) : Prop := s.Counts .localSide .recorder (if s.listening then 1 else 0)

namespace Records

theorem of (h : s.Records) (hlistening : s'.listening = s.listening)
    (hcounts : ∀ n, s.Counts .localSide .recorder n → s'.Counts .localSide .recorder n) : s'.Records := by
  unfold Records
  rw [hlistening]
  exact hcounts _ h

theorem congr (h : s.Records) (hendpoint : s'.endpoint = s.endpoint) (hlistening : s'.listening = s.listening) :
    s'.Records := h.of hlistening fun _ hn => hn.congr (by rw [hendpoint])

/-- The cloud endpoint changes. -/
theorem cloud (h : s.Records) (endpoint : Option VDA5050EndPoint)
    (hendpoint : s'.endpoint = (s.setEndpoint .cloudSide endpoint).endpoint) (hlistening : s'.listening = s.listening) :
    s'.Records :=
  h.of hlistening fun _ hn => (hn.setEndpoint_of_ne (by simp) endpoint).congr (congrFun hendpoint _)

/-- `attach` has registered the listeners on the local endpoint. -/
theorem attach (h : s.Records) (hr : s.Ready) (hw : s.Wired) (hrun : s.run = .constructed)
    {r : Vda5050EventRecorder} (hrecorder : s.recorder = some r) :
    (s.registerAt .localSide r.localEp attachLocal).Counts .localSide .recorder 1 := by
  have hnone : s.Counts .localSide .recorder 0 := by simpa [Records, listening, hrun] using h
  intro ep' hep' t ht
  obtain ⟨ep, hep, rfl⟩ := of_endpoint_registerAt hep'
  have hpointer : r.localEp = some ep.id := by
    rw [hr.recorder r hrecorder, setUp, hep]
    rfl
  have hfits := hw.fits _ _ hep
  rw [if_pos hpointer, count_attachLocal hfits.side_eq hfits.stopped ht, hnone ep hep t ht]

theorem step {a : Action} (h : s.Records) (hr : s.Ready) (hw : s.Wired) (hs : s.step topicPrefix a = some s') :
    s'.Records := by
  have hne : Side.localSide ≠ .cloudSide := by simp
  cases outcome_of_step hs with
  | noPrefix hrun => exact h.congr rfl (by simp [listening, hrun])
  | connectFailed => exact .of_none rfl
  | localConnecting hrun => exact h.congr rfl (by simp [listening, hrun])
  | @localInitialized accepted topicTemplate ep client hrun hinit =>
    have hnew : (s.setEndpoint .localSide (some ep)).Counts .localSide .recorder 0 := .new (by rw [init_eq hinit])
    exact hnew.congr rfl
  | localInitFailed => exact .of_none rfl
  | loopsFailed => exact .of_none rfl
  | loopsStarted hrun => exact h.congr rfl (by simp [listening, hrun])
  | recorderConstructed hrun => exact h.congr rfl (by simp [listening, hrun])
  | attached hrun hrecorder => exact ((h.attach hr hw hrun hrecorder).attachCloud (by simp)).congr rfl
  | callbackSet hrun => exact h.congr rfl (by simp [listening, hrun])
  | connecting => exact h.congr rfl rfl
  | lost => exact h.congr rfl rfl
  | refused => exact h.congr rfl rfl
  | connected => exact h.congr rfl rfl
  | @cloudCreated topicTemplate =>
    exact h.cloud (some { id := s.allocated, side := .cloudSide, topicTemplate }) rfl rfl
  | @cloudInitialized accepted ep ep' => exact h.cloud (some ep') rfl rfl
  | cloudInitFailed => exact h.cloud none rfl rfl
  | @bridged localEp cloudEp _ hlocal =>
    refine h.of rfl fun n hn => ?_
    have hregistered := hn.register hlocal (k := 0) fun t _ => count_recorder_bridgeLocalToCloud localEp t
    exact (hregistered.setEndpoint_of_ne hne (some (bridgeCloudToLocal cloudEp).2)).congr rfl
  | bridgeFailed hcallback _ hfailed => exact (hr.not_bridgeFailed hw hcallback hfailed).elim
  | notified =>
    have hnotified : (if s.onCloudConnected then s.attachCloud else s).Records := by
      split
      · refine h.of ?_ fun n hn => hn.attachCloud (by simp)
        rw [attachCloud_eq]
        rfl
      · exact h
    exact hnotified.congr rfl rfl

end Records

theorem records_of_reachable (h : (system topicPrefix).Reachable s) : s.Records := by
  refine System.Reach.invariant (I := Records) (fun s hs => ?_) (fun s a s' hreach hI _ hs => ?_) h
  · obtain rfl : s = {} := hs
    exact .of_none rfl
  · exact hI.step (ready_of_reachable hreach) (wired_of_reachable hreach).2 hs

end Daemon

/-! ### Messages that are recorded -/

def Call.isRecord : Call → Bool
  | .record _ => true
  | _ => false

namespace Delivery

variable [JsonLibrary]

/-- The message has reached the local endpoint, which can read the topic and the payload. -/
structure Uplink (d : Delivery) (u : Dispatched) : Prop where
  side_eq : d.side = .localSide
  type_mem : u.type ∈ Side.localSide.types
  context : ∃ ep, d.daemon.endpoint .localSide = some ep ∧
    ep.topicTemplate.parseTopicContext d.message.topic (suffix u.type) = some u.context
  message : decode d.message.payload = .ok u.message

/-- A message that can be read has been passed to the recorder once. -/
def RecordedOnce (d : Delivery) : Prop := ∀ u, d.Uplink u → d.calls.filter Call.isRecord = [.record u]

variable [MosquittoLibrary]

/-- The calls of the recorder for a message that can be read. -/
private theorem Uplink.filter_isRecord {topicPrefix : String} {allowed : Daemon → Action → Prop} {d : Delivery}
    {u : Dispatched}
    (h : d.Uplink u) (hmade : Traffic.Made d topicPrefix allowed) :
    d.calls.filter Call.isRecord = if d.daemon.listening then [.record u] else [] := by
  obtain ⟨context, t, m⟩ := u
  obtain ⟨ep, hep, hcontext⟩ := h.context
  have hready := Daemon.ready_of_reachable hmade.reach.reachable
  have hfits := (Daemon.wired_of_reachable hmade.reach.reachable).2.fits _ _ hep
  have hinitialized := hready.initialized hmade.loops hep nofun
  have hrouted := Daemon.routed_of_reachable hmade.reach.reachable
  obtain ⟨hserves, -⟩ := hrouted.serves ep.bare (by simp [Daemon.setUp, hep]) hinitialized
  have hcount := Daemon.records_of_reachable hmade.reach.reachable ep hep t h.type_mem
  obtain ⟨throws, hcalls⟩ := hmade.calls
  have ht : t ∈ ep.side.types := hfits.side_eq ▸ h.type_mem
  rw [hcalls, h.side_eq, Daemon.runOn_handleMessage hep hserves hfits.stopped hmade.valid ht hcontext h.message,
    filter_map_eq_replicate _ Listener.recorder fun listener => ?_, hcount]
  · split <;> rfl
  · cases listener with
    | bridge =>
      simp only [Daemon.callOf]
      split <;> rfl
    | recorder => rfl

end Delivery

variable [JsonLibrary] [MosquittoLibrary]

/-- Each message that the local client delivers and that can be read is passed to the recorder exactly once if and only
if none of them is delivered before the recorder is attached. -/
theorem recordedOnce_iff {topicPrefix : String} {s : Traffic} (h : (Traffic.system topicPrefix).Reachable s) :
    (∀ d ∈ s.deliveries, d.RecordedOnce) ↔
      ∀ d ∈ s.deliveries, (∃ u, d.Uplink u) → d.daemon.listening = true := by
  have hreach : (Traffic.system topicPrefix).Reach (Traffic.Lift fun _ _ => True) s :=
    h.mono fun s a _ => by cases a <;> trivial
  constructor
  · rintro hrecorded d hd ⟨u, hu⟩
    have hcalls := hu.filter_isRecord (Traffic.made_of_reach hreach d hd)
    rw [hrecorded d hd u hu] at hcalls
    by_contra hearly
    rw [if_neg hearly] at hcalls
    cases hcalls
  · intro hlate d hd u hu
    rw [hu.filter_isRecord (Traffic.made_of_reach hreach d hd), if_pos (hlate d hd ⟨u, hu⟩)]

omit [JsonLibrary] [MosquittoLibrary]

/-- The start up to `loop_start`, and up to `attach`. -/
def subscribedRun : List Action := [.connectLocal true, .initLocal fun _ => true, .startLoops true]

def attachedRun : List Action := subscribedRun ++ [.constructRecorder, .attach]

/-- A connection message reaches the local endpoint at the end of a run. -/
private theorem exists_uplink (run : List Action) (listening : Bool)
    (hrun : (replay (Daemon.step "uagv/v3") {} run).any (fun s =>
      s.loopsRunning && s.listening == listening && (s.endpoint .localSide).any fun ep =>
        ep.topicTemplate.parseTopicContext "uagv/v3/acme/7/connection" "connection" ==
          some ⟨"uagv", "v3", "acme", "7"⟩) = true) :
    letI := JsonLibrary.ofTexts connectionTexts
    letI := MosquittoLibrary.levelwise
    ∃ s : Traffic, (Traffic.system "uagv/v3").Reach (Traffic.Lift fun _ _ => True) s ∧ ∃ d, s.deliveries = [d] ∧
      d.daemon.listening = listening ∧ d.Uplink ⟨⟨"uagv", "v3", "acme", "7"⟩, .connection, acmeOnline⟩ := by
  let lib := JsonLibrary.ofTexts connectionTexts
  let mosquitto := MosquittoLibrary.levelwise
  obtain ⟨daemon, hdaemon, hholds⟩ := (Option.any_eq_true _ _).1 hrun
  simp only [Bool.and_eq_true, Option.any_eq_true, beq_iff_eq] at hholds
  obtain ⟨⟨hloops, hlistening⟩, ep, hep, hcontext⟩ := hholds
  have hvalid : ValidTopic "uagv/v3/acme/7/connection" := by decide
  have hdelivered := Traffic.reach_deliver (reachable_of_replay (.init rfl) hdaemon)
    ⟨"uagv/v3/acme/7/connection", onlineText.2.1⟩ (fun _ => false) hloops
    (nofun : Side.localSide = .cloudSide → _) hvalid
  have ht : MessageType.connection ∈ Side.localSide.types := by decide
  exact ⟨_, hdelivered, _, rfl, hlistening, ⟨rfl, ht, ⟨ep, hep, hcontext⟩, decode_acme.1⟩⟩

/-- A connection message after `attach` is recorded. -/
theorem recordedOnce_iff_attached :
    letI := JsonLibrary.ofTexts connectionTexts
    letI := MosquittoLibrary.levelwise
    ∃ s, (Traffic.system "uagv/v3").Reachable s ∧ s.deliveries ≠ [] ∧ ∀ d ∈ s.deliveries,
      d.Uplink ⟨⟨"uagv", "v3", "acme", "7"⟩, .connection, acmeOnline⟩ ∧ d.RecordedOnce := by
  let lib := JsonLibrary.ofTexts connectionTexts
  let mosquitto := MosquittoLibrary.levelwise
  obtain ⟨s, hs, d, hd, hlistening, huplink⟩ := exists_uplink attachedRun true (by decide)
  have hmem : ∀ d' ∈ s.deliveries, d' = d := by simp [hd]
  refine ⟨s, hs.reachable, by simp [hd], fun d' hd' => ⟨hmem d' hd' ▸ huplink, ?_⟩⟩
  exact (recordedOnce_iff hs.reachable).2 (fun d' hd' _ => hmem d' hd' ▸ hlistening) d' hd'

/-- One that is delivered as soon as the loop runs is not. -/
theorem not_recordedOnce_of_early :
    ¬ ∀ [JsonLibrary] [MosquittoLibrary] (topicPrefix : String) (s : Traffic),
      (Traffic.system topicPrefix).Reachable s → ∀ d ∈ s.deliveries, d.RecordedOnce := by
  intro h
  let lib := JsonLibrary.ofTexts connectionTexts
  let mosquitto := MosquittoLibrary.levelwise
  obtain ⟨s, hs, d, hd, hlistening, huplink⟩ := exists_uplink subscribedRun false (by decide)
  have hmem : d ∈ s.deliveries := by simp [hd]
  have hrecorded := h "uagv/v3" s hs.reachable d hmem _ huplink
  rw [huplink.filter_isRecord (Traffic.made_of_reach hs d hmem), hlistening] at hrecorded
  cases hrecorded

end SyriusOrbit.Mqtt

import SyriusOrbit.Mqtt.SetUp

/-!
# Subscriptions and reconnections

Sessions are clean: the broker forgets the subscriptions of a client when its connection ends.  Endpoints subscribe
once, in `Init`.  The local client has no connect callback, and the callback of the cloud client returns at once when
there is an endpoint, so that nothing subscribes again.  In every state of a run the clients are subscribed if and only
if none of them is connected by a connection that it has opened while its endpoint was initialized (`subscribed_iff`),
so they are in every run in which no such connection is accepted (`subscribed_of_reach`).
-/

namespace SyriusOrbit.Mqtt.Daemon

open Vda5050 Transition VDA5050EndPoint

/-- The client of the side is connected, and its `on_connect` has been processed. -/
def Connected (s : Daemon) (side : Side) : Prop :=
  (s.client side).link = .up ∧ (side = .cloudSide → s.callback = .idle)

/-- A connected client whose endpoint is initialized and not stopped has the filters of the endpoint's side with its
broker. -/
def Subscribed (s : Daemon) : Prop :=
  ∀ side ep, s.endpoint side = some ep → ep.initialized = true → ep.stopped = false → s.Connected side →
    ∀ t ∈ ep.side.types, ep.filter t ∈ (s.client side).held

/-- The side on which the action opens a connection. -/
def opens : Action → Option Side
  | .connecting side => some side
  | _ => none

/-- The side on which the action accepts a connection. -/
def accepts : Action → Option Side
  | .onConnect side true => some side
  | _ => none

/-- The endpoint of the side is initialized. -/
def initialized (s : Daemon) (side : Side) : Bool := (s.endpoint side).any (·.initialized)

/-- The sides on which the last connection was opened while the endpoint was initialized, after the action. -/
def reopens (s : Daemon) (reopened : Side → Bool) (a : Action) : Side → Bool :=
  match opens a with
  | some side => Function.update reopened side (s.initialized side)
  | none => reopened

/-! ### The sessions of initialized endpoints -/

variable {reopened : Side → Bool}

/-- As long as its connection has not ended, the filters of an initialized endpoint are with the broker. -/
structure Sessions (s : Daemon) (reopened : Side → Bool) : Prop where
  begin : s.run = .begin → s.endpoint .localSide = none
  held : ∀ side ep, s.endpoint side = some ep → ep.initialized = true → (s.client side).link ≠ .down →
    reopened side = false → ∀ t ∈ ep.side.types, ep.filter t ∈ (s.client side).held

namespace Sessions

variable {s s' : Daemon}

/-- The other members do not matter. -/
theorem congr (h : s.Sessions reopened) (hclient : s'.client = s.client) (hendpoint : s'.endpoint = s.endpoint)
    (hrun : s'.run = .begin → s.run = .begin) : s'.Sessions reopened where
  begin hbegin := hendpoint ▸ h.begin (hrun hbegin)
  held := by
    rw [hclient, hendpoint]
    exact h.held

theorem setClient (h : s.Sessions reopened) {side : Side} {client : MqttSubscriber}
    (hclient : ∀ ep, s.endpoint side = some ep → ep.initialized = true → client.link ≠ .down →
      (s.client side).link ≠ .down ∧ (s.client side).held ⊆ client.held) :
    (s.setClient side client).Sessions reopened where
  begin := h.begin
  held side' ep hep hinit hlink hfirst t ht := by
    by_cases hside : side' = side
    · subst hside
      rw [client_setClient] at hlink ⊢
      obtain ⟨hopen, hheld⟩ := hclient ep hep hinit hlink
      exact hheld (h.held side' ep hep hinit hopen hfirst t ht)
    · rw [client_setClient_of_ne hside] at hlink ⊢
      exact h.held side' ep hep hinit hlink hfirst t ht

/-- A client opens a connection. -/
theorem reopen (h : s.Sessions reopened) (side : Side) :
    (s.setClient side { s.client side with link := .pending }).Sessions
      (Function.update reopened side (s.initialized side)) where
  begin := h.begin
  held side' ep hep hinit hlink hfirst t ht := by
    have hsame : s.endpoint side' = some ep := hep
    by_cases hside : side' = side
    · subst hside
      rw [Function.update_self, initialized, hsame, Option.any_some, hinit] at hfirst
      cases hfirst
    · rw [client_setClient_of_ne hside] at hlink ⊢
      rw [Function.update_of_ne hside] at hfirst
      exact h.held side' ep hsame hinit hlink hfirst t ht

theorem setEndpoint (h : s.Sessions reopened) {side : Side} {endpoint : Option VDA5050EndPoint}
    (hbegin : s.run = .begin → side = .localSide → endpoint = none)
    (hendpoint : ∀ ep, endpoint = some ep → ep.initialized = true → (s.client side).link ≠ .down →
      reopened side = false → ∀ t ∈ ep.side.types, ep.filter t ∈ (s.client side).held) :
    (s.setEndpoint side endpoint).Sessions reopened where
  begin hrun := by
    by_cases hside : side = .localSide
    · subst hside
      simpa [Daemon.setEndpoint] using hbegin hrun rfl
    · simpa [Daemon.setEndpoint, Function.update_of_ne (Ne.symm hside)] using h.begin hrun
  held side' ep hep hinit hlink := by
    by_cases hside : side' = side
    · subst hside
      rw [endpoint_setEndpoint] at hep
      exact hendpoint ep hep hinit hlink
    · rw [endpoint_setEndpoint_of_ne hside] at hep
      exact h.held side' ep hep hinit hlink

theorem stop (s : Daemon) : s.stop.Sessions reopened where
  begin _ := rfl
  held _ _ hep := by cases hep

/-- Registration does not matter to subscriptions. -/
theorem register (h : s.Sessions reopened) {side : Side} {ep ep' : VDA5050EndPoint} (hep : s.endpoint side = some ep)
    (hsame : ep.SameSetup ep') : (s.setEndpoint side (some ep')).Sessions reopened := by
  refine h.setEndpoint (fun hrun hside => ?_) fun ep'' heq hinit hlink hfirst t ht => ?_
  · subst hside
    rw [h.begin hrun] at hep
    cases hep
  · obtain rfl := Option.some.inj heq
    rw [SameSetup] at hsame
    rw [hsame] at hinit ht ⊢
    exact h.held side ep hep hinit hlink hfirst t ht

theorem registerAt (h : s.Sessions reopened) (side : Side) (pointer : Option Nat)
    {f : VDA5050EndPoint → VDA5050EndPoint}
    (hf : ∀ ep : VDA5050EndPoint, ep.SameSetup (f ep)) : (s.registerAt side pointer f).Sessions reopened := by
  unfold Daemon.registerAt
  cases hep : s.endpoint side with
  | none => exact h.setEndpoint (by simp) fun _ hnone => by cases hnone
  | some ep => exact h.register hep (sameSetup_registerAt hf pointer ep)

theorem attachCloud (h : s.Sessions reopened) : s.attachCloud.Sessions reopened := by
  rcases attachCloud_cases s with ⟨heq, -⟩ | ⟨r, -, -, heq⟩
  · rwa [heq]
  · rw [heq]
    exact (h.registerAt _ _ sameSetup_attachDownlink).congr rfl rfl id

/-- The endpoint of a side is replaced by one that has its filters with the broker, or by none. -/
private theorem replace (h : s.Sessions reopened) {side : Side} {client : MqttSubscriber}
    {endpoint : Option VDA5050EndPoint}
    (hrun : s.run = .begin → side ≠ .localSide)
    (hendpoint : ∀ ep, endpoint = some ep → ep.initialized = true → ∀ t ∈ ep.side.types, ep.filter t ∈ client.held) :
    ((s.setClient side client).setEndpoint side endpoint).Sessions reopened where
  begin hbegin := by
    have hside := hrun hbegin
    simpa [Daemon.setEndpoint, Daemon.setClient, Function.update_of_ne hside.symm] using h.begin hbegin
  held side' ep hep hinit hlink hfirst t ht := by
    by_cases hside : side' = side
    · subst hside
      simp only [Daemon.setEndpoint, Daemon.setClient, Function.update_self] at hep ⊢
      exact hendpoint ep hep hinit t ht
    · simp only [Daemon.setEndpoint, Daemon.setClient, Function.update_of_ne hside] at hep hlink ⊢
      exact h.held side' ep hep hinit hlink hfirst t ht

theorem step {topicPrefix : String} {a : Action} (h : s.Sessions reopened) (hs : s.step topicPrefix a = some s') :
    s'.Sessions (s.reopens reopened a) := by
  cases outcome_of_step hs with
  | noPrefix => exact h.congr rfl rfl (by simp)
  | connectFailed => exact (stop s).congr rfl rfl (by simp)
  | localConnecting hrun =>
    refine (h.setClient fun ep hep => ?_).congr rfl rfl (by simp)
    rw [h.begin hrun] at hep
    cases hep
  | localInitialized hrun hinit =>
    refine (h.replace (by simp [hrun]) fun ep hep _ => ?_).congr rfl rfl (by simp)
    exact Option.some.inj hep ▸ held_init hinit
  | localInitFailed => exact (stop _).congr rfl rfl (by simp)
  | loopsFailed => exact (stop s).congr rfl rfl (by simp)
  | loopsStarted => exact h.congr rfl rfl (by simp)
  | recorderConstructed => exact h.congr rfl rfl (by simp)
  | attached =>
    exact (h.registerAt _ _ sameSetup_attachLocal).attachCloud.congr rfl rfl (by simp)
  | callbackSet => exact h.congr rfl rfl (by simp)
  | @connecting side => exact h.reopen side
  | lost => exact h.setClient fun _ _ _ hlink => absurd rfl hlink
  | refused => exact h.setClient fun _ _ _ hlink => absurd rfl hlink
  | connected hpending => exact h.setClient fun _ _ _ _ => ⟨by simp [hpending], List.Subset.refl _⟩
  | cloudCreated =>
    refine (h.replace (by simp) fun ep hep hinit => ?_).congr rfl rfl id
    rw [← Option.some.inj hep] at hinit
    cases hinit
  | cloudInitialized _ _ hinit =>
    refine (h.replace (by simp) fun ep hep _ => ?_).congr rfl rfl id
    exact Option.some.inj hep ▸ held_init hinit
  | cloudInitFailed => exact (h.replace (by simp) fun _ hep => by cases hep).congr rfl rfl id
  | bridged hcallback hlocal hcloud =>
    have h' := h.register hlocal (sameSetup_bridgeLocalToCloud _)
    exact (h'.register (cloud_of_setEndpoint hcloud _) (sameSetup_bridgeCloudToLocal _)).congr rfl rfl id
  | bridgeFailed hcallback hlocal =>
    obtain rfl | ⟨localEp, hep, rfl⟩ := hlocal
    · exact (h.setEndpoint (by simp) fun _ hep => by cases hep).congr rfl rfl id
    · have h' := h.register hep (sameSetup_bridgeLocalToCloud localEp)
      exact (h'.setEndpoint (by simp) fun _ hep => by cases hep).congr rfl rfl id
  | notified =>
    refine Sessions.congr (s := if s.onCloudConnected then s.attachCloud else s) ?_ rfl rfl id
    split
    · exact h.attachCloud
    · exact h

end Sessions

variable {topicPrefix : String} {s s' : Daemon}

/-! ### Reconnections -/

private theorem closed_setClient (h : ∀ side, (s.client side).Closed) {side : Side} {client : MqttSubscriber}
    (hclient : client.Closed) (side' : Side) : ((s.setClient side client).client side').Closed := by
  by_cases hside : side' = side
  · subst hside
    rwa [client_setClient]
  · rw [client_setClient_of_ne hside]
    exact h side'

private theorem closed_step {a : Action} (h : ∀ side, (s.client side).Closed) (hs : s.step topicPrefix a = some s')
    (side : Side) : (s'.client side).Closed := by
  cases outcome_of_step hs with
  | noPrefix => exact h side
  | connectFailed => exact fun _ => rfl
  | localConnecting => exact closed_setClient h (.of_ne (by simp)) side
  | localInitialized _ hinit => exact closed_setClient h (closed_init (h _) hinit) side
  | localInitFailed => exact fun _ => rfl
  | loopsFailed => exact fun _ => rfl
  | loopsStarted => exact h side
  | recorderConstructed => exact h side
  | attached =>
    rw [attachCloud_eq]
    exact h side
  | callbackSet => exact h side
  | connecting => exact closed_setClient h (.of_ne (by simp)) side
  | lost => exact closed_setClient h (fun _ => rfl) side
  | refused => exact closed_setClient h (fun _ => rfl) side
  | connected => exact closed_setClient h (.of_ne (by simp)) side
  | cloudCreated => exact closed_setClient h (.of_ne (by simp)) side
  | cloudInitialized _ _ hinit => exact closed_setClient h (closed_init (h _) hinit) side
  | cloudInitFailed _ _ hinit => exact closed_setClient h (closed_init (h _) hinit) side
  | bridged => exact h side
  | bridgeFailed _ hlocal =>
    obtain rfl | ⟨_, _, rfl⟩ := hlocal
    · exact h side
    · exact h side
  | notified =>
    rw [notified_eq]
    exact h side

theorem closed_of_reachable (h : (system topicPrefix).Reachable s) (side : Side) : (s.client side).Closed := by
  refine System.Reach.invariant (I := fun s => ∀ side, (s.client side).Closed) (fun s hs side _ => ?_)
    (fun _ _ _ _ hI _ hs => closed_step hI hs) h side
  obtain rfl : s = {} := hs
  rfl

/-- A client comes up only when a connection is accepted. -/
private theorem link_of_step {a : Action} (hs : s.step topicPrefix a = some s') {side : Side}
    (hup : (s'.client side).link = .up) : (s.client side).link = .up ∨ accepts a = some side := by
  have hset : ∀ {s₁ : Daemon} {side' : Side} {client : MqttSubscriber}, s₁.client = s.client →
      ((s₁.setClient side' client).client side).link = .up →
      (client.link = .up → (s.client side').link = .up ∨ accepts a = some side') →
      (s.client side).link = .up ∨ accepts a = some side := by
    intro s₁ side' client hclient hlink hcame
    by_cases hside : side = side'
    · subst hside
      rw [client_setClient] at hlink
      exact hcame hlink
    · rw [client_setClient_of_ne hside, hclient] at hlink
      exact .inl hlink
  cases outcome_of_step hs with
  | noPrefix | loopsStarted | recorderConstructed | callbackSet | bridged => exact .inl hup
  | connectFailed | localInitFailed | loopsFailed => cases hup
  | localConnecting => exact hset rfl hup nofun
  | localInitialized _ hinit => exact hset rfl hup fun hlink => .inl ((link_init hinit).symm.trans hlink)
  | attached =>
    rw [attachCloud_eq] at hup
    exact .inl hup
  | connecting => exact hset rfl hup nofun
  | lost => exact hset rfl hup nofun
  | refused => exact hset rfl hup nofun
  | connected => exact hset rfl hup fun _ => .inr rfl
  | cloudCreated => exact hset rfl hup fun _ => .inr rfl
  | cloudInitialized _ _ hinit => exact hset rfl hup fun hlink => .inl ((link_init hinit).symm.trans hlink)
  | cloudInitFailed _ _ hinit => exact hset rfl hup fun hlink => .inl ((link_init hinit).symm.trans hlink)
  | bridgeFailed _ hlocal =>
    obtain rfl | ⟨_, _, rfl⟩ := hlocal
    · exact .inl hup
    · exact .inl hup
  | notified =>
    rw [notified_eq] at hup
    exact .inl hup

private theorem pending_of_opens {a : Action} (hs : s.step topicPrefix a = some s') {side : Side}
    (hopens : opens a = some side) : (s'.client side).link = .pending := by
  cases a with
  | connecting side' =>
    obtain rfl := Option.some.inj hopens
    cases outcome_of_step hs with
    | connecting => rw [client_setClient]
  | _ => cases hopens

private theorem reopens_of_ne {a : Action} {side : Side} (h : opens a ≠ some side) :
    s.reopens reopened a side = reopened side := by
  unfold reopens
  cases hopens : opens a with
  | none => rfl
  | some side' =>
    have hside : side ≠ side' := fun hside => h (hside ▸ hopens)
    exact Function.update_of_ne hside _ _

/-- The endpoint behind a connection that was opened again is initialized, and the broker holds none of its filters. -/
structure Missing (s : Daemon) (reopened : Side → Bool) : Prop where
  running : ∀ side, reopened side = true → s.loopsRunning = true
  setUp : ∀ side, reopened side = true → ∃ ep, s.setUp side = some ep ∧ ep.initialized = true
  held : ∀ side, reopened side = true → (s.client side).link ≠ .down → (s.client side).held = []

namespace Missing

/-- Nothing is opened again before the loops run. -/
theorem early (h : s.Missing reopened) (hloops : s.loopsRunning = false) (s' : Daemon) : s'.Missing reopened := by
  have hnone : ∀ side, reopened side ≠ true := by
    intro side hside
    exact absurd (h.running side hside) (by simp [hloops])
  exact ⟨fun side hside => absurd hside (hnone side), fun side hside => absurd hside (hnone side),
    fun side hside => absurd hside (hnone side)⟩

theorem congr (h : s.Missing reopened) (hclient : s'.client = s.client) (hsetUp : s'.setUp = s.setUp)
    (hloops : s.loopsRunning = true → s'.loopsRunning = true) : s'.Missing reopened where
  running side hside := hloops (h.running side hside)
  setUp side hside := hsetUp ▸ h.setUp side hside
  held side hside := by
    rw [hclient]
    exact h.held side hside

/-- A connection changes, but no new session begins. -/
theorem link (h : s.Missing reopened) {side : Side} {client : MqttSubscriber}
    (hclient : client.link ≠ .down → (s.client side).link ≠ .down ∧ client.held = (s.client side).held) :
    (s.setClient side client).Missing reopened where
  running := h.running
  setUp := h.setUp
  held side' hside' hlink := by
    by_cases hside : side' = side
    · subst hside
      rw [client_setClient] at hlink ⊢
      obtain ⟨hopen, hheld⟩ := hclient hlink
      rw [hheld, h.held side' hside' hopen]
    · rw [client_setClient_of_ne hside] at hlink ⊢
      exact h.held side' hside' hlink

/-- A client opens a connection. -/
theorem reopen (h : s.Missing reopened) (hloops : s.loopsRunning = true) {side : Side}
    (hclosed : (s.client side).held = []) :
    (s.setClient side { s.client side with link := .pending }).Missing
      (Function.update reopened side (s.initialized side)) where
  running _ _ := hloops
  setUp side' hside' := by
    by_cases hside : side' = side
    · subst hside
      rw [Function.update_self, initialized, Option.any_eq_true] at hside'
      obtain ⟨ep, hep, hinitialized⟩ := hside'
      exact ⟨ep.bare, congrArg (Option.map bare) hep, hinitialized⟩
    · rw [Function.update_of_ne hside] at hside'
      exact h.setUp side' hside'
  held side' hside' hlink := by
    by_cases hside : side' = side
    · subst hside
      rw [client_setClient]
      exact hclosed
    · rw [client_setClient_of_ne hside] at hlink ⊢
      rw [Function.update_of_ne hside] at hside'
      exact h.held side' hside' hlink

/-- The connect callback of the cloud client sets up an endpoint, which is not initialized then. -/
theorem cloud (h : s.Missing reopened) (hcloud : reopened .cloudSide = false)
    (hclient : s'.client .localSide = s.client .localSide) (hsetUp : s'.setUp .localSide = s.setUp .localSide)
    (hrun : s'.run = s.run) : s'.Missing reopened := by
  have hlocal : ∀ side, reopened side = true → side = .localSide := by
    intro side hside
    refine Side.eq_localSide fun heq => ?_
    rw [heq, hcloud] at hside
    cases hside
  refine ⟨fun side hside => ?_, fun side hside => ?_, fun side hside => ?_⟩
  · rw [loopsRunning, hrun]
    exact h.running side hside
  · obtain rfl := hlocal side hside
    exact hsetUp ▸ h.setUp _ hside
  · obtain rfl := hlocal side hside
    rw [hclient]
    exact h.held _ hside

private theorem first_of_none (h : s.Missing reopened) {side : Side} (hnone : s.endpoint side = none) :
    reopened side = false := by
  rw [← Bool.not_eq_true]
  intro hside
  obtain ⟨ep, hep, -⟩ := h.setUp side hside
  simp [Daemon.setUp, hnone] at hep

private theorem first_of_created (h : s.Missing reopened) (hr : s.Ready) (hcallback : s.callback = .created) :
    reopened .cloudSide = false := by
  rw [← Bool.not_eq_true]
  intro hside
  obtain ⟨ep, hep, hinitialized⟩ := h.setUp _ hside
  exact (hr.cloudEp ep hep).1 hinitialized hcallback

theorem step {a : Action} (h : s.Missing reopened) (hr : s.Ready) (hw : s.Wired)
    (hclosed : ∀ side, (s.client side).Closed) (hs : s.step topicPrefix a = some s') :
    s'.Missing (s.reopens reopened a) := by
  have hne : Side.localSide ≠ .cloudSide := by simp
  cases outcome_of_step hs with
  | noPrefix hrun => exact h.early (by rw [loopsRunning, hrun]) _
  | connectFailed hrun => exact h.early (by rw [loopsRunning, hrun]) _
  | localConnecting hrun => exact h.early (by rw [loopsRunning, hrun]) _
  | localInitialized hrun => exact h.early (by rw [loopsRunning, hrun]) _
  | localInitFailed hrun => exact h.early (by rw [loopsRunning, hrun]) _
  | loopsFailed hrun => exact h.early (by rw [loopsRunning, hrun]) _
  | loopsStarted hrun => exact h.early (by rw [loopsRunning, hrun]) _
  | recorderConstructed => exact h.congr rfl rfl fun _ => rfl
  | @attached r => exact h.congr (client_attachCloud _) (setUp_attached s r.localEp) fun _ => rfl
  | callbackSet => exact h.congr rfl rfl fun _ => rfl
  | @connecting side hloops hdown => exact h.reopen hloops (hclosed side hdown)
  | lost => exact h.link fun hlink => absurd rfl hlink
  | refused => exact h.link fun hlink => absurd rfl hlink
  | connected hpending => exact h.link fun _ => ⟨by simp [hpending], rfl⟩
  | cloudCreated _ hnone =>
    have hclient := client_setClient_of_ne hne s { s.client .cloudSide with link := .up }
    refine h.cloud (h.first_of_none hnone) hclient ?_ rfl
    simp [Daemon.setUp, createEndpoint, Daemon.setEndpoint, setClient]
  | @cloudInitialized _ _ ep' client hcallback =>
    refine h.cloud (h.first_of_created hr hcallback) (client_setClient_of_ne hne s client) ?_ rfl
    exact congrArg (Option.map bare) (endpoint_setEndpoint_of_ne hne s (some ep'))
  | @cloudInitFailed _ _ _ client hcallback =>
    refine h.cloud (h.first_of_created hr hcallback) (client_setClient_of_ne hne s client) ?_ rfl
    exact congrArg (Option.map bare) (endpoint_setEndpoint_of_ne hne s none)
  | @bridged localEp cloudEp _ hlocal hcloud =>
    have hlocal' := setUp_register hlocal (sameSetup_bridgeLocalToCloud localEp)
    have hcloud' := setUp_register (cloud_of_setEndpoint hcloud (some (bridgeLocalToCloud localEp).2))
      (sameSetup_bridgeCloudToLocal cloudEp)
    exact h.congr rfl (hcloud'.trans hlocal') id
  | bridgeFailed hcallback _ hfailed => exact (hr.not_bridgeFailed hw hcallback hfailed).elim
  | notified =>
    refine h.congr (client_notified s) (setUp_notified s) fun hloops => ?_
    rwa [loopsRunning, show Daemon.run _ = s.run from run_notified s]

end Missing

/-! ### Runs -/

/-- The daemon, with the sides on which the last connection was opened while the endpoint was initialized. -/
structure Watched where
  daemon : Daemon := {}
  reopened : Side → Bool := fun _ => false

namespace Watched

variable {w w' : Watched}

def step (topicPrefix : String) (w : Watched) (a : Action) : Option Watched :=
  (w.daemon.step topicPrefix a).map fun daemon => { daemon, reopened := w.daemon.reopens w.reopened a }

def system (topicPrefix : String) : System Watched Action := .ofStep {} (step topicPrefix)

/-- The runs are those of the daemon. -/
theorem exists_of_reachable (h : (Daemon.system topicPrefix).Reachable s) :
    ∃ w, (system topicPrefix).Reachable w ∧ w.daemon = s := by
  induction h with
  | @init s hs =>
    obtain rfl : s = {} := hs
    exact ⟨{}, .init rfl, rfl⟩
  | @step s s' a _ _ hs ih =>
    obtain ⟨w, hw, rfl⟩ := ih
    exact ⟨{ daemon := s', reopened := w.daemon.reopens w.reopened a },
      hw.step trivial (Option.map_eq_some_iff.2 ⟨s', hs, rfl⟩), rfl⟩

theorem daemon_of_reachable (h : (system topicPrefix).Reachable w) :
    (Daemon.system topicPrefix).Reachable w.daemon := by
  refine h.map Watched.daemon (fun w hw => ?_) fun w a w' _ hs => ?_
  · obtain rfl : w = {} := hw
    rfl
  · obtain ⟨daemon, hdaemon, rfl⟩ := Option.map_eq_some_iff.1 hs
    exact .inr ⟨a, trivial, hdaemon⟩

theorem sessions_of_reachable (h : (system topicPrefix).Reachable w) :
    w.daemon.Sessions w.reopened ∧ w.daemon.Missing w.reopened := by
  refine System.Reach.invariant (I := fun w => w.daemon.Sessions w.reopened ∧ w.daemon.Missing w.reopened)
    (fun w hw => ?_) (fun w a w' hreach hI _ hs => ?_) h
  · obtain rfl : w = {} := hw
    exact ⟨⟨fun _ => rfl, fun _ _ hep => by cases hep⟩, ⟨nofun, nofun, nofun⟩⟩
  · obtain ⟨daemon, hdaemon, rfl⟩ := Option.map_eq_some_iff.1 hs
    have hreach := daemon_of_reachable hreach
    exact ⟨hI.1.step hdaemon, hI.2.step (ready_of_reachable hreach) (wired_of_reachable hreach).2
      (closed_of_reachable hreach) hdaemon⟩

/-- In every state of a run the clients are subscribed if and only if none of them is connected by a connection that
it has opened while its endpoint was initialized. -/
theorem subscribed_iff (h : (system topicPrefix).Reachable w) :
    w.daemon.Subscribed ↔ ∀ side, w.daemon.Connected side → w.reopened side = false := by
  obtain ⟨hsessions, hmissing⟩ := sessions_of_reachable h
  constructor
  · intro hsubscribed side hconnected
    rw [← Bool.not_eq_true]
    intro hreopened
    obtain ⟨_, hset, hinitialized⟩ := hmissing.setUp side hreopened
    obtain ⟨ep, hep, rfl⟩ := Option.map_eq_some_iff.1 hset
    have hfits := (wired_of_reachable (daemon_of_reachable h)).2.fits side ep hep
    have hheld := hmissing.held side hreopened (by simp [hconnected.1])
    have hnone : ∀ t ∈ ep.side.types, ep.filter t ∈ ([] : List String) := by
      rw [← hheld]
      exact hsubscribed side ep hep hinitialized hfits.stopped hconnected
    cases hside : ep.side with
    | localSide => simpa using hnone .state (by simp [hside, Side.types])
    | cloudSide => simpa using hnone .order (by simp [hside, Side.types])
  · intro hfirst side ep hep hinit _ hconnected
    exact hsessions.held side ep hep hinit (by simp [hconnected.1]) (hfirst side hconnected)

/-- No connection is accepted that was opened while the endpoint was initialized: that would be a reconnection. -/
def NoReconnect (w : Watched) (a : Action) : Prop := ∀ side ∈ accepts a, w.reopened side = false

instance (w : Watched) (a : Action) : Decidable (w.NoReconnect a) :=
  inferInstanceAs (Decidable (∀ side ∈ accepts a, w.reopened side = false))

/-- In runs in which no such connection is accepted, the clients are subscribed. -/
theorem subscribed_of_reach (h : (system topicPrefix).Reach NoReconnect w) : w.daemon.Subscribed := by
  have hfirst : ∀ side, (w.daemon.client side).link = .up → w.reopened side = false := by
    refine h.invariant (I := fun w => ∀ side, (w.daemon.client side).link = .up → w.reopened side = false)
      (fun w hw side hup => ?_) fun w a w' _ hI ha hs side hup => ?_
    · obtain rfl : w = {} := hw
      rfl
    · obtain ⟨daemon, hdaemon, rfl⟩ := Option.map_eq_some_iff.1 hs
      have hfirst : w.reopened side = false := by
        rcases link_of_step hdaemon hup with hold | haccepts
        · exact hI side hold
        · exact ha side haccepts
      have hopens : opens a ≠ some side := by
        intro hopens
        cases hup.symm.trans (pending_of_opens hdaemon hopens)
      exact (reopens_of_ne hopens).trans hfirst
  exact (subscribed_iff h.reachable).2 fun side hconnected => hfirst side hconnected.1

end Watched

/-- Both clients have connected. -/
def connectedRun : List Action :=
  [.connectLocal true, .initLocal fun _ => true, .startLoops true, .onConnect .localSide true, .connecting .cloudSide,
    .onConnect .cloudSide true, .initCloud fun _ => true, .setupBridge, .notify]

/-- The connection of the local client is lost and opened again. -/
def reconnectedRun : List Action :=
  [.connectLocal true, .initLocal fun _ => true, .startLoops true, .onConnect .localSide true, .lost .localSide,
    .connecting .localSide, .onConnect .localSide true]

/-- The client of the side is connected, its endpoint is initialized, and the broker holds a number of filters. -/
def holds (side : Side) (n : Nat) (s : Daemon) : Bool :=
  (s.client side).link == .up && s.callback == .idle && (s.client side).held.length == n &&
    (s.endpoint side).any fun ep => ep.initialized && !ep.stopped && ep.side == side

/-- The connection of the cloud client is lost and opened again, but refused. -/
def refusedRun : List Action :=
  connectedRun ++ [.lost .cloudSide, .connecting .cloudSide, .onConnect .cloudSide false]

theorem subscribed_refusedRun :
    ∃ w, replay (guarded (Watched.step "uagv/v3") Watched.NoReconnect) {} refusedRun = some w ∧
      holds .localSide 4 w.daemon = true ∧ w.reopened .cloudSide = true ∧ w.daemon.Subscribed := by
  have hrun : (replay (guarded (Watched.step "uagv/v3") Watched.NoReconnect) {} refusedRun).any
      (fun w => holds .localSide 4 w.daemon && w.reopened .cloudSide) = true := by decide
  obtain ⟨w, hw, hholds⟩ := (Option.any_eq_true _ _).1 hrun
  rw [Bool.and_eq_true] at hholds
  exact ⟨w, hw, hholds.1, hholds.2, Watched.subscribed_of_reach (reach_of_replay (.init rfl) hw)⟩

/-- Nothing subscribes again after a reconnection of the local client. -/
theorem not_subscribed_of_reconnected : ¬ ∀ topicPrefix s, (system topicPrefix).Reachable s → s.Subscribed := by
  intro h
  have hrun : (replay (step "uagv/v3") {} reconnectedRun).any (holds .localSide 0) = true := by decide
  obtain ⟨s, hs, hholds⟩ := (Option.any_eq_true _ _).1 hrun
  simp only [holds, Bool.and_eq_true, beq_iff_eq, Option.any_eq_true, List.length_eq_zero_iff, Bool.not_eq_true']
    at hholds
  obtain ⟨⟨⟨hlink, hidle⟩, hheld⟩, ep, hep, ⟨hinit, hstopped⟩, hside⟩ := hholds
  have hsubscribed := h "uagv/v3" s (reachable_of_replay (.init rfl) hs) .localSide ep hep hinit hstopped
    ⟨hlink, fun _ => hidle⟩ .state (by simp [hside, Side.types])
  simp [hheld] at hsubscribed

end SyriusOrbit.Mqtt.Daemon

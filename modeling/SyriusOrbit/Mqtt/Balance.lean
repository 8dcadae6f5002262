import SyriusOrbit.Mqtt.Lifecycle

/-!
# What calls of the proxy leave behind

The calls of `init`, `start` and `stop`, whichever of their own calls fail, with what they return.  Every `lib_init` is
matched by a `lib_cleanup` but for one while the proxy runs, and a proxy that has stopped, or has not started, is as
empty as a new one (`nothing_left_behind`).  The end of `stop` is one step, since no thread of the proxy runs then.
-/

namespace SyriusOrbit.Mqtt

open Transition

namespace CallStep

/-- `start` has initialized the library. -/
def starting : CallStep → Bool
  | .libraryInitialized | .configured | .connected | .subscribing _ | .localLooping | .cloudLooping => true
  | _ => false

/-- `start` has created the local endpoint. -/
def created : CallStep → Bool
  | .subscribing _ | .localLooping | .cloudLooping => true
  | _ => false

end CallStep

namespace VDA5050Proxy

variable {s s' : VDA5050Proxy}

/-- `VDA5050Proxy::isRunning`. -/
def isRunning (s : VDA5050Proxy) : Bool := s.running

/-! ### The library and the endpoints -/

/-- No thread runs, and no callback. -/
def Quiet (s : VDA5050Proxy) : Prop := (∀ side, s.looping side = false) ∧ s.connect = .idle

/-- How the calls of the library, the flags and the endpoints go together. -/
structure Balanced (s : VDA5050Proxy) : Prop where
  counts : s.libInits = s.libCleanups + if s.mosquittoInitialized then 1 else 0
  running : s.running = true → s.mosquittoInitialized = true ∧ (s.endpoint .localSide).isSome = true
  starting : s.call.starting = true → s.running = false ∧ s.mosquittoInitialized = true
  created : s.call.created = true → (s.endpoint .localSide).isSome = true
  joined : s.call = .joined → s.Quiet
  down : s.call = .idle → s.running = false →
    s.Quiet ∧ s.mosquittoInitialized = false ∧ ∀ side, s.endpoint side = none

namespace Balanced

/-- `stop` begins, or is called by `start`. -/
theorem stopEndpoints (hcounts : s.libInits = s.libCleanups + if s.mosquittoInitialized then 1 else 0)
    (hrunning : s.running = true → s.mosquittoInitialized = true ∧ (s.endpoint .localSide).isSome = true) :
    s.stopEndpoints.Balanced where
  counts := hcounts
  running hrun := by
    obtain ⟨hmosquitto, hlocal⟩ := hrunning hrun
    exact ⟨hmosquitto, by simpa [VDA5050Proxy.stopEndpoints] using hlocal⟩
  starting hcall := by cases hcall
  created hcall := by cases hcall
  joined hcall := by cases hcall
  down hcall := by cases hcall

/-- The steps of `start` after `lib_init`. -/
theorem starts (h : s.Balanced) (hcall : s.call.starting = true)
    (hcounts : s'.libInits = s.libInits ∧ s'.libCleanups = s.libCleanups)
    (hflags : s'.running = s.running ∧ s'.mosquittoInitialized = s.mosquittoInitialized)
    (hcall' : s'.call.starting = true) (hcreated : s'.call.created = true → (s'.endpoint .localSide).isSome = true) :
    s'.Balanced where
  counts := by
    rw [hcounts.1, hcounts.2, hflags.2]
    exact h.counts
  running hrunning := by
    rw [hflags.1, (h.starting hcall).1] at hrunning
    cases hrunning
  starting _ := by
    rw [hflags.1, hflags.2]
    exact h.starting hcall
  created := hcreated
  joined hjoined := by
    rw [hjoined] at hcall'
    cases hcall'
  down hidle := by
    rw [hidle] at hcall'
    cases hcall'

/-- The steps in a network thread, which leave the calls and the flags alone and keep the local endpoint. -/
theorem callback (h : s.Balanced) (hactive : ¬ s.Quiet)
    (hcounts : s'.libInits = s.libInits ∧ s'.libCleanups = s.libCleanups)
    (hflags : s'.running = s.running ∧ s'.mosquittoInitialized = s.mosquittoInitialized) (hcall : s'.call = s.call)
    (hlocal : (s'.endpoint .localSide).isSome = (s.endpoint .localSide).isSome) : s'.Balanced where
  counts := by
    rw [hcounts.1, hcounts.2, hflags.2]
    exact h.counts
  running := by
    rw [hflags.1, hflags.2, hlocal]
    exact h.running
  starting := by
    rw [hcall, hflags.1, hflags.2]
    exact h.starting
  created := by
    rw [hcall, hlocal]
    exact h.created
  joined hjoined := absurd (h.joined (hcall ▸ hjoined)) hactive
  down hidle hrunning := absurd (h.down (hcall ▸ hidle) (hflags.1 ▸ hrunning)).1 hactive

/-- A client alone changes. -/
theorem setClient (h : s.Balanced) (side : Side) (client : MqttSubscriber) : (s.setClient side client).Balanced :=
  ⟨h.counts, h.running, h.starting, h.created, h.joined, h.down⟩

private theorem not_quiet_of_looping {side : Side} (h : s.looping side = true) : ¬ s.Quiet := by
  intro hquiet
  rw [hquiet.1 side] at h
  cases h

private theorem not_quiet_of_connect (h : s.connect ≠ .idle) : ¬ s.Quiet := fun hquiet => h hquiet.2

theorem step {a : ProxyAction} (h : s.Balanced) (hs : s.step a = some s') : s'.Balanced := by
  have hcloud : ∀ (s : VDA5050Proxy) (endpoint : Option VDA5050EndPoint),
      ((s.setEndpoint .cloudSide endpoint).endpoint .localSide).isSome = (s.endpoint .localSide).isSome :=
    fun s endpoint => by rw [endpoint_setEndpoint_of_ne (by decide)]
  cases outcome_of_step hs with
  | initialized => exact ⟨h.counts, h.running, h.starting, h.created, h.joined, h.down⟩
  | returned => exact h
  | libraryInitialized hcall _ hrunning =>
    obtain ⟨-, hmosquitto, -⟩ := h.down hcall hrunning
    have hcounts := h.counts
    rw [hmosquitto] at hcounts
    refine ⟨?_, fun hrun => ?_, fun _ => ⟨hrunning, rfl⟩, nofun, nofun, nofun⟩
    · exact congrArg (· + 1) hcounts
    · exact absurd (hrunning.symm.trans hrun) (by decide)
  | configureFailed _ hlocal =>
    obtain rfl | rfl := hlocal
    · exact stopEndpoints h.counts h.running
    · exact stopEndpoints h.counts h.running
  | connectFailed | localSubscribeFailed | localLoopFailed | stopped => exact stopEndpoints h.counts h.running
  | configured hcall | localConnecting hcall => exact h.starts (by rw [hcall]; rfl) ⟨rfl, rfl⟩ ⟨rfl, rfl⟩ rfl nofun
  | localInitFailed hcall =>
    have hstarting := h.starting (by rw [hcall]; rfl)
    exact stopEndpoints h.counts fun hrunning => absurd (hstarting.1.symm.trans hrunning) (by decide)
  | localCreated hcall =>
    exact h.starts (by rw [hcall]; rfl) ⟨rfl, rfl⟩ ⟨rfl, rfl⟩ rfl fun _ => by simp [setEndpoint]
  | localSubscribed hcall | localLooping hcall | cloudLooping hcall =>
    exact h.starts (by rw [hcall]; rfl) ⟨rfl, rfl⟩ ⟨rfl, rfl⟩ rfl fun _ => h.created (by rw [hcall]; rfl)
  | started hcall =>
    have hstarting := h.starting (by rw [hcall]; rfl)
    exact ⟨h.counts, fun _ => ⟨hstarting.2, h.created (by rw [hcall]; rfl)⟩, nofun, nofun, nofun, nofun⟩
  | disconnected => exact ⟨h.counts, h.running, nofun, nofun, nofun, nofun⟩
  | joined => exact ⟨h.counts, h.running, nofun, nofun, fun _ => ⟨fun _ => rfl, rfl⟩, nofun⟩
  | endpointsReset hcall =>
    refine ⟨?_, nofun, nofun, nofun, nofun, fun _ _ => ⟨h.joined hcall, rfl, fun _ => rfl⟩⟩
    have hcounts := h.counts
    dsimp only
    split
    · next hmosquitto => rwa [hmosquitto] at hcounts
    · next hmosquitto => rwa [if_neg hmosquitto] at hcounts
  | connecting | lost | refused | connected => exact h.setClient _ _
  -- the callback: it runs on the thread of a loop, which a proxy that is down does not have
  | @cloudCreated topicTemplate hlooping =>
    exact h.callback (not_quiet_of_looping hlooping) ⟨rfl, rfl⟩ ⟨rfl, rfl⟩ rfl
      (hcloud _ (some (s.newEndpoint .cloudSide topicTemplate)))
  | cloudInitFailed hconnect =>
    exact h.callback (not_quiet_of_connect (by simp [hconnect])) ⟨rfl, rfl⟩ ⟨rfl, rfl⟩ rfl (hcloud s none)
  | @cloudInitialized ep hconnect =>
    exact h.callback (not_quiet_of_connect (by simp [hconnect])) ⟨rfl, rfl⟩ ⟨rfl, rfl⟩ rfl
      (hcloud s (some ep.initSubscriber.2))
  | cloudSubscribed hconnect =>
    exact h.callback (not_quiet_of_connect (by simp [hconnect])) ⟨rfl, rfl⟩ ⟨rfl, rfl⟩ rfl rfl
  | cloudSubscribeFailed hconnect =>
    exact h.callback (not_quiet_of_connect (by simp [hconnect])) ⟨rfl, rfl⟩ ⟨rfl, rfl⟩ rfl (hcloud s none)
  | bridged hconnect hlocal =>
    refine h.callback (not_quiet_of_connect (by simp [hconnect])) ⟨rfl, rfl⟩ ⟨rfl, rfl⟩ rfl ?_
    simp [setEndpoint, hlocal]
  | @bridgeFailed s₁ hconnect hlocal =>
    obtain rfl | ⟨localEp, hlocal, rfl⟩ := hlocal
    · exact h.callback (not_quiet_of_connect (by simp [hconnect])) ⟨rfl, rfl⟩ ⟨rfl, rfl⟩ rfl (hcloud s₁ none)
    · refine h.callback (not_quiet_of_connect (by simp [hconnect])) ⟨rfl, rfl⟩ ⟨rfl, rfl⟩ rfl ?_
      simp [setEndpoint, hlocal]

end Balanced

theorem balanced_of_reachable (h : system.Reachable s) : s.Balanced := by
  refine h.invariant (fun s hs => ?_) fun s a s' _ hbalanced _ hs => hbalanced.step hs
  obtain rfl : s = {} := hs
  exact ⟨rfl, nofun, nofun, nofun, nofun, fun _ _ => ⟨⟨fun _ => rfl, rfl⟩, rfl, fun _ => rfl⟩⟩

/-! ### What calls return -/

inductive Call where
  | init | start | stop
  deriving DecidableEq

/-- A call that has returned, `start` with its result. -/
inductive Returned where
  | init
  | start (result : Bool)
  | stop
  deriving DecidableEq

/-- The proxy with its last call, whether it was running before that call, and what the call has returned. -/
structure Observed where
  proxy : VDA5050Proxy := {}
  call : Call := .init
  wasRunning : Bool := false
  returned : Option Returned := none

/-- A step with what it returns. -/
def observe (o : Observed) (a : ProxyAction) : Option Observed :=
  (o.proxy.step a).map fun s =>
    match a with
    | .init _ => ⟨s, .init, o.proxy.isRunning, some .init⟩
    | .start _ =>
      -- `start` returns at once, or has come to `lib_init`
      ⟨s, .start, o.proxy.isRunning,
        if s.call = .idle then some (.start (o.proxy.initialized && o.proxy.running)) else none⟩
    | .connectCloud => { o with proxy := s, returned := some (.start true) }
    | .stop => ⟨s, .stop, o.proxy.isRunning, none⟩
    | .reset => { o with proxy := s, returned := some (if o.call = .start then .start false else .stop) }
    | _ => { o with proxy := s }

def observed : System Observed ProxyAction := .ofStep {} observe

/-- Nothing is left of earlier calls. -/
structure NothingLeft (s : VDA5050Proxy) : Prop where
  running : s.running = false
  mosquittoInitialized : s.mosquittoInitialized = false
  endpoint : ∀ side, s.endpoint side = none
  balance : s.libInits = s.libCleanups

/-- What a call has returned when it has failed or stopped the proxy. -/
def Observed.Ended (o : Observed) : Prop :=
  o.returned = some (.start false) ∧ o.wasRunning = false ∨ o.returned = some .stop

/-- A call that has returned is over, and the proxy does not run after one that has failed or stopped it. -/
structure Observed.Settled (o : Observed) : Prop where
  idle : o.returned ≠ none → o.proxy.call = .idle
  down : o.Ended → o.proxy.running = false

namespace Observed

variable {o o' : Observed}

private theorem Ended.returned_ne_none (h : o.Ended) : o.returned ≠ none := by
  rcases h with ⟨hreturned, -⟩ | hreturned
  · simp [hreturned]
  · simp [hreturned]

namespace Settled

/-- A step of a call that goes on. -/
theorem within (h : o.Settled) (hcall : o.proxy.call ≠ .idle) (hreturned : o'.returned = o.returned) : o'.Settled := by
  have hnone : o.returned = none := by
    by_contra hreturned
    exact hcall (h.idle hreturned)
  rw [hnone] at hreturned
  exact ⟨fun hne => absurd hreturned hne, fun hended => absurd hreturned hended.returned_ne_none⟩

/-- The first step of a call that does not return at once. -/
theorem begun (hreturned : o.returned = none) : o.Settled :=
  ⟨fun hne => absurd hreturned hne, fun hended => absurd hreturned hended.returned_ne_none⟩

theorem step {a : ProxyAction} (h : o.Settled) (hs : observe o a = some o') : o'.Settled := by
  obtain ⟨s', hs', rfl⟩ := Option.map_eq_some_iff.1 hs
  cases outcome_of_step hs' with
  | initialized hcall =>
    refine ⟨fun _ => hcall, fun hended => ?_⟩
    rcases hended with ⟨hreturned, -⟩ | hreturned <;> cases hreturned
  | returned hcall =>
    refine ⟨fun _ => hcall, fun hended => ?_⟩
    dsimp only at hended
    rw [if_pos hcall] at hended
    rcases hended with ⟨-, hrunning⟩ | hreturned
    · exact hrunning
    · cases hreturned
  | libraryInitialized => exact begun rfl
  | configureFailed hcall | configured hcall | connectFailed hcall | localConnecting hcall | localInitFailed hcall
  | localCreated hcall | localSubscribed hcall | localSubscribeFailed hcall | localLoopFailed hcall
  | localLooping hcall | cloudLooping hcall | disconnected hcall | joined hcall =>
    exact h.within (by simp [hcall]) rfl
  | started hcall =>
    refine ⟨fun _ => rfl, fun hended => ?_⟩
    rcases hended with ⟨hreturned, -⟩ | hreturned <;> cases hreturned
  | stopped => exact begun rfl
  | endpointsReset => exact ⟨fun _ => rfl, fun _ => rfl⟩
  | connecting | lost | refused | connected | cloudCreated | cloudInitFailed | cloudInitialized | cloudSubscribed
  | cloudSubscribeFailed | bridged => exact ⟨h.idle, h.down⟩
  | bridgeFailed _ hlocal =>
    obtain rfl | ⟨localEp, -, rfl⟩ := hlocal
    · exact ⟨h.idle, h.down⟩
    · exact ⟨h.idle, h.down⟩

end Settled

theorem settled_of_reachable (h : observed.Reachable o) : o.Settled := by
  refine h.invariant (fun o ho => ?_) fun o a o' _ hsettled _ hs => hsettled.step hs
  obtain rfl : o = {} := ho
  exact .begun rfl

theorem reachable_proxy (h : observed.Reachable o) : system.Reachable o.proxy := by
  refine h.map Observed.proxy (fun o ho => congrArg proxy ho) fun o a o' _ hs => .inr ⟨a, trivial, ?_⟩
  obtain ⟨s', hs', rfl⟩ := Option.map_eq_some_iff.1 hs
  cases a <;> exact hs'

end Observed

theorem Balanced.nothingLeft (h : s.Balanced) (hcall : s.call = .idle) (hrunning : s.running = false) :
    s.NothingLeft := by
  obtain ⟨-, hmosquitto, hendpoint⟩ := h.down hcall hrunning
  have hcounts := h.counts
  rw [hmosquitto] at hcounts
  exact ⟨hrunning, hmosquitto, hendpoint, hcounts⟩

/-- After a `start` that has failed on a proxy that was not running, and after every `stop`, nothing is left; and while
the proxy runs the local endpoint is installed and one `lib_init` is not matched. -/
theorem nothing_left_behind {o : Observed} (h : observed.Reachable o) :
    (o.returned = some (.start false) → o.wasRunning = false → o.proxy.NothingLeft) ∧
    (o.returned = some .stop → o.proxy.NothingLeft) ∧
    (o.proxy.isRunning = true →
      (o.proxy.endpoint .localSide).isSome = true ∧ o.proxy.libInits = o.proxy.libCleanups + 1) := by
  have hsettled := Observed.settled_of_reachable h
  have hbalanced := balanced_of_reachable (Observed.reachable_proxy h)
  have hended : o.Ended → o.proxy.NothingLeft :=
    fun hended => hbalanced.nothingLeft (hsettled.idle hended.returned_ne_none) (hsettled.down hended)
  refine ⟨fun hreturned hwas => hended (.inl ⟨hreturned, hwas⟩), fun hreturned => hended (.inr hreturned),
    fun hrunning => ?_⟩
  obtain ⟨hmosquitto, hlocal⟩ := hbalanced.running hrunning
  have hcounts := hbalanced.counts
  rw [hmosquitto] at hcounts
  exact ⟨hlocal, hcounts⟩

/-- The cloud client cannot be configured. -/
def failingStart : List ProxyAction :=
  [.init "uagv/v3", .start true, .configure fun side => side = .localSide, .disconnect, .joinLoops, .reset]

/-- Another call of `start` succeeds. -/
def laterStart : List ProxyAction :=
  failingStart ++ [.start true, .configure fun _ => true, .connectLocal true, .createLocal] ++
    List.replicate 4 (.subscribeLocal true) ++ [.startLocalLoop true, .startCloudLoop true, .connectCloud]

/-- The cloud client connects, and the proxy is stopped. -/
def laterStop : List ProxyAction :=
  laterStart ++ [.connecting .cloudSide, .onConnect .cloudSide true, .initCloud] ++
    List.replicate 4 (.subscribeCloud true) ++ [.setupBridge, .stop, .disconnect, .joinLoops, .reset]

/-- One run of a proxy that fails to start, starts, and stops. -/
theorem nothing_left_behind_stop :
    (∃ o, replay observe {} failingStart = some o ∧ o.proxy.libInits = 1 ∧ o.proxy.NothingLeft) ∧
      (∃ o, replay observe {} laterStart = some o ∧ o.proxy.isRunning = true ∧
        (o.proxy.endpoint .localSide).isSome = true ∧ o.proxy.libInits = o.proxy.libCleanups + 1) ∧
      ∃ o, replay observe {} laterStop = some o ∧ o.proxy.libInits = 2 ∧ o.proxy.NothingLeft := by
  have hfails : (replay observe {} failingStart).any (fun o =>
      o.returned = some (.start false) ∧ o.wasRunning = false ∧ o.proxy.libInits = 1) = true := by decide
  have hstarts : (replay observe {} laterStart).any (fun o => o.proxy.isRunning) = true := by decide
  have hstops : (replay observe {} laterStop).any (fun o => o.returned = some .stop ∧ o.proxy.libInits = 2) = true := by
    decide
  have hreach : ∀ {run o}, replay observe {} run = some o → observed.Reachable o := reachable_of_replay (.init rfl)
  refine ⟨?_, ?_, ?_⟩
  · obtain ⟨o, ho, hholds⟩ := (Option.any_eq_true _ _).1 hfails
    obtain ⟨hreturned, hwas, hinits⟩ := of_decide_eq_true hholds
    exact ⟨o, ho, hinits, (nothing_left_behind (hreach ho)).1 hreturned hwas⟩
  · obtain ⟨o, ho, hrunning⟩ := (Option.any_eq_true _ _).1 hstarts
    exact ⟨o, ho, hrunning, (nothing_left_behind (hreach ho)).2.2 hrunning⟩
  · obtain ⟨o, ho, hholds⟩ := (Option.any_eq_true _ _).1 hstops
    obtain ⟨hreturned, hinits⟩ := of_decide_eq_true hholds
    exact ⟨o, ho, hinits, (nothing_left_behind (hreach ho)).2.1 hreturned⟩

end VDA5050Proxy

/-! ### The gateway -/

structure FleetGateway where
  initialized : Bool := false
  proxy : VDA5050Proxy := {}

namespace FleetGateway

def init (topicPrefix : String) (g : FleetGateway) : Option FleetGateway :=
  (g.proxy.init topicPrefix).map fun proxy => ⟨true, proxy⟩

/-- `FleetGateway::start`, which returns at once before `init` and while the proxy runs. -/
def start (ok : Bool) (g : FleetGateway) : Option FleetGateway :=
  if g.proxy.call ≠ .idle then none
  else if !g.initialized || g.proxy.isRunning then some g
  else (g.proxy.start ok).map fun proxy => { g with proxy }

def step (g : FleetGateway) : ProxyAction → Option FleetGateway
  | .init topicPrefix => g.init topicPrefix
  | .start ok => g.start ok
  | a => (g.proxy.step a).map fun proxy => { g with proxy }

def system : System FleetGateway ProxyAction := .ofStep {} step

theorem proxy_of_step {g g' : FleetGateway} {a : ProxyAction} (hs : g.step a = some g') :
    g'.proxy = g.proxy ∨ g.proxy.step a = some g'.proxy := by
  cases a with
  | start ok =>
    obtain ⟨-, hs⟩ := of_guard hs
    split at hs
    · obtain rfl := Option.some.inj hs
      exact .inl rfl
    · obtain ⟨proxy, hproxy, rfl⟩ := Option.map_eq_some_iff.1 hs
      exact .inr hproxy
  | _ =>
    obtain ⟨proxy, hproxy, rfl⟩ := Option.map_eq_some_iff.1 hs
    exact .inr hproxy

/-- The proxy of a gateway only does what it does by itself. -/
theorem reachable_proxy {g : FleetGateway} (h : system.Reachable g) : VDA5050Proxy.system.Reachable g.proxy := by
  refine h.map proxy (fun g hg => congrArg proxy hg) fun g a g' _ hs => ?_
  rcases proxy_of_step hs with heq | hstep
  · exact .inl heq
  · exact .inr ⟨a, trivial, hstep⟩

theorem balanced_of_reachable {g : FleetGateway} (h : system.Reachable g) : g.proxy.Balanced :=
  VDA5050Proxy.balanced_of_reachable (reachable_proxy h)

end FleetGateway

end SyriusOrbit.Mqtt

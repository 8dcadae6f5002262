import SyriusOrbit.Mqtt.Proxy

/-!
# Starting and stopping the proxy

`VDA5050Proxy` under any sequence of calls of `init`, `start` and `stop`, with any of the calls it makes failing, and
with the network threads between its steps.
-/

namespace SyriusOrbit.Mqtt

open Vda5050 Transition

namespace VDA5050EndPoint

/-- `VDA5050EndPoint::Stop`. -/
def stop (ep : VDA5050EndPoint) : VDA5050EndPoint := { ep with stopped := true, callbacks := fun _ => [] }

/-- One call of `VDA5050Subscriber::subscribe`. -/
def subscribeNext (ep : VDA5050EndPoint) (client : MqttSubscriber) (t : MessageType) (accepted : Bool) :
    Bool × MqttSubscriber :=
  if ep.stopped then (false, client) else client.subscribe (ep.entry t) accepted

theorem subscriptions_subscribeNext (ep : VDA5050EndPoint) {client client' : MqttSubscriber} {t : MessageType}
    {accepted : Bool} (h : ep.subscribeNext client t accepted = (true, client')) :
    client'.subscriptions = client.subscriptions ++ [ep.entry t] := by
  unfold subscribeNext at h
  split at h
  · simp at h
  · exact MqttSubscriber.subscriptions_subscribe h

private theorem subscribeNext_of_failed {ep : VDA5050EndPoint} {client client' : MqttSubscriber} {t : MessageType}
    {accepted : Bool} (h : ep.subscribeNext client t accepted = (false, client')) : client' = client := by
  unfold subscribeNext at h
  split at h
  · exact (congrArg Prod.snd h).symm
  · exact MqttSubscriber.subscribe_of_failed h

end VDA5050EndPoint

/-- How far a call of `start` or `stop` has come; `subscribing` with the types that are still to come. -/
inductive CallStep where
  | idle
  -- `start`
  | libraryInitialized | configured | connected
  | subscribing (rest : List MessageType)
  | localLooping | cloudLooping
  -- `stop`
  | stopped | disconnected | joined
  deriving DecidableEq

/-- How far the connect callback of the cloud client has come. -/
inductive ConnectStep where
  | idle | created
  | subscribing (rest : List MessageType)
  deriving DecidableEq

/-- The proxy; `looping` are the threads that run, and the last members count the calls of the library. -/
structure VDA5050Proxy where
  topicPrefix : String := ""
  initialized : Bool := false
  running : Bool := false
  mosquittoInitialized : Bool := false
  client : Side → MqttSubscriber := fun _ => {}
  endpoint : Side → Option VDA5050EndPoint := fun _ => none
  allocated : Nat := 0
  call : CallStep := .idle
  connect : ConnectStep := .idle
  looping : Side → Bool := fun _ => false
  libInits : Nat := 0
  libCleanups : Nat := 0

inductive ProxyAction where
  -- the calls, and the steps of `start` and `stop`
  | init (topicPrefix : String)
  | start (ok : Bool)
  | configure (ok : Side → Bool)
  | connectLocal (ok : Bool)
  | createLocal
  | subscribeLocal (accepted : Bool)
  | startLocalLoop (ok : Bool)
  | startCloudLoop (ok : Bool)
  | connectCloud
  | stop
  | disconnect
  | joinLoops
  | reset
  -- the connections
  | connecting (side : Side)
  | onConnect (side : Side) (ok : Bool)
  | lost (side : Side)
  -- the connect callback of the cloud client
  | initCloud
  | subscribeCloud (accepted : Bool)
  | setupBridge

namespace VDA5050Proxy

def setClient (s : VDA5050Proxy) (side : Side) (client : MqttSubscriber) : VDA5050Proxy :=
  { s with client := Function.update s.client side client }

def setEndpoint (s : VDA5050Proxy) (side : Side) (endpoint : Option VDA5050EndPoint) : VDA5050Proxy :=
  { s with endpoint := Function.update s.endpoint side endpoint }

def newEndpoint (s : VDA5050Proxy) (side : Side) (topicTemplate : VDA5050TopicContext) : VDA5050EndPoint :=
  { id := s.allocated, side, topicTemplate }

private theorem setClient_self (s : VDA5050Proxy) (side : Side) : s.setClient side (s.client side) = s := by
  rw [setClient, Function.update_eq_self]

theorem endpoint_setEndpoint_of_ne {side side' : Side} (hne : side' ≠ side) (s : VDA5050Proxy)
    (endpoint : Option VDA5050EndPoint) : (s.setEndpoint side endpoint).endpoint side' = s.endpoint side' :=
  Function.update_of_ne hne ..

/-! ### `start` and `stop` -/

def init (topicPrefix : String) (s : VDA5050Proxy) : Option VDA5050Proxy :=
  if s.call ≠ .idle then none else some { s with topicPrefix, initialized := true }

/-- The first step of `stop`. -/
def stopEndpoints (s : VDA5050Proxy) : VDA5050Proxy :=
  { s with endpoint := fun side => (s.endpoint side).map VDA5050EndPoint.stop, call := .stopped }

/-- Up to `lib_init`; `ok` tells whether that succeeds. -/
def start (ok : Bool) (s : VDA5050Proxy) : Option VDA5050Proxy :=
  if s.call ≠ .idle then none
  -- it returns at once
  else if !s.initialized || s.running || (parseTopicPrefix s.topicPrefix).isNone || !ok then some s
  else some { s with mosquittoInitialized := true, libInits := s.libInits + 1, call := .libraryInitialized }

/-- `configure_client` for both clients. -/
def configure (ok : Side → Bool) (s : VDA5050Proxy) : Option VDA5050Proxy :=
  if s.call ≠ .libraryInitialized then none
  else if !ok .localSide then some s.stopEndpoints
  else
    let s := s.setClient .localSide (s.client .localSide).disconnected
    if !ok .cloudSide then some s.stopEndpoints
    else some { s.setClient .cloudSide (s.client .cloudSide).disconnected with call := .configured }

def connectLocal (ok : Bool) (s : VDA5050Proxy) : Option VDA5050Proxy :=
  if s.call ≠ .configured then none
  else if !ok then some s.stopEndpoints
  else some { s.setClient .localSide { s.client .localSide with link := .pending } with call := .connected }

/-- `std::make_unique<VDA5050EndPoint>` and the start of its `Init`. -/
def createLocal (s : VDA5050Proxy) : Option VDA5050Proxy :=
  if s.call ≠ .connected then none
  else
    match parseTopicPrefix s.topicPrefix with
    | none => none
    | some topicTemplate =>
      let ep := s.newEndpoint .localSide topicTemplate
      let created := { s.setEndpoint .localSide (some ep.initSubscriber.2) with allocated := s.allocated + 1 }
      if !ep.initSubscriber.1 then some created.stopEndpoints
      else some { created with call := .subscribing Side.localSide.types }

def subscribeLocal (accepted : Bool) (s : VDA5050Proxy) : Option VDA5050Proxy :=
  match s.call, s.endpoint .localSide with
  | .subscribing (t :: rest), some ep =>
    match ep.subscribeNext (s.client .localSide) t accepted with
    | (true, client) => some { s.setClient .localSide client with call := .subscribing rest }
    | (false, client) => some (s.setClient .localSide client).stopEndpoints
  | _, _ => none

def startLocalLoop (ok : Bool) (s : VDA5050Proxy) : Option VDA5050Proxy :=
  if s.call ≠ .subscribing [] then none
  else if !ok then some s.stopEndpoints
  else some { s with looping := Function.update s.looping .localSide true, call := .localLooping }

/-- The cloud loop is not required. -/
def startCloudLoop (ok : Bool) (s : VDA5050Proxy) : Option VDA5050Proxy :=
  if s.call ≠ .localLooping then none
  else some { s with looping := Function.update s.looping .cloudSide ok, call := .cloudLooping }

/-- `connect_async`, whose result does not matter, and the end of `start`. -/
def connectCloud (s : VDA5050Proxy) : Option VDA5050Proxy :=
  if s.call ≠ .cloudLooping then none else some { s with running := true, call := .idle }

def stop (s : VDA5050Proxy) : Option VDA5050Proxy := if s.call ≠ .idle then none else some s.stopEndpoints

def disconnect (s : VDA5050Proxy) : Option VDA5050Proxy :=
  if s.call ≠ .stopped then none
  else some { s with client := fun side => (s.client side).disconnected, call := .disconnected }

/-- `loop_stop(true)`, after which no thread runs. -/
def joinLoops (s : VDA5050Proxy) : Option VDA5050Proxy :=
  if s.call ≠ .disconnected then none
  else some { s with looping := fun _ => false, connect := .idle, call := .joined }

/-- The end of `stop`. -/
def reset (s : VDA5050Proxy) : Option VDA5050Proxy :=
  if s.call ≠ .joined then none
  else some { s with
    endpoint := fun _ => none
    libCleanups := if s.mosquittoInitialized then s.libCleanups + 1 else s.libCleanups
    mosquittoInitialized := false
    running := false
    call := .idle }

/-! ### Connections -/

def connecting (side : Side) (s : VDA5050Proxy) : Option VDA5050Proxy :=
  if !s.looping side || (s.client side).link ≠ .down || (side = .cloudSide && s.connect ≠ .idle) then none
  else some (s.setClient side { s.client side with link := .pending })

def lost (side : Side) (s : VDA5050Proxy) : Option VDA5050Proxy :=
  if (s.client side).link = .down then none else some (s.setClient side (s.client side).disconnected)

/-- `on_connect`, which creates the cloud endpoint if there is none. -/
def onConnect (side : Side) (ok : Bool) (s : VDA5050Proxy) : Option VDA5050Proxy :=
  if !s.looping side || (s.client side).link ≠ .pending || (side = .cloudSide && s.connect ≠ .idle) then none
  else if !ok then some (s.setClient side (s.client side).disconnected)
  else
    let s := s.setClient side { s.client side with link := .up }
    match side, s.endpoint .cloudSide, parseTopicPrefix s.topicPrefix with
    | .cloudSide, none, some topicTemplate =>
      some { s.setEndpoint .cloudSide (some (s.newEndpoint .cloudSide topicTemplate)) with
        allocated := s.allocated + 1
        connect := .created }
    | _, _, _ => some s

/-! ### The connect callback of the cloud client -/

/-- The start of `cloud_endpoint_->Init()`. -/
def initCloud (s : VDA5050Proxy) : Option VDA5050Proxy :=
  match s.connect, s.endpoint .cloudSide with
  | .created, some ep =>
    if !ep.initSubscriber.1 then some { s.setEndpoint .cloudSide none with connect := .idle }
    else some { s.setEndpoint .cloudSide (some ep.initSubscriber.2) with connect := .subscribing Side.cloudSide.types }
  | _, _ => none

def subscribeCloud (accepted : Bool) (s : VDA5050Proxy) : Option VDA5050Proxy :=
  match s.connect, s.endpoint .cloudSide with
  | .subscribing (t :: rest), some ep =>
    match ep.subscribeNext (s.client .cloudSide) t accepted with
    | (true, client) => some { s.setClient .cloudSide client with connect := .subscribing rest }
    | (false, client) =>
      some { (s.setClient .cloudSide client).setEndpoint .cloudSide none with connect := .idle }
  | _, _ => none

/-- `setup_bridge_callbacks()`, and the end of the callback. -/
def setupBridge (s : VDA5050Proxy) : Option VDA5050Proxy :=
  if s.connect ≠ .subscribing [] then none
  else
    match s.endpoint .localSide, s.endpoint .cloudSide with
    | some localEp, some cloudEp =>
      let toCloud := Daemon.bridgeLocalToCloud localEp
      let s := s.setEndpoint .localSide (some toCloud.2)
      if !toCloud.1 then some { s.setEndpoint .cloudSide none with connect := .idle }
      else
        let toLocal := Daemon.bridgeCloudToLocal cloudEp
        if !toLocal.1 then some { s.setEndpoint .cloudSide none with connect := .idle }
        else some { s.setEndpoint .cloudSide (some toLocal.2) with connect := .idle }
    | _, _ => some { s.setEndpoint .cloudSide none with connect := .idle }

def step (s : VDA5050Proxy) : ProxyAction → Option VDA5050Proxy
  | .init topicPrefix => s.init topicPrefix
  | .start ok => s.start ok
  | .configure ok => s.configure ok
  | .connectLocal ok => s.connectLocal ok
  | .createLocal => s.createLocal
  | .subscribeLocal accepted => s.subscribeLocal accepted
  | .startLocalLoop ok => s.startLocalLoop ok
  | .startCloudLoop ok => s.startCloudLoop ok
  | .connectCloud => s.connectCloud
  | .stop => s.stop
  | .disconnect => s.disconnect
  | .joinLoops => s.joinLoops
  | .reset => s.reset
  | .connecting side => s.connecting side
  | .onConnect side ok => s.onConnect side ok
  | .lost side => s.lost side
  | .initCloud => s.initCloud
  | .subscribeCloud accepted => s.subscribeCloud accepted
  | .setupBridge => s.setupBridge

def system : System VDA5050Proxy ProxyAction := .ofStep {} step

/-! ### What a step can do -/

/-- The outcomes of the steps, each with its guard. -/
inductive Outcome (s : VDA5050Proxy) : ProxyAction → VDA5050Proxy → Prop where
  | initialized {topicPrefix : String} (hcall : s.call = .idle) :
    Outcome s (.init topicPrefix) { s with topicPrefix, initialized := true }
  | returned {ok : Bool} (hcall : s.call = .idle)
    (hreturns : s.initialized = false ∨ s.running = true ∨ parseTopicPrefix s.topicPrefix = none ∨ ok = false) :
    Outcome s (.start ok) s
  | libraryInitialized (hcall : s.call = .idle) (hinitialized : s.initialized = true) (hrunning : s.running = false) :
    Outcome s (.start true)
      { s with mosquittoInitialized := true, libInits := s.libInits + 1, call := .libraryInitialized }
  | configureFailed {ok : Side → Bool} {s₁ : VDA5050Proxy} (hcall : s.call = .libraryInitialized)
    (hlocal : s₁ = s ∨ s₁ = s.setClient .localSide (s.client .localSide).disconnected) :
    Outcome s (.configure ok) s₁.stopEndpoints
  | configured {ok : Side → Bool} (hcall : s.call = .libraryInitialized) :
    Outcome s (.configure ok)
      { (s.setClient .localSide (s.client .localSide).disconnected).setClient .cloudSide
          (s.client .cloudSide).disconnected with call := .configured }
  | connectFailed (hcall : s.call = .configured) : Outcome s (.connectLocal false) s.stopEndpoints
  | localConnecting (hcall : s.call = .configured) :
    Outcome s (.connectLocal true)
      { s.setClient .localSide { s.client .localSide with link := .pending } with call := .connected }
  | localInitFailed {ep : VDA5050EndPoint} {topicTemplate : VDA5050TopicContext} (hcall : s.call = .connected)
    (hep : ep = s.newEndpoint .localSide topicTemplate) (hfailed : ep.initSubscriber.1 = false) :
    Outcome s .createLocal
      { s.setEndpoint .localSide (some ep.initSubscriber.2) with allocated := s.allocated + 1 }.stopEndpoints
  | localCreated {ep : VDA5050EndPoint} {topicTemplate : VDA5050TopicContext} (hcall : s.call = .connected)
    (hep : ep = s.newEndpoint .localSide topicTemplate) (hinit : ep.initSubscriber.1 = true) :
    Outcome s .createLocal
      { s.setEndpoint .localSide (some ep.initSubscriber.2) with
        allocated := s.allocated + 1
        call := .subscribing Side.localSide.types }
  | localSubscribed {accepted : Bool} {t : MessageType} {rest : List MessageType} {ep : VDA5050EndPoint}
    {client : MqttSubscriber} (hcall : s.call = .subscribing (t :: rest)) (hep : s.endpoint .localSide = some ep)
    (hsubscribed : ep.subscribeNext (s.client .localSide) t accepted = (true, client)) :
    Outcome s (.subscribeLocal accepted) { s.setClient .localSide client with call := .subscribing rest }
  | localSubscribeFailed {accepted : Bool} {t : MessageType} {rest : List MessageType}
    (hcall : s.call = .subscribing (t :: rest)) : Outcome s (.subscribeLocal accepted) s.stopEndpoints
  | localLoopFailed (hcall : s.call = .subscribing []) : Outcome s (.startLocalLoop false) s.stopEndpoints
  | localLooping (hcall : s.call = .subscribing []) :
    Outcome s (.startLocalLoop true)
      { s with looping := Function.update s.looping .localSide true, call := .localLooping }
  | cloudLooping {ok : Bool} (hcall : s.call = .localLooping) :
    Outcome s (.startCloudLoop ok)
      { s with looping := Function.update s.looping .cloudSide ok, call := .cloudLooping }
  | started (hcall : s.call = .cloudLooping) : Outcome s .connectCloud { s with running := true, call := .idle }
  | stopped (hcall : s.call = .idle) : Outcome s .stop s.stopEndpoints
  | disconnected (hcall : s.call = .stopped) :
    Outcome s .disconnect { s with client := fun side => (s.client side).disconnected, call := .disconnected }
  | joined (hcall : s.call = .disconnected) :
    Outcome s .joinLoops { s with looping := fun _ => false, connect := .idle, call := .joined }
  | endpointsReset (hcall : s.call = .joined) :
    Outcome s .reset
      { s with
        endpoint := fun _ => none
        libCleanups := if s.mosquittoInitialized then s.libCleanups + 1 else s.libCleanups
        mosquittoInitialized := false
        running := false
        call := .idle }
  | connecting {side : Side} (hlooping : s.looping side = true) (hdown : (s.client side).link = .down) :
    Outcome s (.connecting side) (s.setClient side { s.client side with link := .pending })
  | lost {side : Side} (hup : (s.client side).link ≠ .down) :
    Outcome s (.lost side) (s.setClient side (s.client side).disconnected)
  | refused {side : Side} (hlooping : s.looping side = true) :
    Outcome s (.onConnect side false) (s.setClient side (s.client side).disconnected)
  | connected {side : Side} (hlooping : s.looping side = true) (hpending : (s.client side).link = .pending)
    (hstays : side = .cloudSide → (s.endpoint .cloudSide).isSome ∨ parseTopicPrefix s.topicPrefix = none) :
    Outcome s (.onConnect side true) (s.setClient side { s.client side with link := .up })
  | cloudCreated {topicTemplate : VDA5050TopicContext} (hlooping : s.looping .cloudSide = true)
    (hidle : s.connect = .idle) (hnone : s.endpoint .cloudSide = none) :
    Outcome s (.onConnect .cloudSide true)
      { (s.setClient .cloudSide { s.client .cloudSide with link := .up }).setEndpoint .cloudSide
          (some (s.newEndpoint .cloudSide topicTemplate)) with
        allocated := s.allocated + 1
        connect := .created }
  | cloudInitFailed {ep : VDA5050EndPoint} (hconnect : s.connect = .created) (hep : s.endpoint .cloudSide = some ep)
    (hfailed : ep.initSubscriber.1 = false) :
    Outcome s .initCloud { s.setEndpoint .cloudSide none with connect := .idle }
  | cloudInitialized {ep : VDA5050EndPoint} (hconnect : s.connect = .created) (hep : s.endpoint .cloudSide = some ep)
    (hinit : ep.initSubscriber.1 = true) :
    Outcome s .initCloud
      { s.setEndpoint .cloudSide (some ep.initSubscriber.2) with connect := .subscribing Side.cloudSide.types }
  | cloudSubscribed {accepted : Bool} {t : MessageType} {rest : List MessageType} {ep : VDA5050EndPoint}
    {client : MqttSubscriber} (hconnect : s.connect = .subscribing (t :: rest))
    (hep : s.endpoint .cloudSide = some ep)
    (hsubscribed : ep.subscribeNext (s.client .cloudSide) t accepted = (true, client)) :
    Outcome s (.subscribeCloud accepted) { s.setClient .cloudSide client with connect := .subscribing rest }
  | cloudSubscribeFailed {accepted : Bool} {t : MessageType} {rest : List MessageType} {ep : VDA5050EndPoint}
    (hconnect : s.connect = .subscribing (t :: rest)) (hep : s.endpoint .cloudSide = some ep)
    (hfailed : (ep.subscribeNext (s.client .cloudSide) t accepted).1 = false) :
    Outcome s (.subscribeCloud accepted) { s.setEndpoint .cloudSide none with connect := .idle }
  | bridged {localEp cloudEp : VDA5050EndPoint} (hconnect : s.connect = .subscribing [])
    (hlocal : s.endpoint .localSide = some localEp) (hcloud : s.endpoint .cloudSide = some cloudEp)
    (htoCloud : (Daemon.bridgeLocalToCloud localEp).1 = true)
    (htoLocal : (Daemon.bridgeCloudToLocal cloudEp).1 = true) :
    Outcome s .setupBridge
      { (s.setEndpoint .localSide (some (Daemon.bridgeLocalToCloud localEp).2)).setEndpoint .cloudSide
          (some (Daemon.bridgeCloudToLocal cloudEp).2) with connect := .idle }
  | bridgeFailed {s₁ : VDA5050Proxy} (hconnect : s.connect = .subscribing [])
    (hlocal : s₁ = s ∨ ∃ localEp, s.endpoint .localSide = some localEp ∧
      s₁ = s.setEndpoint .localSide (some (Daemon.bridgeLocalToCloud localEp).2))
    (hfailed : ∀ localEp cloudEp, s.endpoint .localSide = some localEp → s.endpoint .cloudSide = some cloudEp →
      (Daemon.bridgeLocalToCloud localEp).1 = false ∨ (Daemon.bridgeCloudToLocal cloudEp).1 = false) :
    Outcome s .setupBridge { s₁.setEndpoint .cloudSide none with connect := .idle }

variable {s s' : VDA5050Proxy}

private theorem outcome_of_start {ok : Bool} (h : s.start ok = some s') : Outcome s (.start ok) s' := by
  obtain ⟨hcall, h⟩ := of_guard h
  split at h
  · next hreturns =>
    obtain rfl := Option.some.inj h
    refine .returned (not_not.1 hcall) ?_
    simpa [or_assoc] using hreturns
  · next hproceeds =>
    obtain rfl := Option.some.inj h
    simp only [Bool.or_eq_true, not_or, Bool.not_eq_true, Bool.not_eq_false'] at hproceeds
    obtain ⟨⟨⟨hinitialized, hrunning⟩, -⟩, rfl⟩ := hproceeds
    exact .libraryInitialized (not_not.1 hcall) hinitialized hrunning

private theorem outcome_of_configure {ok : Side → Bool} (h : s.configure ok = some s') :
    Outcome s (.configure ok) s' := by
  obtain ⟨hcall, h⟩ := of_guard h
  split at h
  · obtain rfl := Option.some.inj h
    exact .configureFailed (not_not.1 hcall) (.inl rfl)
  · dsimp only at h
    split at h
    · obtain rfl := Option.some.inj h
      exact .configureFailed (not_not.1 hcall) (.inr rfl)
    · obtain rfl := Option.some.inj h
      exact .configured (not_not.1 hcall)

private theorem outcome_of_createLocal (h : s.createLocal = some s') : Outcome s .createLocal s' := by
  obtain ⟨hcall, h⟩ := of_guard h
  split at h
  · cases h
  · dsimp only at h
    split at h
    · next hfailed =>
      obtain rfl := Option.some.inj h
      exact .localInitFailed (not_not.1 hcall) rfl (by simpa using hfailed)
    · next hinit =>
      obtain rfl := Option.some.inj h
      exact .localCreated (not_not.1 hcall) rfl (by simpa using hinit)

private theorem outcome_of_subscribeLocal {accepted : Bool} (h : s.subscribeLocal accepted = some s') :
    Outcome s (.subscribeLocal accepted) s' := by
  unfold subscribeLocal at h
  split at h
  · next t rest ep hcall hep =>
    split at h
    · next client hsubscribed =>
      obtain rfl := Option.some.inj h
      exact .localSubscribed hcall hep hsubscribed
    · next client hfailed =>
      obtain rfl := VDA5050EndPoint.subscribeNext_of_failed hfailed
      rw [setClient_self] at h
      obtain rfl := Option.some.inj h
      exact .localSubscribeFailed hcall
  · cases h

theorem outcome_of_onConnect {side : Side} {ok : Bool} (h : s.onConnect side ok = some s') :
    Outcome s (.onConnect side ok) s' := by
  obtain ⟨hguard, h⟩ := of_guard h
  simp only [Bool.or_eq_true, not_or, decide_eq_true_eq, ne_eq, not_not, Bool.not_eq_true', Bool.not_eq_false]
    at hguard
  obtain ⟨⟨hlooping, hpending⟩, hidle⟩ := hguard
  cases ok with
  | false =>
    obtain rfl := Option.some.inj h
    exact .refused hlooping
  | true =>
    cases side with
    | localSide =>
      obtain rfl := Option.some.inj h
      exact .connected hlooping hpending (by simp)
    | cloudSide =>
      cases hep : s.endpoint .cloudSide with
      | some ep =>
        have h : some (s.setClient .cloudSide { s.client .cloudSide with link := .up }) = some s' := by
          simpa [setClient, hep] using h
        obtain rfl := Option.some.inj h
        exact .connected hlooping hpending fun _ => .inl (by simp [hep])
      | none =>
        cases htemplate : parseTopicPrefix s.topicPrefix with
        | none =>
          have h : some (s.setClient .cloudSide { s.client .cloudSide with link := .up }) = some s' := by
            simpa [setClient, hep, htemplate] using h
          obtain rfl := Option.some.inj h
          exact .connected hlooping hpending fun _ => .inr htemplate
        | some topicTemplate =>
          simp only [setClient, hep, htemplate, Bool.not_true, Bool.false_eq_true, if_false] at h
          obtain rfl := Option.some.inj h
          exact .cloudCreated hlooping (by simpa using hidle) hep

theorem outcome_of_initCloud (h : s.initCloud = some s') : Outcome s .initCloud s' := by
  unfold initCloud at h
  split at h
  · next ep hconnect hep =>
    split at h
    · next hfailed =>
      obtain rfl := Option.some.inj h
      exact .cloudInitFailed hconnect hep (by simpa using hfailed)
    · next hinit =>
      obtain rfl := Option.some.inj h
      exact .cloudInitialized hconnect hep (by simpa using hinit)
  · cases h

private theorem outcome_of_subscribeCloud {accepted : Bool} (h : s.subscribeCloud accepted = some s') :
    Outcome s (.subscribeCloud accepted) s' := by
  unfold subscribeCloud at h
  split at h
  · next t rest ep hconnect hep =>
    split at h
    · next client hsubscribed =>
      obtain rfl := Option.some.inj h
      exact .cloudSubscribed hconnect hep hsubscribed
    · next client hfailed =>
      obtain rfl := VDA5050EndPoint.subscribeNext_of_failed hfailed
      rw [setClient_self] at h
      obtain rfl := Option.some.inj h
      exact .cloudSubscribeFailed hconnect hep (by rw [hfailed])
  · cases h

theorem outcome_of_setupBridge (h : s.setupBridge = some s') : Outcome s .setupBridge s' := by
  obtain ⟨hconnect, h⟩ := of_guard h
  split at h
  · next localEp cloudEp hlocal hcloud =>
    dsimp only at h
    split at h
    · next hfailed =>
      obtain rfl := Option.some.inj h
      refine .bridgeFailed (not_not.1 hconnect) (.inr ⟨localEp, hlocal, rfl⟩) fun ep ep' hep hep' => ?_
      obtain rfl := Option.some.inj (hlocal.symm.trans hep)
      exact .inl (by simpa using hfailed)
    · next htoCloud =>
      split at h
      · next hfailed =>
        obtain rfl := Option.some.inj h
        refine .bridgeFailed (not_not.1 hconnect) (.inr ⟨localEp, hlocal, rfl⟩) fun ep ep' hep hep' => ?_
        obtain rfl := Option.some.inj (hcloud.symm.trans hep')
        exact .inr (by simpa using hfailed)
      · next htoLocal =>
        obtain rfl := Option.some.inj h
        exact .bridged (not_not.1 hconnect) hlocal hcloud (by simpa using htoCloud) (by simpa using htoLocal)
  · next hmissing =>
    obtain rfl := Option.some.inj h
    exact .bridgeFailed (not_not.1 hconnect) (.inl rfl) fun _ _ hlocal hcloud => (hmissing _ _ hlocal hcloud).elim

theorem outcome_of_step {a : ProxyAction} (h : s.step a = some s') : Outcome s a s' := by
  cases a with
  | init topicPrefix =>
    obtain ⟨hcall, h⟩ := of_guard h
    obtain rfl := Option.some.inj h
    exact .initialized (not_not.1 hcall)
  | start ok => exact outcome_of_start h
  | configure ok => exact outcome_of_configure h
  | connectLocal ok =>
    obtain ⟨hcall, h⟩ := of_guard h
    cases ok <;> obtain rfl := Option.some.inj h
    · exact .connectFailed (not_not.1 hcall)
    · exact .localConnecting (not_not.1 hcall)
  | createLocal => exact outcome_of_createLocal h
  | subscribeLocal accepted => exact outcome_of_subscribeLocal h
  | startLocalLoop ok =>
    obtain ⟨hcall, h⟩ := of_guard h
    cases ok <;> obtain rfl := Option.some.inj h
    · exact .localLoopFailed (not_not.1 hcall)
    · exact .localLooping (not_not.1 hcall)
  | startCloudLoop ok =>
    obtain ⟨hcall, h⟩ := of_guard h
    obtain rfl := Option.some.inj h
    exact .cloudLooping (not_not.1 hcall)
  | connectCloud =>
    obtain ⟨hcall, h⟩ := of_guard h
    obtain rfl := Option.some.inj h
    exact .started (not_not.1 hcall)
  | stop =>
    obtain ⟨hcall, h⟩ := of_guard h
    obtain rfl := Option.some.inj h
    exact .stopped (not_not.1 hcall)
  | disconnect =>
    obtain ⟨hcall, h⟩ := of_guard h
    obtain rfl := Option.some.inj h
    exact .disconnected (not_not.1 hcall)
  | joinLoops =>
    obtain ⟨hcall, h⟩ := of_guard h
    obtain rfl := Option.some.inj h
    exact .joined (not_not.1 hcall)
  | reset =>
    obtain ⟨hcall, h⟩ := of_guard h
    obtain rfl := Option.some.inj h
    exact .endpointsReset (not_not.1 hcall)
  | connecting side =>
    obtain ⟨hguard, h⟩ := of_guard h
    obtain rfl := Option.some.inj h
    simp only [Bool.or_eq_true, not_or, decide_eq_true_eq, ne_eq, not_not, Bool.not_eq_true', Bool.not_eq_false]
      at hguard
    exact .connecting hguard.1.1 hguard.1.2
  | lost side =>
    obtain ⟨hup, h⟩ := of_guard h
    obtain rfl := Option.some.inj h
    exact .lost hup
  | onConnect side ok => exact outcome_of_onConnect h
  | initCloud => exact outcome_of_initCloud h
  | subscribeCloud accepted => exact outcome_of_subscribeCloud h
  | setupBridge => exact outcome_of_setupBridge h

end VDA5050Proxy

end SyriusOrbit.Mqtt

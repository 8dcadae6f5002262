import SyriusOrbit.Mqtt.EndPoint
import SyriusOrbit.Transition.System

/-!
# The proxy and the start of the daemon

`Daemon::run` up to the wiring of the event recorder, the callback of `VDA5050Proxy` that is called when the cloud
client has connected, and the connections of both clients, as one system.  The steps of the daemon's thread, of the
network threads and of the brokers come in any order that their guards allow.
-/

namespace SyriusOrbit.Mqtt

open Vda5050 Transition

/-- How far `Daemon::run` has come. -/
inductive RunStep where
  | begin | connected | subscribed | started | constructed | attached | waiting | failed
  deriving DecidableEq

/-- How far the connect callback of the cloud client has come. -/
inductive CallbackStep where
  | idle | created | initialized | bridged
  deriving DecidableEq

/-- The event recorder.  It keeps pointers to the endpoints that there were when it was constructed. -/
structure Vda5050EventRecorder where
  localEp : Option Nat
  cloudEp : Option Nat
  attachedCloud : Bool := false

/-- The members of `Daemon` and `VDA5050Proxy`, by side where there is one for each; `allocated` counts the endpoints
created so far. -/
structure Daemon where
  run : RunStep := .begin
  callback : CallbackStep := .idle
  client : Side → MqttSubscriber := fun _ => {}
  endpoint : Side → Option VDA5050EndPoint := fun _ => none
  allocated : Nat := 0
  recorder : Option Vda5050EventRecorder := none
  onCloudConnected : Bool := false

inductive Action where
  -- the daemon's thread
  | connectLocal (ok : Bool)
  | initLocal (accepted : MessageType → Bool)
  | startLoops (ok : Bool)
  | constructRecorder
  | attach
  | setOnCloudConnected
  -- the connections
  | connecting (side : Side)
  | onConnect (side : Side) (ok : Bool)
  | lost (side : Side)
  -- the connect callback of the cloud client
  | initCloud (accepted : MessageType → Bool)
  | setupBridge
  | notify

namespace Daemon

def setClient (s : Daemon) (side : Side) (client : MqttSubscriber) : Daemon :=
  { s with client := Function.update s.client side client }

def setEndpoint (s : Daemon) (side : Side) (endpoint : Option VDA5050EndPoint) : Daemon :=
  { s with endpoint := Function.update s.endpoint side endpoint }

@[simp] theorem endpoint_setEndpoint (s : Daemon) (side : Side) (endpoint : Option VDA5050EndPoint) :
    (s.setEndpoint side endpoint).endpoint side = endpoint := Function.update_self _ _ _

theorem endpoint_setEndpoint_of_ne {side side' : Side} (h : side' ≠ side) (s : Daemon)
    (endpoint : Option VDA5050EndPoint) : (s.setEndpoint side endpoint).endpoint side' = s.endpoint side' :=
  Function.update_of_ne h _ _

theorem cloud_of_setEndpoint {s : Daemon} {ep : VDA5050EndPoint} (hep : s.endpoint .cloudSide = some ep)
    (endpoint : Option VDA5050EndPoint) : (s.setEndpoint .localSide endpoint).endpoint .cloudSide = some ep :=
  (endpoint_setEndpoint_of_ne (by simp) s endpoint).trans hep

@[simp] theorem client_setClient (s : Daemon) (side : Side) (client : MqttSubscriber) :
    (s.setClient side client).client side = client := Function.update_self _ _ _

theorem client_setClient_of_ne {side side' : Side} (h : side' ≠ side) (s : Daemon) (client : MqttSubscriber) :
    (s.setClient side client).client side' = s.client side' := Function.update_of_ne h _ _

/-- Works on the endpoint behind a pointer.  A pointer to an endpoint that has been replaced, whose use is undefined in
the source, reaches none of those installed. -/
def registerAt (s : Daemon) (side : Side) (pointer : Option Nat) (f : VDA5050EndPoint → VDA5050EndPoint) : Daemon :=
  s.setEndpoint side ((s.endpoint side).map fun ep => if pointer = some ep.id then f ep else ep)

/-- `std::make_unique<VDA5050EndPoint>`. -/
def createEndpoint (s : Daemon) (side : Side) (topicTemplate : VDA5050TopicContext) : Daemon :=
  { s.setEndpoint side (some { id := s.allocated, side, topicTemplate }) with allocated := s.allocated + 1 }

/-- `VDA5050Proxy::stop`. -/
def stop (s : Daemon) : Daemon :=
  { s with client := fun side => (s.client side).disconnected, endpoint := fun _ => none }

/-! ### `VDA5050Proxy::start` -/

/-- The prefix is parsed, the clients are configured and the local one connects; `ok` tells whether the calls of the
library succeed. -/
def connectLocal (topicPrefix : String) (ok : Bool) (s : Daemon) : Option Daemon :=
  if s.run ≠ .begin then none
  else if (parseTopicPrefix topicPrefix).isNone then some { s with run := .failed }
  else if !ok then some { s.stop with run := .failed }
  else some { s.setClient .localSide { s.client .localSide with link := .pending } with run := .connected }

/-- The local endpoint is created and initialized. -/
def initLocal (topicPrefix : String) (accepted : MessageType → Bool) (s : Daemon) : Option Daemon :=
  if s.run ≠ .connected then none
  else
    match parseTopicPrefix topicPrefix with
    | none => none
    | some topicTemplate =>
      let ep : VDA5050EndPoint := { id := s.allocated, side := .localSide, topicTemplate }
      match ep.init (s.client .localSide) accepted with
      | (true, ep', client') =>
        some { (s.setClient .localSide client').setEndpoint .localSide (some ep') with
          allocated := s.allocated + 1
          run := .subscribed }
      | (false, _, client') =>
        some { (s.setClient .localSide client').stop with allocated := s.allocated + 1, run := .failed }

/-- The loops of both clients start, the cloud client with its connect callback; only the local one is required. -/
def startLoops (ok : Bool) (s : Daemon) : Option Daemon :=
  if s.run ≠ .subscribed then none
  else if !ok then some { s.stop with run := .failed }
  else some { s with run := .started }

/-- The network threads run. -/
def loopsRunning (s : Daemon) : Bool :=
  match s.run with
  | .started | .constructed | .attached | .waiting => true
  | _ => false

theorem run_ne_failed {s : Daemon} (hloops : s.loopsRunning = true) : s.run ≠ .failed := by
  intro hfailed
  simp [loopsRunning, hfailed] at hloops

/-! ### The event recorder -/

/-- The calls of `attach` on the local endpoint. -/
def attachLocal (ep : VDA5050EndPoint) : VDA5050EndPoint :=
  let ep := (ep.onState .recorder).2
  let ep := (ep.onVisualization .recorder).2
  let ep := (ep.onConnection .recorder).2
  (ep.onFactSheet .recorder).2

/-- The calls of `attachCloud` on the cloud endpoint. -/
def attachDownlink (ep : VDA5050EndPoint) : VDA5050EndPoint :=
  let ep := (ep.onOrder .recorder).2
  let ep := (ep.onInstantActions .recorder).2
  let ep := (ep.onResponses .recorder).2
  (ep.onZoneSet .recorder).2

/-- `Vda5050EventRecorder::attachCloud`. -/
def attachCloud (s : Daemon) : Daemon :=
  match s.recorder with
  | none => s
  | some r =>
    if r.cloudEp.isNone || r.attachedCloud then s
    else { s.registerAt .cloudSide r.cloudEp attachDownlink with recorder := some { r with attachedCloud := true } }

/-- `Vda5050EventRecorder event_recorder(localEndpoint(), cloudEndpoint(), events_repo_)`. -/
def constructRecorder (s : Daemon) : Option Daemon :=
  if s.run ≠ .started then none
  else some { s with
    recorder := some
      { localEp := (s.endpoint .localSide).map (·.id)
        cloudEp := (s.endpoint .cloudSide).map (·.id) }
    run := .constructed }

/-- `Vda5050EventRecorder::attach`. -/
def attach (s : Daemon) : Option Daemon :=
  if s.run ≠ .constructed then none
  else
    match s.recorder with
    | none => none
    | some r =>
      -- `attachCloud` returns at once if there was no cloud endpoint
      some { (s.registerAt .localSide r.localEp attachLocal).attachCloud with run := .attached }

def setOnCloudConnected (s : Daemon) : Option Daemon :=
  if s.run ≠ .attached then none else some { s with onCloudConnected := true, run := .waiting }

/-! ### Connections -/

/-- The library opens a connection, for the first time or again after a loss. -/
def connecting (side : Side) (s : Daemon) : Option Daemon :=
  if !s.loopsRunning || (s.client side).link ≠ .down || (side = .cloudSide && s.callback ≠ .idle) then none
  else some (s.setClient side { s.client side with link := .pending })

/-- A connection ends. -/
def lost (side : Side) (s : Daemon) : Option Daemon :=
  if (s.client side).link = .down then none else some (s.setClient side (s.client side).disconnected)

/-- `on_connect`.  The local client has no connect callback; that of the cloud client returns at once if there is an
endpoint, and creates one otherwise. -/
def onConnect (topicPrefix : String) (side : Side) (ok : Bool) (s : Daemon) : Option Daemon :=
  if !s.loopsRunning || (s.client side).link ≠ .pending || (side = .cloudSide && s.callback ≠ .idle) then none
  else if !ok then some (s.setClient side (s.client side).disconnected)
  else
    let s := s.setClient side { s.client side with link := .up }
    match side with
    | .localSide => some s
    | .cloudSide =>
      match s.endpoint .cloudSide, parseTopicPrefix topicPrefix with
      | some _, _ => some s
      | none, none => some s
      | none, some topicTemplate => some { s.createEndpoint .cloudSide topicTemplate with callback := .created }

/-! ### The connect callback of the cloud client -/

/-- `cloud_endpoint_->Init()`, and the end of the callback if it fails. -/
def initCloud (accepted : MessageType → Bool) (s : Daemon) : Option Daemon :=
  if s.callback ≠ .created then none
  else
    match s.endpoint .cloudSide with
    | none => none
    | some ep =>
      match ep.init (s.client .cloudSide) accepted with
      | (true, ep', client') =>
        some { (s.setClient .cloudSide client').setEndpoint .cloudSide (some ep') with callback := .initialized }
      | (false, _, client') =>
        some { (s.setClient .cloudSide client').setEndpoint .cloudSide none with callback := .idle }

/-- `f() && g()`. -/
def andThen (f g : VDA5050EndPoint → Bool × VDA5050EndPoint) (ep : VDA5050EndPoint) : Bool × VDA5050EndPoint :=
  match f ep with
  | (true, ep') => g ep'
  | (false, ep') => (false, ep')

def bridgeLocalToCloud : VDA5050EndPoint → Bool × VDA5050EndPoint :=
  andThen (VDA5050EndPoint.onState .bridge) <| andThen (VDA5050EndPoint.onVisualization .bridge) <|
    andThen (VDA5050EndPoint.onConnection .bridge) (VDA5050EndPoint.onFactSheet .bridge)

def bridgeCloudToLocal : VDA5050EndPoint → Bool × VDA5050EndPoint :=
  andThen (VDA5050EndPoint.onOrder .bridge) <| andThen (VDA5050EndPoint.onInstantActions .bridge) <|
    andThen (VDA5050EndPoint.onResponses .bridge) (VDA5050EndPoint.onZoneSet .bridge)

/-- `setup_bridge_callbacks()`, and the end of the callback if it fails. -/
def setupBridge (s : Daemon) : Option Daemon :=
  if s.callback ≠ .initialized then none
  else
    match s.endpoint .localSide, s.endpoint .cloudSide with
    | some localEp, some cloudEp =>
      let toCloud := bridgeLocalToCloud localEp
      let s := s.setEndpoint .localSide (some toCloud.2)
      if !toCloud.1 then some { s.setEndpoint .cloudSide none with callback := .idle }
      else
        let toLocal := bridgeCloudToLocal cloudEp
        if !toLocal.1 then some { s.setEndpoint .cloudSide none with callback := .idle }
        else some { s.setEndpoint .cloudSide (some toLocal.2) with callback := .bridged }
    | _, _ => some { s.setEndpoint .cloudSide none with callback := .idle }

/-- `on_cloud_connected_()`, if it is set. -/
def notify (s : Daemon) : Option Daemon :=
  if s.callback ≠ .bridged then none
  else
    let s := if s.onCloudConnected then s.attachCloud else s
    some { s with callback := .idle }

/-! ### Registration -/

open VDA5050EndPoint

theorem sameSetup_attachLocal (ep : VDA5050EndPoint) : ep.SameSetup (attachLocal ep) :=
  (((sameSetup_on _ _ _ _).trans (sameSetup_on _ _ _ _)).trans (sameSetup_on _ _ _ _)).trans (sameSetup_on _ _ _ _)

theorem sameSetup_attachDownlink (ep : VDA5050EndPoint) : ep.SameSetup (attachDownlink ep) :=
  (((sameSetup_on _ _ _ _).trans (sameSetup_on _ _ _ _)).trans (sameSetup_on _ _ _ _)).trans (sameSetup_on _ _ _ _)

/-- Registration through a pointer keeps the set-up, whether or not the pointer is to the endpoint. -/
theorem sameSetup_registerAt {f : VDA5050EndPoint → VDA5050EndPoint}
    (hf : ∀ ep : VDA5050EndPoint, ep.SameSetup (f ep)) (pointer : Option Nat) (ep : VDA5050EndPoint) :
    ep.SameSetup (if pointer = some ep.id then f ep else ep) := by
  split
  · exact hf ep
  · exact .refl ep

theorem of_endpoint_registerAt {s : Daemon} {side : Side} {pointer : Option Nat}
    {f : VDA5050EndPoint → VDA5050EndPoint} {ep' : VDA5050EndPoint}
    (h : (s.registerAt side pointer f).endpoint side = some ep') :
    ∃ ep, s.endpoint side = some ep ∧ ep' = if pointer = some ep.id then f ep else ep := by
  rw [registerAt, endpoint_setEndpoint] at h
  obtain ⟨ep, hep, rfl⟩ := Option.map_eq_some_iff.1 h
  exact ⟨ep, hep, rfl⟩

/-- `attachCloud` does nothing without a recorder, without its pointer to a cloud endpoint or a second time, and
otherwise registers the recorder through the pointer. -/
theorem attachCloud_cases (s : Daemon) :
    (s.attachCloud = s ∧ ∀ r, s.recorder = some r → r.cloudEp = none ∨ r.attachedCloud = true) ∨
    ∃ r, s.recorder = some r ∧ r.attachedCloud = false ∧
      s.attachCloud = { s.registerAt .cloudSide r.cloudEp attachDownlink with
        recorder := some { r with attachedCloud := true } } := by
  unfold attachCloud
  split
  · next hnone => exact .inl ⟨rfl, by simp [hnone]⟩
  · next r hr =>
    split
    · next hdone =>
      refine .inl ⟨rfl, fun r' hr' => ?_⟩
      obtain rfl := Option.some.inj (hr.symm.trans hr')
      simpa using hdone
    · next hguard =>
      simp only [Bool.or_eq_true, not_or, Bool.not_eq_true] at hguard
      exact .inr ⟨r, hr, hguard.2, rfl⟩

/-- It works on the cloud endpoint and on the recorder. -/
theorem attachCloud_eq (s : Daemon) :
    s.attachCloud = { s with endpoint := s.attachCloud.endpoint, recorder := s.attachCloud.recorder } := by
  rcases attachCloud_cases s with ⟨heq, -⟩ | ⟨r, -, -, heq⟩
  · rw [heq]
  · rw [heq]
    rfl

theorem notified_eq (s : Daemon) : (if s.onCloudConnected then s.attachCloud else s) =
    { s with
      endpoint := (if s.onCloudConnected then s.attachCloud else s).endpoint
      recorder := (if s.onCloudConnected then s.attachCloud else s).recorder } := by
  split
  · exact attachCloud_eq s
  · rfl

theorem client_attachCloud (s : Daemon) : s.attachCloud.client = s.client := by
  rw [attachCloud_eq]

theorem run_attachCloud (s : Daemon) : s.attachCloud.run = s.run := by
  rw [attachCloud_eq]

theorem callback_attachCloud (s : Daemon) : s.attachCloud.callback = s.callback := by
  rw [attachCloud_eq]

theorem allocated_attachCloud (s : Daemon) : s.attachCloud.allocated = s.allocated := by
  rw [attachCloud_eq]

theorem client_notified (s : Daemon) : (if s.onCloudConnected then s.attachCloud else s).client = s.client := by
  rw [notified_eq]

theorem run_notified (s : Daemon) : (if s.onCloudConnected then s.attachCloud else s).run = s.run := by
  rw [notified_eq]

theorem callback_notified (s : Daemon) :
    (if s.onCloudConnected then s.attachCloud else s).callback = s.callback := by
  rw [notified_eq]

theorem allocated_notified (s : Daemon) :
    (if s.onCloudConnected then s.attachCloud else s).allocated = s.allocated := by
  rw [notified_eq]

/-- What each of two functions does to an endpoint is done by one after the other. -/
private theorem rel_andThen (P : VDA5050EndPoint → VDA5050EndPoint → Prop) (htrans : ∀ a b c, P a b → P b c → P a c)
    {f g : VDA5050EndPoint → Bool × VDA5050EndPoint} (hf : ∀ ep, P ep (f ep).2) (hg : ∀ ep, P ep (g ep).2)
    (ep : VDA5050EndPoint) : P ep (andThen f g ep).2 := by
  unfold andThen
  have h := hf ep
  cases hfep : f ep with
  | mk ok ep' =>
    rw [hfep] at h
    cases ok with
    | true => exact htrans _ _ _ h (hg ep')
    | false => exact h

theorem rel_bridgeLocalToCloud (P : VDA5050EndPoint → VDA5050EndPoint → Prop)
    (htrans : ∀ a b c, P a b → P b c → P a c) (hon : ∀ side t ep, P ep (on side t .bridge ep).2)
    (ep : VDA5050EndPoint) : P ep (bridgeLocalToCloud ep).2 :=
  rel_andThen P htrans (hon _ _) (rel_andThen P htrans (hon _ _) (rel_andThen P htrans (hon _ _) (hon _ _))) ep

theorem rel_bridgeCloudToLocal (P : VDA5050EndPoint → VDA5050EndPoint → Prop)
    (htrans : ∀ a b c, P a b → P b c → P a c) (hon : ∀ side t ep, P ep (on side t .bridge ep).2)
    (ep : VDA5050EndPoint) : P ep (bridgeCloudToLocal ep).2 :=
  rel_andThen P htrans (hon _ _) (rel_andThen P htrans (hon _ _) (rel_andThen P htrans (hon _ _) (hon _ _))) ep

theorem sameSetup_bridgeLocalToCloud (ep : VDA5050EndPoint) : ep.SameSetup (bridgeLocalToCloud ep).2 :=
  rel_bridgeLocalToCloud SameSetup (fun _ _ _ => SameSetup.trans) (fun _ _ _ => sameSetup_on _ _ _ _) ep

theorem sameSetup_bridgeCloudToLocal (ep : VDA5050EndPoint) : ep.SameSetup (bridgeCloudToLocal ep).2 :=
  rel_bridgeCloudToLocal SameSetup (fun _ _ _ => SameSetup.trans) (fun _ _ _ => sameSetup_on _ _ _ _) ep

/-! ### The system -/

def step (topicPrefix : String) (s : Daemon) : Action → Option Daemon
  | .connectLocal ok => s.connectLocal topicPrefix ok
  | .initLocal accepted => s.initLocal topicPrefix accepted
  | .startLoops ok => s.startLoops ok
  | .constructRecorder => s.constructRecorder
  | .attach => s.attach
  | .setOnCloudConnected => s.setOnCloudConnected
  | .connecting side => s.connecting side
  | .onConnect side ok => s.onConnect topicPrefix side ok
  | .lost side => s.lost side
  | .initCloud accepted => s.initCloud accepted
  | .setupBridge => s.setupBridge
  | .notify => s.notify

/-- The daemon with a configured topic prefix, from the call of `run` on. -/
def system (topicPrefix : String) : System Daemon Action := .ofStep {} (step topicPrefix)

/-! ### What a step can do -/

/-- The outcomes of the steps, each with its guard. -/
inductive Outcome (topicPrefix : String) (s : Daemon) : Action → Daemon → Prop where
  | noPrefix {ok : Bool} (hrun : s.run = .begin) (htemplate : parseTopicPrefix topicPrefix = none) :
    Outcome topicPrefix s (.connectLocal ok) { s with run := .failed }
  | connectFailed (hrun : s.run = .begin) :
    Outcome topicPrefix s (.connectLocal false) { s.stop with run := .failed }
  | localConnecting (hrun : s.run = .begin) :
    Outcome topicPrefix s (.connectLocal true)
      { s.setClient .localSide { s.client .localSide with link := .pending } with run := .connected }
  | localInitialized {accepted : MessageType → Bool} {topicTemplate : VDA5050TopicContext} {ep : VDA5050EndPoint}
    {client : MqttSubscriber} (hrun : s.run = .connected)
    (hinit : VDA5050EndPoint.init { id := s.allocated, side := .localSide, topicTemplate } (s.client .localSide)
      accepted = (true, ep, client)) :
    Outcome topicPrefix s (.initLocal accepted)
      { (s.setClient .localSide client).setEndpoint .localSide (some ep) with
        allocated := s.allocated + 1
        run := .subscribed }
  | localInitFailed {accepted : MessageType → Bool} {client : MqttSubscriber} (hrun : s.run = .connected) :
    Outcome topicPrefix s (.initLocal accepted)
      { (s.setClient .localSide client).stop with allocated := s.allocated + 1, run := .failed }
  | loopsFailed (hrun : s.run = .subscribed) :
    Outcome topicPrefix s (.startLoops false) { s.stop with run := .failed }
  | loopsStarted (hrun : s.run = .subscribed) : Outcome topicPrefix s (.startLoops true) { s with run := .started }
  | recorderConstructed (hrun : s.run = .started) :
    Outcome topicPrefix s .constructRecorder
      { s with
        recorder := some
          { localEp := (s.endpoint .localSide).map (·.id)
            cloudEp := (s.endpoint .cloudSide).map (·.id) }
        run := .constructed }
  | attached {r : Vda5050EventRecorder} (hrun : s.run = .constructed) (hrecorder : s.recorder = some r) :
    Outcome topicPrefix s .attach
      { (s.registerAt .localSide r.localEp attachLocal).attachCloud with run := .attached }
  | callbackSet (hrun : s.run = .attached) :
    Outcome topicPrefix s .setOnCloudConnected { s with onCloudConnected := true, run := .waiting }
  | connecting {side : Side} (hloops : s.loopsRunning = true) (hdown : (s.client side).link = .down) :
    Outcome topicPrefix s (.connecting side) (s.setClient side { s.client side with link := .pending })
  | lost {side : Side} (hup : (s.client side).link ≠ .down) :
    Outcome topicPrefix s (.lost side) (s.setClient side (s.client side).disconnected)
  | refused {side : Side} :
    Outcome topicPrefix s (.onConnect side false) (s.setClient side (s.client side).disconnected)
  | connected {side : Side} (hpending : (s.client side).link = .pending)
    (hidle : side = .cloudSide → s.callback = .idle)
    (hstays : side = .cloudSide → (s.endpoint .cloudSide).isSome ∨ parseTopicPrefix topicPrefix = none) :
    Outcome topicPrefix s (.onConnect side true) (s.setClient side { s.client side with link := .up })
  | cloudCreated {topicTemplate : VDA5050TopicContext} (hloops : s.loopsRunning = true)
    (hnone : s.endpoint .cloudSide = none) (htemplate : parseTopicPrefix topicPrefix = some topicTemplate) :
    Outcome topicPrefix s (.onConnect .cloudSide true)
      { (s.setClient .cloudSide { s.client .cloudSide with link := .up }).createEndpoint .cloudSide topicTemplate with
        callback := .created }
  | cloudInitialized {accepted : MessageType → Bool} {ep ep' : VDA5050EndPoint} {client : MqttSubscriber}
    (hcallback : s.callback = .created) (hep : s.endpoint .cloudSide = some ep)
    (hinit : ep.init (s.client .cloudSide) accepted = (true, ep', client)) :
    Outcome topicPrefix s (.initCloud accepted)
      { (s.setClient .cloudSide client).setEndpoint .cloudSide (some ep') with callback := .initialized }
  | cloudInitFailed {accepted : MessageType → Bool} {ep ep' : VDA5050EndPoint} {client : MqttSubscriber}
    (hcallback : s.callback = .created) (hep : s.endpoint .cloudSide = some ep)
    (hinit : ep.init (s.client .cloudSide) accepted = (false, ep', client)) :
    Outcome topicPrefix s (.initCloud accepted)
      { (s.setClient .cloudSide client).setEndpoint .cloudSide none with callback := .idle }
  | bridged {localEp cloudEp : VDA5050EndPoint} (hcallback : s.callback = .initialized)
    (hlocal : s.endpoint .localSide = some localEp) (hcloud : s.endpoint .cloudSide = some cloudEp) :
    Outcome topicPrefix s .setupBridge
      { (s.setEndpoint .localSide (some (bridgeLocalToCloud localEp).2)).setEndpoint .cloudSide
          (some (bridgeCloudToLocal cloudEp).2) with callback := .bridged }
  | bridgeFailed {s₁ : Daemon} (hcallback : s.callback = .initialized)
    (hlocal : s₁ = s ∨ ∃ localEp, s.endpoint .localSide = some localEp ∧
      s₁ = s.setEndpoint .localSide (some (bridgeLocalToCloud localEp).2))
    (hfailed : ∀ localEp cloudEp, s.endpoint .localSide = some localEp → s.endpoint .cloudSide = some cloudEp →
      (bridgeLocalToCloud localEp).1 = false ∨ (bridgeCloudToLocal cloudEp).1 = false) :
    Outcome topicPrefix s .setupBridge { s₁.setEndpoint .cloudSide none with callback := .idle }
  | notified (hcallback : s.callback = .bridged) :
    Outcome topicPrefix s .notify
      { (if s.onCloudConnected then s.attachCloud else s) with callback := .idle }

variable {topicPrefix : String} {s s' : Daemon}

private theorem outcome_of_connectLocal {ok : Bool} (h : s.connectLocal topicPrefix ok = some s') :
    Outcome topicPrefix s (.connectLocal ok) s' := by
  obtain ⟨hrun, h⟩ := of_guard h
  split at h
  · next htemplate =>
    obtain rfl := Option.some.inj h
    exact .noPrefix (not_not.1 hrun) (by simpa using htemplate)
  · cases ok <;> obtain rfl := Option.some.inj h
    · exact .connectFailed (not_not.1 hrun)
    · exact .localConnecting (not_not.1 hrun)

private theorem outcome_of_initLocal {accepted : MessageType → Bool} (h : s.initLocal topicPrefix accepted = some s') :
    Outcome topicPrefix s (.initLocal accepted) s' := by
  obtain ⟨hrun, h⟩ := of_guard h
  split at h
  · simp at h
  · dsimp only at h
    split at h
    · next hinit =>
      obtain rfl := Option.some.inj h
      exact .localInitialized (not_not.1 hrun) hinit
    · obtain rfl := Option.some.inj h
      exact .localInitFailed (not_not.1 hrun)

theorem outcome_of_onConnect {side : Side} {ok : Bool} (h : s.onConnect topicPrefix side ok = some s') :
    Outcome topicPrefix s (.onConnect side ok) s' := by
  obtain ⟨hguard, h⟩ := of_guard h
  simp only [Bool.or_eq_true, not_or, decide_eq_true_eq, ne_eq, not_not, Bool.not_eq_true', Bool.not_eq_false]
    at hguard
  obtain ⟨⟨hloops, hpending⟩, hidle⟩ := hguard
  have hidle : side = .cloudSide → s.callback = .idle :=
    fun hside => not_not.1 fun hbusy => hidle (by simp [hside, hbusy])
  cases ok with
  | false =>
    obtain rfl := Option.some.inj h
    exact .refused
  | true =>
    cases side with
    | localSide =>
      obtain rfl := Option.some.inj h
      exact .connected hpending hidle (by simp)
    | cloudSide =>
      cases hep : s.endpoint .cloudSide with
      | some ep =>
        have h : some (s.setClient .cloudSide { s.client .cloudSide with link := .up }) = some s' := by
          simpa [Daemon.setClient, hep] using h
        obtain rfl := Option.some.inj h
        exact .connected hpending hidle fun _ => .inl (by simp [hep])
      | none =>
        cases htemplate : parseTopicPrefix topicPrefix with
        | none =>
          have h : some (s.setClient .cloudSide { s.client .cloudSide with link := .up }) = some s' := by
            simpa [Daemon.setClient, hep, htemplate] using h
          obtain rfl := Option.some.inj h
          exact .connected hpending hidle fun _ => .inr htemplate
        | some topicTemplate =>
          simp only [Daemon.setClient, hep, htemplate, Bool.not_true, Bool.false_eq_true, if_false] at h
          obtain rfl := Option.some.inj h
          exact .cloudCreated hloops hep htemplate

theorem outcome_of_initCloud {accepted : MessageType → Bool} (h : s.initCloud accepted = some s') :
    Outcome topicPrefix s (.initCloud accepted) s' := by
  obtain ⟨hcallback, h⟩ := of_guard h
  split at h
  · simp at h
  · next ep hep =>
    split at h
    · next hinit =>
      obtain rfl := Option.some.inj h
      exact .cloudInitialized (not_not.1 hcallback) hep hinit
    · next hinit =>
      obtain rfl := Option.some.inj h
      exact .cloudInitFailed (not_not.1 hcallback) hep hinit

theorem outcome_of_setupBridge (h : s.setupBridge = some s') :
    Outcome topicPrefix s .setupBridge s' := by
  obtain ⟨hcallback, h⟩ := of_guard h
  split at h
  · next localEp cloudEp hlocal hcloud =>
    dsimp only at h
    split at h
    · next hfailed =>
      obtain rfl := Option.some.inj h
      refine .bridgeFailed (not_not.1 hcallback) (.inr ⟨localEp, hlocal, rfl⟩) fun ep ep' hep hep' => ?_
      obtain rfl := Option.some.inj (hlocal.symm.trans hep)
      exact .inl (by simpa using hfailed)
    · split at h
      · next hfailed =>
        obtain rfl := Option.some.inj h
        refine .bridgeFailed (not_not.1 hcallback) (.inr ⟨localEp, hlocal, rfl⟩) fun ep ep' hep hep' => ?_
        obtain rfl := Option.some.inj (hcloud.symm.trans hep')
        exact .inr (by simpa using hfailed)
      · obtain rfl := Option.some.inj h
        exact .bridged (not_not.1 hcallback) hlocal hcloud
  · next hmissing =>
    obtain rfl := Option.some.inj h
    exact .bridgeFailed (not_not.1 hcallback) (.inl rfl) fun _ _ hlocal hcloud => (hmissing _ _ hlocal hcloud).elim

theorem outcome_of_step {a : Action} (h : s.step topicPrefix a = some s') :
    Outcome topicPrefix s a s' := by
  cases a with
  | connectLocal ok => exact outcome_of_connectLocal h
  | initLocal accepted => exact outcome_of_initLocal h
  | startLoops ok =>
    obtain ⟨hrun, h⟩ := of_guard h
    cases ok <;> obtain rfl := Option.some.inj h
    · exact .loopsFailed (not_not.1 hrun)
    · exact .loopsStarted (not_not.1 hrun)
  | constructRecorder =>
    obtain ⟨hrun, h⟩ := of_guard h
    obtain rfl := Option.some.inj h
    exact .recorderConstructed (not_not.1 hrun)
  | attach =>
    obtain ⟨hrun, h⟩ := of_guard h
    split at h
    · simp at h
    · next r hrecorder =>
      obtain rfl := Option.some.inj h
      exact .attached (not_not.1 hrun) hrecorder
  | setOnCloudConnected =>
    obtain ⟨hrun, h⟩ := of_guard h
    obtain rfl := Option.some.inj h
    exact .callbackSet (not_not.1 hrun)
  | connecting side =>
    obtain ⟨hguard, h⟩ := of_guard h
    obtain rfl := Option.some.inj h
    simp only [Bool.or_eq_true, not_or, decide_eq_true_eq, ne_eq, not_not, Bool.not_eq_true', Bool.not_eq_false]
      at hguard
    exact .connecting hguard.1.1 hguard.1.2
  | lost side =>
    obtain ⟨hup, h⟩ := of_guard h
    obtain rfl := Option.some.inj h
    exact .lost hup
  | onConnect side ok => exact outcome_of_onConnect h
  | initCloud accepted => exact outcome_of_initCloud h
  | setupBridge => exact outcome_of_setupBridge h
  | notify =>
    obtain ⟨hcallback, h⟩ := of_guard h
    obtain rfl := Option.some.inj h
    exact .notified (not_not.1 hcallback)

end Daemon

end SyriusOrbit.Mqtt

import SyriusOrbit.Mqtt.Balance
import SyriusOrbit.Projection.Thread
import SyriusOrbit.Shutdown

/-!
# The process

`main` and `Daemon::run` with the parts of the daemon: the gateway, the projection engine and the HTTP server, whose
threads run between all steps.  Each part does what it does by itself (`reachable_gateway`, `reachable_engine`,
`reachable_http`).  The threads are started one inside of the other and stopped in the opposite order (`nested`), and
when `main` returns nothing is left of them, with the exit code 0 if and only if the start had succeeded
(`exits_clean`).
-/

namespace SyriusOrbit

open JsonFormat Vda5050 Mqtt Db Sql Projection Transition

/-! ### The proxy while it is called -/

namespace Mqtt

namespace ProxyAction

/-- The calls of the proxy. -/
def isCall : ProxyAction → Bool
  | .init _ | .start _ | .stop => true
  | _ => false

end ProxyAction

namespace VDA5050Proxy

/-- `stop` is going on, or has returned. -/
def Stopping (s : VDA5050Proxy) : Prop :=
  s.call = .stopped ∨ s.call = .disconnected ∨ s.call = .joined ∨ s.call = .idle ∧ s.running = false

variable {s s' : VDA5050Proxy} {a : ProxyAction}

/-- The threads of a proxy do not call it. -/
private theorem idle_of_step (hcall : s.call = .idle) (ha : a.isCall = false) (hs : s.step a = some s') :
    s'.call = .idle ∧ s'.running = s.running := by
  cases outcome_of_step hs with
  | initialized | returned | libraryInitialized | stopped => cases ha
  | connecting | lost | refused | connected | cloudCreated | cloudInitFailed | cloudInitialized | cloudSubscribed
  | cloudSubscribeFailed | bridged => exact ⟨hcall, rfl⟩
  | bridgeFailed _ hlocal =>
    obtain rfl | ⟨localEp, -, rfl⟩ := hlocal
    · exact ⟨hcall, rfl⟩
    · exact ⟨hcall, rfl⟩
  | configureFailed h | configured h | connectFailed h | localConnecting h | localInitFailed h | localCreated h
  | localSubscribed h | localSubscribeFailed h | localLoopFailed h | localLooping h | cloudLooping h | started h
  | disconnected h | joined h | endpointsReset h => simp [hcall] at h

theorem Stopping.step (h : s.Stopping) (ha : a.isCall = false) (hs : s.step a = some s') : s'.Stopping := by
  cases outcome_of_step hs with
  | initialized | returned | libraryInitialized | stopped => cases ha
  | disconnected => exact .inr (.inl rfl)
  | joined => exact .inr (.inr (.inl rfl))
  | endpointsReset => exact .inr (.inr (.inr ⟨rfl, rfl⟩))
  | connecting | lost | refused | connected | cloudCreated | cloudInitFailed | cloudInitialized | cloudSubscribed
  | cloudSubscribeFailed | bridged => exact h
  | bridgeFailed _ hlocal =>
    obtain rfl | ⟨localEp, -, rfl⟩ := hlocal
    · exact h
    · exact h
  -- the steps of `start`
  | configureFailed hcall | configured hcall | connectFailed hcall | localConnecting hcall | localInitFailed hcall
  | localCreated hcall | localSubscribed hcall | localSubscribeFailed hcall | localLoopFailed hcall
  | localLooping hcall | cloudLooping hcall | started hcall => simp [Stopping, hcall] at h

end VDA5050Proxy

end Mqtt

/-! ### The engine while it is called -/

namespace Projection

namespace ThreadAction

/-- The calls of the engine, and their steps. -/
def isOwner : ThreadAction → Bool
  | .start | .create _ | .stop _ | .join | .destroy => true
  | .check | .wakeUp | .recheck | .lock | .cycle _ | .insert .. => false

end ThreadAction

/-- The threads of an engine do not call it. -/
theorem ProjectionEngine.kept_of_step [JsonLibrary] {s s' : ProjectionEngine} {a : ThreadAction}
    (ha : a.isOwner = false) (hs : s.step a = some s') :
    s'.owner = s.owner ∧ s'.running = s.running ∧ (s'.thread = none ↔ s.thread = none) := by
  cases outcome_of_step hs with
  | started | startedAgain | created | overwritten | notCreated | stopped | notRunning | joined | destroyed
  | destroyedJoinable => cases ha
  | checked hthread | awoken hthread | rechecked hthread | locked hthread | cycled hthread =>
    exact ⟨rfl, rfl, by simp [hthread]⟩
  | inserted => exact ⟨rfl, rfl, Iff.rfl⟩

end Projection

/-! ### The HTTP server in the course of `run` -/

namespace Shutdown

variable {s s' : State}

private theorem run_of_start {ok : Bool} (hs : step s (.start ok) = some s') :
    s'.run = if ok then .bind else .returned := by
  cases outcome_of_step hs <;> rfl

private theorem run_of_exit (hs : step s .exit = some s') : s'.run = .returned := by
  cases outcome_of_step hs
  rfl

/-- `run` may have an HTTP thread. -/
def threaded : RunStep → Bool
  | .wait | .copy | .call _ | .join => true
  | .begin | .bind | .store | .spawn | .clear | .exit | .returned => false

/-- There is no HTTP thread, or it has returned. -/
def Ended (s : State) : Prop := s.http = .none ∨ s.http = .returned

private theorem not_ended (h : Ended s) (hhttp : s.http ≠ .none ∧ s.http ≠ .returned) {p : Prop} : p := by
  rcases h with h | h
  · exact absurd h hhttp.1
  · exact absurd h hhttp.2

private theorem ended_serverStop {http : HttpThread} (h : http = .none ∨ http = .returned) :
    serverStop http = .none ∨ serverStop http = .returned := by
  rcases h with rfl | rfl
  · exact .inl rfl
  · exact .inr rfl

/-- `run` joins the HTTP thread. -/
theorem ended_of_reachable (h : system.Reachable s) : threaded s.run = false → Ended s := by
  refine h.invariant (I := fun s => threaded s.run = false → Ended s) (fun s hs => ?_) fun s a s' _ hI _ hs => ?_
  · obtain rfl : s = {} := hs
    exact fun _ => .inl rfl
  · cases outcome_of_step hs with
    | started hrun | aborted hrun | bound hrun | stored hrun => exact fun _ => hI (by rw [hrun]; rfl)
    | unbound | unneeded | spawned | left | copied | runCalled => nofun
    | joined _ hhttp => exact fun _ => hhttp
    | cleared hrun | returned hrun => exact fun _ => hI (by rw [hrun]; rfl)
    | waited | requested | held | dangled | skipped => exact hI
    | stopCalled => exact fun hrun => ended_serverStop (hI hrun)
    | listening hhttp => exact fun hrun => not_ended (hI hrun) (by simp [hhttp])
    | ended hhttp => exact fun hrun => not_ended (hI hrun) (by simp [hhttp])

end Shutdown

/-! ### `Daemon::run` and `main` -/

/-- How far `Daemon::run` has come; `serving` is the part in `Shutdown.RunStep`. -/
inductive RunPhase where
  | migrating | initializing | starting | startCalled | attaching | startingEngine | startEngineCalled
  | serving
  | stoppingEngine | stopEngineCalled | stoppingGateway | stopGatewayCalled
  | returned
  -- the thread has set `daemon_finished`
  | finished
  -- an exception has left the thread
  | terminated
  deriving DecidableEq

/-- How far `main` has come after the start of the thread. -/
inductive MainStep where
  | polling
  -- before the second look at `daemon_finished`
  | deciding
  | stopping
  | joining
  -- the destructor of the daemon
  | destroying
  | exited
  deriving DecidableEq

structure Process where
  gateway : FleetGateway := {}
  engine : ProjectionEngine
  http : Shutdown.State := {}
  run : RunPhase := .migrating
  main : MainStep := .polling
  -- the recorder has been constructed and attached
  recorder : Bool := false
  exitCode : Nat := 0
  signalReceived : Bool := false
  daemonFinished : Bool := false

inductive ProcessAction where
  -- the daemon's thread
  | migrate (ok : Bool)
  | startReturns
  | attach
  | engineStarted
  | engineStopped
  | gatewayStopped
  | finish
  -- the parts, whose steps are those of several threads
  | gateway (a : ProxyAction)
  | engine (a : ThreadAction)
  | http (a : Shutdown.Action)
  -- `main`
  | signal
  | leaveLoop
  | decide
  | stopReturns
  | joinDaemon
  | exit

namespace Process

variable [JsonLibrary]

/-- A step of the gateway, and where it leaves `run`. -/
def onGateway (s : Process) : ProxyAction → Option RunPhase
  | .init _ => if s.run = .initializing then some .starting else none
  | .start _ => if s.run = .starting then some .startCalled else none
  | .stop => if s.run = .stoppingGateway then some .stopGatewayCalled else none
  | _ => some s.run

/-- A step of the projection engine.  The recorder inserts in the network threads. -/
def onEngine (s : Process) : ThreadAction → Option RunPhase
  | .start => if s.run = .startingEngine then some .startEngineCalled else none
  -- no handler catches the exception
  | .create ok => if ok then some s.run else some .terminated
  | .stop destroy =>
    if destroy then if s.main = .destroying then some s.run else none
    else if s.run = .stoppingEngine then some .stopEngineCalled else none
  | .destroy => if s.main = .destroying then some s.run else none
  | .insert .. =>
    if s.recorder && (s.gateway.proxy.looping .localSide || s.gateway.proxy.looping .cloudSide) then some s.run
    else none
  | _ => some s.run

/-- A step of `run` with the HTTP server, of `stop` or of the HTTP thread. -/
def onHttp (s : Process) : Shutdown.Action → Option RunPhase
  | .start _ | .exit => none
  | .clear => some .stoppingEngine
  | .poll isRunning => if isRunning = s.gateway.proxy.isRunning then some s.run else none
  | .requestStop => if s.main = .stopping then some s.run else none
  | _ => some s.run

/-- `exit_code` after a step with the HTTP server. -/
def exitCodeOn (s : Process) : Shutdown.Action → Nat
  | .poll isRunning => if !s.http.stopRequested && !isRunning then 1 else s.exitCode
  | _ => s.exitCode

/-- `return 1` at the start. -/
def abort (s : Process) : Option Process :=
  (Shutdown.step s.http (.start false)).map fun http => { s with http, exitCode := 1, run := .returned }

/-- The steps. -/
def step (s : Process) (a : ProcessAction) : Option Process :=
  if s.run = .terminated then none
  else
    match a with
    | .migrate ok =>
      if s.run ≠ .migrating then none else if ok then some { s with run := .initializing } else s.abort
    -- `FleetGateway::start` has returned whether the proxy runs
    | .startReturns =>
      if s.run ≠ .startCalled ∨ s.gateway.proxy.call ≠ .idle then none
      else if s.gateway.proxy.isRunning then some { s with run := .attaching }
      else s.abort
    | .attach =>
      if s.run ≠ .attaching then none
      else some { s with recorder := true, run := .startingEngine }
    | .engineStarted =>
      if s.run ≠ .startEngineCalled ∨ s.engine.owner ≠ .idle then none
      else (Shutdown.step s.http (.start true)).map fun http => { s with http, run := .serving }
    | .engineStopped =>
      if s.run ≠ .stopEngineCalled ∨ s.engine.owner ≠ .idle then none
      else some { s with run := .stoppingGateway }
    | .gatewayStopped =>
      if s.run ≠ .stopGatewayCalled ∨ s.gateway.proxy.call ≠ .idle then none
      else (Shutdown.step s.http .exit).map fun http => { s with http, run := .returned }
    | .finish => if s.run ≠ .returned then none else some { s with daemonFinished := true, run := .finished }
    | .gateway a => (s.onGateway a).bind fun run => (s.gateway.step a).map fun gateway => { s with gateway, run }
    | .engine a => (s.onEngine a).bind fun run => (s.engine.step a).map fun engine => { s with engine, run }
    | .http a =>
      (s.onHttp a).bind fun run =>
        (Shutdown.step s.http a).map fun http => { s with http, run, exitCode := s.exitCodeOn a }
    | .signal => some { s with signalReceived := true }
    | .leaveLoop =>
      if s.main ≠ .polling ∨ !(s.signalReceived || s.daemonFinished) then none
      else some { s with main := .deciding }
    | .decide =>
      if s.main ≠ .deciding then none
      else some { s with main := if s.daemonFinished then .joining else .stopping }
    | .stopReturns =>
      if s.main ≠ .stopping ∨ (s.http.stop ≠ .called ∧ s.http.stop ≠ .skipped) then none
      else some { s with main := .joining }
    | .joinDaemon => if s.main ≠ .joining ∨ s.run ≠ .finished then none else some { s with main := .destroying }
    | .exit => if s.main ≠ .destroying ∨ s.engine.owner ≠ .destroyed then none else some { s with main := .exited }

def system (log₀ : EventLog) (db₀ : ReadModel) : System Process ProcessAction :=
  .ofStep { engine := { engine := { log := log₀, db := db₀ } } } step

variable {log₀ : EventLog} {db₀ : ReadModel} {s s' : Process}

/-- The outcomes of the steps, each with its guard. -/
inductive Outcome (s : Process) : ProcessAction → Process → Prop where
  | migrated (hrun : s.run = .migrating) : Outcome s (.migrate true) { s with run := .initializing }
  | migrationFailed {http : Shutdown.State} (hrun : s.run = .migrating)
      (hs : Shutdown.step s.http (.start false) = some http) :
    Outcome s (.migrate false) { s with http, exitCode := 1, run := .returned }
  | startSucceeded (hrun : s.run = .startCalled) (hcall : s.gateway.proxy.call = .idle)
      (hrunning : s.gateway.proxy.running = true) : Outcome s .startReturns { s with run := .attaching }
  | startFailed {http : Shutdown.State} (hrun : s.run = .startCalled) (hcall : s.gateway.proxy.call = .idle)
      (hrunning : s.gateway.proxy.running = false) (hs : Shutdown.step s.http (.start false) = some http) :
    Outcome s .startReturns { s with http, exitCode := 1, run := .returned }
  | attached (hrun : s.run = .attaching) :
    Outcome s .attach { s with recorder := true, run := .startingEngine }
  | engineStarted {http : Shutdown.State} (hrun : s.run = .startEngineCalled) (howner : s.engine.owner = .idle)
      (hs : Shutdown.step s.http (.start true) = some http) :
    Outcome s .engineStarted { s with http, run := .serving }
  | engineStopped (hrun : s.run = .stopEngineCalled) (howner : s.engine.owner = .idle) :
    Outcome s .engineStopped { s with run := .stoppingGateway }
  | gatewayStopped {http : Shutdown.State} (hrun : s.run = .stopGatewayCalled) (hcall : s.gateway.proxy.call = .idle)
      (hs : Shutdown.step s.http .exit = some http) : Outcome s .gatewayStopped { s with http, run := .returned }
  | finished (hrun : s.run = .returned) : Outcome s .finish { s with daemonFinished := true, run := .finished }
  | gateway {a : ProxyAction} {run : RunPhase} {gateway : FleetGateway} (hrun : s.onGateway a = some run)
      (hs : s.gateway.step a = some gateway) : Outcome s (.gateway a) { s with gateway, run }
  | engine {a : ThreadAction} {run : RunPhase} {engine : ProjectionEngine} (hrun : s.onEngine a = some run)
      (hs : s.engine.step a = some engine) : Outcome s (.engine a) { s with engine, run }
  | http {a : Shutdown.Action} {run : RunPhase} {http : Shutdown.State} (hrun : s.onHttp a = some run)
      (hs : Shutdown.step s.http a = some http) :
    Outcome s (.http a) { s with http, run, exitCode := s.exitCodeOn a }
  | signalled : Outcome s .signal { s with signalReceived := true }
  | leftLoop (hmain : s.main = .polling) (hseen : s.signalReceived = true ∨ s.daemonFinished = true) :
    Outcome s .leaveLoop { s with main := .deciding }
  | decided (hmain : s.main = .deciding) :
    Outcome s .decide { s with main := if s.daemonFinished then .joining else .stopping }
  | stopReturned (hmain : s.main = .stopping) (hstop : s.http.stop = .called ∨ s.http.stop = .skipped) :
    Outcome s .stopReturns { s with main := .joining }
  | joined (hmain : s.main = .joining) (hrun : s.run = .finished) :
    Outcome s .joinDaemon { s with main := .destroying }
  | exited (hmain : s.main = .destroying) (howner : s.engine.owner = .destroyed) :
    Outcome s .exit { s with main := .exited }

omit [JsonLibrary] in
private theorem outcome_of_abort {r : Process} (hs : s.abort = some r) :
    ∃ http, Shutdown.step s.http (.start false) = some http ∧ r = { s with http, exitCode := 1, run := .returned } := by
  obtain ⟨http, hhttp, rfl⟩ := Option.map_eq_some_iff.1 hs
  exact ⟨http, hhttp, rfl⟩

theorem outcome_of_step {a : ProcessAction} (h : s.step a = some s') : Outcome s a s' := by
  obtain ⟨-, h⟩ := of_guard h
  cases a with
  | migrate ok =>
    obtain ⟨hrun, h⟩ := of_guard h
    cases ok with
    | true =>
      obtain rfl := Option.some.inj h
      exact .migrated (not_not.1 hrun)
    | false =>
      obtain ⟨http, hhttp, rfl⟩ := outcome_of_abort h
      exact .migrationFailed (not_not.1 hrun) hhttp
  | startReturns =>
    obtain ⟨hguard, h⟩ := of_guard h
    rw [not_or, not_not, not_not] at hguard
    split at h
    · next hrunning =>
      obtain rfl := Option.some.inj h
      exact .startSucceeded hguard.1 hguard.2 hrunning
    · next hrunning =>
      obtain ⟨http, hhttp, rfl⟩ := outcome_of_abort h
      exact .startFailed hguard.1 hguard.2 (by simpa [VDA5050Proxy.isRunning] using hrunning) hhttp
  | attach =>
    obtain ⟨hrun, h⟩ := of_guard h
    obtain rfl := Option.some.inj h
    exact .attached (not_not.1 hrun)
  | engineStarted =>
    obtain ⟨hguard, h⟩ := of_guard h
    rw [not_or, not_not, not_not] at hguard
    obtain ⟨http, hhttp, rfl⟩ := Option.map_eq_some_iff.1 h
    exact .engineStarted hguard.1 hguard.2 hhttp
  | engineStopped =>
    obtain ⟨hguard, h⟩ := of_guard h
    rw [not_or, not_not, not_not] at hguard
    obtain rfl := Option.some.inj h
    exact .engineStopped hguard.1 hguard.2
  | gatewayStopped =>
    obtain ⟨hguard, h⟩ := of_guard h
    rw [not_or, not_not, not_not] at hguard
    obtain ⟨http, hhttp, rfl⟩ := Option.map_eq_some_iff.1 h
    exact .gatewayStopped hguard.1 hguard.2 hhttp
  | finish =>
    obtain ⟨hrun, h⟩ := of_guard h
    obtain rfl := Option.some.inj h
    exact .finished (not_not.1 hrun)
  | gateway a =>
    obtain ⟨run, hrun, h⟩ := Option.bind_eq_some_iff.1 h
    obtain ⟨gateway, hs, rfl⟩ := Option.map_eq_some_iff.1 h
    exact .gateway hrun hs
  | engine a =>
    obtain ⟨run, hrun, h⟩ := Option.bind_eq_some_iff.1 h
    obtain ⟨engine, hs, rfl⟩ := Option.map_eq_some_iff.1 h
    exact .engine hrun hs
  | http a =>
    obtain ⟨run, hrun, h⟩ := Option.bind_eq_some_iff.1 h
    obtain ⟨http, hs, rfl⟩ := Option.map_eq_some_iff.1 h
    exact .http hrun hs
  | signal =>
    obtain rfl := Option.some.inj h
    exact .signalled
  | leaveLoop =>
    obtain ⟨hguard, h⟩ := of_guard h
    rw [not_or, not_not] at hguard
    obtain rfl := Option.some.inj h
    exact .leftLoop hguard.1 (by simpa [or_iff_not_imp_left] using hguard.2)
  | decide =>
    obtain ⟨hmain, h⟩ := of_guard h
    obtain rfl := Option.some.inj h
    exact .decided (not_not.1 hmain)
  | stopReturns =>
    obtain ⟨hguard, h⟩ := of_guard h
    obtain rfl := Option.some.inj h
    rw [not_or, not_not] at hguard
    exact .stopReturned hguard.1 (by tauto)
  | joinDaemon =>
    obtain ⟨hguard, h⟩ := of_guard h
    rw [not_or, not_not, not_not] at hguard
    obtain rfl := Option.some.inj h
    exact .joined hguard.1 hguard.2
  | exit =>
    obtain ⟨hguard, h⟩ := of_guard h
    rw [not_or, not_not, not_not] at hguard
    obtain rfl := Option.some.inj h
    exact .exited hguard.1 hguard.2

/-! ### Where the steps of the parts leave `run` -/

omit [JsonLibrary] in
theorem run_of_onGateway {a : ProxyAction} {run : RunPhase} (ha : a.isCall = false) (hrun : s.onGateway a = some run) :
    s.run = run := by
  cases a with
  | init | start | stop => cases ha
  | _ => exact Option.some.inj hrun

omit [JsonLibrary] in
theorem run_of_onEngine {a : ThreadAction} {run : RunPhase} (ha : a.isOwner = false) (hrun : s.onEngine a = some run) :
    s.run = run := by
  cases a with
  | insert => exact Option.some.inj (Option.ite_none_right_eq_some.1 hrun).2
  | start | create | stop | join | destroy => cases ha
  | _ => exact Option.some.inj hrun

omit [JsonLibrary] in
theorem run_of_onHttp {a : Shutdown.Action} {run : RunPhase} (hrun : s.onHttp a = some run) (ha : a ≠ .clear) :
    s.run = run := by
  cases a with
  | start | exit => cases hrun
  | clear => exact absurd rfl ha
  | poll | requestStop => exact Option.some.inj (Option.ite_none_right_eq_some.1 hrun).2
  | _ => exact Option.some.inj hrun

/-! ### The parts by themselves -/

theorem reachable_gateway (h : (system log₀ db₀).Reachable s) : FleetGateway.system.Reachable s.gateway := by
  refine h.map Process.gateway (fun s hs => ?_) fun s a s' _ hs => ?_
  · obtain rfl : s = { engine := { engine := { log := log₀, db := db₀ } } } := hs
    rfl
  · cases outcome_of_step hs with
    | gateway hrun hgateway => exact .inr ⟨_, trivial, hgateway⟩
    | _ => exact .inl rfl

theorem reachable_engine (h : (system log₀ db₀).Reachable s) :
    (ProjectionEngine.system log₀ db₀).Reachable s.engine := by
  refine h.map Process.engine (fun s hs => ?_) fun s a s' _ hs => ?_
  · obtain rfl : s = { engine := { engine := { log := log₀, db := db₀ } } } := hs
    rfl
  · cases outcome_of_step hs with
    | engine hrun hengine => exact .inr ⟨_, trivial, hengine⟩
    | _ => exact .inl rfl

theorem reachable_http (h : (system log₀ db₀).Reachable s) : Shutdown.system.Reachable s.http := by
  refine h.map Process.http (fun s hs => ?_) fun s a s' _ hs => ?_
  · obtain rfl : s = { engine := { engine := { log := log₀, db := db₀ } } } := hs
    rfl
  · cases outcome_of_step hs with
    | migrationFailed _ hhttp | startFailed _ _ _ hhttp | engineStarted _ _ hhttp | gatewayStopped _ _ hhttp
    | http _ hhttp => exact .inr ⟨_, trivial, hhttp⟩
    | _ => exact .inl rfl

/-! ### The parts in the course of `run` -/

/-- Whether the proxy runs. -/
def proxyAt (run : RunPhase) (proxy : VDA5050Proxy) : Prop :=
  match run with
  | .migrating | .initializing | .starting | .returned | .finished => proxy.call = .idle ∧ proxy.running = false
  | .startCalled => True
  | .stopGatewayCalled => proxy.Stopping
  | _ => proxy.call = .idle ∧ proxy.running = true

def engineAt (run : RunPhase) (engine : ProjectionEngine) : Prop :=
  match run with
  | .migrating | .initializing | .starting | .startCalled | .attaching | .startingEngine | .stoppingGateway
  | .stopGatewayCalled | .returned => engine.owner = .idle ∧ engine.running = false
  | .startEngineCalled =>
    engine.running = true ∧ (engine.owner = .starting ∨ engine.owner = .idle ∧ engine.thread ≠ none)
  | .serving | .stoppingEngine => engine.running = true ∧ engine.owner = .idle ∧ engine.thread ≠ none
  | .stopEngineCalled => engine.running = false ∧ (engine.owner = .joining false ∨ engine.owner = .idle)
  | .finished =>
    engine.running = false ∧ (engine.owner = .idle ∨ engine.owner = .destroying ∨ engine.owner = .destroyed)
  | .terminated => engine.owner = .idle ∧ engine.thread = none

def httpAt (run : RunPhase) (http : Shutdown.RunStep) : Prop :=
  match run with
  | .migrating | .initializing | .starting | .startCalled | .attaching | .startingEngine | .startEngineCalled
  | .terminated => http = .begin
  | .serving => http ≠ .begin ∧ http ≠ .exit ∧ http ≠ .returned
  | .stoppingEngine | .stopEngineCalled | .stoppingGateway | .stopGatewayCalled => http = .exit
  | .returned | .finished => http = .returned

def recorderAt (run : RunPhase) (recorder : Bool) : Prop :=
  match run with
  | .migrating | .initializing | .starting | .startCalled | .attaching => recorder = false
  | .returned | .finished => True
  | _ => recorder = true

/-- The exit code is set when `run` returns. -/
def exitCodeAt (run : RunPhase) (recorder : Bool) (exitCode : Nat) : Prop :=
  match run with
  | .returned | .finished => exitCode = if recorder then 0 else 1
  | _ => exitCode = 0

/-- How the parts go together. -/
structure Sound (s : Process) : Prop where
  gateway : proxyAt s.run s.gateway.proxy
  engine : engineAt s.run s.engine
  http : httpAt s.run s.http.run
  recorder : recorderAt s.run s.recorder
  exitCode : exitCodeAt s.run s.recorder s.exitCode
  finished : s.daemonFinished = true → s.run = .finished
  main : s.main = .destroying ∨ s.main = .exited → s.run = .finished
  exited : s.main = .exited → s.engine.owner = .destroyed

omit [JsonLibrary] in
private theorem proxyAt_of_step {run : RunPhase} {proxy proxy' : VDA5050Proxy} {a : ProxyAction} (h : proxyAt run proxy)
    (ha : a.isCall = false) (hs : proxy.step a = some proxy') : proxyAt run proxy' := by
  cases run with
  | startCalled => trivial
  | stopGatewayCalled => exact VDA5050Proxy.Stopping.step h ha hs
  | _ =>
    obtain ⟨hcall, hrunning⟩ := VDA5050Proxy.idle_of_step h.1 ha hs
    exact ⟨hcall, hrunning.trans h.2⟩

omit [JsonLibrary] in
private theorem engineAt_congr {run : RunPhase} {engine engine' : ProjectionEngine}
    (hkept : engine'.owner = engine.owner ∧ engine'.running = engine.running ∧
      (engine'.thread = none ↔ engine.thread = none)) (h : engineAt run engine) : engineAt run engine' := by
  obtain ⟨howner, hrunning, hthread⟩ := hkept
  simp only [engineAt, ne_eq, howner, hrunning, hthread] at h ⊢
  exact h

omit [JsonLibrary] in
theorem run_of_starting {run : RunPhase} {engine : ProjectionEngine} (h : engineAt run engine)
    (howner : engine.owner = .starting) : run = .startEngineCalled := by
  cases run <;> simp_all [engineAt]

omit [JsonLibrary] in
theorem run_of_joining {run : RunPhase} {engine : ProjectionEngine} {destroy : Bool} (h : engineAt run engine)
    (howner : engine.owner = .joining destroy) :
    run = .stopEngineCalled ∧ destroy = false := by
  cases run <;> simp_all [engineAt]

omit [JsonLibrary] in
theorem run_of_serving {run : RunPhase} {http : Shutdown.RunStep} (h : httpAt run http)
    (hserving : http ≠ .begin ∧ http ≠ .exit ∧ http ≠ .returned) : run = .serving := by
  cases run <;> simp_all [httpAt]

namespace Sound

omit [JsonLibrary] in
/-- `run` goes on. -/
theorem advance (h : s.Sound) (hrun : s.run ≠ .finished)
    (hkept : s'.daemonFinished = s.daemonFinished ∧ s'.main = s.main)
    (hgateway : proxyAt s'.run s'.gateway.proxy) (hengine : engineAt s'.run s'.engine)
    (hhttp : httpAt s'.run s'.http.run) (hrecorder : recorderAt s'.run s'.recorder)
    (hexit : exitCodeAt s'.run s'.recorder s'.exitCode) : s'.Sound where
  gateway := hgateway
  engine := hengine
  http := hhttp
  recorder := hrecorder
  exitCode := hexit
  finished hfinished := absurd (h.finished (hkept.1 ▸ hfinished)) hrun
  main hmain := absurd (h.main (hkept.2 ▸ hmain)) hrun
  exited hmain := absurd (h.main (.inr (hkept.2 ▸ hmain))) hrun

omit [JsonLibrary] in
/-- `run` stays where it is. -/
theorem stay (h : s.Sound) {gateway : FleetGateway} {engine : ProjectionEngine} {http : Shutdown.State}
    (hgateway : proxyAt s.run gateway.proxy) (hengine : engineAt s.run engine) (hhttp : httpAt s.run http.run)
    (hexited : s.main = .exited → engine.owner = .destroyed) : Sound { s with gateway, engine, http } :=
  ⟨hgateway, hengine, hhttp, h.recorder, h.exitCode, h.finished, h.main, hexited⟩

omit [JsonLibrary] in
private theorem gateway_step {a : ProxyAction} {run : RunPhase} {gateway : FleetGateway} (h : s.Sound)
    (hrun : s.onGateway a = some run) (hs : s.gateway.step a = some gateway) :
    Sound { s with gateway, run } := by
  have hgateway := h.gateway
  have hengine := h.engine
  have hhttp := h.http
  have hrecorder := h.recorder
  have hexit := h.exitCode
  cases ha : a.isCall with
  | false =>
    obtain rfl := run_of_onGateway ha hrun
    refine h.stay ?_ hengine hhttp h.exited
    rcases FleetGateway.proxy_of_step hs with heq | hproxy
    · exact heq ▸ hgateway
    · exact proxyAt_of_step hgateway ha hproxy
  | true =>
    cases a with
    | init topicPrefix =>
      obtain ⟨hat, hrun⟩ := Option.ite_none_right_eq_some.1 hrun
      obtain ⟨proxy, hproxy, rfl⟩ := Option.map_eq_some_iff.1 hs
      obtain ⟨-, hproxy⟩ := of_guard hproxy
      obtain rfl := Option.some.inj hrun
      obtain rfl := Option.some.inj hproxy
      rw [hat] at hgateway hengine hhttp hrecorder hexit
      exact h.advance (by simp [hat]) ⟨rfl, rfl⟩ hgateway hengine hhttp hrecorder hexit
    | start ok =>
      obtain ⟨hat, hrun⟩ := Option.ite_none_right_eq_some.1 hrun
      obtain rfl := Option.some.inj hrun
      rw [hat] at hengine hhttp hrecorder hexit
      exact h.advance (by simp [hat]) ⟨rfl, rfl⟩ trivial hengine hhttp hrecorder hexit
    | stop =>
      obtain ⟨hat, hrun⟩ := Option.ite_none_right_eq_some.1 hrun
      obtain ⟨proxy, hproxy, rfl⟩ := Option.map_eq_some_iff.1 hs
      obtain ⟨-, hproxy⟩ := of_guard hproxy
      obtain rfl := Option.some.inj hrun
      obtain rfl := Option.some.inj hproxy
      rw [hat] at hengine hhttp hrecorder hexit
      exact h.advance (by simp [hat]) ⟨rfl, rfl⟩ (.inl rfl) hengine hhttp hrecorder hexit
    | _ => cases ha

private theorem engine_step {a : ThreadAction} {run : RunPhase} {engine : ProjectionEngine} (h : s.Sound)
    (hsound : s.engine.Sound) (hrun : s.onEngine a = some run) (hs : s.engine.step a = some engine) :
    Sound { s with engine, run } := by
  have hgateway := h.gateway
  have hengine := h.engine
  have hhttp := h.http
  have hrecorder := h.recorder
  have hexit := h.exitCode
  cases ha : a.isOwner with
  | false =>
    obtain rfl := run_of_onEngine ha hrun
    have hkept := ProjectionEngine.kept_of_step ha hs
    exact h.stay hgateway (engineAt_congr hkept hengine) hhttp fun hmain => hkept.1.trans (h.exited hmain)
  | true =>
    cases ProjectionEngine.outcome_of_step hs with
    | started howner hrunning =>
      obtain ⟨hat, hrun⟩ := Option.ite_none_right_eq_some.1 hrun
      obtain rfl := Option.some.inj hrun
      rw [hat] at hgateway hhttp hrecorder hexit
      exact h.advance (by simp [hat]) ⟨rfl, rfl⟩ hgateway ⟨rfl, .inl rfl⟩ hhttp hrecorder hexit
    | startedAgain howner hrunning =>
      obtain ⟨hat, -⟩ := Option.ite_none_right_eq_some.1 hrun
      rw [hat] at hengine
      have := hengine.2
      simp [hrunning] at this
    | created howner hthread =>
      obtain rfl := Option.some.inj hrun
      have hat := run_of_starting hengine howner
      rw [hat] at hgateway hengine hhttp hrecorder hexit
      exact h.advance (by simp [hat]) ⟨rfl, rfl⟩ (hat ▸ hgateway) (hat ▸ ⟨hengine.1, .inr ⟨rfl, by simp⟩⟩)
        (hat ▸ hhttp) (hat ▸ hrecorder) (hat ▸ hexit)
    | overwritten howner hthread => exact absurd (hsound.starting howner).2 hthread
    | notCreated howner =>
      obtain rfl := Option.some.inj hrun
      have hat := run_of_starting hengine howner
      rw [hat] at hgateway hhttp hrecorder hexit
      exact h.advance (by simp [hat]) ⟨rfl, rfl⟩ hgateway ⟨rfl, (hsound.starting howner).2⟩ hhttp hrecorder hexit
    | @stopped destroy howner hrunning =>
      cases destroy with
      | true =>
        obtain ⟨hmain, -⟩ := Option.ite_none_right_eq_some.1 hrun
        rw [h.main (.inl hmain)] at hengine
        have := hengine.1
        simp [hrunning] at this
      | false =>
        obtain ⟨hat, hrun⟩ := Option.ite_none_right_eq_some.1 hrun
        obtain rfl := Option.some.inj hrun
        rw [hat] at hgateway hhttp hrecorder hexit
        exact h.advance (by simp [hat]) ⟨rfl, rfl⟩ hgateway ⟨rfl, .inl rfl⟩ hhttp hrecorder hexit
    | @notRunning destroy howner hrunning =>
      cases destroy with
      | true =>
        obtain ⟨hmain, hrun⟩ := Option.ite_none_right_eq_some.1 hrun
        obtain rfl := Option.some.inj hrun
        have hat := h.main (.inl hmain)
        exact h.stay hgateway (hat ▸ ⟨hrunning, .inr (.inl rfl)⟩) hhttp fun hexited => by simp [hmain] at hexited
      | false =>
        obtain ⟨hat, -⟩ := Option.ite_none_right_eq_some.1 hrun
        rw [hat] at hengine
        have := hengine.1
        simp [hrunning] at this
    | @joined destroy howner hthread =>
      obtain rfl := Option.some.inj hrun
      obtain ⟨hat, rfl⟩ := run_of_joining hengine howner
      rw [hat] at hengine
      refine h.stay hgateway (hat ▸ ⟨hengine.1, .inr rfl⟩) hhttp fun hexited => ?_
      exact absurd (h.main (.inr hexited)) (by simp [hat])
    | destroyed howner hthread =>
      obtain ⟨hmain, hrun⟩ := Option.ite_none_right_eq_some.1 hrun
      obtain rfl := Option.some.inj hrun
      have hat := h.main (.inl hmain)
      rw [hat] at hengine
      exact h.stay hgateway (hat ▸ ⟨hengine.1, .inr (.inr rfl)⟩) hhttp fun _ => rfl
    | destroyedJoinable howner hthread => exact absurd (hsound.destroying (.inl howner)).2 hthread
    | checked | awoken | rechecked | locked | cycled | inserted => cases ha

omit [JsonLibrary] in
/-- The proxy runs while `run` asks for it, so that the loop does not end by itself. -/
theorem exitCodeOn_eq {a : Shutdown.Action} {run : RunPhase} {http : Shutdown.State} (h : s.Sound)
    (hrun : s.onHttp a = some run) (hs : Shutdown.step s.http a = some http) :
    s.exitCodeOn a = s.exitCode := by
  cases a with
  | poll isRunning =>
    obtain ⟨hisRunning, -⟩ := Option.ite_none_right_eq_some.1 hrun
    have hwait : s.http.run = .wait := not_not.1 (of_guard hs).1
    have hat := run_of_serving h.http (by simp [hwait])
    have hgateway := h.gateway
    rw [hat] at hgateway
    simp [exitCodeOn, hisRunning, VDA5050Proxy.isRunning, hgateway.2]
  | _ => rfl

omit [JsonLibrary] in
/-- `run` goes on with the HTTP server. -/
private theorem serve (h : s.Sound)
    (hserving : s.http.run ≠ .begin ∧ s.http.run ≠ .exit ∧ s.http.run ≠ .returned) {http : Shutdown.State}
    (hhttp : http.run ≠ .begin ∧ http.run ≠ .exit ∧ http.run ≠ .returned) : Sound { s with http } := by
  have hat := run_of_serving h.http hserving
  exact h.stay h.gateway h.engine (hat ▸ hhttp) h.exited

omit [JsonLibrary] in
private theorem http_step {a : Shutdown.Action} {run : RunPhase} {http : Shutdown.State} (h : s.Sound)
    (hrun : s.onHttp a = some run) (hs : Shutdown.step s.http a = some http) :
    Sound { s with http, run, exitCode := s.exitCodeOn a } := by
  rw [h.exitCodeOn_eq hrun hs]
  cases Shutdown.outcome_of_step hs with
  | started | aborted | returned => cases hrun
  | bound hat | unbound hat | stored hat | unneeded hat | spawned hat | left hat | copied hat | runCalled hat
  | joined hat =>
    obtain rfl := run_of_onHttp hrun nofun
    exact h.serve (by simp [hat]) (by simp)
  | cleared hat =>
    obtain rfl := Option.some.inj hrun
    have hserving := run_of_serving h.http (by simp [hat])
    have hgateway := h.gateway
    have hengine := h.engine
    have hrecorder := h.recorder
    have hexit := h.exitCode
    rw [hserving] at hgateway hengine hrecorder hexit
    exact h.advance (by simp [hserving]) ⟨rfl, rfl⟩ hgateway hengine rfl hrecorder hexit
  | waited | requested | held | dangled | stopCalled | skipped | listening | ended =>
    obtain rfl := run_of_onHttp hrun nofun
    exact h.stay h.gateway h.engine h.http h.exited

theorem step {a : ProcessAction} (h : s.Sound) (hsound : s.engine.Sound) (hs : s.step a = some s') : s'.Sound := by
  have hgateway := h.gateway
  have hengine := h.engine
  have hhttp := h.http
  have hrecorder := h.recorder
  have hexit := h.exitCode
  cases outcome_of_step hs with
  | migrated hrun =>
    rw [hrun] at hgateway hengine hhttp hrecorder hexit
    exact h.advance (by simp [hrun]) ⟨rfl, rfl⟩ hgateway hengine hhttp hrecorder hexit
  | migrationFailed hrun hstep =>
    rw [hrun] at hgateway hengine hrecorder
    exact h.advance (by simp [hrun]) ⟨rfl, rfl⟩ hgateway hengine (Shutdown.run_of_start hstep) trivial
      (by rw [show s.recorder = false from hrecorder]; rfl)
  | startSucceeded hrun hcall hrunning =>
    rw [hrun] at hengine hhttp hrecorder hexit
    exact h.advance (by simp [hrun]) ⟨rfl, rfl⟩ ⟨hcall, hrunning⟩ hengine hhttp hrecorder hexit
  | startFailed hrun hcall hrunning hstep =>
    rw [hrun] at hengine hrecorder
    exact h.advance (by simp [hrun]) ⟨rfl, rfl⟩ ⟨hcall, hrunning⟩ hengine (Shutdown.run_of_start hstep) trivial
      (by rw [show s.recorder = false from hrecorder]; rfl)
  | attached hrun =>
    rw [hrun] at hgateway hengine hhttp hexit
    exact h.advance (by simp [hrun]) ⟨rfl, rfl⟩ hgateway hengine hhttp rfl hexit
  | engineStarted hrun howner hstep =>
    rw [hrun] at hgateway hengine hrecorder hexit
    have hthread : s.engine.thread ≠ none := (hengine.2.resolve_left (by simp [howner])).2
    refine h.advance (by simp [hrun]) ⟨rfl, rfl⟩ hgateway ⟨hengine.1, howner, hthread⟩ ?_ hrecorder hexit
    simp [httpAt, Shutdown.run_of_start hstep]
  | engineStopped hrun howner =>
    rw [hrun] at hgateway hengine hhttp hrecorder hexit
    exact h.advance (by simp [hrun]) ⟨rfl, rfl⟩ hgateway ⟨howner, hengine.1⟩ hhttp hrecorder hexit
  | gatewayStopped hrun hcall hstep =>
    rw [hrun] at hgateway hengine hrecorder hexit
    have hrunning : s.gateway.proxy.running = false := by
      rcases hgateway with h | h | h | h
      · simp [hcall] at h
      · simp [hcall] at h
      · simp [hcall] at h
      · exact h.2
    exact h.advance (by simp [hrun]) ⟨rfl, rfl⟩ ⟨hcall, hrunning⟩ hengine (Shutdown.run_of_exit hstep) trivial
      (by rw [show s.recorder = true from hrecorder]; exact hexit)
  | finished hrun =>
    rw [hrun] at hgateway hengine hhttp hexit
    exact ⟨hgateway, ⟨hengine.2, .inl hengine.1⟩, hhttp, trivial, hexit, fun _ => rfl, fun _ => rfl,
      fun hmain => absurd (h.main (.inr hmain)) (by simp [hrun])⟩
  | gateway hrun hgateway => exact h.gateway_step hrun hgateway
  | engine hrun hengine => exact h.engine_step hsound hrun hengine
  | http hrun hhttp => exact h.http_step hrun hhttp
  | signalled => exact ⟨hgateway, hengine, hhttp, hrecorder, hexit, h.finished, h.main, h.exited⟩
  | leftLoop hmain hseen => exact ⟨hgateway, hengine, hhttp, hrecorder, hexit, h.finished, nofun, nofun⟩
  | decided hmain =>
    refine ⟨hgateway, hengine, hhttp, hrecorder, hexit, h.finished, ?_, ?_⟩
    all_goals cases s.daemonFinished <;> simp
  | stopReturned hmain hstop => exact ⟨hgateway, hengine, hhttp, hrecorder, hexit, h.finished, nofun, nofun⟩
  | joined hmain hrun => exact ⟨hgateway, hengine, hhttp, hrecorder, hexit, h.finished, fun _ => hrun, nofun⟩
  | exited hmain howner =>
    exact ⟨hgateway, hengine, hhttp, hrecorder, hexit, h.finished, fun _ => h.main (.inl hmain), fun _ => howner⟩

end Sound

theorem sound_of_reachable (h : (system log₀ db₀).Reachable s) : s.Sound := by
  refine h.invariant (fun s hs => ?_) fun s a s' hreach hI _ hs =>
    hI.step (ProjectionEngine.sound_of_reachable (reachable_engine hreach)) hs
  obtain rfl : s = { engine := { engine := { log := log₀, db := db₀ } } } := hs
  exact ⟨⟨rfl, rfl⟩, ⟨rfl, rfl⟩, rfl, rfl, rfl, nofun, nofun, nofun⟩

/-! ### Lifetimes -/

omit [JsonLibrary] in
private theorem run_of_thread {run : RunPhase} {engine : ProjectionEngine} (h : engineAt run engine)
    (hsound : engine.Sound)
    (hthread : engine.thread ≠ none) :
    run = .startEngineCalled ∨ run = .serving ∨ run = .stoppingEngine ∨ run = .stopEngineCalled := by
  have hdown : ¬ (engine.owner = .idle ∧ engine.running = false) := fun ⟨howner, hrunning⟩ =>
    hthread (hsound.thread_eq_none (by simp [howner]) hrunning)
  cases run with
  | startEngineCalled => exact .inl rfl
  | serving => exact .inr (.inl rfl)
  | stoppingEngine => exact .inr (.inr (.inl rfl))
  | stopEngineCalled => exact .inr (.inr (.inr rfl))
  | finished =>
    obtain ⟨hrunning, howner⟩ := h
    exact absurd (hsound.thread_eq_none (fun destroy => by rcases howner with h | h | h <;> simp [h]) hrunning) hthread
  | terminated => exact absurd h.2 hthread
  | _ => exact absurd h hdown

/-- `run` has returned, and the destructor may have been called. -/
def Over (s : Process) : Prop := s.run = .returned ∨ s.run = .finished ∨ s.main = .destroying ∨ s.main = .exited

omit [JsonLibrary] in
theorem Sound.down (h : s.Sound) (hover : s.Over) :
    s.gateway.proxy.call = .idle ∧ s.gateway.proxy.running = false ∧ s.http.run = .returned := by
  have hgateway := h.gateway
  have hhttp := h.http
  have hrun : s.run = .returned ∨ s.run = .finished := by
    rcases hover with hrun | hrun | hmain
    · exact .inl hrun
    · exact .inr hrun
    · exact .inr (h.main hmain)
  rcases hrun with hrun | hrun
  · rw [hrun] at hgateway hhttp
    exact ⟨hgateway.1, hgateway.2, hhttp⟩
  · rw [hrun] at hgateway hhttp
    exact ⟨hgateway.1, hgateway.2, hhttp⟩

/-- The parts that use another part run only while that part does: the HTTP server only beside the projection thread,
which only runs while the gateway does and the recorder exists; and when `run` has returned, and its recorder is gone,
no thread is left. -/
theorem nested (h : (system log₀ db₀).Reachable s) :
    (¬ Shutdown.Ended s.http → s.engine.thread ≠ none) ∧
      (s.engine.thread ≠ none → s.gateway.proxy.isRunning = true ∧ s.recorder = true ∧ ¬ s.Over) ∧
      (s.Over → s.gateway.proxy.Quiet) := by
  have hsound := sound_of_reachable h
  have hgateway := hsound.gateway
  have hengine := hsound.engine
  have hrecorder := hsound.recorder
  refine ⟨fun hended => ?_, fun hthread => ?_, fun hover => ?_⟩
  · have hthreaded : Shutdown.threaded s.http.run = true := by
      by_contra hnot
      exact hended (Shutdown.ended_of_reachable (reachable_http h) (by simpa using hnot))
    have hrun := run_of_serving hsound.http (by revert hthreaded; cases s.http.run <;> simp [Shutdown.threaded])
    rw [hrun] at hengine
    exact hengine.2.2
  · have hrun := run_of_thread hengine (ProjectionEngine.sound_of_reachable (reachable_engine h)) hthread
    have hover : ¬ s.Over := by
      rintro (hover | hover | hmain)
      · simp [hover] at hrun
      · simp [hover] at hrun
      · simp [hsound.main hmain] at hrun
    rcases hrun with hrun | hrun | hrun | hrun
    all_goals
      rw [hrun] at hgateway hrecorder
      exact ⟨hgateway.2, hrecorder, hover⟩
  · obtain ⟨hcall, hrunning, -⟩ := hsound.down hover
    exact ((FleetGateway.balanced_of_reachable (reachable_gateway h)).down hcall hrunning).1

/-- A start in which everything succeeds. -/
def startup : List ProcessAction :=
  [.migrate true, .gateway (.init "uagv/v3"), .gateway (.start true), .gateway (.configure fun _ => true),
    .gateway (.connectLocal true), .gateway .createLocal, .gateway (.subscribeLocal true),
    .gateway (.subscribeLocal true), .gateway (.subscribeLocal true), .gateway (.subscribeLocal true),
    .gateway (.startLocalLoop true), .gateway (.startCloudLoop true), .gateway .connectCloud, .startReturns, .attach,
    .engine .start, .engine (.create true), .engineStarted, .http (.bind true), .http .store, .http .spawn,
    .http .listen]

omit [JsonLibrary] in
/-- The server listens, and all parts run. -/
theorem nested_startup :
    letI := JsonLibrary.ofTexts connectionTexts
    ∃ s : Process, (system .empty .empty).Reachable s ∧ ¬ Shutdown.Ended s.http ∧ s.engine.thread ≠ none ∧
      s.gateway.proxy.isRunning = true ∧ s.recorder = true := by
  let lib := JsonLibrary.ofTexts connectionTexts
  have hrun : (replay step { engine := { engine := { log := .empty, db := .empty } } } startup).any
      (fun s => s.http.http = .listening) = true := by decide +kernel
  obtain ⟨s, hs, hlistening⟩ := (Option.any_eq_true _ _).1 hrun
  have hreach : (system .empty .empty).Reachable s := reachable_of_replay (.init rfl) hs
  have hended : ¬ Shutdown.Ended s.http := fun hended =>
    Shutdown.not_ended hended (by simp [of_decide_eq_true hlistening])
  obtain ⟨hthread, hgateway, -⟩ := nested hreach
  obtain ⟨hrunning, hrecorder, -⟩ := hgateway (hthread hended)
  exact ⟨s, hreach, hended, hthread hended, hrunning, hrecorder⟩

/-! ### The end -/

/-- Before the recorder is there, the engine is as it was. -/
def Untouched (log₀ : EventLog) (db₀ : ReadModel) (engine : ProjectionEngine) : Prop :=
  engine.engine = { log := log₀, db := db₀ } ∧ engine.thread = none ∧ engine.cycles = 0

theorem untouched_of_reachable (h : (system log₀ db₀).Reachable s) (hnone : s.recorder = false) :
    Untouched log₀ db₀ s.engine := by
  refine h.invariant (I := fun s => s.recorder = false → Untouched log₀ db₀ s.engine) (fun s hs => ?_)
    (fun s a s' hreach hI _ hs hnone => ?_) hnone
  · obtain rfl : s = { engine := { engine := { log := log₀, db := db₀ } } } := hs
    exact fun _ => ⟨rfl, rfl, rfl⟩
  · cases outcome_of_step hs with
    | attached => cases hnone
    | @engine a run engine hrun hstep =>
      obtain ⟨hengine, hthread, hcycles⟩ := hI hnone
      cases ProjectionEngine.outcome_of_step hstep with
      | checked h | awoken h | rechecked h | locked h | cycled h => simp [hthread] at h
      | created howner =>
        have hsound := sound_of_reachable hreach
        have hrecorder := hsound.recorder
        rw [run_of_starting hsound.engine howner] at hrecorder
        cases hnone.symm.trans hrecorder
      | inserted =>
        have hrecorder := (Option.ite_none_right_eq_some.1 hrun).1
        rw [show s.recorder = false from hnone] at hrecorder
        cases hrecorder
      | joined => exact ⟨hengine, rfl, hcycles⟩
      | _ => exact ⟨hengine, hthread, hcycles⟩
    | _ => exact hI hnone

/-- The threads of the engine and of the HTTP server have been joined when `main` returns. -/
theorem joined_of_exited (h : (system log₀ db₀).Reachable s) (hmain : s.main = .exited) :
    s.run = .finished ∧ s.engine.thread = none ∧ Shutdown.Ended s.http := by
  have hsound := sound_of_reachable h
  have hengine := ProjectionEngine.sound_of_reachable (reachable_engine h)
  obtain ⟨-, -, hhttp⟩ := hsound.down (.inr (.inr (.inr hmain)))
  exact ⟨hsound.main (.inr hmain), (hengine.destroying (.inr (hsound.exited hmain))).2,
    Shutdown.ended_of_reachable (reachable_http h) (by rw [hhttp]; rfl)⟩

/-- When `main` returns, nothing is left of the threads, the library and the endpoints.  The exit code is 0 if the start
had succeeded, whatever happened afterwards, and 1 if it had not, and then the database is as it was. -/
theorem exits_clean (h : (system log₀ db₀).Reachable s) (hmain : s.main = .exited) :
    s.gateway.proxy.NothingLeft ∧ s.engine.owner = .destroyed ∧ s.engine.thread = none ∧ Shutdown.Ended s.http ∧
      (s.exitCode = 0 ∧ s.recorder = true ∨
        s.exitCode = 1 ∧ s.recorder = false ∧ s.engine.engine.log = log₀ ∧ s.engine.engine.db = db₀) := by
  have hsound := sound_of_reachable h
  have hbalanced := FleetGateway.balanced_of_reachable (reachable_gateway h)
  obtain ⟨hcall, hrunning, -⟩ := hsound.down (.inr (.inr (.inr hmain)))
  obtain ⟨hrun, hthread, hended⟩ := joined_of_exited h hmain
  have hexit := hsound.exitCode
  rw [hrun] at hexit
  refine ⟨hbalanced.nothingLeft hcall hrunning, hsound.exited hmain, hthread, hended, ?_⟩
  cases hrecorder : s.recorder with
  | true =>
    rw [hrecorder] at hexit
    exact .inl ⟨hexit, rfl⟩
  | false =>
    rw [hrecorder] at hexit
    obtain ⟨hkept, -, -⟩ := untouched_of_reachable h hrecorder
    exact .inr ⟨hexit, rfl, by rw [hkept], by rw [hkept]⟩

/-- A signal, and the shutdown. -/
def teardown : List ProcessAction :=
  [.signal, .leaveLoop, .decide, .http .requestStop, .http .copyStop, .http .callStop, .stopReturns,
    .http (.poll true), .http .copy, .http .call, .http .leave, .http .join, .http .clear, .engine (.stop false),
    .engine .check, .engine .join, .engineStopped, .gateway .stop, .gateway .disconnect, .gateway .joinLoops,
    .gateway .reset, .gatewayStopped, .finish, .joinDaemon, .engine (.stop true), .engine .destroy, .exit]

omit [JsonLibrary] in
theorem exits_clean_signal :
    letI := JsonLibrary.ofTexts connectionTexts
    ∃ s : Process, (system .empty .empty).Reachable s ∧ s.main = .exited ∧ s.gateway.proxy.libInits = 1 ∧
      s.gateway.proxy.NothingLeft ∧ s.engine.thread = none ∧ s.exitCode = 0 := by
  let lib := JsonLibrary.ofTexts connectionTexts
  have hrun : (replay step { engine := { engine := { log := .empty, db := .empty } } } (startup ++ teardown)).any
      (fun s => s.main = .exited ∧ s.gateway.proxy.libInits = 1 ∧ s.exitCode = 0) = true := by decide +kernel
  obtain ⟨s, hs, hexited⟩ := (Option.any_eq_true _ _).1 hrun
  obtain ⟨hmain, hinits, hexit⟩ := of_decide_eq_true hexited
  have hreach : (system .empty .empty).Reachable s := reachable_of_replay (.init rfl) hs
  have hclean := exits_clean hreach hmain
  exact ⟨s, hreach, hmain, hinits, hclean.1, hclean.2.2.1, hexit⟩

end Process

end SyriusOrbit

import SyriusOrbit.Process
import SyriusOrbit.Transition.Fairness

/-!
# The process ends

Infinite runs of the process in which each thread goes on as long as it can.  When the process has got a signal, or
`run` has returned by itself, then `main` returns, unless a stop request is lost or comes when the server is gone
(`exits`).  In each state before that one thread helps: `main`, the daemon's thread, or the thread for which that one
waits.
-/

namespace SyriusOrbit

open JsonFormat Vda5050 Mqtt Db Sql Projection Transition

/-- The threads that a shutdown depends on. -/
inductive ProcessThread where
  | main | daemon | engine | http
  deriving DecidableEq

/-- The steps of the thread that calls the proxy. -/
def Mqtt.ProxyAction.isCaller : ProxyAction → Bool
  | .connecting _ | .onConnect .. | .lost _ | .initCloud | .subscribeCloud _ | .setupBridge => false
  | _ => true

def Projection.ThreadAction.thread : ThreadAction → Option ProcessThread
  | .start | .create _ | .stop false | .join => some .daemon
  | .stop true | .destroy => some .main
  | .check | .wakeUp | .recheck | .lock | .cycle _ => some .engine
  | .insert .. => none

def Shutdown.Action.thread : Shutdown.Action → ProcessThread
  | .requestStop | .copyStop | .callStop => .main
  | .listen | .leave => .http
  | .start _ | .bind _ | .store | .spawn | .poll _ | .copy | .call | .join | .clear | .exit => .daemon

/-- The thread that takes the step; `none` stands for the signal and the threads of the proxy. -/
def ProcessAction.thread : ProcessAction → Option ProcessThread
  | .migrate _ | .startReturns | .attach | .engineStarted | .engineStopped | .gatewayStopped | .finish => some .daemon
  | .gateway a => if a.isCaller then some .daemon else none
  | .engine a => a.thread
  | .http a => some a.thread
  | .signal => none
  | .leaveLoop | .decide | .stopReturns | .joinDaemon | .exit => some .main

namespace ProcessAction

variable {a : ProcessAction}

theorem thread_eq_none (h : a.thread = none) :
    a = .signal ∨ (∃ b, a = .gateway b) ∨ ∃ now event, a = .engine (.insert now event) := by
  cases a with
  | signal => exact .inl rfl
  | gateway b => exact .inr (.inl ⟨b, rfl⟩)
  | engine b =>
    cases b with
    | insert now event => exact .inr (.inr ⟨now, event, rfl⟩)
    | stop destroy => cases destroy <;> cases h
    | _ => cases h
  | _ => cases h

private theorem thread_eq_http (h : a.thread = some .http) : ∃ b, a = .http b ∧ b.thread = .http := by
  cases a with
  | http b => exact ⟨b, rfl, Option.some.inj h⟩
  | gateway b =>
    simp only [thread] at h
    split at h <;> cases h
  | engine b =>
    cases b with
    | stop destroy => cases destroy <;> cases h
    | _ => cases h
  | _ => cases h

private theorem thread_eq_engine (h : a.thread = some .engine) : ∃ b, a = .engine b ∧ b.OfThread := by
  cases a with
  | http b => cases b <;> cases h
  | gateway b =>
    simp only [thread] at h
    split at h <;> cases h
  | engine b =>
    cases b with
    | check | wakeUp | recheck | lock | cycle => exact ⟨_, rfl, trivial⟩
    | stop destroy => cases destroy <;> cases h
    | _ => cases h
  | _ => cases h

end ProcessAction

/-! ### What is left to do -/

def MainStep.left : MainStep → Nat
  | .polling => 5
  | .deciding => 4
  | .stopping => 3
  | .joining => 2
  | .destroying => 1
  | .exited => 0

def RunPhase.left : RunPhase → Nat
  | .migrating => 13
  | .initializing => 12
  | .starting => 11
  | .startCalled => 10
  | .attaching => 9
  | .startingEngine => 8
  | .startEngineCalled => 7
  | .serving => 6
  | .stoppingEngine => 5
  | .stopEngineCalled => 4
  | .stoppingGateway => 3
  | .stopGatewayCalled => 2
  | .returned => 1
  | .finished | .terminated => 0

namespace Shutdown

def StopStep.left : StopStep → Nat
  | .idle => 3
  | .requested => 2
  | .holding _ => 1
  | .called | .skipped | .dangling => 0

def RunStep.left : RunStep → Nat
  | .begin => 10
  | .bind => 9
  | .store => 8
  | .spawn => 7
  | .wait => 6
  | .copy => 5
  | .call _ => 4
  | .join => 3
  | .clear => 2
  | .exit => 1
  | .returned => 0

def HttpThread.left : HttpThread → Nat
  | .started => 3
  | .listening => 2
  | .stopped => 1
  | .none | .returned => 0

end Shutdown

def Mqtt.CallStep.left : CallStep → Nat
  | .libraryInitialized => 9 + Side.localSide.types.length
  | .configured => 8 + Side.localSide.types.length
  | .connected => 7 + Side.localSide.types.length
  | .subscribing rest => 6 + rest.length
  | .localLooping => 5
  | .cloudLooping => 4
  | .stopped => 3
  | .disconnected => 2
  | .joined => 1
  | .idle => 0

namespace Projection.OwnerStep

/-- What is left of a call of `start` or `stop`. -/
def left : OwnerStep → Nat
  | .starting | .joining _ => 1
  | .idle | .destroying | .destroyed | .terminated => 0

/-- What is left of the destructor. -/
def leftToDestroy : OwnerStep → Nat
  | .idle => 2
  | .destroying => 1
  | .starting | .joining _ | .destroyed | .terminated => 0

end Projection.OwnerStep

namespace Shutdown

variable {s s' : State} {a : Action}

private theorem stop_of_step (ha : a.thread ≠ .main) (hs : step s a = some s') : s'.stop = s.stop := by
  cases outcome_of_step hs with
  | requested | held | dangled | stopCalled | skipped => exact absurd rfl ha
  | _ => rfl

private theorem run_of_step (ha : a.thread ≠ .daemon) (hs : step s a = some s') : s'.run = s.run := by
  cases outcome_of_step hs with
  | requested | held | dangled | stopCalled | skipped | listening | ended => rfl
  | _ => exact absurd rfl ha

private theorem stop_left_of_step (ha : a.thread = .main) (hs : step s a = some s') : s'.stop.left < s.stop.left := by
  cases outcome_of_step hs with
  | requested hstop | held hstop | dangled hstop | stopCalled hstop | skipped hstop =>
    rw [hstop]
    simp [StopStep.left]
  | _ => cases ha

private theorem http_left_of_step (ha : a.thread = .http) (hs : step s a = some s') : s'.http.left < s.http.left := by
  cases outcome_of_step hs with
  | listening hhttp | ended hhttp =>
    rw [hhttp]
    simp [HttpThread.left]
  | _ => cases ha

/-- `run` goes on, unless it waits for a request. -/
private theorem run_left_of_step (ha : a.thread = .daemon) (hs : step s a = some s') :
    s'.run.left < s.run.left ∨ s' = s ∧ s.stopRequested = false := by
  cases outcome_of_step hs with
  | waited hrun =>
    refine .inr ⟨rfl, ?_⟩
    by_contra hflag
    obtain ⟨-, hs⟩ := of_guard hs
    rw [if_pos (by simp [hflag])] at hs
    have hcopy := congrArg State.run (Option.some.inj hs)
    simp [hrun] at hcopy
  | requested | held | dangled | stopCalled | skipped | listening | ended => cases ha
  | started hrun | aborted hrun | bound hrun | unbound hrun | stored hrun | unneeded hrun | spawned hrun | left hrun
  | copied hrun | runCalled hrun | joined hrun | cleared hrun | returned hrun =>
    rw [hrun]
    exact .inl (by simp [RunStep.left])

/-- The steps of `run` with a server. -/
private theorem serving_of_step (ha : a.thread = .daemon) (hnot : (∀ ok, a ≠ .start ok) ∧ a ≠ .exit)
    (hs : step s a = some s') :
    s.run ≠ .begin ∧ s.run ≠ .exit ∧ s.run ≠ .returned := by
  cases outcome_of_step hs with
  | started | aborted => exact absurd rfl (hnot.1 _)
  | returned => exact absurd rfl hnot.2
  | requested | held | dangled | stopCalled | skipped | listening | ended => cases ha
  | bound hrun | unbound hrun | stored hrun | unneeded hrun | spawned hrun | left hrun | waited hrun | copied hrun
  | runCalled hrun | joined hrun | cleared hrun => simp [hrun]

end Shutdown

namespace Mqtt

namespace VDA5050Proxy

variable {s s' : VDA5050Proxy} {a : ProxyAction}

private theorem call_of_step (ha : a.isCaller = false) (hs : s.step a = some s') : s'.call = s.call := by
  cases outcome_of_step hs with
  | connecting | lost | refused | connected | cloudCreated | cloudInitFailed | cloudInitialized | cloudSubscribed
  | cloudSubscribeFailed | bridged => rfl
  | bridgeFailed _ hlocal =>
    obtain rfl | ⟨localEp, -, rfl⟩ := hlocal
    · rfl
    · rfl
  | _ => cases ha

/-- A call goes on. -/
private theorem call_left_of_step (ha : a.isCaller = true) (hcall : s.call ≠ .idle) (hs : s.step a = some s') :
    s'.call.left < s.call.left := by
  cases outcome_of_step hs with
  | initialized h | returned h | libraryInitialized h | stopped h => exact absurd h hcall
  | configureFailed h | configured h | connectFailed h | localConnecting h | localInitFailed h | localCreated h
  | localSubscribed h | localSubscribeFailed h | localLoopFailed h | localLooping h | cloudLooping h | started h
  | disconnected h | joined h | endpointsReset h =>
    rw [h]
    simp only [CallStep.left, stopEndpoints, Side.types, List.length_cons, List.length_nil]
    omega
  | _ => cases ha

private theorem call_ne_idle_of_step (ha : a.isCaller = true) (hcall : a.isCall = false) (hs : s.step a = some s') :
    s.call ≠ .idle := by
  intro hidle
  cases outcome_of_step hs with
  | initialized | returned | libraryInitialized | stopped => cases hcall
  | configureFailed h | configured h | connectFailed h | localConnecting h | localInitFailed h | localCreated h
  | localSubscribed h | localSubscribeFailed h | localLoopFailed h | localLooping h | cloudLooping h | started h
  | disconnected h | joined h | endpointsReset h => simp [hidle] at h
  | _ => cases ha

end VDA5050Proxy

private theorem FleetGateway.step_proxy {g g' : FleetGateway} {a : ProxyAction} (ha : a.isCall = false)
    (hs : g.step a = some g') : g.proxy.step a = some g'.proxy := by
  cases a with
  | init | start | stop => cases ha
  | _ =>
    obtain ⟨proxy, hproxy, rfl⟩ := Option.map_eq_some_iff.1 hs
    exact hproxy

end Mqtt

private theorem Projection.ProjectionEngine.not_finished_of_step [JsonLibrary] {s s' : ProjectionEngine}
    {a : ThreadAction}
    (ha : a.OfThread) (hs : s.step a = some s') : ¬ s.Finished := by
  cases outcome_of_step hs with
  | checked hthread | awoken hthread | rechecked hthread | locked hthread | cycled hthread =>
    rintro (hnone | hdone)
    · simp [hthread] at hnone
    · simp [hthread] at hdone
  | _ => exact ha.elim

namespace Process

/-- How far it is to the end of `main`. -/
def mainRank (s : Process) : Nat ×ₗ Nat :=
  toLex (s.main.left,
    match s.main with
    | .stopping => s.http.stop.left
    | .destroying => s.engine.owner.leftToDestroy
    | _ => 0)

/-- How far it is to the end of the daemon's thread. -/
def daemonRank (s : Process) : Nat ×ₗ Nat :=
  toLex (s.run.left,
    match s.run with
    | .startCalled | .stopGatewayCalled => s.gateway.proxy.call.left
    | .startEngineCalled | .stopEngineCalled => s.engine.owner.left
    | .serving => s.http.run.left
    | _ => 0)

variable {s s' : Process}

private theorem mainRank_lt_of_main {m m' : MainStep} (hmain : s.main = m) (hmain' : s'.main = m')
    (h : m'.left < m.left) :
    s'.mainRank < s.mainRank :=
  Prod.Lex.toLex_lt_toLex.2 (.inl (by rwa [hmain, hmain']))

private theorem mainRank_congr (hmain : s'.main = s.main) (hstop : s'.http.stop = s.http.stop)
    (howner : s.main = .destroying → s'.engine.owner = s.engine.owner) : s'.mainRank = s.mainRank := by
  unfold mainRank
  rw [hmain, hstop]
  cases hm : s.main with
  | destroying => rw [howner hm]
  | _ => rfl

private theorem daemonRank_lt_of_run {p p' : RunPhase} (hrun : s.run = p) (hrun' : s'.run = p') (h : p'.left < p.left) :
    s'.daemonRank < s.daemonRank :=
  Prod.Lex.toLex_lt_toLex.2 (.inl (by rwa [hrun, hrun']))

private theorem daemonRank_congr (hrun : s'.run = s.run) (hcall : s'.gateway.proxy.call = s.gateway.proxy.call)
    (howner : s.run ≠ .finished → s'.engine.owner = s.engine.owner) (hhttp : s'.http.run = s.http.run) :
    s'.daemonRank = s.daemonRank := by
  unfold daemonRank
  rw [hrun, hcall, hhttp]
  cases hr : s.run with
  | startEngineCalled | stopEngineCalled => rw [howner (by simp [hr])]
  | _ => rfl

/-! ### What the steps of the threads do to it -/

variable [JsonLibrary] {log₀ : EventLog} {db₀ : ReadModel} {a : ProcessAction}

omit [JsonLibrary] in
/-- The gateway is called in two places. -/
private theorem run_of_call {run : RunPhase} {proxy : VDA5050Proxy} (h : proxyAt run proxy)
    (hcall : proxy.call ≠ .idle) :
    run = .startCalled ∨ run = .stopGatewayCalled := by
  cases run with
  | startCalled => exact .inl rfl
  | stopGatewayCalled => exact .inr rfl
  | _ => exact absurd h.1 hcall

/-- How far `Daemon::stop` has come. -/
def stopAt (main : MainStep) (stop : Shutdown.StopStep) (daemonFinished : Bool) : Prop :=
  match main with
  | .polling | .deciding => stop = .idle
  | .stopping => True
  | .joining | .destroying | .exited => stop = .idle ∧ daemonFinished = true ∨ stop = .called ∨ stop = .skipped

omit [JsonLibrary] in
private theorem stopping_of_stopAt {main : MainStep} {stop : Shutdown.StopStep} {daemonFinished : Bool}
    (h : stopAt main stop daemonFinished) (hstop : stop = .requested ∨ ∃ fn, stop = .holding fn) :
    main = .stopping := by
  rcases hstop with rfl | ⟨fn, rfl⟩
  · cases main <;> simp [stopAt] at h ⊢
  · cases main <;> simp [stopAt] at h ⊢

omit [JsonLibrary] in
/-- The steps of `Daemon::stop` are taken while `main` is in it. -/
private theorem stopping_of_main {a : Shutdown.Action} {run : RunPhase} {http : Shutdown.State} (ha : a.thread = .main)
    (hstop : stopAt s.main s.http.stop s.daemonFinished) (hrun : s.onHttp a = some run)
    (hs : Shutdown.step s.http a = some http) : s.main = .stopping := by
  cases Shutdown.outcome_of_step hs with
  | requested => exact (Option.ite_none_right_eq_some.1 hrun).1
  | held h => exact stopping_of_stopAt hstop (.inl h)
  | dangled h | stopCalled h | skipped h => exact stopping_of_stopAt hstop (.inr ⟨_, h⟩)
  | _ => cases ha

theorem stopAt_of_reachable (h : (system log₀ db₀).Reachable s) : stopAt s.main s.http.stop s.daemonFinished := by
  refine h.invariant (I := fun s => stopAt s.main s.http.stop s.daemonFinished) (fun s hs => ?_)
    fun s a s' _ hI _ hs => ?_
  · obtain rfl : s = { engine := { engine := { log := log₀, db := db₀ } } } := hs
    rfl
  · cases outcome_of_step hs with
    | migrationFailed _ hhttp | startFailed _ _ _ hhttp | engineStarted _ _ hhttp | gatewayStopped _ _ hhttp =>
      rw [Shutdown.stop_of_step (by simp [Shutdown.Action.thread]) hhttp]
      exact hI
    | finished =>
      cases hmain : s.main with
      | polling | deciding | stopping =>
        rw [hmain] at hI
        exact hI
      | joining | destroying | exited =>
        rw [hmain] at hI
        exact hI.imp_left fun hidle => ⟨hidle.1, rfl⟩
    | @http a run http hrun hhttp =>
      by_cases ha : a.thread = .main
      · show stopAt s.main http.stop s.daemonFinished
        rw [stopping_of_main ha hI hrun hhttp]
        trivial
      · show stopAt s.main http.stop s.daemonFinished
        rw [Shutdown.stop_of_step ha hhttp]
        exact hI
    | leftLoop hmain | joined hmain | exited hmain =>
      rw [hmain] at hI
      exact hI
    | decided hmain =>
      rw [hmain] at hI
      cases hfinished : s.daemonFinished with
      | true => exact .inl ⟨hI, rfl⟩
      | false => trivial
    | stopReturned _ hstop => exact .inr hstop
    | _ => exact hI

omit [JsonLibrary] in
/-- The destructor is called when the thread has finished. -/
private theorem engine_main {a : ThreadAction} {run : RunPhase} (ha : a.thread = some .main)
    (hrun : s.onEngine a = some run) :
    s.main = .destroying ∧ run = s.run := by
  cases a with
  | stop destroy =>
    cases destroy with
    | true =>
      obtain ⟨hmain, hrun⟩ := Option.ite_none_right_eq_some.1 hrun
      exact ⟨hmain, (Option.some.inj hrun).symm⟩
    | false => cases ha
  | destroy =>
    obtain ⟨hmain, hrun⟩ := Option.ite_none_right_eq_some.1 hrun
    exact ⟨hmain, (Option.some.inj hrun).symm⟩
  | _ => cases ha

/-- Each step of `main` brings its end nearer. -/
private theorem mainRank_lt (hstop : stopAt s.main s.http.stop s.daemonFinished) (ha : a.thread = some .main)
    (hs : s.step a = some s') : s'.mainRank < s.mainRank := by
  cases outcome_of_step hs with
  | @gateway a =>
    simp only [ProcessAction.thread] at ha
    split at ha <;> cases ha
  | @engine a run engine hrun hengine =>
    obtain ⟨hmain, -⟩ := engine_main ha hrun
    refine Prod.Lex.toLex_lt_toLex.2 (.inr ⟨rfl, ?_⟩)
    rw [hmain]
    cases ProjectionEngine.outcome_of_step hengine with
    | stopped howner => simp [howner, OwnerStep.leftToDestroy]
    | @notRunning destroy howner =>
      cases destroy with
      | true => simp [howner, ProjectionEngine.afterStop, OwnerStep.leftToDestroy]
      | false => cases ha
    | destroyed howner | destroyedJoinable howner => simp [howner, OwnerStep.leftToDestroy]
    | _ => cases ha
  | @http a run http hrun hhttp =>
    have ha := Option.some.inj ha
    refine Prod.Lex.toLex_lt_toLex.2 (.inr ⟨rfl, ?_⟩)
    rw [stopping_of_main ha hstop hrun hhttp]
    exact Shutdown.stop_left_of_step ha hhttp
  | leftLoop hmain | stopReturned hmain | joined hmain | exited hmain =>
    exact mainRank_lt_of_main hmain rfl (by simp [MainStep.left])
  | decided hmain =>
    refine mainRank_lt_of_main hmain rfl ?_
    cases s.daemonFinished <;> simp [MainStep.left]
  | _ => cases ha

/-- The engine is not called while `main` destroys it. -/
private theorem owner_of_step {a : ThreadAction} {run : RunPhase} {engine : ProjectionEngine} (h : s.Sound)
    (ha : a.thread ≠ some .main) (hrun : s.onEngine a = some run) (hs : s.engine.step a = some engine)
    (hfinished : s.run = .finished) : engine.owner = s.engine.owner := by
  have hengine := h.engine
  cases hisOwner : a.isOwner with
  | false => exact (ProjectionEngine.kept_of_step hisOwner hs).1
  | true =>
    cases ProjectionEngine.outcome_of_step hs with
    | started | startedAgain =>
      have := (Option.ite_none_right_eq_some.1 hrun).1
      simp [hfinished] at this
    | created howner | overwritten howner | notCreated howner =>
      have := run_of_starting hengine howner
      simp [hfinished] at this
    | @stopped destroy | @notRunning destroy =>
      cases destroy with
      | true => exact absurd rfl ha
      | false =>
        have := (Option.ite_none_right_eq_some.1 hrun).1
        simp [hfinished] at this
    | joined howner =>
      have := (run_of_joining hengine howner).1
      simp [hfinished] at this
    | destroyed | destroyedJoinable => exact absurd rfl ha
    | checked | awoken | rechecked | locked | cycled | inserted => cases hisOwner

private theorem mainRank_eq (h : s.Sound) (ha : a.thread ≠ some .main) (hs : s.step a = some s') :
    s'.mainRank = s.mainRank := by
  cases outcome_of_step hs with
  | migrationFailed _ hhttp | startFailed _ _ _ hhttp | engineStarted _ _ hhttp | gatewayStopped _ _ hhttp =>
    exact mainRank_congr rfl (Shutdown.stop_of_step (by simp [Shutdown.Action.thread]) hhttp) fun _ => rfl
  | engine hrun hengine =>
    exact mainRank_congr rfl rfl fun hmain => owner_of_step h ha hrun hengine (h.main (.inl hmain))
  | @http a run http hrun hhttp =>
    exact mainRank_congr rfl (Shutdown.stop_of_step (fun hmain => ha (congrArg some hmain)) hhttp) fun _ => rfl
  | leftLoop | decided | stopReturned | joined | exited => exact absurd rfl ha
  | _ => exact mainRank_congr rfl rfl fun _ => rfl

omit [JsonLibrary] in
private theorem gateway_daemon {a : ProxyAction} {run : RunPhase} {gateway : FleetGateway} (h : s.Sound)
    (ha : a.isCaller = true) (hrun : s.onGateway a = some run) (hs : s.gateway.step a = some gateway) :
    daemonRank { s with gateway, run } < s.daemonRank := by
  cases hcall : a.isCall with
  | true =>
    cases a with
    | init | start | stop =>
      obtain ⟨hat, hrun⟩ := Option.ite_none_right_eq_some.1 hrun
      obtain rfl := Option.some.inj hrun
      exact daemonRank_lt_of_run hat rfl (by simp [RunPhase.left])
    | _ => cases hcall
  | false =>
    have hproxy := FleetGateway.step_proxy hcall hs
    have hbusy := VDA5050Proxy.call_ne_idle_of_step ha hcall hproxy
    have hleft := VDA5050Proxy.call_left_of_step ha hbusy hproxy
    obtain rfl := run_of_onGateway hcall hrun
    refine Prod.Lex.toLex_lt_toLex.2 (.inr ⟨rfl, ?_⟩)
    rcases run_of_call h.gateway hbusy with hat | hat
    · simpa [hat] using hleft
    · simpa [hat] using hleft

private theorem engine_daemon {a : ThreadAction} {run : RunPhase} {engine : ProjectionEngine} (h : s.Sound)
    (ha : a.thread = some .daemon) (hrun : s.onEngine a = some run) (hs : s.engine.step a = some engine) :
    daemonRank { s with engine, run } < s.daemonRank := by
  cases ProjectionEngine.outcome_of_step hs with
  | started | startedAgain =>
    obtain ⟨hat, hrun⟩ := Option.ite_none_right_eq_some.1 hrun
    obtain rfl := Option.some.inj hrun
    exact daemonRank_lt_of_run hat rfl (by simp [RunPhase.left])
  | created howner | overwritten howner =>
    obtain rfl := Option.some.inj hrun
    refine Prod.Lex.toLex_lt_toLex.2 (.inr ⟨rfl, ?_⟩)
    simp [run_of_starting h.engine howner, howner, OwnerStep.left]
  | notCreated howner =>
    obtain rfl := Option.some.inj hrun
    exact daemonRank_lt_of_run (run_of_starting h.engine howner) rfl (by simp [RunPhase.left])
  | @stopped destroy | @notRunning destroy =>
    cases destroy with
    | true => cases ha
    | false =>
      obtain ⟨hat, hrun⟩ := Option.ite_none_right_eq_some.1 hrun
      obtain rfl := Option.some.inj hrun
      exact daemonRank_lt_of_run hat rfl (by simp [RunPhase.left])
  | @joined destroy howner =>
    obtain rfl := Option.some.inj hrun
    refine Prod.Lex.toLex_lt_toLex.2 (.inr ⟨rfl, ?_⟩)
    obtain ⟨hat, rfl⟩ := run_of_joining h.engine howner
    simp [hat, howner, ProjectionEngine.afterStop, OwnerStep.left]
  | destroyed | destroyedJoinable | checked | awoken | rechecked | locked | cycled | inserted => cases ha

omit [JsonLibrary] in
private theorem http_daemon {a : Shutdown.Action} {run : RunPhase} {http : Shutdown.State} (h : s.Sound)
    (ha : a.thread = .daemon) (hrun : s.onHttp a = some run) (hs : Shutdown.step s.http a = some http) :
    daemonRank { s with http, run, exitCode := s.exitCodeOn a } < s.daemonRank ∨
      { s with http, run, exitCode := s.exitCodeOn a } = s ∧ s.http.stopRequested = false := by
  have hnot : (∀ ok, a ≠ .start ok) ∧ a ≠ .exit := by
    constructor
    · rintro ok rfl
      cases hrun
    · rintro rfl
      cases hrun
  have hat := run_of_serving h.http (Shutdown.serving_of_step ha hnot hs)
  by_cases hclear : a = .clear
  · subst hclear
    obtain rfl := Option.some.inj hrun
    exact .inl (daemonRank_lt_of_run hat rfl (by simp [RunPhase.left]))
  · obtain rfl := run_of_onHttp hrun hclear
    rcases Shutdown.run_left_of_step ha hs with hlt | ⟨rfl, hflag⟩
    · refine .inl (Prod.Lex.toLex_lt_toLex.2 (.inr ⟨rfl, ?_⟩))
      simpa [hat] using hlt
    · rw [h.exitCodeOn_eq hrun hs]
      exact .inr ⟨rfl, hflag⟩

/-- Each step of the daemon's thread brings its end nearer, but for a look at `stop_requested_` before the request. -/
private theorem daemonRank_lt (h : s.Sound) (ha : a.thread = some .daemon) (hs : s.step a = some s') :
    s'.daemonRank < s.daemonRank ∨ s' = s ∧ s.http.stopRequested = false := by
  cases outcome_of_step hs with
  | migrated hrun | migrationFailed hrun | startSucceeded hrun | startFailed hrun | attached hrun | engineStarted hrun
  | engineStopped hrun | gatewayStopped hrun | finished hrun =>
    exact .inl (daemonRank_lt_of_run hrun rfl (by simp [RunPhase.left]))
  | @gateway a run gateway hrun hgateway =>
    refine .inl (gateway_daemon h ?_ hrun hgateway)
    by_contra hnot
    simp [ProcessAction.thread, hnot] at ha
  | engine hrun hengine => exact .inl (engine_daemon h ha hrun hengine)
  | http hrun hhttp => exact http_daemon h (Option.some.inj ha) hrun hhttp
  | signalled | leftLoop | decided | stopReturned | joined | exited => cases ha

/-- The steps of the other threads leave the daemon's thread where it is. -/
private theorem daemon_of_step (h : s.Sound) (ha : a.thread ≠ some .daemon) (hs : s.step a = some s') :
    s'.run = s.run ∧ s'.gateway.proxy.call = s.gateway.proxy.call ∧
      (s.run ≠ .finished → s'.engine.owner = s.engine.owner) ∧ s'.http.run = s.http.run := by
  cases outcome_of_step hs with
  | @gateway a run gateway hrun hgateway =>
    have hcaller : a.isCaller = false := by
      by_contra hnot
      simp [ProcessAction.thread, hnot] at ha
    have hcall : a.isCall = false := by
      cases a with
      | init | start | stop => cases hcaller
      | _ => rfl
    obtain rfl := run_of_onGateway hcall hrun
    exact ⟨rfl, VDA5050Proxy.call_of_step hcaller (FleetGateway.step_proxy hcall hgateway), fun _ => rfl, rfl⟩
  | @engine a run engine hrun hengine =>
    cases hisOwner : a.isOwner with
    | false =>
      obtain rfl := run_of_onEngine hisOwner hrun
      exact ⟨rfl, rfl, fun _ => (ProjectionEngine.kept_of_step hisOwner hengine).1, rfl⟩
    | true =>
      have hmain : a.thread = some .main := by
        cases a with
        | stop destroy =>
          cases destroy with
          | true => rfl
          | false => exact absurd rfl ha
        | destroy => rfl
        | start | create | join => exact absurd rfl ha
        | _ => cases hisOwner
      obtain ⟨hdestroying, rfl⟩ := engine_main hmain hrun
      exact ⟨rfl, rfl, fun hrun => absurd (h.main (.inl hdestroying)) hrun, rfl⟩
  | @http a run http hrun hhttp =>
    have hthread : a.thread ≠ .daemon := fun hdaemon => ha (congrArg some hdaemon)
    obtain rfl := run_of_onHttp hrun (by rintro rfl; exact hthread rfl)
    exact ⟨rfl, rfl, fun _ => rfl, Shutdown.run_of_step hthread hhttp⟩
  | signalled | leftLoop | decided | stopReturned | joined | exited => exact ⟨rfl, rfl, fun _ => rfl, rfl⟩
  | _ => exact absurd rfl ha

/-! ### The thread that helps -/

/-- `main` waits for the daemon's thread. -/
def Waits (s : Process) : Prop := s.main = .joining ∨ s.main = .destroying ∨ s.main = .exited

/-- `run` waits for the HTTP thread. -/
def AtServer (s : Process) : Prop := s.run = .serving ∧ s.http.run = .join ∧ ¬ Shutdown.Ended s.http

/-- `run` waits for the projection thread. -/
def AtEngine (s : Process) : Prop := s.run = .stopEngineCalled ∧ ¬ s.engine.Finished

instance (s : Process) : Decidable s.Waits := inferInstanceAs (Decidable (_ ∨ _))

instance (s : Process) : Decidable s.AtServer :=
  inferInstanceAs (Decidable (_ ∧ _ ∧ ¬ (_ ∨ _)))

instance (s : Process) : Decidable s.AtEngine :=
  inferInstanceAs (Decidable (_ ∧ ¬ (_ ∨ _)))

/-- The thread whose next step brings the end nearer. -/
def helpful (s : Process) : ProcessThread :=
  if ¬ s.Waits ∨ s.run = .finished then .main
  else if s.AtServer then .http
  else if s.AtEngine then .engine
  else .daemon

/-- How far it is to the end of the thread for which `run` waits. -/
def waitRank (s : Process) : Nat ×ₗ Nat ×ₗ Nat :=
  if s.AtServer then toLex (s.http.http.left, ⊥) else if s.AtEngine then s.engine.rank else ⊥

omit [JsonLibrary] in
private theorem waitRank_of_not (hserver : ¬ s.AtServer) (hengine : ¬ s.AtEngine) : s.waitRank = ⊥ := by
  rw [waitRank, if_neg hserver, if_neg hengine]

omit [JsonLibrary] in
private theorem waitRank_atServer (h : s.AtServer) : s.waitRank = toLex (s.http.http.left, ⊥) := if_pos h

omit [JsonLibrary] in
private theorem waitRank_atEngine (h : s.AtEngine) : s.waitRank = s.engine.rank := by
  rw [waitRank, if_neg (fun hserver => by cases h.1.symm.trans hserver.1), if_pos h]

def rank (s : Process) : (Nat ×ₗ Nat) ×ₗ (Nat ×ₗ Nat) ×ₗ Nat ×ₗ Nat ×ₗ Nat :=
  toLex (s.mainRank, toLex (s.daemonRank, s.waitRank))

omit [JsonLibrary] in
private theorem rank_lt_of_mainRank (h : s'.mainRank < s.mainRank) : s'.rank < s.rank :=
  Prod.Lex.toLex_lt_toLex.2 (.inl h)

omit [JsonLibrary] in
private theorem rank_lt_of_daemonRank (hmain : s'.mainRank = s.mainRank) (h : s'.daemonRank < s.daemonRank) :
    s'.rank < s.rank :=
  Prod.Lex.toLex_lt_toLex.2 (.inr ⟨hmain, Prod.Lex.toLex_lt_toLex.2 (.inl h)⟩)

omit [JsonLibrary] in
private theorem rank_lt_of_waitRank (hmain : s'.mainRank = s.mainRank) (hdaemon : s'.daemonRank = s.daemonRank)
    (h : s'.waitRank < s.waitRank) : s'.rank < s.rank :=
  Prod.Lex.toLex_lt_toLex.2 (.inr ⟨hmain, Prod.Lex.toLex_lt_toLex.2 (.inr ⟨hdaemon, h⟩)⟩)

omit [JsonLibrary] in
private theorem helpful_congr (hmain : s'.main = s.main) (hrun : s'.run = s.run)
    (hserver : s.Waits → (s'.AtServer ↔ s.AtServer)) (hengine : s.Waits → (s'.AtEngine ↔ s.AtEngine)) :
    s'.helpful = s.helpful := by
  have hwaits : s'.Waits ↔ s.Waits := by rw [Waits, Waits, hmain]
  unfold helpful
  by_cases hw : s.Waits
  · simp only [hwaits, hrun, hserver hw, hengine hw]
  · simp only [hwaits, hw, not_false_eq_true, true_or, if_true]

private theorem main_of_step (ha : a.thread ≠ some .main) (hs : s.step a = some s') : s'.main = s.main := by
  cases outcome_of_step hs with
  | leftLoop | decided | stopReturned | joined | exited => exact absurd rfl ha
  | _ => rfl

/-- A step of the thread brings the end of the wait nearer, or it is not the one that helps and leaves the wait
alone. -/
def Helps (s s' : Process) (thread : Option ProcessThread) : Prop :=
  s'.waitRank < s.waitRank ∨
    s'.waitRank = s.waitRank ∧ (s'.AtServer ↔ s.AtServer) ∧ (s'.AtEngine ↔ s.AtEngine) ∧ thread ≠ some s.helpful

/-- A step of neither `main` nor the daemon's thread. -/
theorem Helps.rank (hhelps : Helps s s' a.thread) (h : s.Sound) (ha : a.thread ≠ some .main ∧ a.thread ≠ some .daemon)
    (hs : s.step a = some s') :
    s'.rank < s.rank ∨ s'.rank = s.rank ∧ s'.helpful = s.helpful ∧ a.thread ≠ some s.helpful := by
  have hmain := mainRank_eq h ha.1 hs
  obtain ⟨hrun, hcall, howner, hhttp⟩ := daemon_of_step h ha.2 hs
  have hdaemon := daemonRank_congr hrun hcall howner hhttp
  rcases hhelps with hlt | ⟨heq, hserver, hengine, hhelpful⟩
  · exact .inl (rank_lt_of_waitRank hmain hdaemon hlt)
  · refine .inr ⟨?_, helpful_congr (main_of_step ha.1 hs) hrun (fun _ => hserver) (fun _ => hengine), hhelpful⟩
    rw [Process.rank, Process.rank, hmain, hdaemon, heq]

omit [JsonLibrary] in
private theorem helpful_eq_http (h : s.helpful = .http) : s.AtServer := by
  unfold helpful at h
  split at h
  · cases h
  · split at h
    · assumption
    · split at h <;> cases h

omit [JsonLibrary] in
private theorem helpful_eq_engine (h : s.helpful = .engine) : s.AtEngine := by
  unfold helpful at h
  split at h
  · cases h
  · split at h
    · cases h
    · split at h
      · assumption
      · cases h

omit [JsonLibrary] in
private theorem http_helps {a : Shutdown.Action} {http : Shutdown.State} {exitCode : Nat} (ha : a.thread = .http)
    (hs : Shutdown.step s.http a = some http) : Helps s { s with http, exitCode } (some .http) := by
  have hleft := Shutdown.http_left_of_step ha hs
  have hrun := Shutdown.run_of_step (by simp [ha]) hs
  have hbusy : ¬ Shutdown.Ended s.http := by
    rintro (hended | hended) <;> simp [hended, Shutdown.HttpThread.left] at hleft
  by_cases hserver : s.AtServer
  · left
    rw [waitRank_atServer hserver]
    by_cases hserver' : AtServer { s with http, exitCode }
    · rw [waitRank_atServer hserver']
      exact Prod.Lex.toLex_lt_toLex.2 (.inl hleft)
    · rw [waitRank_of_not hserver' fun hengine => by cases hserver.1.symm.trans hengine.1]
      exact Prod.Lex.toLex_lt_toLex.2 (.inl (Nat.zero_lt_of_lt hleft))
  · have hserver' : ¬ AtServer { s with http, exitCode } := fun hat => hserver ⟨hat.1, hrun.symm.trans hat.2.1, hbusy⟩
    refine .inr ⟨?_, iff_of_false hserver' hserver, Iff.rfl, ?_⟩
    · rw [waitRank, waitRank, if_neg hserver', if_neg hserver]
      rfl
    · intro hhelpful
      exact hserver (helpful_eq_http (Option.some.inj hhelpful).symm)

private theorem engine_helps {a : ThreadAction} {engine : ProjectionEngine} (h : s.Sound) (hsound : s.engine.Sound)
    (ha : a.OfThread) (hs : s.engine.step a = some engine) : Helps s { s with engine } (some .engine) := by
  have hbusy := ProjectionEngine.not_finished_of_step ha hs
  by_cases hengine : s.AtEngine
  · left
    have hat := h.engine
    rw [hengine.1] at hat
    obtain ⟨hrunning, howner⟩ := hat
    rcases howner with howner | howner
    · have hlt := ((ProjectionEngine.rank_of_step hrunning howner hbusy hs).resolve_right fun hnot => hnot.1 ha).2
      rw [waitRank_atEngine hengine]
      by_cases hengine' : AtEngine { s with engine }
      · rw [waitRank_atEngine hengine']
        exact hlt
      · rw [waitRank_of_not (fun hserver => by cases hengine.1.symm.trans hserver.1) hengine']
        exact bot_le.trans_lt hlt
    · exact absurd (.inl (hsound.thread_eq_none (by simp [howner]) hrunning)) hbusy
  · have hengine' : ¬ AtEngine { s with engine } := fun hat => hengine ⟨hat.1, hbusy⟩
    refine .inr ⟨?_, Iff.rfl, iff_of_false hengine' hengine, ?_⟩
    · rw [waitRank, waitRank, if_neg hengine', if_neg hengine]
      rfl
    · intro hhelpful
      exact hengine (helpful_eq_engine (Option.some.inj hhelpful).symm)

omit [JsonLibrary] in
/-- What the threads wait for stays as it is. -/
theorem Helps.same {thread : Option ProcessThread} (hwait : s'.waitRank = s.waitRank)
    (hserver : s'.AtServer ↔ s.AtServer)
    (hengine : s'.AtEngine ↔ s.AtEngine) (hthread : thread ≠ some s.helpful) : Helps s s' thread :=
  .inr ⟨hwait, hserver, hengine, hthread⟩

/-- The rank never rises, and it stays only if the thread that helps stays the same and has not taken the step. -/
theorem rank_of_step (hreach : (system log₀ db₀).Reachable s)
    (hrequested : s.helpful = .daemon → s.http.stopRequested = true) (hs : s.step a = some s') :
    s'.rank < s.rank ∨ s'.rank = s.rank ∧ s'.helpful = s.helpful ∧ a.thread ≠ some s.helpful := by
  have h := sound_of_reachable hreach
  cases hthread : a.thread with
  | none =>
    rw [← hthread]
    refine Helps.rank ?_ h (by simp [hthread]) hs
    rw [hthread]
    have hrun := (daemon_of_step h (by simp [hthread]) hs).1
    rcases ProcessAction.thread_eq_none hthread with rfl | ⟨b, rfl⟩ | ⟨now, event, rfl⟩
    · obtain rfl := Option.some.inj (of_guard hs).2
      exact .same rfl Iff.rfl Iff.rfl nofun
    · cases outcome_of_step hs with
      | gateway =>
        obtain rfl := hrun
        exact .same rfl Iff.rfl Iff.rfl nofun
    · cases outcome_of_step hs with
      | engine _ hengine =>
        obtain rfl := hrun
        obtain rfl := Option.some.inj hengine
        exact .same rfl Iff.rfl Iff.rfl nofun
  | some thread =>
    cases thread with
    | main => exact .inl (rank_lt_of_mainRank (mainRank_lt (stopAt_of_reachable hreach) hthread hs))
    | daemon =>
      rcases daemonRank_lt h hthread hs with hlt | ⟨rfl, hflag⟩
      · exact .inl (rank_lt_of_daemonRank (mainRank_eq h (by simp [hthread]) hs) hlt)
      · refine .inr ⟨rfl, rfl, fun hhelpful => ?_⟩
        rw [hrequested (Option.some.inj hhelpful).symm] at hflag
        cases hflag
    | http =>
      rw [← hthread]
      refine Helps.rank ?_ h (by simp [hthread]) hs
      rw [hthread]
      have hrun := (daemon_of_step h (by simp [hthread]) hs).1
      obtain ⟨b, rfl, hb⟩ := ProcessAction.thread_eq_http hthread
      cases outcome_of_step hs with
      | http _ hhttp =>
        obtain rfl := hrun
        exact http_helps hb hhttp
    | engine =>
      rw [← hthread]
      refine Helps.rank ?_ h (by simp [hthread]) hs
      rw [hthread]
      have hrun := (daemon_of_step h (by simp [hthread]) hs).1
      obtain ⟨b, rfl, hb⟩ := ProcessAction.thread_eq_engine hthread
      cases outcome_of_step hs with
      | engine _ hengine =>
        obtain rfl := hrun
        exact engine_helps h (ProjectionEngine.sound_of_reachable (reachable_engine hreach)) hb hengine

/-! ### The thread that helps can go on -/

/-- There is a reason to end. -/
def Seen (s : Process) : Prop := s.signalReceived = true ∨ s.daemonFinished = true

theorem Seen.step (h : s.Seen) (hs : s.step a = some s') : s'.Seen := by
  cases outcome_of_step hs with
  | finished => exact .inr rfl
  | signalled => exact .inl rfl
  | _ => exact h

end Process

end SyriusOrbit

import SyriusOrbit.Transition.System

/-!
# The shutdown

The HTTP server of `Daemon::run`, which lives on the stack of `run`, with the three threads that use it: the daemon's
thread, the thread that serves requests and the thread of `main` that calls `Daemon::stop`.  The function that stops
the server is copied under the mutex and called outside of it.  Two things can go wrong: `stop` calls it when `run`
has returned (`not_dangling_of_reach`), and all its calls come before the server listens, so that `run` waits for the
server forever (`not_lost_iff_reach`).
-/

namespace SyriusOrbit.Shutdown

open Transition

/-- How far `Daemon::run` has come, by what it does next; `call` is the call of the copy of `stop_http_server_fn_`, if
there is a function in it. -/
inductive RunStep where
  | begin | bind | store | spawn | wait | copy | call (fn : Bool) | join | clear | exit | returned
  deriving DecidableEq

/-- How far `Daemon::stop` has come; `dangling` is a call of `Server::stop` after `run` has returned. -/
inductive StopStep where
  | idle | requested | holding (fn : Bool) | called | skipped | dangling
  deriving DecidableEq

/-- The thread that runs `listen_after_bind`; it has been told to stop when it is `stopped`. -/
inductive HttpThread where
  | none | started | listening | stopped | returned
  deriving DecidableEq

structure State where
  run : RunStep := .begin
  stop : StopStep := .idle
  http : HttpThread := .none
  stopRequested : Bool := false
  stopHttpServerFn : Bool := false
  deriving DecidableEq

inductive Action where
  -- the daemon's thread
  | start (ok : Bool)
  | bind (ok : Bool)
  | store
  | spawn
  | poll (isRunning : Bool)
  | copy
  | call
  | join
  | clear
  | exit
  -- the thread of `main`
  | requestStop
  | copyStop
  | callStop
  -- the HTTP thread
  | listen
  | leave

/-- `Server::stop`, which has no effect before the server listens. -/
def serverStop : HttpThread → HttpThread
  | .listening => .stopped
  | http => http

/-- The steps; a section under the mutex is one step. -/
def step (s : State) : Action → Option State
  -- migrations and the fleet gateway come before the HTTP server, and `run` returns if they fail
  | .start ok => if s.run ≠ .begin then none else some { s with run := if ok then .bind else .returned }
  | .bind ok => if s.run ≠ .bind then none else some { s with run := if ok then .store else .wait }
  | .store => if s.run ≠ .store then none else some { s with run := .spawn, stopHttpServerFn := true }
  | .spawn =>
    if s.run ≠ .spawn then none
    else if s.stopRequested then some { s with run := .wait }
    else some { s with run := .wait, http := .started }
  | .poll isRunning =>
    if s.run ≠ .wait then none else if s.stopRequested || !isRunning then some { s with run := .copy } else some s
  | .copy => if s.run ≠ .copy then none else some { s with run := .call s.stopHttpServerFn }
  | .call =>
    match s.run with
    | .call fn => some { s with run := .join, http := if fn then serverStop s.http else s.http }
    | _ => none
  | .join =>
    if s.run ≠ .join then none
    else if s.http = .none ∨ s.http = .returned then some { s with run := .clear } else none
  | .clear => if s.run ≠ .clear then none else some { s with run := .exit, stopHttpServerFn := false }
  | .exit => if s.run ≠ .exit then none else some { s with run := .returned }
  | .requestStop => if s.stop ≠ .idle then none else some { s with stop := .requested, stopRequested := true }
  | .copyStop => if s.stop ≠ .requested then none else some { s with stop := .holding s.stopHttpServerFn }
  | .callStop =>
    match s.stop with
    | .holding true =>
      if s.run = .returned then some { s with stop := .dangling }
      else some { s with stop := .called, http := serverStop s.http }
    | .holding false => some { s with stop := .skipped }
    | _ => none
  | .listen => if s.http ≠ .started then none else some { s with http := .listening }
  | .leave => if s.http ≠ .stopped then none else some { s with http := .returned }

def system : System State Action := .ofStep {} step

/-! ### What a step can do -/

/-- The outcomes of the steps, each with its guard. -/
inductive Outcome (s : State) : Action → State → Prop where
  | started (hrun : s.run = .begin) : Outcome s (.start true) { s with run := .bind }
  | aborted (hrun : s.run = .begin) : Outcome s (.start false) { s with run := .returned }
  | bound (hrun : s.run = .bind) : Outcome s (.bind true) { s with run := .store }
  | unbound (hrun : s.run = .bind) : Outcome s (.bind false) { s with run := .wait }
  | stored (hrun : s.run = .store) : Outcome s .store { s with run := .spawn, stopHttpServerFn := true }
  | unneeded (hrun : s.run = .spawn) (hflag : s.stopRequested = true) : Outcome s .spawn { s with run := .wait }
  | spawned (hrun : s.run = .spawn) (hflag : s.stopRequested = false) :
    Outcome s .spawn { s with run := .wait, http := .started }
  | left {isRunning : Bool} (hrun : s.run = .wait) : Outcome s (.poll isRunning) { s with run := .copy }
  | waited {isRunning : Bool} (hrun : s.run = .wait) : Outcome s (.poll isRunning) s
  | copied (hrun : s.run = .copy) : Outcome s .copy { s with run := .call s.stopHttpServerFn }
  | runCalled {fn : Bool} (hrun : s.run = .call fn) :
    Outcome s .call { s with run := .join, http := if fn then serverStop s.http else s.http }
  | joined (hrun : s.run = .join) (hhttp : s.http = .none ∨ s.http = .returned) :
    Outcome s .join { s with run := .clear }
  | cleared (hrun : s.run = .clear) : Outcome s .clear { s with run := .exit, stopHttpServerFn := false }
  | returned (hrun : s.run = .exit) : Outcome s .exit { s with run := .returned }
  | requested (hstop : s.stop = .idle) : Outcome s .requestStop { s with stop := .requested, stopRequested := true }
  | held (hstop : s.stop = .requested) : Outcome s .copyStop { s with stop := .holding s.stopHttpServerFn }
  | dangled (hstop : s.stop = .holding true) (hrun : s.run = .returned) :
    Outcome s .callStop { s with stop := .dangling }
  | stopCalled (hstop : s.stop = .holding true) (hrun : s.run ≠ .returned) :
    Outcome s .callStop { s with stop := .called, http := serverStop s.http }
  | skipped (hstop : s.stop = .holding false) : Outcome s .callStop { s with stop := .skipped }
  | listening (hhttp : s.http = .started) : Outcome s .listen { s with http := .listening }
  | ended (hhttp : s.http = .stopped) : Outcome s .leave { s with http := .returned }

theorem outcome_of_step {s s' : State} {a : Action} (h : step s a = some s') : Outcome s a s' := by
  cases a with
  | start ok =>
    obtain ⟨hrun, h⟩ := of_guard h
    cases ok <;> obtain rfl := Option.some.inj h
    · exact .aborted (not_not.1 hrun)
    · exact .started (not_not.1 hrun)
  | bind ok =>
    obtain ⟨hrun, h⟩ := of_guard h
    cases ok <;> obtain rfl := Option.some.inj h
    · exact .unbound (not_not.1 hrun)
    · exact .bound (not_not.1 hrun)
  | store =>
    obtain ⟨hrun, h⟩ := of_guard h
    obtain rfl := Option.some.inj h
    exact .stored (not_not.1 hrun)
  | spawn =>
    obtain ⟨hrun, h⟩ := of_guard h
    split at h
    · next hflag =>
      obtain rfl := Option.some.inj h
      exact .unneeded (not_not.1 hrun) hflag
    · next hflag =>
      obtain rfl := Option.some.inj h
      exact .spawned (not_not.1 hrun) (by simpa using hflag)
  | poll isRunning =>
    obtain ⟨hrun, h⟩ := of_guard h
    split at h <;> obtain rfl := Option.some.inj h
    · exact .left (not_not.1 hrun)
    · exact .waited (not_not.1 hrun)
  | copy =>
    obtain ⟨hrun, h⟩ := of_guard h
    obtain rfl := Option.some.inj h
    exact .copied (not_not.1 hrun)
  | call =>
    simp only [step] at h
    split at h
    · next fn hrun =>
      obtain rfl := Option.some.inj h
      exact .runCalled hrun
    · cases h
  | join =>
    obtain ⟨hrun, h⟩ := of_guard h
    split at h
    · next hhttp =>
      obtain rfl := Option.some.inj h
      exact .joined (not_not.1 hrun) hhttp
    · cases h
  | clear =>
    obtain ⟨hrun, h⟩ := of_guard h
    obtain rfl := Option.some.inj h
    exact .cleared (not_not.1 hrun)
  | exit =>
    obtain ⟨hrun, h⟩ := of_guard h
    obtain rfl := Option.some.inj h
    exact .returned (not_not.1 hrun)
  | requestStop =>
    obtain ⟨hstop, h⟩ := of_guard h
    obtain rfl := Option.some.inj h
    exact .requested (not_not.1 hstop)
  | copyStop =>
    obtain ⟨hstop, h⟩ := of_guard h
    obtain rfl := Option.some.inj h
    exact .held (not_not.1 hstop)
  | callStop =>
    simp only [step] at h
    split at h
    · next hstop =>
      split at h
      · next hrun =>
        obtain rfl := Option.some.inj h
        exact .dangled hstop hrun
      · next hrun =>
        obtain rfl := Option.some.inj h
        exact .stopCalled hstop hrun
    · next hstop =>
      obtain rfl := Option.some.inj h
      exact .skipped hstop
    · cases h
  | listen =>
    obtain ⟨hhttp, h⟩ := of_guard h
    obtain rfl := Option.some.inj h
    exact .listening (not_not.1 hhttp)
  | leave =>
    obtain ⟨hhttp, h⟩ := of_guard h
    obtain rfl := Option.some.inj h
    exact .ended (not_not.1 hhttp)

/-! ### The function and the server -/

/-- The thread listens, or is going to. -/
def serving : HttpThread → Bool
  | .started | .listening => true
  | .none | .stopped | .returned => false

/-- `run` has bound the port and has not cleared the function. -/
def bound : RunStep → Bool
  | .spawn | .wait | .copy | .call _ | .join | .clear => true
  | .begin | .bind | .store | .exit | .returned => false

/-- `run` has come as far as the start of the HTTP thread, and not past the join. -/
def serves : RunStep → Bool
  | .wait | .copy | .call true | .join => true
  | .begin | .bind | .store | .spawn | .call false | .clear | .exit | .returned => false

private theorem serving_serverStop {http : HttpThread} (h : serving (serverStop http) = true) : http = .started := by
  cases http <;> first | rfl | simp [serverStop, serving] at h

/-- What holds whichever way the steps are interleaved. -/
structure State.Kept (s : State) : Prop where
  bound : s.stopHttpServerFn = true → bound s.run = true
  stored : s.run = .spawn → s.stopHttpServerFn = true
  serves : serving s.http = true → s.stopHttpServerFn = true ∧ serves s.run = true
  flagged : s.stop ≠ .idle → s.stopRequested = true
  seen : serving s.http = true → s.stop ≠ .holding false ∧ s.stop ≠ .skipped

namespace State.Kept

variable {s s' : State}

/-- `run` goes on. -/
theorem move (h : s.Kept) {run : RunStep} (hbound : Shutdown.bound s.run = true → Shutdown.bound run = true)
    (hspawn : run ≠ .spawn) (hserves : serving s.http = true → Shutdown.serves s.run = true →
      Shutdown.serves run = true) : State.Kept { s with run } where
  bound hfn := hbound (h.bound hfn)
  stored hrun := absurd hrun hspawn
  serves hserving := ⟨(h.serves hserving).1, hserves hserving (h.serves hserving).2⟩
  flagged := h.flagged
  seen := h.seen

/-- The HTTP thread goes on. -/
theorem advance (h : s.Kept) {http : HttpThread} (hserving : serving http = true → serving s.http = true) :
    Kept { s with http } where
  bound := h.bound
  stored := h.stored
  serves hhttp := h.serves (hserving hhttp)
  flagged := h.flagged
  seen hhttp := h.seen (hserving hhttp)

/-- `stop` goes on. -/
theorem proceed (h : s.Kept) {stop : StopStep} (hstop : s.stop ≠ .idle)
    (hseen : serving s.http = true → stop ≠ .holding false ∧ stop ≠ .skipped) : State.Kept { s with stop } where
  bound := h.bound
  stored := h.stored
  serves := h.serves
  flagged _ := h.flagged hstop
  seen := hseen

theorem step {a : Action} (h : s.Kept) (hs : step s a = some s') : s'.Kept := by
  cases outcome_of_step hs with
  | started hrun => exact h.move (by simp [hrun, Shutdown.bound]) (by simp) (by simp [hrun, Shutdown.serves])
  | aborted hrun => exact h.move (by simp [hrun, Shutdown.bound]) (by simp) (by simp [hrun, Shutdown.serves])
  | bound hrun => exact h.move (by simp [hrun, Shutdown.bound]) (by simp) (by simp [hrun, Shutdown.serves])
  | unbound hrun => exact h.move (fun _ => rfl) (by simp) (fun _ _ => rfl)
  | stored hrun =>
    have hnone : ¬ serving s.http = true := by
      intro hserving
      have := (h.serves hserving).2
      simp [hrun, Shutdown.serves] at this
    exact ⟨fun _ => rfl, fun _ => rfl, fun hserving => absurd hserving hnone, h.flagged, h.seen⟩
  | unneeded hrun => exact h.move (fun _ => rfl) (by simp) (fun _ _ => rfl)
  | spawned hrun hflag =>
    -- without a request, `stop` has not begun
    have hidle : s.stop = .idle := by
      by_contra hstop
      simp [h.flagged hstop] at hflag
    exact ⟨fun _ => rfl, by simp, fun _ => ⟨h.stored hrun, rfl⟩, h.flagged, fun _ => by simp [hidle]⟩
  | left hrun => exact h.move (fun _ => rfl) (by simp) (fun _ _ => rfl)
  | waited => exact h
  | copied hrun => exact h.move (fun _ => rfl) (by simp) fun hserving _ => by rw [(h.serves hserving).1]; rfl
  | @runCalled fn hrun =>
    have hmoved : State.Kept { s with run := .join } := h.move (fun _ => rfl) (by simp) fun _ _ => rfl
    refine hmoved.advance fun hserving => ?_
    cases fn with
    | false => exact hserving
    | true =>
      have hstarted := serving_serverStop hserving
      simp [hstarted, serving]
  | joined hrun hhttp =>
    refine h.move (fun _ => rfl) (by simp) fun hserving _ => ?_
    rcases hhttp with hnone | hreturned
    · simp [hnone, serving] at hserving
    · simp [hreturned, serving] at hserving
  | cleared hrun =>
    have hnone : ¬ serving s.http = true := by
      intro hserving
      have := (h.serves hserving).2
      simp [hrun, Shutdown.serves] at this
    exact ⟨by simp, by simp, fun hserving => absurd hserving hnone, h.flagged, h.seen⟩
  | returned hrun => exact h.move (by simp [hrun, Shutdown.bound]) (by simp) (by simp [hrun, Shutdown.serves])
  | requested => exact ⟨h.bound, h.stored, h.serves, fun _ => rfl, by simp⟩
  | held hstop =>
    refine h.proceed (by simp [hstop]) fun hserving => ?_
    simp [(h.serves hserving).1]
  | dangled hstop => exact h.proceed (by simp [hstop]) (by simp)
  | stopCalled hstop hrun =>
    have hproceeded : State.Kept { s with stop := .called } := h.proceed (by simp [hstop]) (by simp)
    refine hproceeded.advance fun hserving => ?_
    have hstarted := serving_serverStop hserving
    simp [hstarted, serving]
  | skipped hstop => exact h.proceed (by simp [hstop]) fun hserving => absurd hstop (h.seen hserving).1
  | listening hhttp => exact h.advance fun _ => by simp [hhttp, serving]
  | ended => exact h.advance (by simp [serving])

end State.Kept

theorem kept_of_reachable {s : State} (h : system.Reachable s) : s.Kept := by
  refine System.Reach.invariant (I := State.Kept) (fun s hs => ?_) (fun s a s' _ hI _ hs => hI.step hs) h
  obtain rfl : s = {} := hs
  exact ⟨by simp, by simp, by simp [serving], by simp, by simp⟩

variable {s s' : State}

/-! ### The lifetime of the server -/

/-- `run` does not return between the moment `stop` copies the function and the call of the copy. -/
def NoReturnBetween (s : State) : Action → Prop
  | .exit => s.stop ≠ .holding true
  | _ => True

instance (s : State) (a : Action) : Decidable (NoReturnBetween s a) := by
  unfold NoReturnBetween
  split <;> infer_instance

/-- `run` has bound the port and has not returned. -/
def alive : RunStep → Bool
  | .exit => true
  | run => bound run

/-- A function that `stop` holds is that of a server that exists, and none has been called later. -/
def State.Alive (s : State) : Prop := (s.stop = .holding true → alive s.run = true) ∧ s.stop ≠ .dangling

theorem State.Alive.move (h : s.Alive) {run : RunStep} (hrun : alive s.run = true → alive run = true) :
    State.Alive { s with run } := ⟨fun hstop => hrun (h.1 hstop), h.2⟩

theorem State.Alive.step {a : Action} (h : s.Alive) (hk : s.Kept) (ha : NoReturnBetween s a)
    (hs : step s a = some s') : s'.Alive := by
  cases outcome_of_step hs with
  | started hrun => exact h.move (by simp [hrun, alive, bound])
  | aborted hrun => exact h.move (by simp [hrun, alive, bound])
  | bound hrun => exact h.move (by simp [hrun, alive, Shutdown.bound])
  | unbound => exact h.move fun _ => rfl
  | stored => exact ⟨fun _ => rfl, h.2⟩
  | unneeded => exact h.move fun _ => rfl
  | spawned => exact ⟨fun _ => rfl, h.2⟩
  | left => exact h.move fun _ => rfl
  | waited => exact h
  | copied => exact h.move fun _ => rfl
  | runCalled => exact ⟨fun _ => rfl, h.2⟩
  | joined => exact h.move fun _ => rfl
  | cleared => exact ⟨fun _ => rfl, h.2⟩
  | returned hrun => exact ⟨fun hstop => absurd hstop ha, h.2⟩
  | requested => exact ⟨by simp, by simp⟩
  | held =>
    refine ⟨fun hstop => ?_, by simp⟩
    have hbound := hk.bound (StopStep.holding.inj hstop)
    show alive s.run = true
    unfold alive
    split
    · rfl
    · exact hbound
  | dangled hstop hrun =>
    have halive := h.1 hstop
    simp [hrun, alive, bound] at halive
  | stopCalled => exact ⟨by simp, by simp⟩
  | skipped => exact ⟨by simp, by simp⟩
  | listening => exact h
  | ended => exact h

/-- Whenever `stop` calls the function, `run` has not returned, if `run` never returns between the copy and the call. -/
theorem not_dangling_of_reach (h : system.Reach NoReturnBetween s) :
    (s.stop = .holding true → s.run ≠ .returned) ∧ s.stop ≠ .dangling := by
  have halive : s.Alive := by
    refine System.Reach.invariant (I := State.Alive) (fun s hs => ?_) (fun s a s' hreach hI ha hs => ?_) h
    · obtain rfl : s = {} := hs
      exact ⟨by simp, by simp⟩
    · exact hI.step (kept_of_reachable hreach.reachable) ha hs
  refine ⟨fun hstop hrun => ?_, halive.2⟩
  have hrunning := halive.1 hstop
  simp [hrun, alive, bound] at hrunning

/-- A start with a server that listens. -/
def startup : List Action := [.start true, .bind true, .store, .spawn, .listen]

/-- `run` sees the request, stops the server and returns. -/
def teardown : List Action := [.poll true, .copy, .call, .leave, .join, .clear, .exit]

theorem not_dangling_shutdown :
    ∃ s, system.Reach NoReturnBetween s ∧ s.run = .returned ∧ s.stop = .called ∧ s.stop ≠ .dangling := by
  have hrun : replay (guarded step NoReturnBetween) {} (startup ++ [.requestStop, .copyStop, .callStop] ++ teardown) =
      some ⟨.returned, .called, .returned, true, false⟩ := by decide
  have hreach := reach_of_replay (.init rfl) hrun
  exact ⟨_, hreach, rfl, rfl, (not_dangling_of_reach hreach).2⟩

/-- `run` returns while `stop` holds the function. -/
theorem dangling_of_return :
    ∃ s, replay step {} (startup ++ [.requestStop, .copyStop] ++ teardown) = some s ∧ s.run = .returned ∧
      s.stop = .holding true ∧ ∃ s', step s .callStop = some s' ∧ s'.stop = .dangling :=
  ⟨⟨.returned, .holding true, .returned, true, false⟩, by decide, rfl, rfl, _, rfl, rfl⟩

/-! ### Requests that are lost -/

/-- A call of `Server::stop` by `run` is still to come, or may be. -/
def runToCome : RunStep → Bool
  | .begin | .bind | .store | .spawn | .wait | .copy | .call true => true
  | .call false | .join | .clear | .exit | .returned => false

/-- A call by `stop` is still to come, or may be. -/
def stopToCome : StopStep → Bool
  | .idle | .requested | .holding true => true
  | .holding false | .called | .skipped | .dangling => false

/-- The request has been made, `run` waits for the HTTP thread, which listens or is going to, and nobody is going to
stop the server. -/
structure State.Lost (s : State) : Prop where
  stopRequested : s.stopRequested = true
  run : s.run = .join
  serving : serving s.http = true
  noCall : runToCome s.run = false ∧ stopToCome s.stop = false

/-- The last call of `Server::stop` is not made while the HTTP thread has been started and does not listen yet. -/
def Timely (s : State) : Action → Prop
  | .call => s.run = .call true → s.http = .started → stopToCome s.stop = true
  | .callStop => s.stop = .holding true → s.http = .started → runToCome s.run = true
  | _ => True

instance (s : State) (a : Action) : Decidable (Timely s a) := by
  unfold Timely
  split <;> infer_instance

/-- As long as the server is not stopped, there is a call to come. -/
def State.Pending (s : State) : Prop :=
  Shutdown.serving s.http = true → runToCome s.run = true ∨ stopToCome s.stop = true

theorem State.Pending.step {a : Action} (h : s.Pending) (hk : s.Kept) (ha : Timely s a)
    (hs : Shutdown.step s a = some s') : s'.Pending := by
  cases outcome_of_step hs with
  | started => exact fun _ => .inl rfl
  | aborted hrun =>
    intro hserving
    have := (hk.serves hserving).2
    simp [hrun, serves] at this
  | bound => exact fun _ => .inl rfl
  | unbound => exact fun _ => .inl rfl
  | stored => exact fun _ => .inl rfl
  | unneeded => exact fun _ => .inl rfl
  | spawned => exact fun _ => .inl rfl
  | left => exact fun _ => .inl rfl
  | waited => exact h
  | copied =>
    intro hserving
    exact .inl (by rw [(hk.serves hserving).1]; rfl)
  | @runCalled fn hrun =>
    intro hserving
    cases fn with
    | false =>
      have := (hk.serves hserving).2
      simp [hrun, serves] at this
    | true => exact .inr (ha hrun (serving_serverStop hserving))
  | joined hrun hhttp =>
    intro hserving
    rcases hhttp with hnone | hreturned
    · simp [hnone, Shutdown.serving] at hserving
    · simp [hreturned, Shutdown.serving] at hserving
  | cleared hrun =>
    intro hserving
    have := (hk.serves hserving).2
    simp [hrun, serves] at this
  | returned hrun =>
    intro hserving
    have := (hk.serves hserving).2
    simp [hrun, serves] at this
  | requested => exact fun _ => .inr rfl
  | held =>
    intro hserving
    exact .inr (by rw [(hk.serves hserving).1]; rfl)
  | dangled _ hrun =>
    intro hserving
    have := (hk.serves hserving).2
    simp [hrun, serves] at this
  | stopCalled hstop => exact fun hserving => .inl (ha hstop (serving_serverStop hserving))
  | skipped hstop => exact fun hserving => absurd hstop (hk.seen hserving).1
  | listening hhttp => exact fun _ => h (by simp [hhttp, Shutdown.serving])
  | ended => exact fun hserving => by simp [Shutdown.serving] at hserving

theorem not_lost_of_reach (h : system.Reach Timely s) : ¬ s.Lost := by
  have hpending : s.Pending := by
    refine System.Reach.invariant (I := State.Pending) (fun s hs => ?_) (fun s a s' hreach hI ha hs => ?_) h
    · obtain rfl : s = {} := hs
      exact fun _ => .inl rfl
    · exact hI.step (kept_of_reachable hreach.reachable) ha hs
  intro hlost
  rcases hpending hlost.serving with hrun | hstop
  · simp [hlost.noCall.1] at hrun
  · simp [hlost.noCall.2] at hstop

/-- A request that is lost stays lost. -/
theorem State.Lost.step {a : Action} (h : s.Lost) (hs : Shutdown.step s a = some s') : s'.Lost := by
  have hrun := h.run
  have hstop := h.noCall.2
  have hserving := h.serving
  cases outcome_of_step hs with
  | joined _ hhttp =>
    rcases hhttp with hnone | hreturned
    · simp [hnone, Shutdown.serving] at hserving
    · simp [hreturned, Shutdown.serving] at hserving
  | requested hidle => simp [hidle, stopToCome] at hstop
  | held hrequested => simp [hrequested, stopToCome] at hstop
  | dangled hholding => simp [hholding, stopToCome] at hstop
  | stopCalled hholding => simp [hholding, stopToCome] at hstop
  | skipped => exact ⟨h.stopRequested, hrun, hserving, h.noCall.1, rfl⟩
  | listening => exact ⟨h.stopRequested, hrun, rfl, h.noCall⟩
  | ended hhttp => simp [hhttp, Shutdown.serving] at hserving
  | waited => exact h
  | started hat | aborted hat | bound hat | unbound hat | stored hat | unneeded hat | spawned hat | left hat
  | copied hat | runCalled hat | cleared hat | returned hat => cases hat.symm.trans hrun

/-- A last call that comes too early loses the request. -/
private theorem lost_of_not_timely {a : Action} (hk : s.Kept) (ha : ¬ Timely s a) (hs : step s a = some s') :
    s'.Lost := by
  cases outcome_of_step hs with
  | @runCalled fn hrun =>
    obtain ⟨hcall, hstarted, hstop⟩ : s.run = .call true ∧ s.http = .started ∧ ¬ stopToCome s.stop = true := by
      simpa [Timely] using ha
    have hidle : s.stop ≠ .idle := by
      rintro hidle
      simp [hidle, stopToCome] at hstop
    obtain rfl : fn = true := RunStep.call.inj (hrun.symm.trans hcall)
    refine ⟨hk.flagged hidle, rfl, ?_, rfl, by simpa using hstop⟩
    simp [hstarted, serverStop, serving]
  | stopCalled hstop =>
    obtain ⟨-, hstarted, hnoRun⟩ : s.stop = .holding true ∧ s.http = .started ∧ ¬ runToCome s.run = true := by
      simpa [Timely] using ha
    have hserves := (hk.serves (by simp [hstarted, serving])).2
    have hjoin : s.run = .join := by
      revert hserves hnoRun
      generalize s.run = run
      rcases run with _ | _ | _ | _ | _ | _ | ⟨⟨⟩⟩ | _ | _ | _ | _ <;> simp [runToCome, serves]
    refine ⟨hk.flagged (by simp [hstop]), hjoin, ?_, ?_, rfl⟩
    · simp [hstarted, serverStop, serving]
    · show runToCome s.run = false
      simpa using hnoRun
  | dangled _ hrun =>
    have hnone : ¬ s.http = .started := by
      intro hstarted
      have := (hk.serves (by simp [hstarted, serving])).2
      simp [hrun, serves] at this
    exact absurd (fun _ hstarted => absurd hstarted hnone) ha
  | skipped hstop => exact absurd (fun hholding => by simp [hstop] at hholding) ha
  | started | aborted | bound | unbound | stored | unneeded | spawned | left | waited | copied | joined | cleared
  | returned | requested | held | listening | ended => exact absurd trivial ha

/-- No request is lost in exactly those states that are reached without a last call that comes too early. -/
theorem not_lost_iff_reach (h : system.Reachable s) : ¬ s.Lost ↔ system.Reach Timely s := by
  refine ⟨fun hlost => ?_, not_lost_of_reach⟩
  have heither : system.Reach Timely s ∨ s.Lost := by
    refine System.Reach.invariant (I := fun s => system.Reach Timely s ∨ s.Lost) (fun s hs => .inl (.init hs))
      (fun s a s' hreach hI _ hs => ?_) h
    rcases hI with htimely | hlost
    · by_cases ha : Timely s a
      · exact .inl (htimely.step ha hs)
      · exact .inr (lost_of_not_timely (kept_of_reachable hreach) ha hs)
    · exact .inr (hlost.step hs)
  exact heither.resolve_right hlost

theorem not_lost_shutdown :
    ∃ s, system.Reachable s ∧ s.run = .returned ∧ s.stopRequested = true ∧ system.Reach Timely s := by
  have hrun : replay step {} (startup ++ [.requestStop, .copyStop, .callStop] ++ teardown) =
      some ⟨.returned, .called, .returned, true, false⟩ := by decide
  have hreach := reachable_of_replay (.init rfl) hrun
  exact ⟨_, hreach, rfl, rfl, (not_lost_iff_reach hreach).1 fun hlost => by cases hlost.run⟩

/-- Both calls come before the server listens. -/
theorem lost_of_early_stop :
    ∃ s, system.Reachable s ∧ s.Lost := by
  have hrun : replay step {} [.start true, .bind true, .store, .spawn, .requestStop, .copyStop, .callStop, .poll true,
      .copy, .call, .listen] = some ⟨.join, .called, .listening, true, true⟩ := by decide
  exact ⟨_, reachable_of_replay (.init rfl) hrun, rfl, rfl, rfl, rfl, rfl⟩

end SyriusOrbit.Shutdown

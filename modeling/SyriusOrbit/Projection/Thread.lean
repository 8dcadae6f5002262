import SyriusOrbit.Projection.Freshness
import SyriusOrbit.Transition.Fairness

/-!
# Starting and stopping the projection engine

`ProjectionEngine` with the thread that its owner starts, stops and joins, under any sequence of calls of `start` and
`stop` with the destructor at the end.  Seen without its owner it is the engine (`reachable_engine`).  The member
`thread_` is never overwritten or destroyed while it is joinable (`never_terminates`), a thread that is told to stop
begins one more cycle at most (`quiesces`), and then `stop` returns (`stop_returns`).
-/

namespace SyriusOrbit.Projection

open JsonFormat Vda5050 Db Sql Transition

variable [JsonLibrary]

/-- How far the thread of `run` has come. -/
inductive ThreadStep where
  -- before the condition of the loop
  | check
  | sleep
  -- before the second look at `running_`
  | recheck
  -- before it takes the lock of the database
  | lock
  | cycle
  -- has left the loop
  | done
  deriving DecidableEq

/-- How far the call of the owner has come; `terminated` is a call of `std::terminate`. -/
inductive OwnerStep where
  | idle
  -- before the thread is created and moved to `thread_`
  | starting
  | joining (destroy : Bool)
  -- `stop` has returned to the destructor
  | destroying
  | destroyed
  | terminated
  deriving DecidableEq

/-- The steps to the end of the thread when the flag has been cleared, a cycle counted as one. -/
def ThreadStep.left : ThreadStep → Nat
  | .done => 0
  | .check | .recheck => 1
  | .sleep => 2
  | .cycle => 2
  | .lock => 3

structure ProjectionEngine where
  engine : Engine
  running : Bool := false
  -- `thread_`, and `none` when it is not joinable
  thread : Option ThreadStep := none
  owner : OwnerStep := .idle
  -- the cycles that have been begun
  cycles : Nat := 0

inductive ThreadAction where
  -- the owner; the creation of a thread may throw
  | start
  | create (ok : Bool)
  | stop (destroy : Bool)
  | join
  | destroy
  -- the thread
  | check
  | wakeUp
  | recheck
  | lock
  | cycle (a : EngineAction)
  -- the threads of the recorder
  | insert (now : String) (event : Vda5050Event)

/-- The steps of a cycle after the first. -/
def EngineAction.within : EngineAction → Bool
  | .query _ | .queryThrows | .project | .projectThrows _ | .next | .finish => true
  | .insert .. | .wake | .restart => false

private theorem Engine.rank_of_within {s s' : Engine} {a : EngineAction} (ha : a.within = true)
    (hs : s.step a = some s') :
    s'.phase = .waiting ∨ s'.phase.rank < s.phase.rank := by
  cases Engine.outcome_of_step hs with
  | inserted | woken | restarted => cases ha
  | queried hphase => exact .inr (hphase ▸ Phase.rank_queried ..)
  | projected hphase => exact .inr (hphase ▸ Phase.rank_projected ..)
  | failed hphase => exact .inr (hphase ▸ Phase.rank_projected ..)
  | advanced hphase => exact .inr (hphase ▸ Phase.rank_advanced ..)
  | aborted | finished => exact .inl rfl

/-- The steps of the thread. -/
def ThreadAction.OfThread : ThreadAction → Prop
  | .check | .wakeUp | .recheck | .lock | .cycle _ => True
  | .start | .create _ | .stop _ | .join | .destroy | .insert .. => False

namespace ProjectionEngine

/-- What `stop` returns to. -/
def afterStop (destroy : Bool) : OwnerStep := if destroy then .destroying else .idle

/-- The steps. -/
def step (s : ProjectionEngine) : ThreadAction → Option ProjectionEngine
  | .start =>
    if s.owner ≠ .idle then none
    else if s.running then some s
    else some { s with running := true, owner := .starting }
  -- the assignment to a joinable thread terminates; an exception leaves `start`
  | .create ok =>
    if s.owner ≠ .starting then none
    else if ok then
      if s.thread.isSome then some { s with owner := .terminated }
      else some { s with thread := some .check, owner := .idle }
    else some { s with owner := .idle }
  | .stop destroy =>
    if s.owner ≠ .idle then none
    else if s.running then some { s with running := false, owner := .joining destroy }
    else some { s with owner := afterStop destroy }
  | .join =>
    match s.owner with
    | .joining destroy =>
      if s.thread ≠ none ∧ s.thread ≠ some .done then none
      else some { s with thread := none, owner := afterStop destroy }
    | _ => none
  -- the destructor of a joinable thread terminates
  | .destroy =>
    if s.owner ≠ .destroying then none
    else if s.thread.isSome then some { s with owner := .terminated }
    else some { s with owner := .destroyed }
  | .check =>
    if s.thread ≠ some .check then none
    else some { s with thread := some (if s.running then .sleep else .done) }
  | .wakeUp =>
    if s.thread ≠ some .sleep then none
    else some { s with thread := some .recheck }
  | .recheck =>
    if s.thread ≠ some .recheck then none
    else some { s with thread := some (if s.running then .lock else .done) }
  | .lock =>
    if s.thread ≠ some .lock then none
    else (s.engine.step .wake).map fun engine => { s with engine, thread := some .cycle, cycles := s.cycles + 1 }
  | .cycle a =>
    if s.thread ≠ some .cycle ∨ a.within = false then none
    else (s.engine.step a).map fun engine =>
      { s with engine, thread := some (match engine.phase with | .waiting => .check | _ => .cycle) }
  | .insert now event => (s.engine.step (.insert now event)).map fun engine => { s with engine }

def system (log₀ : EventLog) (db₀ : ReadModel) : System ProjectionEngine ThreadAction :=
  .ofStep { engine := { log := log₀, db := db₀ } } step

variable {log₀ : EventLog} {db₀ : ReadModel} {s s' : ProjectionEngine}

/-- The outcomes of the steps, each with its guard. -/
inductive Outcome (s : ProjectionEngine) : ThreadAction → ProjectionEngine → Prop where
  | started (howner : s.owner = .idle) (hrunning : s.running = false) :
    Outcome s .start { s with running := true, owner := .starting }
  | startedAgain (howner : s.owner = .idle) (hrunning : s.running = true) : Outcome s .start s
  | created (howner : s.owner = .starting) (hthread : s.thread = none) :
    Outcome s (.create true) { s with thread := some .check, owner := .idle }
  | overwritten (howner : s.owner = .starting) (hthread : s.thread ≠ none) :
    Outcome s (.create true) { s with owner := .terminated }
  | notCreated (howner : s.owner = .starting) : Outcome s (.create false) { s with owner := .idle }
  | stopped {destroy : Bool} (howner : s.owner = .idle) (hrunning : s.running = true) :
    Outcome s (.stop destroy) { s with running := false, owner := .joining destroy }
  | notRunning {destroy : Bool} (howner : s.owner = .idle) (hrunning : s.running = false) :
    Outcome s (.stop destroy) { s with owner := afterStop destroy }
  | joined {destroy : Bool} (howner : s.owner = .joining destroy)
      (hthread : s.thread = none ∨ s.thread = some .done) :
    Outcome s .join { s with thread := none, owner := afterStop destroy }
  | destroyed (howner : s.owner = .destroying) (hthread : s.thread = none) :
    Outcome s .destroy { s with owner := .destroyed }
  | destroyedJoinable (howner : s.owner = .destroying) (hthread : s.thread ≠ none) :
    Outcome s .destroy { s with owner := .terminated }
  | checked (hthread : s.thread = some .check) :
    Outcome s .check { s with thread := some (if s.running then .sleep else .done) }
  | awoken (hthread : s.thread = some .sleep) : Outcome s .wakeUp { s with thread := some .recheck }
  | rechecked (hthread : s.thread = some .recheck) :
    Outcome s .recheck { s with thread := some (if s.running then .lock else .done) }
  | locked {engine : Engine} (hthread : s.thread = some .lock) (hs : s.engine.step .wake = some engine) :
    Outcome s .lock { s with engine, thread := some .cycle, cycles := s.cycles + 1 }
  | cycled {a : EngineAction} {engine : Engine} (hthread : s.thread = some .cycle) (ha : a.within = true)
      (hs : s.engine.step a = some engine) :
    Outcome s (.cycle a)
      { s with engine, thread := some (match engine.phase with | .waiting => .check | _ => .cycle) }
  | inserted (now : String) (event : Vda5050Event) :
    Outcome s (.insert now event) { s with engine := { s.engine with log := s.engine.log.insert now event } }

theorem outcome_of_step {a : ThreadAction} (h : s.step a = some s') : Outcome s a s' := by
  cases a with
  | start =>
    obtain ⟨howner, h⟩ := of_guard h
    split at h
    · next hrunning =>
      obtain rfl := Option.some.inj h
      exact .startedAgain (not_not.1 howner) hrunning
    · next hrunning =>
      obtain rfl := Option.some.inj h
      exact .started (not_not.1 howner) (by simpa using hrunning)
  | create ok =>
    obtain ⟨howner, h⟩ := of_guard h
    cases ok with
    | true =>
      rw [if_pos rfl] at h
      split at h
      · next hthread =>
        obtain rfl := Option.some.inj h
        exact .overwritten (not_not.1 howner) (Option.isSome_iff_ne_none.1 hthread)
      · next hthread =>
        obtain rfl := Option.some.inj h
        exact .created (not_not.1 howner) (by simpa using hthread)
    | false =>
      obtain rfl := Option.some.inj h
      exact .notCreated (not_not.1 howner)
  | stop destroy =>
    obtain ⟨howner, h⟩ := of_guard h
    split at h
    · next hrunning =>
      obtain rfl := Option.some.inj h
      exact .stopped (not_not.1 howner) hrunning
    · next hrunning =>
      obtain rfl := Option.some.inj h
      exact .notRunning (not_not.1 howner) (by simpa using hrunning)
  | join =>
    simp only [step] at h
    split at h
    · next destroy howner =>
      obtain ⟨hthread, h⟩ := of_guard h
      obtain rfl := Option.some.inj h
      exact .joined howner (by tauto)
    · cases h
  | destroy =>
    obtain ⟨howner, h⟩ := of_guard h
    split at h
    · next hthread =>
      obtain rfl := Option.some.inj h
      exact .destroyedJoinable (not_not.1 howner) (Option.isSome_iff_ne_none.1 hthread)
    · next hthread =>
      obtain rfl := Option.some.inj h
      exact .destroyed (not_not.1 howner) (by simpa using hthread)
  | check =>
    obtain ⟨hthread, h⟩ := of_guard h
    obtain rfl := Option.some.inj h
    exact .checked (not_not.1 hthread)
  | wakeUp =>
    obtain ⟨hthread, h⟩ := of_guard h
    obtain rfl := Option.some.inj h
    exact .awoken (not_not.1 hthread)
  | recheck =>
    obtain ⟨hthread, h⟩ := of_guard h
    obtain rfl := Option.some.inj h
    exact .rechecked (not_not.1 hthread)
  | lock =>
    obtain ⟨hthread, h⟩ := of_guard h
    obtain ⟨engine, hs, rfl⟩ := Option.map_eq_some_iff.1 h
    exact .locked (not_not.1 hthread) hs
  | cycle a =>
    obtain ⟨hguard, h⟩ := of_guard h
    obtain ⟨engine, hs, rfl⟩ := Option.map_eq_some_iff.1 h
    rw [not_or, not_not] at hguard
    exact .cycled hguard.1 (by simpa using hguard.2) hs
  | insert now event =>
    obtain rfl := Option.some.inj h
    exact .inserted now event

/-- Without its owner it is the engine. -/
theorem reachable_engine (h : (system log₀ db₀).Reachable s) : (Engine.system log₀ db₀).Reachable s.engine := by
  refine h.map ProjectionEngine.engine (fun s hs => ?_) fun s a s' _ hs => ?_
  · obtain rfl : s = { engine := { log := log₀, db := db₀ } } := hs
    rfl
  · cases outcome_of_step hs with
    | locked hthread hwake => exact .inr ⟨_, trivial, hwake⟩
    | cycled hthread ha hcycle => exact .inr ⟨_, trivial, hcycle⟩
    | inserted now event => exact .inr ⟨.insert now event, trivial, rfl⟩
    | _ => exact .inl rfl

/-! ### The owner -/

/-- How the calls of the owner, the flag and the thread go together. -/
structure Sound (s : ProjectionEngine) : Prop where
  joinable : s.thread ≠ none → s.running = true ∨ ∃ destroy, s.owner = .joining destroy
  starting : s.owner = .starting → s.running = true ∧ s.thread = none
  joining : ∀ destroy, s.owner = .joining destroy → s.running = false
  destroying : s.owner = .destroying ∨ s.owner = .destroyed → s.running = false ∧ s.thread = none
  alive : s.owner ≠ .terminated
  waiting : s.engine.phase = .waiting ↔ s.thread ≠ some .cycle

namespace Sound

omit [JsonLibrary] in
/-- Between the calls there is a thread only if the engine is running. -/
theorem thread_eq_none (h : s.Sound) (howner : ∀ destroy, s.owner ≠ .joining destroy) (hrunning : s.running = false) :
    s.thread = none := by
  by_contra hthread
  rcases h.joinable hthread with hr | ⟨destroy, hd⟩
  · simp [hrunning] at hr
  · exact howner destroy hd

omit [JsonLibrary] in
/-- The thread goes on. -/
theorem move (h : s.Sound) {t t' : ThreadStep} (hthread : s.thread = some t) {engine : Engine} {cycles : Nat}
    (hwaiting : engine.phase = .waiting ↔ t' ≠ .cycle) : Sound { s with engine, thread := some t', cycles } where
  joinable _ := h.joinable (by simp [hthread])
  starting howner := by
    have := (h.starting howner).2
    simp [hthread] at this
  joining := h.joining
  destroying howner := by
    have := (h.destroying howner).2
    simp [hthread] at this
  alive := h.alive
  waiting := by simpa using hwaiting

omit [JsonLibrary] in
/-- `stop` has returned. -/
theorem returned (hthread : s.thread = none) (hrunning : s.running = false)
    (hwaiting : s.engine.phase = .waiting ↔ s.thread ≠ some .cycle) {destroy : Bool} :
    Sound { s with owner := afterStop destroy } := by
  refine ⟨fun hne => absurd hthread hne, ?_, ?_, fun _ => ⟨hrunning, hthread⟩, ?_, hwaiting⟩
  all_goals cases destroy <;> simp [afterStop]

theorem step {a : ThreadAction} (h : s.Sound) (hs : s.step a = some s') : s'.Sound := by
  cases outcome_of_step hs with
  | started howner hrunning =>
    have hthread := h.thread_eq_none (by simp [howner]) hrunning
    exact ⟨fun _ => .inl rfl, fun _ => ⟨rfl, hthread⟩, nofun, nofun, nofun, h.waiting⟩
  | startedAgain => exact h
  | created howner hthread =>
    have hrunning := (h.starting howner).1
    have hwaiting := h.waiting.2 (by simp [hthread])
    exact ⟨fun _ => .inl hrunning, nofun, nofun, nofun, nofun, by simpa using hwaiting⟩
  | overwritten howner hthread => exact absurd (h.starting howner).2 hthread
  | notCreated howner =>
    obtain ⟨hrunning, hthread⟩ := h.starting howner
    exact ⟨fun _ => .inl hrunning, nofun, nofun, nofun, nofun, h.waiting⟩
  | stopped howner hrunning =>
    exact ⟨fun _ => .inr ⟨_, rfl⟩, nofun, fun _ _ => rfl, nofun, nofun, h.waiting⟩
  | notRunning howner hrunning =>
    exact returned (h.thread_eq_none (by simp [howner]) hrunning) hrunning h.waiting
  | joined howner hthread =>
    have hwaiting := h.waiting.2 (by rcases hthread with h | h <;> simp [h])
    exact returned (s := { s with thread := none }) rfl (h.joining _ howner) (by simpa using hwaiting)
  | destroyed howner hthread =>
    have hrunning := (h.destroying (.inl howner)).1
    exact ⟨fun hne => absurd hthread hne, nofun, nofun, fun _ => ⟨hrunning, hthread⟩, nofun, h.waiting⟩
  | destroyedJoinable howner hthread => exact absurd (h.destroying (.inl howner)).2 hthread
  | checked hthread =>
    have hwaiting := h.waiting.2 (by simp [hthread])
    refine h.move hthread (iff_of_true hwaiting ?_)
    split <;> decide
  | awoken hthread =>
    have hwaiting := h.waiting.2 (by simp [hthread])
    exact h.move hthread (iff_of_true hwaiting (by decide))
  | rechecked hthread =>
    have hwaiting := h.waiting.2 (by simp [hthread])
    refine h.move hthread (iff_of_true hwaiting ?_)
    split <;> decide
  | locked hthread hwake =>
    cases Engine.outcome_of_step hwake with
    | woken hphase => exact h.move hthread (by simp)
  | cycled hthread ha hcycle =>
    refine h.move hthread ?_
    split
    · next hphase => exact iff_of_true hphase (by decide)
    · next hphase => exact iff_of_false hphase (by decide)
  | inserted now event => exact ⟨h.joinable, h.starting, h.joining, h.destroying, h.alive, h.waiting⟩

end Sound

theorem sound_of_reachable (h : (system log₀ db₀).Reachable s) : s.Sound := by
  refine h.invariant (fun s hs => ?_) fun s a s' _ hsound _ hs => hsound.step hs
  obtain rfl : s = { engine := { log := log₀, db := db₀ } } := hs
  exact ⟨fun h => absurd rfl h, nofun, nofun, nofun, nofun, iff_of_true rfl nofun⟩

/-- `std::terminate` is never called, and after `stop` and the destructor no thread is left, nor a cycle that was begun;
so it is also after a thread could not be created. -/
theorem never_terminates (h : (system log₀ db₀).Reachable s) :
    s.owner ≠ .terminated ∧
      (s.owner = .destroyed ∨ s.owner = .idle ∧ s.running = false → s.thread = none ∧ s.engine.phase = .waiting) := by
  have hsound := sound_of_reachable h
  refine ⟨hsound.alive, fun howner => ?_⟩
  have hthread : s.thread = none := by
    rcases howner with howner | ⟨howner, hrunning⟩
    · exact (hsound.destroying (.inr howner)).2
    · exact hsound.thread_eq_none (by simp [howner]) hrunning
  exact ⟨hthread, hsound.waiting.2 (by simp [hthread])⟩

/-- An engine is stopped before its thread begins a cycle. -/
def stopped : ProjectionEngine := { engine := { log := .empty, db := .empty }, owner := .destroyed }

omit [JsonLibrary] in
theorem never_terminates_stopped :
    letI := JsonLibrary.ofTexts connectionTexts
    (system .empty .empty).Reachable stopped ∧ stopped.owner ≠ .terminated ∧ stopped.thread = none ∧
      stopped.engine.phase = .waiting := by
  let lib := JsonLibrary.ofTexts connectionTexts
  have hrun : replay step { engine := { log := .empty, db := .empty } }
      [.start, .create true, .check, .stop true, .wakeUp, .recheck, .join, .destroy] = some stopped := rfl
  have hreach : (system .empty .empty).Reachable stopped := reachable_of_replay (.init rfl) hrun
  have halive := never_terminates hreach
  exact ⟨hreach, halive.1, halive.2 (.inl rfl)⟩

/-! ### Stopping -/

/-- The cycles that have been begun, and one that cannot be called off. -/
def begun (s : ProjectionEngine) : Nat := s.cycles + if s.thread = some .lock then 1 else 0

/-- The flag is cleared, and so it stays until `start` is called. -/
structure Stopped (s : ProjectionEngine) : Prop where
  sound : s.Sound
  running : s.running = false

theorem Stopped.step {a : ThreadAction} (h : s.Stopped) (ha : a ≠ .start) (hs : s.step a = some s') : s'.Stopped := by
  refine ⟨h.sound.step hs, ?_⟩
  cases outcome_of_step hs with
  | started | startedAgain => exact absurd rfl ha
  | stopped => rfl
  | _ => exact h.running

private theorem Stopped.begun_le {a : ThreadAction} (h : s.Stopped) (ha : a ≠ .start) (hs : s.step a = some s') :
    s'.begun ≤ s.begun := by
  cases outcome_of_step hs with
  | started | startedAgain => exact absurd rfl ha
  | created howner hthread =>
    have := (h.sound.starting howner).1
    simp [h.running] at this
  | rechecked hthread => simp [begun, h.running]
  | checked hthread => simp [begun, h.running]
  | locked hthread hwake => simp [begun, hthread]
  | cycled hthread ha hcycle =>
    simp only [begun, hthread]
    split <;> simp
  | joined howner hthread => simp [begun]
  | awoken hthread => simp [begun]
  | _ => exact le_rfl

/-- Without a thread nothing is projected. -/
theorem Stopped.idle {a : ThreadAction} (h : s.Stopped) (hthread : s.thread = none) (ha : a ≠ .start)
    (hs : s.step a = some s') : s'.thread = none ∧ s'.engine.db = s.engine.db ∧ s'.cycles = s.cycles := by
  cases outcome_of_step hs with
  | started | startedAgain => exact absurd rfl ha
  | created howner =>
    have := (h.sound.starting howner).1
    simp [h.running] at this
  | checked hat | awoken hat | rechecked hat | locked hat | cycled hat => simp [hthread] at hat
  | joined => exact ⟨rfl, rfl, rfl⟩
  | _ => exact ⟨hthread, rfl, rfl⟩

/-- What holds since the flag was cleared. -/
structure StoppedSince (s s' : ProjectionEngine) : Prop where
  stopped : s'.Stopped
  begun_le : s'.begun ≤ s.begun
  idle : s.thread = none → s'.thread = none ∧ s'.engine.db = s.engine.db ∧ s'.cycles = s.cycles

theorem stoppedSince_of_reach (h : s.Stopped)
    (hs' : ((system log₀ db₀).startingAt s).Reach (fun _ a => a ≠ .start) s') : StoppedSince s s' := by
  refine hs'.invariant (I := StoppedSince s) (fun t ht => ?_) fun t a t' _ hI ha hs => ?_
  · obtain rfl : t = s := ht
    exact ⟨h, le_rfl, fun hthread => ⟨hthread, rfl, rfl⟩⟩
  · refine ⟨hI.stopped.step ha hs, (hI.stopped.begun_le ha hs).trans hI.begun_le, fun hthread => ?_⟩
    obtain ⟨hnone, hdb, hcycles⟩ := hI.idle hthread
    obtain ⟨hnone', hdb', hcycles'⟩ := hI.stopped.idle hnone ha hs
    exact ⟨hnone', hdb'.trans hdb, hcycles'.trans hcycles⟩

/-- When the flag has been cleared, and until `start` is called, one more cycle is begun at most, and only if the thread
is about to take the lock; without a thread the read model stays as it is. -/
theorem quiesces (h : (system log₀ db₀).Reachable s) (hrunning : s.running = false)
    (hs' : ((system log₀ db₀).startingAt s).Reach (fun _ a => a ≠ .start) s') :
    s'.cycles ≤ s.cycles + (if s.thread = some .lock then 1 else 0) ∧
      (s.thread = none → s'.engine.db = s.engine.db ∧ s'.cycles = s.cycles) := by
  have hsince := stoppedSince_of_reach ⟨sound_of_reachable h, hrunning⟩ hs'
  exact ⟨(Nat.le_add_right _ _).trans hsince.begun_le, fun hthread => (hsince.idle hthread).2⟩

omit [JsonLibrary] in
/-- A thread that is about to take the lock begins a cycle, in which the first query throws. -/
theorem quiesces_lock :
    letI := JsonLibrary.ofTexts connectionTexts
    ∃ s s' : ProjectionEngine, (system .empty .empty).Reachable s ∧ s.running = false ∧ s.cycles = 0 ∧
      s.thread = some .lock ∧ s'.cycles = 1 ∧ s'.owner = .idle ∧ s'.cycles ≤ 0 + 1 := by
  let lib := JsonLibrary.ofTexts connectionTexts
  let s : ProjectionEngine :=
    { engine := { log := .empty, db := .empty }, thread := some .lock, owner := .joining false }
  let s' : ProjectionEngine := { engine := { log := .empty, db := .empty }, cycles := 1 }
  have hrun : replay step { engine := { log := .empty, db := .empty } }
      [.start, .create true, .check, .wakeUp, .recheck, .stop false] = some s := rfl
  have hs : (system .empty .empty).Reachable s := reachable_of_replay (.init rfl) hrun
  have hs' : ((system .empty .empty).startingAt s).Reach (fun _ a => a ≠ .start) s' := by
    have hlock : ((system .empty .empty).startingAt s).Reach (fun _ a => a ≠ .start) s := .init rfl
    have hbegun := hlock.step (a := .lock) nofun rfl
    have hthrown := hbegun.step (a := .cycle .queryThrows) nofun rfl
    have hdone := hthrown.step (a := .check) nofun rfl
    exact hdone.step (a := .join) nofun rfl
  exact ⟨s, s', hs, rfl, rfl, rfl, rfl, rfl, (quiesces hs rfl hs').1⟩

/-! ### `stop` returns -/

/-- Nothing is left for `join` to wait for. -/
def Finished (s : ProjectionEngine) : Prop := s.thread = none ∨ s.thread = some .done

/-- How far it is to the end of the thread when the flag has been cleared. -/
def rank (s : ProjectionEngine) : Nat ×ₗ Nat ×ₗ Nat :=
  toLex ((s.thread.map ThreadStep.left).getD 0, s.engine.phase.rank)

omit [JsonLibrary] in
private theorem rank_lt_of_left {t t' : ThreadStep} (hthread : s.thread = some t) (hthread' : s'.thread = some t')
    (h : t'.left < t.left) : s'.rank < s.rank := by
  refine Prod.Lex.toLex_lt_toLex.2 (.inl ?_)
  simpa [hthread, hthread'] using h

/-- When the flag has been cleared, each step of the thread brings its end nearer, and no other step keeps it away. -/
theorem rank_of_step {a : ThreadAction} {destroy : Bool} (hrunning : s.running = false)
    (howner : s.owner = .joining destroy) (hbusy : ¬ s.Finished) (hs : s.step a = some s') :
    a.OfThread ∧ s'.rank < s.rank ∨ ¬ a.OfThread ∧ s'.rank = s.rank := by
  cases outcome_of_step hs with
  | checked hthread | rechecked hthread =>
    exact .inl ⟨trivial, rank_lt_of_left hthread rfl (by rw [hrunning]; decide)⟩
  | awoken hthread | locked hthread => exact .inl ⟨trivial, rank_lt_of_left hthread rfl (by decide)⟩
  | @cycled b engine hthread ha hcycle =>
    cases hphase : engine.phase with
    | waiting => exact .inl ⟨trivial, rank_lt_of_left hthread rfl (by decide)⟩
    | querying | projecting =>
      have hlt := (Engine.rank_of_within ha hcycle).resolve_left (by simp [hphase])
      refine .inl ⟨trivial, Prod.Lex.toLex_lt_toLex.2 (.inr ⟨?_, hlt⟩)⟩
      simp [hthread]
  | joined _ hdone => exact absurd hdone hbusy
  | inserted => exact .inr ⟨fun h => h, rfl⟩
  | started hidle | startedAgain hidle | created hidle | overwritten hidle | notCreated hidle | stopped hidle
  | notRunning hidle | destroyed hidle | destroyedJoinable hidle => simp [howner] at hidle

/-- Until the join the owner waits. -/
private theorem joining_of_step {a : ThreadAction} {destroy : Bool} (howner : s.owner = .joining destroy)
    (ha : a ≠ .join)
    (hs : s.step a = some s') : s'.owner = .joining destroy ∧ a ≠ .start := by
  cases outcome_of_step hs with
  | joined => exact absurd rfl ha
  | checked | awoken | rechecked | locked | cycled | inserted => exact ⟨howner, nofun⟩
  | started hidle | startedAgain hidle | created hidle | overwritten hidle | notCreated hidle | stopped hidle
  | notRunning hidle | destroyed hidle | destroyedJoinable hidle => simp [howner] at hidle

/-- A thread that has ended does not begin again. -/
private theorem finished_of_step {a : ThreadAction} {destroy : Bool} (howner : s.owner = .joining destroy)
    (hfinished : s.Finished) (ha : a ≠ .join) (hs : s.step a = some s') : s'.Finished := by
  have hthread {t : ThreadStep} (ht : t ≠ .done) (h : s.thread = some t) : s'.Finished := by
    rcases hfinished with hnone | hdone
    · simp [hnone] at h
    · simp [hdone, ht.symm] at h
  cases outcome_of_step hs with
  | joined => exact absurd rfl ha
  | inserted => exact hfinished
  | checked h | awoken h | rechecked h | locked h | cycled h => exact hthread (by decide) h
  | started hidle | startedAgain hidle | created hidle | overwritten hidle | notCreated hidle | stopped hidle
  | notRunning hidle | destroyed hidle | destroyedJoinable hidle => simp [howner] at hidle

variable {r : (system log₀ db₀).Run}

/-- The thread goes on whenever it has not ended. -/
def ThreadRuns (r : (system log₀ db₀).Run) : Prop := r.Fair (fun s => ¬ s.Finished) ThreadAction.OfThread

/-- A join that has nothing to wait for returns. -/
def JoinReturns (r : (system log₀ db₀).Run) : Prop :=
  r.Fair (fun s => s.Finished ∧ ∃ destroy, s.owner = .joining destroy) (· = .join)

private theorem joining_of_run {n m : Nat} {destroy : Bool} (howner : (r.state n).owner = .joining destroy)
    (hnm : n ≤ m)
    (hbefore : ∀ i, n ≤ i → i < m → r.action i ≠ .join) : (r.state m).owner = .joining destroy := by
  induction m, hnm using Nat.le_induction with
  | base => exact howner
  | succ m hnm ih =>
    have hm := ih fun i hi him => hbefore i hi (Nat.lt_succ_of_lt him)
    exact (joining_of_step hm (hbefore m hnm (Nat.lt_succ_self m)) (r.step m)).1

private theorem exists_join (hreach : (system log₀ db₀).Reachable (r.state 0)) (hthread : ThreadRuns r)
    (hjoin : JoinReturns r) {n : Nat} {destroy : Bool} (howner : (r.state n).owner = .joining destroy) :
    ∃ m, n ≤ m ∧ r.action m = .join := by
  by_contra hnever
  have hnot : ∀ m, n ≤ m → r.action m ≠ .join := fun m hm hjoin => hnever ⟨m, hm, hjoin⟩
  have hjoining : ∀ m, n ≤ m → (r.state m).owner = .joining destroy := fun m hm =>
    joining_of_run howner hm fun i hi _ => hnot i hi
  have hrunning : ∀ m, n ≤ m → (r.state m).running = false := fun m hm =>
    (sound_of_reachable (hreach.trans (r.reach (Nat.zero_le m) fun _ _ _ => trivial))).joining _ (hjoining m hm)
  obtain ⟨m, hm, hfinished⟩ := r.eventually_of_rank rank Finished hthread (fun _ _ hbusy => hbusy)
    (fun i hi hbusy => by
      rcases rank_of_step (hrunning i hi) (hjoining i hi) hbusy (r.step i) with ⟨-, hlt⟩ | ⟨-, heq⟩
      · exact .inr hlt.le
      · exact .inr heq.le)
    (fun i hi hbusy hmoves => by
      rcases rank_of_step (hrunning i hi) (hjoining i hi) hbusy (r.step i) with ⟨-, hlt⟩ | ⟨hnot, -⟩
      · exact .inr hlt
      · exact absurd hmoves hnot)
    (le_refl n)
  have hstays : ∀ i, m ≤ i → (r.state i).Finished := by
    intro i hi
    induction i, hi using Nat.le_induction with
    | base => exact hfinished
    | succ i hi ih => exact finished_of_step (hjoining i (hm.trans hi)) ih (hnot i (hm.trans hi)) (r.step i)
  obtain ⟨i, hi, hjoined⟩ := hjoin m fun i hi => ⟨hstays i hi, _, hjoining i (hm.trans hi)⟩
  exact hnot i (hm.trans hi) hjoined

/-- If the thread is run as long as it has not ended, then a call of `stop` returns, however the steps of the thread,
the recorder and the owner are mixed; no thread is left then, and one more cycle has been begun at most. -/
theorem stop_returns (hreach : (system log₀ db₀).Reachable (r.state 0)) (hthread : ThreadRuns r)
    (hjoin : JoinReturns r) {n : Nat} {destroy : Bool} (howner : (r.state n).owner = .joining destroy) :
    ∃ m, n ≤ m ∧ (r.state m).owner = afterStop destroy ∧ (r.state m).thread = none ∧
      (r.state m).cycles ≤ (r.state n).cycles + 1 := by
  obtain ⟨m, hm, hjoined, hbefore⟩ := exists_first (exists_join hreach hthread hjoin howner)
  have hjoining : ∀ i, n ≤ i → i ≤ m → (r.state i).owner = .joining destroy := fun i hi him =>
    joining_of_run howner hi fun j hj hji => hbefore j hj (hji.trans_le him)
  have hsound := sound_of_reachable (hreach.trans (r.reach (Nat.zero_le n) fun _ _ _ => trivial))
  have hsince := stoppedSince_of_reach ⟨hsound, hsound.joining _ howner⟩
    (r.reach hm fun i hi him => (joining_of_step (hjoining i hi him.le) (hbefore i hi him) (r.step i)).2)
  have hcycles : (r.state m).cycles ≤ (r.state n).cycles + 1 := by
    calc (r.state m).cycles ≤ (r.state m).begun := Nat.le_add_right _ _
      _ ≤ (r.state n).begun := hsince.begun_le
      _ ≤ (r.state n).cycles + 1 := by
        unfold begun
        split <;> omega
  have hstep := r.step m
  rw [hjoined] at hstep
  have hnext := outcome_of_step hstep
  generalize hlast : r.state (m + 1) = s' at hnext
  cases hnext with
  | joined hd hdone =>
    obtain rfl : _ = destroy := OwnerStep.joining.inj (hd.symm.trans (hjoining m hm le_rfl))
    exact ⟨m + 1, hm.trans (Nat.le_succ m), by rw [hlast], by rw [hlast], by rw [hlast]; exact hcycles⟩

omit [JsonLibrary] in
/-- An engine is stopped before its thread has looked at the flag, and from then on `stop` is called again. -/
theorem stop_returns_check :
    letI := JsonLibrary.ofTexts connectionTexts
    ∃ r : (system .empty .empty).Run, (r.state 3).owner = .joining false ∧ (r.state 3).thread = some .check ∧
      ∃ m, 3 ≤ m ∧ (r.state m).owner = .idle ∧ (r.state m).thread = none ∧
        (r.state m).cycles ≤ (r.state 3).cycles + 1 := by
  let lib := JsonLibrary.ofTexts connectionTexts
  let s : ProjectionEngine := { engine := { log := .empty, db := .empty } }
  let stops : (system .empty .empty).Run := ⟨fun _ => s, fun _ => .stop false, fun _ => rfl⟩
  let joins := stops.cons (s := { s with thread := some .done, owner := .joining false }) (a := .join) rfl
  let checks := joins.cons (s := { s with thread := some .check, owner := .joining false }) (a := .check) rfl
  let stopped := checks.cons (s := { s with running := true, thread := some .check }) (a := .stop false) rfl
  let creates := stopped.cons (s := { s with running := true, owner := .starting }) (a := .create true) rfl
  let r := creates.cons (s := s) (a := .start) rfl
  have hinit : (system .empty .empty).Reachable (r.state 0) := .init rfl
  have hthread : ThreadRuns r := fun n hbusy => absurd (.inl rfl) (hbusy (n + 5) (by omega))
  have hjoin : JoinReturns r := by
    intro n hwaits
    obtain ⟨-, destroy, howner⟩ := hwaits (n + 5) (by omega)
    cases howner
  have howner : (r.state 3).owner = .joining false := rfl
  exact ⟨r, howner, rfl, stop_returns hinit hthread hjoin howner⟩

end ProjectionEngine

end SyriusOrbit.Projection

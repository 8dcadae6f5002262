import SyriusOrbit.Db.Events
import SyriusOrbit.Mqtt.EndPoint
import SyriusOrbit.Transition.System

/-!
# Concurrent inserts

The two MQTT threads insert events over one connection and do not take the mutex of `Database`.  An insert executes
its statement and then asks the connection for the last rowid, and the other thread may come between the two.

Each event is stored once and the ids of a thread increase in every run (`kept_of_reachable`), and the table is one
that inserts of one step each could have made (`atomic_of_reachable`).  The ids returned are those of the own rows as
long as no thread executes its statement while the other has still to ask (`identities_of_reach`), and in no other
run (`reach_of_identities`).
-/

namespace SyriusOrbit.Inserts

open Db Mqtt Transition

/-- Where a thread is in `Vda5050EventsRepository::insert`. -/
inductive Call where
  | none
  | bound (event : Vda5050Event)
  | executed
  deriving DecidableEq

/-- The event whose statement has not been executed yet. -/
def Call.unstored : Call → List Vda5050Event
  | .bound event => [event]
  | _ => []

/-- The connection, and for each thread its call, the events it has called `insert` with, the rows its statements
have added and the ids its calls have returned. -/
structure State where
  log : EventLog
  lastInsertRowid : Nat := 0
  call : Side → Call := fun _ => .none
  called : Side → List Vda5050Event := fun _ => []
  rows : Side → List Vda5050Event := fun _ => []
  returned : Side → List Nat := fun _ => []

/-- The steps of a call: the statement is prepared and its parameters bound, it is executed, and the id is read. -/
inductive Action where
  | bind (side : Side) (event : Vda5050Event)
  | exec (side : Side) (now : String)
  | getLastInsertRowid (side : Side)

def step (s : State) : Action → Option State
  | .bind side event =>
    match s.call side with
    | .none => some { s with
        call := Function.update s.call side (.bound event)
        called := Function.update s.called side (s.called side ++ [event]) }
    | _ => none
  | .exec side now =>
    match s.call side with
    | .bound event => some { s with
        log := s.log.insert now event
        lastInsertRowid := s.log.lastId + 1
        call := Function.update s.call side .executed
        rows := Function.update s.rows side
          (s.rows side ++ [{ event with id := s.log.lastId + 1, receivedAt := now }]) }
    | _ => none
  | .getLastInsertRowid side =>
    match s.call side with
    | .executed => some { s with
        call := Function.update s.call side .none
        returned := Function.update s.returned side (s.returned side ++ [s.lastInsertRowid]) }
    | _ => none

/-- The daemon starts with the table as it is. -/
def system (log₀ : EventLog) : System State Action := .ofStep { log := log₀ } step

variable {log₀ : EventLog} {s s' : State}

/-! ### What holds in every run -/

/-- The row that a thread adds next. -/
def State.newRow (s : State) (now : String) (event : Vda5050Event) : Vda5050Event :=
  { event with id := s.log.lastId + 1, receivedAt := now }

/-- The state after a step. -/
inductive Outcome (s : State) : Action → State → Prop where
  | bound {side : Side} {event : Vda5050Event} (hcall : s.call side = .none) :
      Outcome s (.bind side event) { s with
        call := Function.update s.call side (.bound event)
        called := Function.update s.called side (s.called side ++ [event]) }
  | executed {side : Side} {now : String} {event : Vda5050Event} (hcall : s.call side = .bound event) :
      Outcome s (.exec side now) { s with
        log := s.log.insert now event
        lastInsertRowid := s.log.lastId + 1
        call := Function.update s.call side .executed
        rows := Function.update s.rows side (s.rows side ++ [s.newRow now event]) }
  | returned {side : Side} (hcall : s.call side = .executed) :
      Outcome s (.getLastInsertRowid side) { s with
        call := Function.update s.call side .none
        returned := Function.update s.returned side (s.returned side ++ [s.lastInsertRowid]) }

theorem outcome_of_step {a : Action} (h : step s a = some s') : Outcome s a s' := by
  cases a with
  | bind side event =>
    simp only [step] at h
    split at h
    · next hcall =>
      cases h
      exact .bound hcall
    · cases h
  | exec side now =>
    simp only [step] at h
    split at h
    · next event hcall =>
      cases h
      exact .executed hcall
    · cases h
  | getLastInsertRowid side =>
    simp only [step] at h
    split at h
    · next hcall =>
      cases h
      exact .returned hcall
    · cases h

/-- The table has the rows it began with and those that the threads added, one for each executed call with the event
of the call, and the rows of a thread have increasing ids. -/
structure State.Kept (log₀ : EventLog) (s : State) : Prop where
  stored : s.log.events.Perm (log₀.events ++ (s.rows .localSide ++ s.rows .cloudSide))
  events : ∀ side, (s.rows side).map Vda5050Event.content ++ (s.call side).unstored.map Vda5050Event.content =
    (s.called side).map Vda5050Event.content
  increasing : ∀ side, (s.rows side).Pairwise fun e e' => e.id < e'.id

private theorem State.Kept.mem_log (h : s.Kept log₀) {side : Side} {e : Vda5050Event} (he : e ∈ s.rows side) :
    e ∈ s.log.events := by
  rw [h.stored.mem_iff, List.mem_append, List.mem_append]
  cases side with
  | localSide => exact .inr (.inl he)
  | cloudSide => exact .inr (.inr he)

theorem State.Kept.id_le_lastId (h : s.Kept log₀) {side : Side} {e : Vda5050Event} (he : e ∈ s.rows side) :
    e.id ≤ s.log.lastId := EventLog.id_le_lastId (h.mem_log he)

/-- The new row is found once among the rows of the threads. -/
private theorem perm_update (rows : Side → List Vda5050Event) (side : Side) (e : Vda5050Event) :
    (rows .localSide ++ rows .cloudSide ++ [e]).Perm
      (Function.update rows side (rows side ++ [e]) .localSide ++
        Function.update rows side (rows side ++ [e]) .cloudSide) := by
  cases side with
  | localSide =>
    have hcloud : Function.update rows .localSide (rows .localSide ++ [e]) .cloudSide = rows .cloudSide :=
      Function.update_of_ne (by decide) _ _
    rw [Function.update_self, hcloud, List.append_assoc, List.append_assoc]
    exact List.Perm.append_left _ List.perm_append_comm
  | cloudSide =>
    have hlocal : Function.update rows .cloudSide (rows .cloudSide ++ [e]) .localSide = rows .localSide :=
      Function.update_of_ne (by decide) _ _
    rw [Function.update_self, hlocal, List.append_assoc]

theorem State.Kept.step {a : Action} (h : s.Kept log₀) (hs : Inserts.step s a = some s') : s'.Kept log₀ := by
  cases outcome_of_step hs with
  | @bound side event hcall =>
    refine ⟨h.stored, fun side' => ?_, h.increasing⟩
    have hevents := h.events side'
    by_cases hside : side' = side
    · subst hside
      rw [hcall] at hevents
      simp [← hevents, Call.unstored]
    · simpa [Function.update_of_ne hside] using hevents
  | @executed side now event hcall =>
    refine ⟨?_, fun side' => ?_, fun side' => ?_⟩
    · have hnew := h.stored.append_right [s.newRow now event]
      rw [List.append_assoc] at hnew
      exact hnew.trans (List.Perm.append_left _ (perm_update s.rows side _))
    · have hevents := h.events side'
      by_cases hside : side' = side
      · subst hside
        rw [hcall] at hevents
        simpa [Call.unstored, State.newRow, Vda5050Event.content] using hevents
      · simpa [Function.update_of_ne hside] using hevents
    · by_cases hside : side' = side
      · subst hside
        simp only [Function.update_self]
        rw [List.pairwise_append]
        refine ⟨h.increasing side', List.pairwise_singleton _ _, fun e he e' he' => ?_⟩
        have hle := h.id_le_lastId he
        rw [List.mem_singleton.1 he']
        exact Nat.lt_succ_of_le hle
      · simpa [Function.update_of_ne hside] using h.increasing side'
  | @returned side hcall =>
    refine ⟨h.stored, fun side' => ?_, h.increasing⟩
    have hevents := h.events side'
    by_cases hside : side' = side
    · subst hside
      rw [hcall] at hevents
      simpa [Call.unstored] using hevents
    · simpa [Function.update_of_ne hside] using hevents

theorem kept_of_reachable (h : (system log₀).Reachable s) : s.Kept log₀ := by
  refine System.Reach.invariant (I := State.Kept log₀) (fun s hs => ?_) (fun s a s' _ hI _ hs => hI.step hs) h
  obtain rfl : s = { log := log₀ } := hs
  exact ⟨by simp, fun _ => rfl, fun _ => List.Pairwise.nil⟩

/-- The table with inserts that take one step each. -/
def atomic (log₀ : EventLog) : System EventLog (String × Vda5050Event) :=
  .ofStep log₀ fun log x => some (log.insert x.1 x.2)

/-- The table does not tell that a call takes several steps. -/
theorem atomic_of_reachable (h : (system log₀).Reachable s) : (atomic log₀).Reachable s.log := by
  refine h.map State.log (fun s hs => ?_) fun s a s' _ hs => ?_
  · obtain rfl : s = { log := log₀ } := hs
    rfl
  · cases outcome_of_step hs with
    | bound => exact .inl rfl
    | @executed side now event => exact .inr ⟨(now, event), trivial, rfl⟩
    | returned => exact .inl rfl

/-! ### The ids returned -/

/-- The id that a call would read now. -/
def State.unread (s : State) (side : Side) : List Nat :=
  if s.call side = .executed then [s.lastInsertRowid] else []

/-- The ids that the calls of a thread have returned, and would return now, are those of its rows. -/
def State.Own (s : State) (side : Side) : Prop := s.returned side ++ s.unread side = (s.rows side).map Vda5050Event.id

/-- No thread executes its statement while the other has executed one and has still to ask for the id. -/
def NoOverlap (s : State) : Action → Prop
  | .exec side _ => ∀ side', side' ≠ side → s.call side' ≠ .executed
  | _ => True

theorem Own.congr {side : Side} (hcall : s'.call side = s.call side)
    (hlast : s.call side = .executed → s'.lastInsertRowid = s.lastInsertRowid)
    (hreturned : s'.returned side = s.returned side) (hrows : s'.rows side = s.rows side) :
    s'.Own side ↔ s.Own side := by
  have hunread : s'.unread side = s.unread side := by
    unfold State.unread
    rw [hcall]
    split
    · next hexecuted => rw [hlast hexecuted]
    · rfl
  rw [State.Own, State.Own, hunread, hreturned, hrows]

/-- The steps of a thread neither make its ids right nor wrong. -/
private theorem own_iff_of_step {a : Action} (hs : step s a = some s') (side : Side)
    (hother : ∀ side' now, a = .exec side' now → side ≠ side' → s.call side ≠ .executed) :
    s'.Own side ↔ s.Own side := by
  cases outcome_of_step hs with
  | @bound side' event hcall =>
    by_cases hside : side = side'
    · subst hside
      simp [State.Own, State.unread, hcall]
    · exact Own.congr (Function.update_of_ne hside _ _) (fun _ => rfl) rfl rfl
  | @executed side' now event hcall =>
    by_cases hside : side = side'
    · subst hside
      simp [State.Own, State.unread, hcall, State.newRow]
    · have hnot := hother side' now rfl hside
      exact Own.congr (Function.update_of_ne hside _ _) (fun hexecuted => absurd hexecuted hnot) rfl
        (Function.update_of_ne hside _ _)
  | @returned side' hcall =>
    by_cases hside : side = side'
    · subst hside
      simp [State.Own, State.unread, hcall]
    · exact Own.congr (Function.update_of_ne hside _ _) (fun _ => rfl) (Function.update_of_ne hside _ _) rfl

/-- A thread whose statement is followed by one of the other thread reads a wrong id. -/
private theorem not_own_of_overlap {side side' : Side} {now : String} (h : s.Kept log₀)
    (hcall : s.call side = .executed)
    (hside : side ≠ side') (hs : step s (.exec side' now) = some s') : ¬ s'.Own side := by
  cases outcome_of_step hs with
  | @executed side' now event hcall' =>
    intro hown
    have hids : s.returned side ++ [s.log.lastId + 1] = (s.rows side).map Vda5050Event.id := by
      simpa [State.Own, State.unread, Function.update_of_ne hside, hcall] using hown
    have hmem : s.log.lastId + 1 ∈ (s.rows side).map Vda5050Event.id := by
      rw [← hids]
      exact List.mem_append_right _ (List.mem_singleton_self _)
    obtain ⟨e, he, hid⟩ := List.mem_map.1 hmem
    have hle := h.id_le_lastId he
    omega

/-- Each event is stored once, the ids of a thread increase, and its calls have returned the ids of its rows. -/
structure State.Identities (log₀ : EventLog) (s : State) : Prop extends s.Kept log₀ where
  returned : ∀ side, ∃ ids, s.returned side ++ ids = (s.rows side).map Vda5050Event.id ∧
    ids.length = if s.call side = .executed then 1 else 0

private theorem length_unread (s : State) (side : Side) :
    (s.unread side).length = if s.call side = .executed then 1 else 0 := by
  unfold State.unread
  split <;> rfl

theorem identities_of_reach (h : (system log₀).Reach NoOverlap s) : s.Identities log₀ := by
  have hown : ∀ side, s.Own side := by
    refine System.Reach.invariant (I := fun s => ∀ side, s.Own side) (fun s hs => ?_) (fun s a s' _ hI ha hs => ?_) h
    · obtain rfl : s = { log := log₀ } := hs
      exact fun _ => rfl
    · intro side
      refine (own_iff_of_step hs side fun side' now heq hside => ?_).2 (hI side)
      subst heq
      exact ha side hside
  exact ⟨kept_of_reachable h.reachable, fun side => ⟨s.unread side, hown side, length_unread s side⟩⟩

/-- A thread that has read a wrong id, or is about to, does not get rid of it. -/
private theorem not_own_step {a : Action} {side : Side} (hk : s.Kept log₀) (h : ¬ s.Own side)
    (hs : step s a = some s') :
    ¬ s'.Own side := by
  by_cases hoverlap : ∃ side' now, a = .exec side' now ∧ side ≠ side' ∧ s.call side = .executed
  · obtain ⟨side', now, rfl, hside, hcall⟩ := hoverlap
    exact not_own_of_overlap hk hcall hside hs
  · have hiff := own_iff_of_step hs side fun side' now heq hside hcall => hoverlap ⟨side', now, heq, hside, hcall⟩
    rwa [hiff]

/-- When no thread has still to ask for an id and all ids are right, no two inserts have overlapped. -/
theorem reach_of_identities (h : (system log₀).Reachable s) (hread : ∀ side, s.call side ≠ .executed)
    (hs : s.Identities log₀) : (system log₀).Reach NoOverlap s := by
  have heither : (system log₀).Reach NoOverlap s ∨ ∃ side, ¬ s.Own side := by
    refine System.Reach.invariant (I := fun s => (system log₀).Reach NoOverlap s ∨ ∃ side, ¬ s.Own side)
      (fun s hs => .inl (.init hs)) (fun s a s' hreach hI _ hs => ?_) h
    have hk := kept_of_reachable hreach
    rcases hI with halone | ⟨side, hwrong⟩
    · by_cases ha : NoOverlap s a
      · exact .inl (halone.step ha hs)
      · cases a with
        | exec side now =>
          obtain ⟨side', hside, hcall⟩ : ∃ side', side' ≠ side ∧ s.call side' = .executed := by
            simpa [NoOverlap] using ha
          exact .inr ⟨side', not_own_of_overlap hk hcall hside hs⟩
        | bind => exact absurd trivial ha
        | getLastInsertRowid => exact absurd trivial ha
    · exact .inr ⟨side, not_own_step hk hwrong hs⟩
  rcases heither with halone | ⟨side, hwrong⟩
  · exact halone
  · obtain ⟨ids, hids, hlength⟩ := hs.returned side
    rw [if_neg (hread side), List.length_eq_zero_iff] at hlength
    refine absurd ?_ hwrong
    rw [State.Own, State.unread, if_neg (hread side), ← hids, hlength]

/-! ### Two calls -/

private theorem forall_side {p : Side → Prop} : (∀ side, p side) ↔ p .localSide ∧ p .cloudSide := by
  refine ⟨fun h => ⟨h _, h _⟩, fun h side => ?_⟩
  cases side with
  | localSide => exact h.1
  | cloudSide => exact h.2

instance (s : State) : (a : Action) → Decidable (NoOverlap s a)
  | .exec _ _ => decidable_of_iff' _ forall_side
  | .bind _ _ => .isTrue trivial
  | .getLastInsertRowid _ => .isTrue trivial

/-- A state and an order, as they are handed to `insert`. -/
def stateEvent : Vda5050Event :=
  ⟨0, "state", "acme.7", "", "acme", "7", "acme.7", "uplink", some 1, some "3.0.0", some "", "\x7b\x7d"⟩

def orderEvent : Vda5050Event :=
  ⟨0, "order", "o1", "", "acme", "7", "acme.7", "downlink", some 1, some "3.0.0", some "", "\x7b\x7d"⟩

theorem identities_sequential :
    ∃ s, (system .empty).Reach NoOverlap s ∧ s.returned .localSide = [1] ∧ s.returned .cloudSide = [2] ∧
      s.Identities .empty := by
  have hrun : ∃ s, replay (guarded step NoOverlap) { log := .empty } [.bind .localSide stateEvent,
      .bind .cloudSide orderEvent, .exec .localSide "", .getLastInsertRowid .localSide, .exec .cloudSide "",
      .getLastInsertRowid .cloudSide] = some s ∧ s.returned .localSide = [1] ∧ s.returned .cloudSide = [2] :=
    ⟨_, rfl, rfl, rfl⟩
  obtain ⟨s, hs, hlocal, hcloud⟩ := hrun
  have hreach : (system .empty).Reach NoOverlap s := reach_of_replay (.init rfl) hs
  exact ⟨s, hreach, hlocal, hcloud, identities_of_reach hreach⟩

/-- The local thread is told the id of the order. -/
theorem not_identities_of_overlap :
    ¬ ∀ (log₀ : EventLog) (s : State), (system log₀).Reachable s → s.Identities log₀ := by
  intro h
  have hrun : ∃ s, replay step { log := .empty } [.bind .localSide stateEvent, .bind .cloudSide orderEvent,
      .exec .localSide "", .exec .cloudSide "", .getLastInsertRowid .localSide] = some s ∧
      s.returned .localSide = [2] ∧ (s.rows .localSide).map Vda5050Event.id = [1] := ⟨_, rfl, rfl, rfl⟩
  obtain ⟨s, hs, hreturned, hrows⟩ := hrun
  have hreach : (system .empty).Reachable s := reachable_of_replay (.init rfl) hs
  obtain ⟨ids, hids, -⟩ := (h .empty s hreach).returned .localSide
  rw [hreturned, hrows] at hids
  simp at hids

end SyriusOrbit.Inserts

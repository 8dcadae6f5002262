import SyriusOrbit.Projection.Cqrs
import SyriusOrbit.Transition.Fairness

/-!
# Eventual consistency

Runs of the two sides of the database that go on forever.  If from a time on nothing is inserted and nothing fails, and
the projection thread runs on, then it comes to the end of a cycle that was begun after that time, since each of its
steps brings the end of the cycle nearer (`Phase.rank`).  From then on the lookups tell what the recorded messages tell
(`eventually_consistent`).
-/

namespace SyriusOrbit.Projection

open JsonFormat Vda5050 Mqtt Db Sql Transition

namespace CqrsAction

/-- The steps while nothing is inserted and nothing fails; messages may be received, and fail to be recorded. -/
def Calm : CqrsAction → Prop
  | .dispatch .. | .insertThrows _ => True
  | a => a.Projects

theorem calm_of_projects {a : CqrsAction} (h : a.Projects) : a.Calm := by
  cases a with
  | dispatch | insert | insertThrows | queryThrows | projectThrows | restart => exact h.elim
  | _ => trivial

end CqrsAction

namespace Cqrs

variable [JsonLibrary] [Library]

/-- What a calm step is. -/
private theorem cases_of_calm {s s' : Cqrs} {a : CqrsAction} (ha : a.Calm) (hs : s.step a = some s') :
    (¬ a.Projects ∧ s'.phase = s.phase) ∨
      (a = .wake ∧ s.phase = .waiting ∧ s'.phase = .querying projectors) ∨
      (a = .finish ∧ s.phase ≠ .waiting ∧ s'.phase = .waiting) ∨
      (s.CycleStep a ∧ s.phase ≠ .waiting ∧ s'.phase ≠ .waiting ∧ s'.phase.rank < s.phase.rank) := by
  cases a with
  | dispatch side d =>
    simp only [step] at hs
    split at hs
    · obtain rfl := Option.some.inj hs
      exact .inl ⟨fun h => h, rfl⟩
    · cases hs
  | insertThrows side =>
    simp only [step] at hs
    split at hs
    · cases hs
    · obtain rfl := Option.some.inj hs
      exact .inl ⟨fun h => h, rfl⟩
  | wake =>
    simp only [step] at hs
    split at hs
    · next hphase =>
      obtain rfl := Option.some.inj hs
      exact .inr (.inl ⟨rfl, hphase, rfl⟩)
    · cases hs
  | query rows =>
    simp only [step] at hs
    split at hs
    · next entry entries hphase =>
      obtain ⟨-, hs⟩ := of_guard hs
      obtain rfl := Option.some.inj hs
      refine .inr (.inr (.inr ⟨trivial, by simp [hphase], by simp, ?_⟩))
      rw [hphase]
      exact Phase.rank_queried ..
    · cases hs
  | project =>
    simp only [step] at hs
    split at hs
    · next entry event rows entries hphase =>
      obtain rfl := Option.some.inj hs
      refine .inr (.inr (.inr ⟨trivial, by simp [hphase], by simp, ?_⟩))
      rw [hphase]
      exact Phase.rank_projected ..
    · cases hs
  | next =>
    simp only [step] at hs
    split at hs
    · next entry entries hphase =>
      obtain rfl := Option.some.inj hs
      refine .inr (.inr (.inr ⟨trivial, by simp [hphase], by simp, ?_⟩))
      rw [hphase]
      exact Phase.rank_advanced ..
    · cases hs
  | finish =>
    simp only [step] at hs
    split at hs
    · next hphase =>
      obtain rfl := Option.some.inj hs
      exact .inr (.inr (.inl ⟨rfl, by simp [hphase], rfl⟩))
    · cases hs
  | insert | queryThrows | projectThrows | restart => exact ha.elim

/-- A calm step inserts nothing. -/
private theorem kept_of_calm {s s' : Cqrs} {a : CqrsAction} (ha : a.Calm) (hs : s.step a = some s') :
    (s'.recorded, s'.events) = (s.recorded, s.events) := by
  cases a with
  | insert | queryThrows | projectThrows | restart => exact ha.elim
  | query rows =>
    simp only [step] at hs
    split at hs
    · obtain ⟨-, hs⟩ := of_guard hs
      obtain rfl := Option.some.inj hs
      rfl
    · cases hs
  | _ =>
    simp only [step] at hs
    split at hs <;> cases hs
    rfl

variable {r : system.Run} {start : Nat}

/-- From a time on all steps are calm. -/
def CalmFrom (r : system.Run) (start : Nat) : Prop := ∀ n, start ≤ n → (r.action n).Calm

private theorem kept_of_calmFrom (hcalm : CalmFrom r start) {n m : Nat} (hn : start ≤ n) (hnm : n ≤ m) :
    ((r.state m).recorded, (r.state m).events) = ((r.state n).recorded, (r.state n).events) := by
  induction m, hnm using Nat.le_induction with
  | base => rfl
  | succ m hnm ih => exact (kept_of_calm (hcalm m (hn.trans hnm)) (r.step m)).trans ih

/-- Again and again the thread comes to the end of a cycle. -/
private theorem exists_waiting (hcalm : CalmFrom r start) (hruns : r.Recurs CqrsAction.Projects) {n : Nat}
    (hn : start ≤ n) :
    ∃ m, n ≤ m ∧ (r.state m).phase = .waiting := by
  have hfair : r.Fair (fun _ => True) CqrsAction.Projects := fun n _ => hruns n
  refine r.eventually_of_rank (fun s => s.phase.rank) (fun s => s.phase = .waiting) hfair
    (fun _ _ _ => trivial) (fun n hn hbusy => ?_) (fun n hn hbusy hprojects => ?_) hn
  · rcases cases_of_calm (hcalm n hn) (r.step n) with ⟨-, hsame⟩ | ⟨-, hidle, -⟩ | ⟨-, -, hidle⟩ | ⟨-, -, -, hlt⟩
    · exact .inr (hsame ▸ le_refl _)
    · exact absurd hidle hbusy
    · exact .inl hidle
    · exact .inr hlt.le
  · rcases cases_of_calm (hcalm n hn) (r.step n) with ⟨hnot, -⟩ | ⟨-, hidle, -⟩ | ⟨-, -, hidle⟩ | ⟨-, -, -, hlt⟩
    · exact absurd hprojects hnot
    · exact absurd hidle hbusy
    · exact .inl hidle
    · exact .inr hlt

/-- A thread that sleeps wakes up. -/
private theorem exists_wake (hcalm : CalmFrom r start) (hruns : r.Recurs CqrsAction.Projects) {n : Nat} (hn : start ≤ n)
    (hidle : (r.state n).phase = .waiting) : ∃ m, n ≤ m ∧ r.action m = .wake := by
  obtain ⟨m, hm, hprojects, hbefore⟩ := exists_first (hruns n)
  have hstill : (r.state m).phase = .waiting := by
    have hkept : ∀ i, n ≤ i → i ≤ m → (r.state i).phase = .waiting := by
      intro i hi him
      induction i, hi using Nat.le_induction with
      | base => exact hidle
      | succ i hi ih =>
        have hphase := ih (Nat.le_of_succ_le him)
        rcases cases_of_calm (hcalm i (hn.trans hi)) (r.step i) with
          ⟨-, hsame⟩ | ⟨hwake, -, -⟩ | ⟨-, hbusy, -⟩ | ⟨-, hbusy, -, -⟩
        · exact hsame.trans hphase
        · exact absurd (by rw [hwake]; trivial) (hbefore i hi him)
        · exact absurd hphase hbusy
        · exact absurd hphase hbusy
    exact hkept m hm le_rfl
  rcases cases_of_calm (hcalm m (hn.trans hm)) (r.step m) with
    ⟨hnot, -⟩ | ⟨hwake, -, -⟩ | ⟨-, hbusy, -⟩ | ⟨-, hbusy, -, -⟩
  · exact absurd hprojects hnot
  · exact ⟨m, hm, hwake⟩
  · exact absurd hstill hbusy
  · exact absurd hstill hbusy

/-- Every message that is received is read back as it is written. -/
def ParsesAll (r : system.Run) : Prop := ∀ n, (r.state n).ParsesMessages (r.action n)

theorem parsesMessages_of_projects {s : Cqrs} {a : CqrsAction} (h : a.Projects) : s.ParsesMessages a := by
  cases a with
  | dispatch => exact h.elim
  | _ => trivial

private theorem cycleStep_of_not_projects {s : Cqrs} {a : CqrsAction} (ha : a.Calm) (hnot : ¬ a.Projects)
    (hparses : s.ParsesMessages a) : s.CycleStep a := by
  cases a with
  | dispatch => exact hparses
  | insertThrows => trivial
  | insert | queryThrows | projectThrows | restart => exact ha.elim
  | _ => exact absurd trivial hnot

/-- The thread begins a cycle and comes to its end. -/
private theorem exists_cycle (hcalm : CalmFrom r start) (hruns : r.Recurs CqrsAction.Projects) (hparses : ParsesAll r) :
    ∃ n m, start ≤ n ∧ n ≤ m ∧ (r.state n).CompleteCycle (r.state m) := by
  obtain ⟨w, hw, hidle⟩ := exists_waiting hcalm hruns (le_refl start)
  obtain ⟨n, hn, hwake⟩ := exists_wake hcalm hruns hw hidle
  have hstart : start ≤ n := hw.trans hn
  obtain ⟨m, hm, hdone, hbusy⟩ := exists_first (exists_waiting hcalm hruns (hstart.trans (Nat.le_succ n)))
  have hwoken : (r.state (n + 1)).phase = .querying projectors := by
    rcases cases_of_calm (hcalm n hstart) (r.step n) with ⟨hnot, -⟩ | ⟨-, -, hphase⟩ | ⟨hfinish, -⟩ | ⟨hcycle, -⟩
    · exact absurd (by rw [hwake]; trivial) hnot
    · exact hphase
    · rw [hwake] at hfinish
      cases hfinish
    · rw [hwake] at hcycle
      exact hcycle.elim
  obtain ⟨l, rfl⟩ : ∃ l, m = l + 1 := Nat.exists_eq_succ_of_ne_zero (by omega)
  have hl : n + 1 ≤ l := by
    by_contra hlt
    obtain rfl : n = l := by omega
    rw [hwoken] at hdone
    cases hdone
  have hcycle : ∀ i, n + 1 ≤ i → i < l → (r.state i).CycleStep (r.action i) := by
    intro i hi hil
    rcases cases_of_calm (hcalm i (by omega)) (r.step i) with
      ⟨hnot, -⟩ | ⟨-, hphase, -⟩ | ⟨-, -, hphase⟩ | ⟨hcycle, -⟩
    · exact cycleStep_of_not_projects (hcalm i (by omega)) hnot (hparses i)
    · exact absurd hphase (hbusy i hi (by omega))
    · exact absurd hphase (hbusy (i + 1) (by omega) (by omega))
    · exact hcycle
  have hfinish : r.action l = .finish := by
    rcases cases_of_calm (hcalm l (by omega)) (r.step l) with
      ⟨-, hphase⟩ | ⟨-, hphase, -⟩ | ⟨hfinish, -⟩ | ⟨-, -, hphase, -⟩
    · exact absurd (hphase.symm.trans hdone) (hbusy l hl (by omega))
    · exact absurd hphase (hbusy l hl (by omega))
    · exact hfinish
    · exact absurd hdone hphase
  have hfirst := r.step n
  have hlast := r.step l
  rw [hwake] at hfirst
  rw [hfinish] at hlast
  exact ⟨n, l + 1, hstart, by omega, _, _, hfirst, r.reach hl hcycle, hlast⟩

/-- If from a time on nothing is inserted and nothing fails and the projection thread runs on, then at some time a cycle
has been run to its end, and nothing is inserted afterwards. -/
theorem exists_settled {r : system.Run} (hreach : system.Reach ParsesMessages (r.state 0)) (hparses : ParsesAll r)
    {start : Nat} (hcalm : CalmFrom r start) (hruns : r.Recurs CqrsAction.Projects) :
    ∃ m, ∀ n, m ≤ n → (r.state n).Settled ∧ (r.state n).recorded = (r.state start).recorded := by
  obtain ⟨b, m, hb, hbm, hcycle⟩ := exists_cycle hcalm hruns hparses
  refine ⟨m, fun n hn => ?_⟩
  have hbegun : system.Reach ParsesMessages (r.state b) :=
    hreach.trans (r.reach (Nat.zero_le b) fun i _ _ => hparses i)
  have hevents := (Prod.mk.inj (kept_of_calmFrom hcalm hb (hbm.trans hn))).2
  have hrecorded := (Prod.mk.inj (kept_of_calmFrom hcalm le_rfl ((hb.trans hbm).trans hn))).1
  exact ⟨⟨r.state b, r.state m, hbegun, hcycle, r.reach hn fun i _ _ => hparses i, hevents⟩, hrecorded⟩

/-- In a run from the empty database, if from a time on nothing is inserted and nothing fails and the projection thread
runs on, then at some time the lookups tell what the messages recorded by then tell, and they do so for good. -/
theorem eventually_consistent (hobjects : DumpsObjects) (harrays : DumpsArrays) {r : system.Run}
    (hinit : r.state 0 = {}) (hparses : ParsesAll r) {start : Nat} (hcalm : CalmFrom r start)
    (hruns : r.Recurs CqrsAction.Projects) :
    ∃ m, ∀ n, m ≤ n → (r.state n).Answers (Fleet.receiveAll {} (r.state start).recorded) := by
  obtain ⟨m, hm⟩ := exists_settled (.init hinit) hparses hcalm hruns
  refine ⟨m, fun n hn => ?_⟩
  obtain ⟨hsettled, hrecorded⟩ := hm n hn
  rw [← hrecorded]
  exact hsettled.answers hobjects harrays

/-! ### A robot goes online and offline -/

/-- What the projection thread does next if nothing fails. -/
def next (s : Cqrs) : CqrsAction × Cqrs :=
  match s.phase with
  | .waiting => (.wake, { s with phase := .querying projectors })
  | .querying [] => (.finish, { s with phase := .waiting })
  | .querying (entry :: entries) =>
    (.query (Vda5050EventsRepository.findLatestByTopic s.events entry.topic), { s with
      phase := .projecting entry (Vda5050EventsRepository.findLatestByTopic s.events entry.topic) entries })
  | .projecting _ [] entries => (.next, { s with phase := .querying entries })
  | .projecting entry (event :: rows) entries =>
    (.project, { s with
      tables := s.tables.execUntil (statementsOf entry.topic event)
      phase := .projecting entry rows entries })

theorem step_next (s : Cqrs) : s.next.1.Projects ∧ s.step s.next.1 = some s.next.2 := by
  unfold next
  split <;> next hphase => exact ⟨trivial, by simp [step, hphase]⟩

omit [JsonLibrary] [Library] in
/-- Two messages of a robot, and cycles for good. -/
theorem eventually_consistent_offline :
    letI := JsonLibrary.ofTexts connectionTexts
    letI := Library.ofDigits
    ∃ r : system.Run, (r.state 4).recorded = [wentOnline, wentOffline] ∧
      ∃ m, ∀ n, m ≤ n → (r.state n).Answers (Fleet.receiveAll {} [wentOnline, wentOffline]) := by
  let lib := JsonLibrary.ofTexts connectionTexts
  let sqlLib := Library.ofDigits
  obtain ⟨s, s', events, events', hdispatch, hinsert, hdispatch', hinsert'⟩ := steps_acme
  let online : Cqrs := { events, recorded := [wentOnline] }
  let offline : Cqrs := { events := events', recorded := [wentOnline, wentOffline] }
  let cycles : system.Run := .iterate next (fun s => (step_next s).2) offline
  let again : system.Run := (cycles.cons (s := s') (a := .insert .localSide "2026-01-01T01:00:00Z") hinsert').cons
    (s := online) (a := .dispatch .localSide wentOffline) hdispatch'
  let r : system.Run := (again.cons (s := s) (a := .insert .localSide "2026-01-01T00:00:05Z") hinsert).cons
    (s := {}) (a := .dispatch .localSide wentOnline) hdispatch
  have hprojects : ∀ n, (r.action (n + 4)).Projects := fun n => (step_next (cycles.state n)).1
  have hparses : ParsesAll r := by
    rintro (_ | _ | _ | _ | n)
    · exact parsesBack_acme.1
    · trivial
    · exact parsesBack_acme.2
    · trivial
    · exact parsesMessages_of_projects (hprojects n)
  have hcalm : CalmFrom r 4 := by
    intro n hn
    obtain ⟨i, rfl⟩ := Nat.exists_eq_add_of_le' hn
    exact CqrsAction.calm_of_projects (hprojects i)
  have hruns : r.Recurs CqrsAction.Projects := fun n => ⟨n + 4, by omega, hprojects n⟩
  exact ⟨r, rfl, eventually_consistent dumps_acme.1 dumps_acme.2 rfl hparses hcalm hruns⟩

end Cqrs

end SyriusOrbit.Projection

import SyriusOrbit.Projection.Engine

/-!
# Cycles as single steps

A cycle of the engine in which nothing fails does what `cycle` does in one step with the rows of its queries, each of
which has seen a log that is not shorter than that of the query before (`exists_cycle_of_completeCycle`).  Without
insertions in between the two are the same (`quietCycle_iff`), so that the results on `cycle` hold of the engine.
-/

namespace SyriusOrbit.Projection

open JsonFormat Vda5050 Db Sql Transition

variable [JsonLibrary]

/-- The rows of the entries are those of queries one after another, from the first log to the second. -/
def QueriedAlong (rowsOf : String → List Vda5050Event) (log : EventLog) : List Entry → EventLog → Prop
  | [], log' => log.events <+: log'.events
  | entry :: entries, log' => ∃ queried : EventLog, log.events <+: queried.events ∧
      (rowsOf entry.topic).Perm (queried.findLatestByTopic entry.topic) ∧ QueriedAlong rowsOf queried entries log'

omit [JsonLibrary] in
theorem QueriedAlong.mono {rowsOf : String → List Vda5050Event} {log log' log'' : EventLog} {entries : List Entry}
    (h : QueriedAlong rowsOf log entries log') (hgrows : log'.events <+: log''.events) :
    QueriedAlong rowsOf log entries log'' := by
  induction entries generalizing log with
  | nil => exact List.IsPrefix.trans h hgrows
  | cons entry entries ih =>
    obtain ⟨queried, hqueried, hperm, hrest⟩ := h
    exact ⟨queried, hqueried, hperm, ih hrest⟩

omit [JsonLibrary] in
/-- One more query, in which the rows of the entries before stay. -/
theorem QueriedAlong.append {rowsOf rowsOf' : String → List Vda5050Event} {log log' : EventLog} {entries : List Entry}
    (h : QueriedAlong rowsOf log entries log') (hsame : ∀ entry ∈ entries, rowsOf' entry.topic = rowsOf entry.topic)
    {entry : Entry} (hrows : (rowsOf' entry.topic).Perm (log'.findLatestByTopic entry.topic)) :
    QueriedAlong rowsOf' log (entries ++ [entry]) log' := by
  induction entries generalizing log with
  | nil => exact ⟨log', h, hrows, List.prefix_rfl⟩
  | cons first entries ih =>
    obtain ⟨queried, hqueried, hperm, hrest⟩ := h
    refine ⟨queried, hqueried, ?_, ih hrest fun entry hentry => hsame entry (List.mem_cons_of_mem first hentry)⟩
    rwa [hsame first List.mem_cons_self]

omit [JsonLibrary] in
private theorem foldl_projectTopic_congr {rowsOf rowsOf' : String → List Vda5050Event} {entries : List Entry}
    (hsame : ∀ entry ∈ entries, rowsOf' entry.topic = rowsOf entry.topic) (db : ReadModel) :
    entries.foldl (projectTopic rowsOf') db = entries.foldl (projectTopic rowsOf) db := by
  induction entries generalizing db with
  | nil => rfl
  | cons entry entries ih =>
    have hentry : projectTopic rowsOf' db entry = projectTopic rowsOf db entry := by
      rw [projectTopic, hsame entry List.mem_cons_self]
      rfl
    rw [List.foldl_cons, List.foldl_cons, hentry]
    exact ih (fun entry' hentry' => hsame entry' (List.mem_cons_of_mem entry hentry')) _

private theorem nodup_topics : (projectors.map Entry.topic).Nodup := by
  have htopics : projectors.map Entry.topic = [ConnectionProjector.topic, StateProjector.topic,
      FactsheetProjector.topic, OrderProjector.topic, InstantActionsProjector.topic, ResponsesProjector.topic] := rfl
  rw [htopics]
  decide

/-- What a cycle has done when the thread is in a phase: the entries before are done with the rows of their queries,
and of the entry in hand, some of its rows. -/
structure Midway (begun : Engine) (s : Engine) : Prop where
  querying : ∀ entries, s.phase = .querying entries → ∃ done rowsOf, projectors = done ++ entries ∧
    QueriedAlong rowsOf begun.log done s.log ∧ s.db = done.foldl (projectTopic rowsOf) begun.db
  projecting : ∀ entry rows entries, s.phase = .projecting entry rows entries → ∃ done rowsOf before,
    projectors = done ++ entry :: entries ∧ rowsOf entry.topic = before ++ rows ∧
      QueriedAlong rowsOf begun.log (done ++ [entry]) s.log ∧
      s.db = before.foldl (fun db event => (runOn (entry.project event) db).2)
        (done.foldl (projectTopic rowsOf) begun.db)

namespace Midway

variable {begun s s' : Engine}

theorem query (h : Midway begun s) {entry : Entry} {entries : List Entry} {rows : List Vda5050Event}
    (hphase : s.phase = .querying (entry :: entries)) (hrows : rows.Perm (s.log.findLatestByTopic entry.topic)) :
    Midway begun { s with phase := .projecting entry rows entries } where
  querying := by simp
  projecting := by
    rintro _ _ _ ⟨⟩
    obtain ⟨done, rowsOf, hdone, hqueried, hdb⟩ := h.querying _ hphase
    have hsame : ∀ first ∈ done, Function.update rowsOf entry.topic rows first.topic = rowsOf first.topic := by
      intro first hfirst
      have hnodup := nodup_topics
      rw [hdone, List.map_append, List.map_cons, List.nodup_append] at hnodup
      exact Function.update_of_ne (hnodup.2.2 _ (List.mem_map_of_mem hfirst) _ List.mem_cons_self) ..
    refine ⟨done, Function.update rowsOf entry.topic rows, [], hdone, Function.update_self .., ?_, ?_⟩
    · refine hqueried.append hsame ?_
      rwa [Function.update_self]
    · rw [foldl_projectTopic_congr hsame]
      exact hdb

theorem project (h : Midway begun s) {entry : Entry} {event : Vda5050Event} {rows : List Vda5050Event}
    {entries : List Entry} (hphase : s.phase = .projecting entry (event :: rows) entries) :
    Midway begun { s with db := (runOn (entry.project event) s.db).2, phase := .projecting entry rows entries } where
  querying := by simp
  projecting := by
    rintro _ _ _ ⟨⟩
    obtain ⟨done, rowsOf, before, hdone, hrows, hqueried, hdb⟩ := h.projecting _ _ _ hphase
    refine ⟨done, rowsOf, before ++ [event], hdone, by simp [hrows], hqueried, ?_⟩
    rw [List.foldl_append, ← hdb]
    rfl

theorem next (h : Midway begun s) {entry : Entry} {entries : List Entry}
    (hphase : s.phase = .projecting entry [] entries) : Midway begun { s with phase := .querying entries } where
  projecting := by simp
  querying := by
    rintro _ ⟨⟩
    obtain ⟨done, rowsOf, before, hdone, hrows, hqueried, hdb⟩ := h.projecting _ _ _ hphase
    refine ⟨done ++ [entry], rowsOf, by simpa using hdone, hqueried, ?_⟩
    rw [List.foldl_append, List.foldl_cons, List.foldl_nil, projectTopic, hrows, List.append_nil]
    exact hdb

theorem insert (h : Midway begun s) (now : String) (event : Vda5050Event) :
    Midway begun { s with log := s.log.insert now event } where
  querying entries hphase := by
    obtain ⟨done, rowsOf, hdone, hqueried, hdb⟩ := h.querying entries hphase
    exact ⟨done, rowsOf, hdone, hqueried.mono (List.prefix_append _ _), hdb⟩
  projecting entry rows entries hphase := by
    obtain ⟨done, rowsOf, before, hdone, hrows, hqueried, hdb⟩ := h.projecting entry rows entries hphase
    exact ⟨done, rowsOf, before, hdone, hrows, hqueried.mono (List.prefix_append _ _), hdb⟩

theorem step {a : EngineAction} (h : Midway begun s) (ha : CycleStep s a) (hs : s.step a = some s') :
    Midway begun s' := by
  cases Engine.outcome_of_step hs with
  | inserted now event => exact h.insert now event
  | queried hphase hrows => exact h.query hphase hrows
  | projected hphase => exact h.project hphase
  | advanced hphase => exact h.next hphase
  | woken | aborted | failed | finished | restarted => exact ha.elim

end Midway

variable {s s' : Engine}

/-- A cycle of the engine leaves the tables that one step of `cycle` leaves, with the rows of queries at growing
logs. -/
theorem exists_cycle_of_completeCycle (h : CompleteCycle s s') :
    ∃ rowsOf, QueriedAlong rowsOf s.log projectors s'.log ∧ s'.db = cycle rowsOf s.db := by
  obtain ⟨s₁, s₂, hwake, hsteps, hfinish⟩ := h
  cases Engine.outcome_of_step hwake with
  | woken =>
    have hstart : Midway s { s with phase := .querying projectors } := by
      refine ⟨?_, by simp⟩
      rintro _ ⟨⟩
      exact ⟨[], s.log.findLatestByTopic, rfl, List.prefix_rfl, rfl⟩
    have hmidway : Midway s s₂ := by
      refine hsteps.invariant (I := Midway s) (fun t ht => ?_) fun t a t' _ hI ha hs => hI.step ha hs
      obtain rfl : t = { s with phase := .querying projectors } := ht
      exact hstart
    cases Engine.outcome_of_step hfinish with
    | finished hphase =>
      obtain ⟨done, rowsOf, hdone, hqueried, hdb⟩ := hmidway.querying _ hphase
      rw [List.append_nil] at hdone
      subst hdone
      exact ⟨rowsOf, hqueried, hdb⟩

/-! ### Quiet cycles -/

omit [JsonLibrary] in
private theorem QueriedAlong.grows {rowsOf : String → List Vda5050Event} {log log' : EventLog} {entries : List Entry}
    (h : QueriedAlong rowsOf log entries log') : log.events <+: log'.events := by
  induction entries generalizing log with
  | nil => exact h
  | cons entry entries ih =>
    obtain ⟨queried, hqueried, -, hrest⟩ := h
    exact hqueried.trans (ih hrest)

omit [JsonLibrary] in
/-- If the log does not grow, all queries see the same one. -/
private theorem QueriedAlong.perm {rowsOf : String → List Vda5050Event} {log log' : EventLog} {entries : List Entry}
    (h : QueriedAlong rowsOf log entries log') (hevents : log'.events = log.events) :
    ∀ entry ∈ entries, (rowsOf entry.topic).Perm (log.findLatestByTopic entry.topic) := by
  induction entries generalizing log with
  | nil => exact fun _ hentry => absurd hentry List.not_mem_nil
  | cons first entries ih =>
    obtain ⟨queried, hqueried, hperm, hrest⟩ := h
    have hlength := hrest.grows.length_le
    rw [hevents] at hlength
    have hsame : log = queried := EventLog.eq_of_events_eq (hqueried.eq_of_length_le hlength)
    subst hsame
    intro entry hentry
    rcases List.mem_cons.1 hentry with rfl | hentry
    · exact hperm
    · exact ih hrest hevents entry hentry

section

variable {S : System Engine EngineAction} (hS : ∀ s a s', s.step a = some s' → S.step s a s')

include hS

private theorem reach_rows {entry : Entry} {rows : List Vda5050Event} {entries : List Entry} {db : ReadModel}
    (h : S.Reach CycleStep { s with db, phase := .projecting entry rows entries }) :
    S.Reach CycleStep
      { s with
        db := rows.foldl (fun db event => (runOn (entry.project event) db).2) db
        phase := .querying entries } := by
  induction rows generalizing db with
  | nil => exact h.step (a := .next) trivial (hS _ _ _ rfl)
  | cons event rows ih => exact ih (h.step (a := .project) trivial (hS _ _ _ rfl))

private theorem reach_entries {rowsOf : String → List Vda5050Event} (hq : IsQueryResult s.log rowsOf)
    {entries : List Entry} {db : ReadModel} (h : S.Reach CycleStep { s with db, phase := .querying entries }) :
    S.Reach CycleStep { s with db := entries.foldl (projectTopic rowsOf) db, phase := .querying [] } := by
  induction entries generalizing db with
  | nil => exact h
  | cons entry entries ih =>
    refine ih (reach_rows hS (h.step (a := .query (rowsOf entry.topic)) trivial (hS _ _ _ ?_)))
    have hguard : ¬¬(rowsOf entry.topic).Perm (s.log.findLatestByTopic entry.topic) := not_not.2 (hq entry.topic)
    exact if_neg hguard

end

private theorem completeCycle_of_query (hphase : s.phase = .waiting) {rowsOf : String → List Vda5050Event}
    (hq : IsQueryResult s.log rowsOf) : CompleteCycle s { s with db := cycle rowsOf s.db } := by
  refine ⟨{ s with phase := .querying projectors }, { s with db := cycle rowsOf s.db, phase := .querying [] }, ?_,
    reach_entries (fun _ _ _ hs => hs) hq (.init rfl), ?_⟩
  · simp [Engine.step, hphase]
  · simp [Engine.step, hphase]

/-- A cycle of the engine in which nothing fails and nothing is inserted is one step of `cycle`, with the rows of the
queries in any order. -/
theorem quietCycle_iff : QuietCycle s s' ↔ s.phase = .waiting ∧
    ∃ rowsOf, IsQueryResult s.log rowsOf ∧ s' = { s with db := cycle rowsOf s.db } := by
  constructor
  · rintro ⟨hcomplete, hevents⟩
    obtain ⟨rowsOf, hqueried, hdb⟩ := exists_cycle_of_completeCycle hcomplete
    obtain ⟨s₁, s₂, hwake, -, hfinish⟩ := hcomplete
    cases Engine.outcome_of_step hwake with
    | woken hphase =>
      -- the rows of topics without a projector do not matter
      let rowsOf' := fun topic => if topic ∈ projectors.map Entry.topic then rowsOf topic
        else s.log.findLatestByTopic topic
      have hsame : ∀ entry ∈ projectors, rowsOf' entry.topic = rowsOf entry.topic :=
        fun entry hentry => if_pos (List.mem_map_of_mem hentry)
      refine ⟨hphase, rowsOf', fun topic => ?_, ?_⟩
      · by_cases htopic : topic ∈ projectors.map Entry.topic
        · obtain ⟨entry, hentry, rfl⟩ := List.mem_map.1 htopic
          rw [hsame entry hentry]
          exact hqueried.perm hevents entry hentry
        · exact (if_neg htopic : rowsOf' topic = _) ▸ List.Perm.refl _
      · have hcycle : cycle rowsOf' s.db = cycle rowsOf s.db := foldl_projectTopic_congr hsame s.db
        cases Engine.outcome_of_step hfinish with
        | finished =>
          have hlog : s₂.log = s.log := EventLog.eq_of_events_eq hevents
          rw [hcycle, ← hdb, ← hlog, hphase]
  · rintro ⟨hphase, rowsOf, hq, rfl⟩
    exact ⟨completeCycle_of_query hphase hq, rfl⟩

/-- A cycle of the engine leaves what one step of `cycle` leaves, also when events are inserted between its queries;
and if none are, then it can leave whatever `cycle` does with the rows in some order, and nothing else. -/
theorem cycles_serializable (s s' : Engine) :
    (CompleteCycle s s' →
      ∃ rowsOf, QueriedAlong rowsOf s.log projectors s'.log ∧ s'.db = cycle rowsOf s.db) ∧
    (QuietCycle s s' ↔ s.phase = .waiting ∧
      ∃ rowsOf, IsQueryResult s.log rowsOf ∧ s' = { s with db := cycle rowsOf s.db }) :=
  ⟨exists_cycle_of_completeCycle, quietCycle_iff⟩

/-- A cycle is a run of the engine. -/
theorem CompleteCycle.reach {log₀ : EventLog} {db₀ : ReadModel} (h : CompleteCycle s s') :
    ((Engine.system log₀ db₀).startingAt s).Reachable s' := by
  obtain ⟨s₁, s₂, hwake, hsteps, hfinish⟩ := h
  have hfirst : ((Engine.system log₀ db₀).startingAt s).Reachable s₁ :=
    (System.Reach.init rfl : ((Engine.system log₀ db₀).startingAt s).Reachable s).step (a := .wake) trivial hwake
  have hcycle : ((Engine.system log₀ db₀).startingAt s).Reachable s₂ := hfirst.trans hsteps.reachable
  exact hcycle.step (a := .finish) trivial hfinish

end SyriusOrbit.Projection

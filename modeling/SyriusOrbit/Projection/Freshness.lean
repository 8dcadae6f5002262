import SyriusOrbit.Projection.Atomic

/-!
# What runs of the projection engine show

The engine refines the views of the log: an insertion is received, an event that decodes and is projected is shown, and
all other steps do nothing to the view (`Refines.step`).  From this come the results on whole runs: nothing is replaced
by something older (`shows_newer`), a cycle without failures catches up with the log at its start, whatever is inserted
meanwhile (`covers_of_cycle`), and from then on, until something is inserted, the columns do not depend on how the
engine has come there (`columns_eq_of_settled`).
-/

namespace SyriusOrbit.Projection

open JsonFormat Vda5050 Db Sql Transition

variable [JsonLibrary]

abbrev LogView := Feed.View filing Vda5050Event.id

/-- The system of the views of a log. -/
abbrev views : System LogView (Feed.View.Action Vda5050Event) := Feed.View.system filing Vda5050Event.id

/-- The entries that are not done. -/
def Phase.entries : Phase → List Entry
  | .waiting => []
  | .querying entries => entries
  | .projecting entry _ entries => entry :: entries

/-- The rows in hand, under the topic of their entry, are newest events of an earlier log, in which is all that is
shown. -/
structure Refines (db₀ : ReadModel) (s : Engine) (v : LogView) : Prop where
  events : v.events = s.log.events
  filed : ∀ e ∈ s.log.events, Filed e
  shows : Shows db₀ v.shown s.db
  entries : ∀ entry ∈ s.phase.entries, entry ∈ projectors
  rows : ∃ queried : EventLog, queried.events <+: s.log.events ∧ (∀ k e, v.shown k = some e → e ∈ queried.events) ∧
    ∀ entry rows entries, s.phase = .projecting entry rows entries →
      ∀ e ∈ rows, queried.newest entry.topic e.itemId = some e

/-- What a step does to the view. -/
def viewAction (s : Engine) : EngineAction → Option (Feed.View.Action Vda5050Event)
  | .insert now event => some (.receive { event with id := s.log.lastId + 1, receivedAt := now })
  | .project =>
    match s.phase with
    | .projecting entry (event :: _) _ => if decodes entry.topic event then some (.refresh event) else none
    | _ => none
  | _ => none

/-- The view goes along with a step. -/
def Follows (s : Engine) (a : EngineAction) (v v' : LogView) : Prop :=
  match viewAction s a with
  | none => v' = v
  | some a' => views.step v a' v'

/-- The events that are inserted have a property. -/
def Inserting (p : Vda5050Event → Prop) (_ : Engine) : EngineAction → Prop
  | .insert _ event => p event
  | _ => True

namespace Refines

variable {db₀ : ReadModel} {s s' : Engine} {v : LogView}

theorem mem_of_shown (h : Refines db₀ s v) {k : String × String} {e : Vda5050Event} (he : v.shown k = some e) :
    e ∈ s.log.events :=
  h.events ▸ (v.mem_of_shown k e he).1

/-- The thread goes on without touching the tables. -/
theorem move (h : Refines db₀ s v) {phase : Phase} (hentries : ∀ entry ∈ phase.entries, entry ∈ projectors)
    (hphase : ∀ entry rows entries, phase ≠ .projecting entry rows entries) :
    Refines db₀ { s with phase } v where
  events := h.events
  filed := h.filed
  shows := h.shows
  entries := hentries
  rows := by
    obtain ⟨queried, hqueried, hshown, -⟩ := h.rows
    exact ⟨queried, hqueried, hshown, fun entry rows entries heq => absurd heq (hphase entry rows entries)⟩

/-- The next row is done, and has changed no table that is shown. -/
theorem skip (h : Refines db₀ s v) {entry : Entry} {event : Vda5050Event} {rows : List Vda5050Event}
    {entries : List Entry} (hphase : s.phase = .projecting entry (event :: rows) entries) {db : ReadModel}
    (hdb : Shows db₀ v.shown db) : Refines db₀ { s with db, phase := .projecting entry rows entries } v where
  events := h.events
  filed := h.filed
  shows := hdb
  entries entry' hentry := h.entries entry' (by rwa [hphase])
  rows := by
    obtain ⟨queried, hqueried, hshown, hrows⟩ := h.rows
    refine ⟨queried, hqueried, hshown, ?_⟩
    rintro _ _ _ ⟨⟩ e he
    exact hrows _ _ _ hphase e (List.mem_cons_of_mem event he)

/-- A row that does not decode or whose statement fails leaves the tables that are shown as they are. -/
theorem partially (h : Refines db₀ s v) (entry : Entry) (executed : Nat) (event : Vda5050Event) :
    Shows db₀ v.shown (entry.partially executed event s.db) := by
  unfold Entry.partially
  split
  · exact h.shows.congr (fun _ _ _ => rfl) rfl rfl rfl
  · split
    · exact h.shows.congr (fun _ _ _ => rfl) rfl rfl rfl
    · exact h.shows

/-- A row that decodes is shown. -/
theorem refresh (h : Refines db₀ s v) {entry : Entry} {event : Vda5050Event} {rows : List Vda5050Event}
    {entries : List Entry} (hphase : s.phase = .projecting entry (event :: rows) entries)
    (hdecodes : decodes entry.topic event = true) :
    ∃ v', views.step v (.refresh event) v' ∧ Refines db₀
      { s with db := (runOn (entry.project event) s.db).2, phase := .projecting entry rows entries } v' := by
  obtain ⟨queried, hqueried, hshown, hrows⟩ := h.rows
  have hnewest := hrows _ _ _ hphase event List.mem_cons_self
  obtain ⟨hmem, htopic, -⟩ := EventLog.mem_of_newest hnewest
  have hevent : event ∈ v.events := h.events ▸ hqueried.subset hmem
  have hentry : entry ∈ projectors := h.entries entry (by rw [hphase]; exact List.mem_cons_self)
  refine ⟨v.refresh event hevent, ⟨fun e' he' => ?_, hevent, rfl⟩, ?_⟩
  · -- what is shown was in the log that the row is the newest of
    obtain ⟨-, hkey⟩ := v.mem_of_shown _ e' he'
    have hfiling := Prod.mk.inj hkey
    exact EventLog.id_le_newest hnewest
      (EventLog.mem_group.2 ⟨hshown _ e' he', hfiling.1.trans htopic, hfiling.2⟩)
  · refine ⟨h.events, h.filed, h.shows.project hentry htopic ?_ hdecodes, fun entry' hentry' => ?_, queried, hqueried,
      fun k e he => ?_, ?_⟩
    · exact h.filed event (hqueried.subset hmem)
    · exact h.entries entry' (by rwa [hphase])
    · have he' : Function.update v.shown (filing event) (some event) k = some e := he
      by_cases hk : k = filing event
      · subst hk
        rw [Function.update_self] at he'
        exact Option.some.inj he' ▸ hmem
      · rw [Function.update_of_ne hk] at he'
        exact hshown k e he'
    · rintro _ _ _ ⟨⟩ e he
      exact hrows _ _ _ hphase e (List.mem_cons_of_mem event he)

/-- An event is inserted. -/
theorem insert (h : Refines db₀ s v) (now : String) {event : Vda5050Event} (hfiled : Filed event) :
    ∃ v', views.step v (.receive { event with id := s.log.lastId + 1, receivedAt := now }) v' ∧
      Refines db₀ { s with log := s.log.insert now event } v' := by
  have hsub : s.log.events ⊆ (s.log.insert now event).events := List.subset_append_left _ _
  refine ⟨⟨(s.log.insert now event).events, v.shown, (s.log.insert now event).increasing, fun k e he => ?_⟩,
    ⟨by rw [h.events]; rfl, rfl⟩, rfl, fun e he => ?_, h.shows, h.entries, ?_⟩
  · exact ⟨hsub (h.mem_of_shown he), (v.mem_of_shown k e he).2⟩
  · rcases List.mem_append.1 he with hold | hnew
    · exact h.filed e hold
    · rw [List.mem_singleton.1 hnew]
      exact ⟨hfiled.robot, hfiled.order⟩
  · obtain ⟨queried, hqueried, hshown, hrows⟩ := h.rows
    exact ⟨queried, hqueried.trans (List.prefix_append _ _), hshown, hrows⟩

/-- The rows of a query are the newest events of the log. -/
theorem query (h : Refines db₀ s v) {entry : Entry} {entries : List Entry} {rows : List Vda5050Event}
    (hphase : s.phase = .querying (entry :: entries)) (hrows : rows.Perm (s.log.findLatestByTopic entry.topic)) :
    Refines db₀ { s with phase := .projecting entry rows entries } v where
  events := h.events
  filed := h.filed
  shows := h.shows
  entries entry' hentry := h.entries entry' (by rwa [hphase])
  rows := by
    refine ⟨s.log, List.prefix_rfl, fun k e he => h.mem_of_shown he, ?_⟩
    rintro _ _ _ ⟨⟩ e he
    exact EventLog.mem_findLatestByTopic.1 (hrows.mem_iff.1 he)

/-- For each step of the engine there is the one that the view makes. -/
theorem step {a : EngineAction} (h : Refines db₀ s v) (ha : Inserting Filed s a) (hs : s.step a = some s') :
    ∃ v', Follows s a v v' ∧ Refines db₀ s' v' := by
  unfold Follows
  cases Engine.outcome_of_step hs with
  | inserted now event => exact h.insert now ha
  | woken => exact ⟨v, rfl, h.move (fun _ hentry => hentry) (by simp)⟩
  | queried hphase hrows => exact ⟨v, rfl, h.query hphase hrows⟩
  | aborted => exact ⟨v, rfl, h.move (by simp [Phase.entries]) (by simp)⟩
  | @projected entry event rows entries hphase =>
    cases hdecodes : decodes entry.topic event with
    | true =>
      have haction : viewAction s .project = some (.refresh event) := by simp [viewAction, hphase, hdecodes]
      rw [haction]
      exact h.refresh hphase hdecodes
    | false =>
      have haction : viewAction s .project = none := by simp [viewAction, hphase, hdecodes]
      have hentry : entry ∈ projectors := h.entries entry (by rw [hphase]; exact List.mem_cons_self)
      rw [haction, (failsClean_projectors entry hentry).unchanged event s.db hdecodes]
      exact ⟨v, rfl, h.skip hphase h.shows⟩
  | failed hphase => exact ⟨v, rfl, h.skip hphase (h.partially _ _ _)⟩
  | advanced hphase =>
    refine ⟨v, rfl, h.move (fun entry hentry => h.entries entry ?_) (by simp)⟩
    rw [hphase]
    exact List.mem_cons_of_mem _ hentry
  | finished => exact ⟨v, rfl, h.move (by simp [Phase.entries]) (by simp)⟩
  | restarted => exact ⟨v, rfl, h.move (by simp [Phase.entries]) (by simp)⟩

theorem init {log₀ : EventLog} (hlog : ∀ e ∈ log₀.events, Filed e) :
    ∃ v : LogView, (∀ k, v.shown k = none) ∧ Refines db₀ { log := log₀, db := db₀ } v := by
  refine ⟨⟨log₀.events, fun _ => none, log₀.increasing, by simp⟩, fun _ => rfl, rfl, hlog, ?_, by simp [Phase.entries],
    log₀, List.prefix_rfl, by simp, by simp⟩
  have hprior : ∀ {γ : Type} (c : Robot → γ) (d : γ) (k : String),
      ColumnShown c d none (db₀.robots.find? k) (db₀.robots.find? k) := by
    intro γ c d k r hr
    rw [hr]
    rfl
  refine ⟨fun k => ⟨by simp, hprior _ _ k, hprior _ _ k, hprior _ _ k, hprior _ _ k, fun _ => rfl⟩,
    fun k => ⟨by simp, fun r hr => ?_, fun _ => rfl⟩, rfl⟩
  have hfind : db₀.orders.find? k = some r := hr
  rw [hfind]
  rfl

end Refines

/-- A step of the engine is none or one of the view. -/
theorem Follows.cases {s : Engine} {a : EngineAction} {v v' : LogView} (h : Follows s a v v') :
    v' = v ∨ ∃ a', views.step v a' v' := by
  unfold Follows at h
  split at h
  · exact .inl h
  · exact .inr ⟨_, h⟩

theorem Follows.le {s : Engine} {a : EngineAction} {v v' : LogView} (h : Follows s a v v') : v ≤ v' := by
  rcases h.cases with rfl | ⟨a', h⟩
  · exact le_refl _
  · exact Feed.View.le_of_step h

/-- The property does not depend on what is set on insertion. -/
def OfContent (p : Vda5050Event → Prop) : Prop := ∀ e id now, p { e with id := id, receivedAt := now } → p e

/-- If all events of a log have a property, then those that were inserted had it. -/
private theorem reach_inserting {S : System Engine EngineAction} (hS : ∀ s a s', S.step s a s' → s.step a = some s')
    {allowed : Engine → EngineAction → Prop} {p : Vda5050Event → Prop} (hp : OfContent p) {s : Engine}
    (h : S.Reach allowed s) (hlog : ∀ e ∈ s.log.events, p e) :
    S.Reach (fun s a => allowed s a ∧ Inserting p s a) s := by
  induction h with
  | init h => exact .init h
  | @step s s' a _ ha hs ih =>
    have hgrows := log_grows_of_step (hS _ _ _ hs)
    refine (ih fun e he => hlog e (hgrows.subset he)).step ⟨ha, ?_⟩ hs
    cases a with
    | insert now event =>
      obtain rfl := Option.some.inj (hS _ _ _ hs)
      exact hp event _ _ (hlog _ (List.mem_append_right _ (List.mem_singleton_self _)))
    | _ => trivial

private theorem ofContent_filed : OfContent Filed := fun _ _ _ h => ⟨h.robot, h.order⟩

variable {log₀ log₀' : EventLog} {db₀ : ReadModel} {s s' : Engine}

private theorem refines_of_startingAt {v : LogView} (hR : Refines db₀ s v)
    (h : ((Engine.system log₀ db₀).startingAt s).Reachable s') (hlog : ∀ e ∈ s'.log.events, Filed e) :
    ∃ v', (views.startingAt v).Reachable v' ∧ Refines db₀ s' v' := by
  refine (reach_inserting (fun _ _ _ hs => hs) ofContent_filed h hlog).simulate (fun t ht => ?_)
    fun t a t' v hR ha hs => ?_
  · obtain rfl : t = s := ht
    exact ⟨v, rfl, hR⟩
  · obtain ⟨v', hfollows, hR'⟩ := hR.step ha.2 hs
    rcases hfollows.cases with rfl | ⟨a', hstep⟩
    · exact .inl hR'
    · exact .inr ⟨a', v', trivial, hstep, hR'⟩

theorem refines_of_reachable (h : (Engine.system log₀ db₀).Reachable s) (hlog : ∀ e ∈ s.log.events, Filed e) :
    ∃ v, views.Reachable v ∧ Refines db₀ s v := by
  have hstart : ((Engine.system log₀ db₀).startingAt { log := log₀, db := db₀ }).Reachable s := h
  obtain ⟨v₀, hv₀, hR₀⟩ := Refines.init fun e he => hlog e ((log_grows_of_reach hstart).subset he)
  obtain ⟨v, hv, hR⟩ := refines_of_startingAt hR₀ hstart hlog
  exact ⟨v, (System.Reach.init hv₀ : views.Reachable v₀).trans hv, hR⟩

/-- Whatever is inserted, fails or is killed in between, robots and orders show a view of the log, and later a newer
one: for no robot and order an event is replaced by an older one. -/
theorem shows_newer (h : (Engine.system log₀ db₀).Reachable s)
    (h' : ((Engine.system log₀ db₀).startingAt s).Reachable s') (hlog : ∀ e ∈ s'.log.events, Filed e) :
    ∃ v v' : LogView, views.Reachable v ∧ v ≤ v' ∧ (v.events = s.log.events ∧ Shows db₀ v.shown s.db) ∧
      v'.events = s'.log.events ∧ Shows db₀ v'.shown s'.db := by
  obtain ⟨v, hv, hR⟩ := refines_of_reachable h fun e he => hlog e ((log_grows_of_reach h').subset he)
  obtain ⟨v', hv', hR'⟩ := refines_of_startingAt hR h' hlog
  exact ⟨v, v', hv, Feed.View.le_of_reach hv', ⟨hR.events, hR.shows⟩, hR'.events, hR'.shows⟩

/-! ### A robot goes offline -/

omit [JsonLibrary] in
private theorem filed_offlineLog :
    letI := JsonLibrary.ofTexts connectionTexts
    ∀ e ∈ offlineLog.events, Filed e := by
  let lib := JsonLibrary.ofTexts connectionTexts
  intro e he
  rcases mem_offlineLog he with rfl | rfl <;> exact ⟨fun _ => rfl, fun htopic => absurd htopic (by decide)⟩

/-- An engine that has shown the robot online when the robot goes offline, and the engine after a cycle. -/
def offlineStart : Engine := { log := offlineLog, db := onlineDb }

def offlineEnd : Engine := { offlineStart with db := cycle offlineLog.findLatestByTopic onlineDb }

private theorem quietCycle_offline : QuietCycle offlineStart offlineEnd :=
  quietCycle_iff.2 ⟨rfl, _, fun _ => List.Perm.refl _, rfl⟩

omit [JsonLibrary] in
/-- A cycle of an engine that has just been started. -/
theorem shows_newer_offline :
    letI := JsonLibrary.ofTexts connectionTexts
    ∃ v v' : LogView, views.Reachable v ∧ v ≤ v' ∧
      (v.events = offlineLog.events ∧ Shows onlineDb v.shown offlineStart.db) ∧
      v'.events = offlineLog.events ∧ Shows onlineDb v'.shown offlineEnd.db := by
  let lib := JsonLibrary.ofTexts connectionTexts
  have hstart : (Engine.system offlineLog onlineDb).Reachable offlineStart := .init rfl
  exact shows_newer hstart quietCycle_offline.complete.reach filed_offlineLog

/-! ### A cycle without failures -/

/-- The event is filed as the recorder does it, and decodes. -/
def Readable (e : Vda5050Event) : Prop := Filed e ∧ decodes e.topic e = true

private theorem ofContent_readable : OfContent Readable := fun e id now h => ⟨ofContent_filed e id now h.1, h.2⟩

/-- The view has caught up with the events `begun` for the entries that are done; for the entry in hand, with those
that no row is left for. -/
structure Catching (begun : List Vda5050Event) (s : Engine) (v : LogView) : Prop where
  subset : begun ⊆ s.log.events
  readable : ∀ e ∈ s.log.events, decodes e.topic e = true
  covers : ∃ done, projectors = done ++ s.phase.entries ∧
    ∀ entry ∈ done, ∀ item, v.Covers begun (entry.topic, item)
  rows : ∀ entry rows entries, s.phase = .projecting entry rows entries → ∀ e ∈ begun, e.topic = entry.topic →
    (∃ e', v.shown (filing e) = some e' ∧ e.id ≤ e'.id) ∨ ∃ e' ∈ rows, filing e' = filing e ∧ e.id ≤ e'.id

namespace Catching

variable {begun : List Vda5050Event} {v v' : LogView}

/-- A newer view has caught up as well. -/
private theorem covers_mono (h : Catching begun s v) (hle : v ≤ v') :
    ∃ done, projectors = done ++ s.phase.entries ∧ ∀ entry ∈ done, ∀ item, v'.Covers begun (entry.topic, item) := by
  obtain ⟨done, hdone, hcovers⟩ := h.covers
  exact ⟨done, hdone, fun entry hentry item => (hcovers entry hentry item).mono hle⟩

/-- The rows of a query have an event for each item, and none is older than those of the item in the log. -/
theorem query (h : Catching begun s v) {entry : Entry} {entries : List Entry} {rows : List Vda5050Event}
    (hphase : s.phase = .querying (entry :: entries)) (hrows : rows.Perm (s.log.findLatestByTopic entry.topic)) :
    Catching begun { s with phase := .projecting entry rows entries } v where
  subset := h.subset
  readable := h.readable
  covers := by
    obtain ⟨done, hdone, hcovers⟩ := h.covers
    exact ⟨done, by rwa [hphase] at hdone, hcovers⟩
  rows := by
    rintro _ _ _ ⟨⟩ e he htopic
    obtain ⟨e', he'⟩ := EventLog.isSome_newest (h.subset he)
    obtain ⟨-, htopic', hitem⟩ := EventLog.mem_of_newest he'
    have hquery : e' ∈ s.log.findLatestByTopic entry.topic := by
      rw [EventLog.mem_findLatestByTopic, ← htopic, hitem]
      exact he'
    refine .inr ⟨e', hrows.mem_iff.2 hquery, Prod.ext htopic' hitem, ?_⟩
    exact EventLog.id_le_newest he' (EventLog.mem_group.2 ⟨h.subset he, rfl, rfl⟩)

/-- The next row has been shown. -/
theorem refresh (h : Catching begun s v) {entry : Entry} {event : Vda5050Event} {rows : List Vda5050Event}
    {entries : List Entry} (hphase : s.phase = .projecting entry (event :: rows) entries) {db : ReadModel}
    (hstep : views.step v (.refresh event) v') :
    Catching begun { s with db, phase := .projecting entry rows entries } v' where
  subset := h.subset
  readable := h.readable
  covers := by
    obtain ⟨done, hdone, hcovers⟩ := h.covers_mono (Feed.View.le_of_step hstep)
    exact ⟨done, by rwa [hphase] at hdone, hcovers⟩
  rows := by
    rintro _ _ _ ⟨⟩ e he htopic
    rcases h.rows _ _ _ hphase e he htopic with ⟨e', he', hle⟩ | ⟨e', he', hkey, hle⟩
    · obtain ⟨e'', he'', hle'⟩ := (Feed.View.le_of_step hstep).2 _ e' he'
      exact .inl ⟨e'', he'', hle.trans hle'⟩
    · rcases List.mem_cons.1 he' with rfl | htail
      · obtain ⟨-, hmem, rfl⟩ := hstep
        refine .inl ⟨e', ?_, hle⟩
        rw [← hkey]
        exact Function.update_self ..
      · exact .inr ⟨e', htail, hkey, hle⟩

/-- An entry without rows is done. -/
theorem next (h : Catching begun s v) {entry : Entry} {entries : List Entry}
    (hphase : s.phase = .projecting entry [] entries) : Catching begun { s with phase := .querying entries } v where
  subset := h.subset
  readable := h.readable
  covers := by
    obtain ⟨done, hdone, hcovers⟩ := h.covers
    rw [hphase] at hdone
    refine ⟨done ++ [entry], by simpa [Phase.entries] using hdone, fun entry' hentry' item => ?_⟩
    rcases List.mem_append.1 hentry' with hmem | hmem
    · exact hcovers entry' hmem item
    · rw [List.mem_singleton.1 hmem]
      intro e he hkey
      rcases h.rows _ _ _ hphase e he (Prod.mk.inj hkey).1 with hshown | ⟨e', he', -⟩
      · exact hkey ▸ hshown
      · cases he'
  rows := by simp

theorem insert (h : Catching begun s v) {now : String} {event : Vda5050Event}
    (hreadable : decodes event.topic event = true) (hle : v ≤ v') :
    Catching begun { s with log := s.log.insert now event } v' where
  subset e he := List.mem_append_left _ (h.subset he)
  readable e he := by
    rcases List.mem_append.1 he with hold | hnew
    · exact h.readable e hold
    · rw [List.mem_singleton.1 hnew]
      exact hreadable
  covers := h.covers_mono hle
  rows entry rows entries hphase e he htopic := by
    rcases h.rows entry rows entries hphase e he htopic with ⟨e', he', hpos⟩ | hrow
    · obtain ⟨e'', he'', hpos'⟩ := hle.2 _ e' he'
      exact .inl ⟨e'', he'', hpos.trans hpos'⟩
    · exact .inr hrow

theorem step {a : EngineAction} (h : Catching begun s v) (hR : Refines db₀ s v) (ha : CycleStep s a)
    (hinserting : Inserting Readable s a) (hs : s.step a = some s') (hfollows : Follows s a v v') :
    Catching begun s' v' := by
  cases Engine.outcome_of_step hs with
  | inserted now event => exact h.insert hinserting.2 hfollows.le
  | queried hphase hrows =>
    obtain rfl : v' = v := hfollows
    exact h.query hphase hrows
  | @projected entry event rows entries hphase =>
    obtain ⟨queried, hqueried, -, hrows⟩ := hR.rows
    obtain ⟨hmem, htopic, -⟩ := EventLog.mem_of_newest (hrows _ _ _ hphase event List.mem_cons_self)
    have hdecodes : decodes entry.topic event = true := htopic ▸ h.readable event (hqueried.subset hmem)
    have haction : viewAction s .project = some (.refresh event) := by simp [viewAction, hphase, hdecodes]
    unfold Follows at hfollows
    rw [haction] at hfollows
    exact h.refresh hphase hfollows
  | advanced hphase =>
    obtain rfl : v' = v := hfollows
    exact h.next hphase
  | woken | aborted | failed | finished | restarted => exact ha.elim

end Catching

private theorem follow {begun : List Vda5050Event} {a : EngineAction} {v : LogView} (hR : Refines db₀ s v)
    (hcatching : Catching begun s v) (ha : CycleStep s a) (hinserting : Inserting Readable s a)
    (hs : s.step a = some s') :
    (Refines db₀ s' v ∧ Catching begun s' v) ∨
      ∃ a' v', True ∧ views.step v a' v' ∧ Refines db₀ s' v' ∧ Catching begun s' v' := by
  have hfiled : Inserting Filed s a := by
    cases a with
    | insert => exact hinserting.1
    | _ => trivial
  obtain ⟨v', hfollows, hR'⟩ := hR.step hfiled hs
  have hcatching' := hcatching.step hR ha hinserting hs hfollows
  rcases hfollows.cases with rfl | ⟨a', hview⟩
  · exact .inl ⟨hR', hcatching'⟩
  · exact .inr ⟨a', v', trivial, hview, hR', hcatching'⟩

private theorem refines_of_cycle (h : (Engine.system log₀ db₀).Reachable s) (hcycle : CompleteCycle s s')
    (hlog : ∀ e ∈ s'.log.events, Readable e) :
    ∃ v, Refines db₀ s' v ∧ ∀ entry ∈ projectors, ∀ item, v.Covers s.log.events (entry.topic, item) := by
  obtain ⟨s₁, s₂, hwake, hsteps, hfinish⟩ := hcycle
  have hlog₂ : ∀ e ∈ s₂.log.events, Readable e := fun e he => hlog e ((log_grows_of_step hfinish).subset he)
  have hlog₁ : ∀ e ∈ s₁.log.events, Readable e := fun e he => hlog₂ e ((log_grows_of_reach hsteps.reachable).subset he)
  cases Engine.outcome_of_step hwake with
  | woken =>
    obtain ⟨v, -, hR⟩ := refines_of_reachable h fun e he => (hlog₁ e he).1
    have hstart : Refines db₀ { s with phase := .querying projectors } v := hR.move (fun _ hentry => hentry) (by simp)
    have hcatching : Catching s.log.events { s with phase := .querying projectors } v :=
      ⟨fun _ he => he, fun e he => (hlog₁ e he).2, ⟨[], rfl, by simp⟩, by simp⟩
    have hinserting := reach_inserting (fun _ _ _ hs => hs) ofContent_readable hsteps hlog₂
    have hend : ∃ v', (views.startingAt v).Reachable v' ∧ Refines db₀ s₂ v' ∧ Catching s.log.events s₂ v' := by
      refine hinserting.simulate (R := fun t w => Refines db₀ t w ∧ Catching s.log.events t w) (fun t ht => ?_) ?_
      · obtain rfl : t = { s with phase := .querying projectors } := ht
        exact ⟨v, rfl, hstart, hcatching⟩
      · intro t a t' w hRt ha hstep
        exact follow hRt.1 hRt.2 ha.1 ha.2 hstep
    obtain ⟨v', -, hR', hcatching'⟩ := hend
    cases Engine.outcome_of_step hfinish with
    | finished hphase =>
      obtain ⟨done, hdone, hcovers⟩ := hcatching'.covers
      rw [hphase] at hdone
      refine ⟨v', hR'.move (by simp [Phase.entries]) (by simp), fun entry hentry => hcovers entry ?_⟩
      rw [hdone] at hentry
      simpa [Phase.entries] using hentry

private theorem shownTopics_subset : shownTopics ⊆ projectors.map Entry.topic := by
  have htopics : projectors.map Entry.topic = [ConnectionProjector.topic, StateProjector.topic,
      FactsheetProjector.topic, OrderProjector.topic, InstantActionsProjector.topic, ResponsesProjector.topic] := rfl
  rw [htopics]
  simp [shownTopics, robotTopics, orderTopics]

/-- After a cycle in which nothing fails, robots and orders are not behind the log at its start, whatever has been
inserted during the cycle and whatever has failed or been killed before. -/
theorem covers_of_cycle (h : (Engine.system log₀ db₀).Reachable s) (hcycle : CompleteCycle s s')
    (hlog : ∀ e ∈ s'.log.events, Readable e) :
    ∃ v : LogView, v.events = s'.log.events ∧ Shows db₀ v.shown s'.db ∧
      ∀ topic ∈ shownTopics, ∀ k e, s.log.newest topic k = some e →
        ∃ e', v.shown (topic, k) = some e' ∧ e.id ≤ e'.id := by
  obtain ⟨v, hR, hcovers⟩ := refines_of_cycle h hcycle hlog
  refine ⟨v, hR.events, hR.shows, fun topic htopic k e he => ?_⟩
  obtain ⟨hmem, ht, hitem⟩ := EventLog.mem_of_newest he
  obtain ⟨entry, hentry, rfl⟩ := List.mem_map.1 (shownTopics_subset htopic)
  exact hcovers entry hentry k e hmem (Prod.ext ht hitem)

omit [JsonLibrary] in
private theorem readable_offlineLog :
    letI := JsonLibrary.ofTexts connectionTexts
    ∀ e ∈ offlineLog.events, Readable e := by
  let lib := JsonLibrary.ofTexts connectionTexts
  intro e he
  refine ⟨filed_offlineLog e he, ?_⟩
  rcases mem_offlineLog he with rfl | rfl
  · exact congrArg Except.isOk decode_acme.1
  · exact congrArg Except.isOk decode_acme.2

omit [JsonLibrary] in
theorem covers_of_cycle_offline :
    letI := JsonLibrary.ofTexts connectionTexts
    ∃ v : LogView, v.events = offlineLog.events ∧ Shows onlineDb v.shown offlineEnd.db ∧
      ∀ topic ∈ shownTopics, ∀ k e, offlineLog.newest topic k = some e →
        ∃ e', v.shown (topic, k) = some e' ∧ e.id ≤ e'.id := by
  let lib := JsonLibrary.ofTexts connectionTexts
  have hstart : (Engine.system offlineLog onlineDb).Reachable offlineStart := .init rfl
  exact covers_of_cycle hstart quietCycle_offline.complete readable_offlineLog

/-! ### Settled engines -/

/-- A cycle in which nothing fails has been run, and nothing has been inserted since its start.  What else has been done
since, also half of another cycle, does not matter. -/
def Settled (log₀ : EventLog) (db₀ : ReadModel) (u : Engine) : Prop :=
  ∃ s s', (Engine.system log₀ db₀).Reachable s ∧ CompleteCycle s s' ∧
    ((Engine.system log₀ db₀).startingAt s').Reachable u ∧ u.log.events = s.log.events

omit [JsonLibrary] in
private theorem columnShown_eq {γ : Type} {c : Robot → γ} {d : γ} {v : Option γ} {prior : Option Robot} {r r' : Robot}
    (h : ColumnShown c d v prior (some r)) (h' : ColumnShown c d v prior (some r')) : c r = c r' :=
  (h r rfl).trans (h' r' rfl).symm

/-- Rows that show the same events are the same but for the columns that are set on insertion, and the time. -/
private theorem RobotShown.columns_eq {shown : String × String → Option Vda5050Event} {k : String}
    {prior o o' : Option Robot} (h : RobotShown shown k prior o) (h' : RobotShown shown k prior o') :
    o.map (fun r => (r.robotColumns, r.settings)) = o'.map fun r => (r.robotColumns, r.settings) := by
  by_cases hsome : ∃ topic ∈ robotTopics, (shown (topic, k)).isSome = true
  · obtain ⟨topic, htopic, he⟩ := hsome
    obtain ⟨r, rfl⟩ := Option.isSome_iff_exists.1 (h.row topic htopic he)
    obtain ⟨r', rfl⟩ := Option.isSome_iff_exists.1 (h'.row topic htopic he)
    have hconnection := columnShown_eq h.connectionState h'.connectionState
    have hstate := columnShown_eq h.stateColumns h'.stateColumns
    have hfactsheet := columnShown_eq h.factsheet h'.factsheet
    have hsettings := columnShown_eq h.settings h'.settings
    simp [Robot.robotColumns, hconnection, hstate, hfactsheet, hsettings]
  · have hnone : ∀ topic ∈ robotTopics, shown (topic, k) = none := fun topic htopic =>
      Option.not_isSome_iff_eq_none.1 fun he => hsome ⟨topic, htopic, he⟩
    rw [h.noEvent hnone, h'.noEvent hnone]

private theorem OrderShown.columns_eq {shown : String × String → Option Vda5050Event} {k : String}
    {prior o o' : Option Db.Order} (h : OrderShown shown k prior o) (h' : OrderShown shown k prior o') :
    o.map (fun r => (r.orderColumns, r.settings)) = o'.map fun r => (r.orderColumns, r.settings) := by
  cases he : shown (OrderProjector.topic, k) with
  | some e =>
    obtain ⟨r, rfl, hr⟩ := h.order e he
    obtain ⟨r', rfl, hr'⟩ := h'.order e he
    have hcolumns : r.orderColumns = r'.orderColumns := Option.some.inj (hr.symm.trans hr')
    have hsettings : r.settings = r'.settings := (h.settings r rfl).trans (h'.settings r' rfl).symm
    simp [hcolumns, hsettings]
  | none => rw [h.noEvent he, h'.noEvent he]

/-- A settled engine shows the newest events of the log. -/
theorem Settled.shown_eq_newest {u : Engine} (h : Settled log₀ db₀ u) (hlog : ∀ e ∈ u.log.events, Readable e) :
    ∃ shown, Shows db₀ shown u.db ∧ ∀ topic ∈ shownTopics, ∀ k, shown (topic, k) = u.log.newest topic k := by
  obtain ⟨s, s', hs, hcycle, hlater, hsame⟩ := h
  have hgrows := log_grows_of_reach hlater
  obtain ⟨v, hR, hcovers⟩ := refines_of_cycle hs hcycle fun e he => hlog e (hgrows.subset he)
  obtain ⟨v', hv', hR'⟩ := refines_of_startingAt hR hlater fun e he => (hlog e he).1
  refine ⟨v'.shown, hR'.shows, fun topic htopic k => Option.ext fun e => ?_⟩
  obtain ⟨entry, hentry, rfl⟩ := List.mem_map.1 (shownTopics_subset htopic)
  have hcovered : v'.Covers v'.events (entry.topic, k) := by
    rw [hR'.events, hsame]
    exact (hcovers entry hentry k).mono (Feed.View.le_of_reach hv')
  rw [hcovered.shown_eq_some_iff, hR'.events, EventLog.newest_eq_some_iff]
  simp only [EventLog.mem_group, filing, Prod.mk.injEq, and_assoc, and_imp]

/-- If all payloads decode, the rows of robots and orders of a settled engine are a function of the log and of the tables
there were at first, but for the columns that are set on insertion and the times.  It does not matter when events were
inserted, and how many cycles were run, failed, or killed. -/
theorem columns_eq_of_settled {t t' : Engine} (h : Settled log₀ db₀ t) (h' : Settled log₀' db₀ t')
    (hevents : t.log.events = t'.log.events) (hlog : ∀ e ∈ t.log.events, Readable e) (k : String) :
    (t.db.robots.find? k).map (fun r => (r.robotColumns, r.settings)) =
        (t'.db.robots.find? k).map (fun r => (r.robotColumns, r.settings)) ∧
      (t.db.orders.find? k).map (fun r => (r.orderColumns, r.settings)) =
        (t'.db.orders.find? k).map fun r => (r.orderColumns, r.settings) := by
  obtain ⟨shown, hshows, hnewest⟩ := h.shown_eq_newest hlog
  obtain ⟨shown', hshows', hnewest'⟩ := h'.shown_eq_newest (hevents ▸ hlog)
  have hlogs : t.log = t'.log := EventLog.eq_of_events_eq hevents
  have hsame : ∀ topic ∈ shownTopics, ∀ k, shown' (topic, k) = shown (topic, k) := by
    intro topic htopic k
    rw [hnewest topic htopic, hnewest' topic htopic, hlogs]
  have hrows := hshows.congr hsame rfl rfl rfl
  exact ⟨(hrows.robots k).columns_eq (hshows'.robots k), (hrows.orders k).columns_eq (hshows'.orders k)⟩

omit [JsonLibrary] in
/-- A cycle, and another one after it. -/
theorem columns_eq_of_settled_offline :
    letI := JsonLibrary.ofTexts connectionTexts
    (offlineEnd.db.robots.find? "acme.7").map (fun r => (r.robotColumns, r.settings)) =
        ((cycle offlineLog.findLatestByTopic offlineEnd.db).robots.find? "acme.7").map
          fun r => (r.robotColumns, r.settings) := by
  let lib := JsonLibrary.ofTexts connectionTexts
  let again : Engine := { offlineEnd with db := cycle offlineLog.findLatestByTopic offlineEnd.db }
  have hstart : (Engine.system offlineLog onlineDb).Reachable offlineStart := .init rfl
  have hsettled : Settled offlineLog onlineDb offlineEnd :=
    ⟨offlineStart, offlineEnd, hstart, quietCycle_offline.complete, .init rfl, rfl⟩
  have hagain : QuietCycle offlineEnd again := quietCycle_iff.2 ⟨rfl, _, fun _ => List.Perm.refl _, rfl⟩
  have hlater : Settled offlineLog onlineDb again :=
    ⟨offlineStart, offlineEnd, hstart, quietCycle_offline.complete, hagain.complete.reach, rfl⟩
  exact (columns_eq_of_settled hsettled hlater rfl readable_offlineLog "acme.7").1

end SyriusOrbit.Projection

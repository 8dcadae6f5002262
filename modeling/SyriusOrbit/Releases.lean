import SyriusOrbit.MigrationFiles

/-!
# Releases

Databases that earlier releases of the program have left, by runs that returned, threw or were killed.  The migrations
that a database has are always the first ones of the list, and so, as long as releases only add files with greater
numbers, a database that was upgraded is the same as one that was newly created (`upgraded`); and with other changes
it is not (`upgradable_iff`).
-/

namespace SyriusOrbit.SchemaMigrator

open Effect

variable {σ : Type} {tables : σ} {db db' : Database σ}

/-! ### The migrations of a database -/

/-- What the SQL of migrations makes of tables, one after another. -/
def schema (ms : List (Migration σ)) (tables : σ) : σ := ms.foldl (fun tables m => (m.sql tables).2) tables

private theorem tables_of_commits {ms : List (Migration σ)} (h : Commits ms db db') :
    db'.tables = schema ms db.tables := by
  induction h with
  | nil => rfl
  | cons now _ _ _ ih => exact ih

/-- What a database with the first migrations lacks. -/
private theorem pending_take {done rest : List (Migration σ)} (hdistinct : ((done ++ rest).map Migration.version).Nodup)
    (hdb : db.versions = done.map Migration.version) (n : Nat) :
    pending ((done ++ rest).take n) db = rest.take (n - done.length) := by
  rw [List.map_append, List.nodup_append] at hdistinct
  have hdone : pending (done.take n) db = [] := by
    refine List.filter_eq_nil_iff.2 fun m hm => ?_
    have hmem : m.version ∈ db.versions := hdb ▸ List.mem_map_of_mem (List.mem_of_mem_take hm)
    simpa using hmem
  have hrest : pending (rest.take (n - done.length)) db = rest.take (n - done.length) := by
    refine List.filter_eq_self.2 fun m hm => ?_
    have hmem : m.version ∈ rest.map Migration.version := List.mem_map_of_mem (List.mem_of_mem_take hm)
    have hnot : m.version ∉ db.versions := fun hv => hdistinct.2.2 _ (hdb ▸ hv) _ hmem rfl
    simpa using hnot
  rw [List.take_append, pending, List.filter_append]
  exact (congrArg₂ (· ++ ·) hdone hrest).trans (List.nil_append _)

/-- A run commits the first ones of what the database lacks. -/
private theorem RunSpec.commits_first {fates : String → Fates} {ms : List (Migration σ)}
    {run : Except Interrupt Nat × Database σ} (h : RunSpec fates ms db run) :
    ∃ done, done <+: pending ms db ∧ Commits done db run.2 := by
  obtain ⟨result, db'⟩ := run
  cases result with
  | ok k => exact ⟨_, List.prefix_refl _, (h.returned k rfl).1⟩
  | error e =>
    cases e with
    | threw =>
      obtain ⟨before, m, after, hpending, hcommits, -⟩ := h.threw rfl
      exact ⟨before, ⟨m :: after, hpending.symm⟩, hcommits⟩
    | killed =>
      obtain ⟨before, after, hpending, hcommits, -⟩ := h.killed rfl
      exact ⟨before, ⟨after, hpending.symm⟩, hcommits⟩

variable {all : List (Migration σ)}

private theorem Left.commits_first (hdistinct : (all.map Migration.version).Nodup) (h : Left all tables db) :
    ∃ done, done <+: all ∧ Commits done (.created tables) db := by
  induction h with
  | created => exact ⟨[], List.nil_prefix, .nil _⟩
  | @run db n alive fates _ ih =>
    obtain ⟨done, ⟨rest, rfl⟩, hcommits⟩ := ih
    obtain ⟨done', hdone', hcommits'⟩ := (runSpec_migrate (nodup_take hdistinct n) alive fates db).commits_first
    have hversions : db.versions = done.map Migration.version := hcommits.versions
    rw [pending_take hdistinct hversions] at hdone'
    refine ⟨done ++ done', ?_, hcommits.append hcommits'⟩
    exact (List.prefix_append_right_inj done).2 (hdone'.trans (List.take_prefix _ _))

/-- After a run with all migrations that has returned, all are committed in the order of the list. -/
private theorem Left.commits_all (hdistinct : (all.map Migration.version).Nodup) (h : Left all tables db) {alive : Bool}
    {fates : String → Fates} {k : Nat} (hrun : runOn (migrate alive fates all) db = (.ok k, db')) :
    Commits all (.created tables) db' := by
  obtain ⟨done, ⟨rest, rfl⟩, hcommits⟩ := h.commits_first hdistinct
  have hversions : db.versions = done.map Migration.version := hcommits.versions
  have hpending := pending_take hdistinct hversions (done ++ rest).length
  rw [List.take_length, List.length_append, Nat.add_sub_cancel_left, List.take_length] at hpending
  have hspec := runSpec_migrate hdistinct alive fates db
  rw [hrun] at hspec
  have hrest := (hspec.returned k rfl).1
  rw [hpending] at hrest
  exact hcommits.append hrest

/-- Where every SQL succeeds, a run that is not disturbed returns. -/
private theorem returns_of_succeeds {ms : List (Migration σ)} (hdistinct : (ms.map Migration.version).Nodup)
    (hsql : ∀ m ∈ ms, ∀ tables, (m.sql tables).1 = true) (now : String) (db : Database σ) :
    ∃ k db', runOn (migrate true (fun _ => { now := now }) ms) db = (.ok k, db') := by
  rw [runOn_migrate, if_pos rfl]
  rcases runOn_applyPending (fun _ => { now := now }) db.versions ms 0 db with ⟨db', hreturns, -⟩ |
    ⟨e, before, m, after, db', -, hsplit, hcommits, hfails⟩
  · exact ⟨_, db', hreturns⟩
  · have hm : m ∈ ms := by
      have hpending : m ∈ ms.filter fun m => !db.versions.contains m.version := by
        rw [hsplit]
        exact List.mem_append_right before List.mem_cons_self
      exact (List.mem_filter.1 hpending).1
    have hversion := not_mem_versions_of_commits hdistinct hsplit hcommits m List.mem_cons_self
    rw [runOn_applyMigration_of_succeeds hversion (hsql m hm _) now] at hfails
    cases hfails

/-- Such a run commits what the database lacks. -/
private theorem commits_of_succeeds {ms : List (Migration σ)} (hdistinct : (ms.map Migration.version).Nodup)
    (hsql : ∀ m ∈ ms, ∀ tables, (m.sql tables).1 = true) (now : String) (db : Database σ) :
    Commits (pending ms db) db (runOn (migrate true (fun _ => { now := now }) ms) db).2 := by
  obtain ⟨k, db', hrun⟩ := returns_of_succeeds hdistinct hsql now db
  exact ((runSpec_migrate hdistinct true _ db).returned k (congrArg Prod.fst hrun)).1

end SyriusOrbit.SchemaMigrator

namespace SyriusOrbit.MigrationFiles

open Effect Cmake SchemaMigrator

variable {σ : Type}

/-! ### Later releases -/

private theorem lt_of_take_lt {l l' : List Char} {n : Nat} (h : l.take n < l'.take n) : l < l' := by
  induction n generalizing l l' with
  | zero => exact absurd h (lt_irrefl _)
  | succ n ih =>
    cases l' with
    | nil => exact absurd h (by simp)
    | cons c' l' =>
      cases l with
      | nil => exact List.Lex.nil
      | cons c l =>
        rw [List.take_succ_cons, List.take_succ_cons] at h
        cases h with
        | rel h => exact List.Lex.rel h
        | cons h => exact List.Lex.cons (ih h)

/-- A later release keeps the files and adds some with greater numbers. -/
structure Extends (d d' : MigrationsDir) : Prop where
  kept : d.files ⊆ d'.files
  added : ∀ f ∈ d.files, ∀ g ∈ d'.files, g ∉ d.files → version f < version g

/-- The files that a release has and an earlier one does not. -/
def addedFiles (d d' : MigrationsDir) : MigrationsDir where
  files := d'.files.filter fun g => g ∉ d.files
  nodup := d'.nodup.filter _
  sql g hg := d'.sql g (List.mem_filter.1 hg).1

private theorem perm_append_addedFiles {d d' : MigrationsDir} (h : Extends d d') :
    (d.files ++ (addedFiles d d').files).Perm d'.files := by
  have hkept : d.files.Perm (d'.files.filter fun g => g ∈ d.files) := by
    refine (List.perm_ext_iff_of_nodup d.nodup (d'.nodup.filter _)).2 fun f => ?_
    rw [List.mem_filter, decide_eq_true_eq]
    exact ⟨fun hf => ⟨h.kept hf, hf⟩, fun hf => hf.2⟩
  refine (hkept.append_right _).trans ?_
  have hparts := List.filter_append_perm (fun g => decide (g ∈ d.files)) d'.files
  simpa [addedFiles] using hparts

/-- Files with smaller numbers come first. -/
private theorem lt_of_version_lt {f g : String} (h : version f < version g) : f.toList < g.toList := by
  rw [String.lt_iff_toList_lt, version, version, String.toList_ofList, String.toList_ofList] at h
  exact lt_of_take_lt h

private theorem prefix_sortedFiles {d d' : MigrationsDir} (h : Extends d d') : sortedFiles d <+: sortedFiles d' := by
  refine ⟨sortedFiles (addedFiles d d'), eq_sortedFiles ?_ ?_⟩
  · exact ((perm_sortedFiles d).append (perm_sortedFiles _)).trans (perm_append_addedFiles h)
  · refine List.pairwise_append.2 ⟨pairwise_sortedFiles d, pairwise_sortedFiles _, fun f hf g hg => ?_⟩
    obtain ⟨hg', hnew⟩ := List.mem_filter.1 ((perm_sortedFiles _).mem_iff.1 hg)
    have hlt := h.added f ((perm_sortedFiles d).mem_iff.1 hf) g hg' (by simpa using hnew)
    exact (lt_of_version_lt hlt).le

/-! ### Upgrades -/

/-- A database that was created and left by runs of releases that the latest one extends, in any order and whatever
became of the runs. -/
inductive Upgraded (latest : MigrationsDir) (content : String → σ → Bool × σ) (tables : σ) :
    Database σ → Prop where
  | created : Upgraded latest content tables (.created tables)
  | run {db : Database σ} {d : MigrationsDir} {ms : List (Migration σ)} (alive : Bool) (fates : String → Fates)
    (h : Upgraded latest content tables db) (hrelease : Extends d latest) (hms : migrationsCmake d content = some ms) :
    Upgraded latest content tables (runOn (migrate alive fates ms) db).2

variable {latest : MigrationsDir} {content : String → σ → Bool × σ} {tables : σ} {db db' : Database σ}
  {ms : List (Migration σ)}

private theorem eq_of_migrationsCmake {d : MigrationsDir} (hplain : PlainNames d)
    (hms : migrationsCmake d content = some ms) :
    ms = (sortedFiles d).map (entry content) := by
  have hfiles : d.files ≠ [] := by
    intro hnil
    rw [migrationsCmake_eq_none (.inl hnil)] at hms
    cases hms
  rw [migrationsCmake_eq_sortedFiles hfiles hplain] at hms
  exact (Option.some.inj hms).symm

private theorem map_version_sortedFiles_nodup (hdistinct : (latest.files.map version).Nodup) :
    (((sortedFiles latest).map (entry content)).map Migration.version).Nodup := by
  rw [map_version_entry]
  exact ((perm_sortedFiles latest).map version).nodup_iff.2 hdistinct

/-- A run of an earlier release is one with the first migrations of the latest. -/
theorem Upgraded.left (hplain : PlainNames latest) (h : Upgraded latest content tables db) :
    Left ((sortedFiles latest).map (entry content)) tables db := by
  induction h with
  | created => exact .created
  | @run db d ms alive fates _ hrelease hms ih =>
    obtain rfl := eq_of_migrationsCmake (fun f hf => hplain f (hrelease.kept hf)) hms
    rw [List.prefix_iff_eq_take.1 ((prefix_sortedFiles hrelease).map (entry content))]
    exact .run _ alive fates ih

/-- The numbers of the files ascend. -/
private theorem pairwise_version_sortedFiles (hdistinct : (latest.files.map version).Nodup) :
    ((sortedFiles latest).map version).Pairwise (· < ·) := by
  have hnodup : ((sortedFiles latest).map version).Nodup :=
    ((perm_sortedFiles latest).map version).nodup_iff.2 hdistinct
  have hboth := (List.pairwise_map.1 hnodup).and (pairwise_sortedFiles latest)
  refine List.pairwise_map.2 (hboth.imp fun {f g} h => ?_)
  obtain ⟨hne, hle⟩ := h
  -- a smaller number would put `g` before `f`
  refine lt_of_le_of_ne (not_lt.1 fun hlt => ?_) hne
  exact absurd hle (not_le.2 (lt_of_version_lt hlt))

/-- A run of the latest release that returns has committed the files in the order of their numbers. -/
private theorem Upgraded.commits (hplain : PlainNames latest) (hdistinct : (latest.files.map version).Nodup)
    (h : Upgraded latest content tables db) (hms : migrationsCmake latest content = some ms) {alive : Bool}
    {fates : String → Fates} {k : Nat} (hrun : runOn (migrate alive fates ms) db = (.ok k, db')) :
    Commits ((sortedFiles latest).map (entry content)) (.created tables) db' := by
  obtain rfl := eq_of_migrationsCmake hplain hms
  exact (h.left hplain).commits_all (map_version_sortedFiles_nodup hdistinct) hrun

private theorem returns_of_files (hplain : PlainNames latest) (hdistinct : (latest.files.map version).Nodup)
    (hms : migrationsCmake latest content = some ms)
    (hsql : ∀ f ∈ latest.files, ∀ tables, (content f tables).1 = true) (now : String) (db : Database σ) :
    ∃ k db', runOn (migrate true (fun _ => { now := now }) ms) db = (.ok k, db') := by
  obtain rfl := eq_of_migrationsCmake hplain hms
  refine returns_of_succeeds (map_version_sortedFiles_nodup hdistinct) (fun m hm tables => ?_) now db
  obtain ⟨f, hf, rfl⟩ := List.mem_map.1 hm
  exact hsql f ((perm_sortedFiles latest).mem_iff.1 hf) tables

/-- Upgrades lead to the database of a new installation.  As long as the latest release has plain names and no number
twice, keeps the files of the earlier ones and adds files with greater numbers only, whatever releases have run on a
database, in whatever order, and with whatever failures and kills: a run of the latest release that returns leaves a
database on which its migrations have been executed in the order of their numbers, each of them once, and the tables
are what they make of an empty database.  Where every SQL succeeds, a run that is not disturbed returns. -/
theorem upgraded (hplain : PlainNames latest) (hdistinct : (latest.files.map version).Nodup)
    (h : Upgraded latest content tables db) (hms : migrationsCmake latest content = some ms) :
    (∀ alive fates k db', runOn (migrate alive fates ms) db = (.ok k, db') →
      db'.executed = (sortedFiles latest).map version ∧ db'.versions = db'.executed ∧
        db'.executed.Pairwise (· < ·) ∧ db'.tables = schema ((sortedFiles latest).map (entry content)) tables) ∧
    ((∀ f ∈ latest.files, ∀ tables, (content f tables).1 = true) → ∀ now,
      ∃ k db', runOn (migrate true (fun _ => { now := now }) ms) db = (.ok k, db')) := by
  refine ⟨fun alive fates k db' hrun => ?_, fun hsql now => returns_of_files hplain hdistinct hms hsql now db⟩
  have hcommits := h.commits hplain hdistinct hms hrun
  have hexecuted : db'.executed = (sortedFiles latest).map version := by
    rw [hcommits.executed, map_version_entry]
    rfl
  have hrows : db'.versions = db'.executed := by
    rw [hcommits.executed, hcommits.versions]
    rfl
  refine ⟨hexecuted, hrows, ?_, tables_of_commits hcommits⟩
  rw [hexecuted]
  exact pairwise_version_sortedFiles hdistinct

/-- The files of `src/db/migrations`. -/
def repositoryFiles : MigrationsDir where
  files :=
    ["001_create_robots.sql", "002_create_orders.sql", "003_create_instant_actions.sql", "004_create_maps.sql",
      "005_create_vda5050_events.sql"]
  nodup := by decide
  sql := by decide

/-- A release without the last two. -/
def olderFiles : MigrationsDir where
  files := repositoryFiles.files.take 3
  nodup := by decide
  sql := by decide

private theorem plainNames_repositoryFiles : PlainNames repositoryFiles := by
  simp [PlainNames, repositoryFiles, IsPlain]

/-- A run of the older release is killed before its last migration, and the next run is one of the repository's. -/
theorem upgraded_killed :
    let content : String → List String → Bool × List String := fun f tables => (true, tables ++ [f])
    let migrations := repositoryFiles.files.map (entry content)
    let fates : String → Fates := fun v => { now := "12:00", start := if v = "003" then .killed else .succeeds }
    let db := (runOn (migrate true fates (migrations.take 3)) (.created [])).2
    let db' := (runOn (migrate true (fun _ => { now := "13:00" }) migrations) db).2
    db.executed = ["001", "002"] ∧ db'.executed = ["001", "002", "003", "004", "005"] := by
  intro content migrations fates db db'
  have hextends : Extends olderFiles repositoryFiles := ⟨by decide, by decide⟩
  have hdb : Upgraded repositoryFiles content [] db := .run true fates .created hextends rfl
  have hms : migrationsCmake repositoryFiles content = some migrations := rfl
  obtain ⟨hreturned, hreturns⟩ := upgraded plainNames_repositoryFiles (by decide) hdb hms
  obtain ⟨k, db'', hrun⟩ := hreturns (fun _ _ _ => rfl) "13:00"
  have hdb' : db' = db'' := congrArg Prod.snd hrun
  refine ⟨rfl, ?_⟩
  rw [hdb']
  exact (hreturned _ _ k db'' hrun).1

/-! ### What later releases may change -/

/-- A run of the one release and then one of the other make of a new database what a run of the other alone does,
whatever the SQL of the files, as long as it succeeds. -/
def Upgradable (d d' : MigrationsDir) : Prop :=
  ∀ (σ : Type) (content : String → σ → Bool × σ) (ms ms' : List (Migration σ)),
    (∀ f tables, (content f tables).1 = true) → migrationsCmake d content = some ms →
      migrationsCmake d' content = some ms' → ∀ (now : String) (tables : σ),
        let run := fun migrations db => (runOn (migrate true (fun _ => { now := now }) migrations) db).2
        (run ms' (run ms (.created tables))).tables = (run ms' (.created tables)).tables

/-- SQL that writes down the names of the files. -/
def listed (f : String) (tables : List String) : Bool × List String := (true, tables ++ [f])

private theorem schema_listed (fs tables : List String) : schema (fs.map (entry listed)) tables = tables ++ fs := by
  induction fs generalizing tables with
  | nil => exact (List.append_nil tables).symm
  | cons f fs ih =>
    have hrest := ih (tables ++ [f])
    rw [List.append_assoc] at hrest
    exact hrest

/-- What a run adds to the names. -/
private theorem tables_listed {d : MigrationsDir} (hdistinct : (d.files.map version).Nodup) (now : String)
    (db : Database (List String)) :
    (runOn (migrate true (fun _ => { now := now }) ((sortedFiles d).map (entry listed))) db).2.tables =
      db.tables ++ (sortedFiles d).filter fun f => !db.versions.contains (version f) := by
  have hversions : (((sortedFiles d).map (entry listed)).map Migration.version).Nodup :=
    map_version_sortedFiles_nodup hdistinct
  have hsql : ∀ m ∈ (sortedFiles d).map (entry listed), ∀ tables, (m.sql tables).1 = true := by
    intro m hm tables
    obtain ⟨f, -, rfl⟩ := List.mem_map.1 hm
    rfl
  have hcommits := commits_of_succeeds hversions hsql now db
  rw [tables_of_commits hcommits, pending, List.filter_map, schema_listed]
  rfl

private theorem upgradable_of_extends {d d' : MigrationsDir} (hplain : PlainNames d')
    (hdistinct : (d'.files.map version).Nodup) (h : Extends d d') : Upgradable d d' := by
  intro σ content ms ms' hsql hms hms' now tables run
  have hupgraded : Upgraded d' content tables (run ms (.created tables)) := .run true _ .created h hms
  -- both runs of the later release return
  obtain ⟨k, db, hrun⟩ := returns_of_files hplain hdistinct hms' (fun f _ => hsql f) now (run ms (.created tables))
  obtain ⟨k', db', hrun'⟩ := returns_of_files hplain hdistinct hms' (fun f _ => hsql f) now (.created tables)
  have htables := tables_of_commits (hupgraded.commits hplain hdistinct hms' hrun)
  have htables' := tables_of_commits (Upgraded.created.commits hplain hdistinct hms' hrun')
  have hdb : run ms' (run ms (.created tables)) = db := congrArg Prod.snd hrun
  have hdb' : run ms' (.created tables) = db' := congrArg Prod.snd hrun'
  rw [hdb, hdb', htables, htables']

private theorem extends_of_upgradable {d d' : MigrationsDir} (hplain : PlainNames d) (hplain' : PlainNames d')
    (hdistinct : (d.files.map version).Nodup) (hdistinct' : (d'.files.map version).Nodup) (hfiles : d.files ≠ [])
    (hfiles' : d'.files ≠ []) (h : Upgradable d d') : Extends d d' := by
  -- the names in the order in which their SQL has been executed
  have hnames := h _ listed _ _ (fun _ _ => rfl) (migrationsCmake_eq_sortedFiles hfiles hplain listed)
    (migrationsCmake_eq_sortedFiles hfiles' hplain' listed) "" []
  dsimp only at hnames
  rw [tables_listed hdistinct', tables_listed hdistinct, tables_listed hdistinct'] at hnames
  have hall : ∀ l : List String,
      (l.filter fun f => !(Database.created ([] : List String)).versions.contains (version f)) = l :=
    fun l => List.filter_eq_self.2 fun _ _ => rfl
  have hcreated : (Database.created ([] : List String)).tables = [] := rfl
  rw [hall, hall, hcreated, List.nil_append, List.nil_append] at hnames
  have hpairwise := pairwise_version_sortedFiles hdistinct'
  rw [← hnames, List.map_append, List.pairwise_append] at hpairwise
  have hmem : ∀ f, f ∈ d'.files ↔ f ∈ sortedFiles d' := fun f => (perm_sortedFiles d').mem_iff.symm
  constructor
  · intro f hf
    rw [hmem, ← hnames]
    exact List.mem_append_left _ ((perm_sortedFiles d).mem_iff.2 hf)
  · intro f hf g hg hnew
    rw [hmem, ← hnames, List.mem_append] at hg
    have hlast := hg.resolve_left fun hg => hnew ((perm_sortedFiles d).mem_iff.1 hg)
    have hfirst := (perm_sortedFiles d).mem_iff.2 hf
    exact hpairwise.2.2 _ (List.mem_map_of_mem hfirst) _ (List.mem_map_of_mem hlast)

/-- Upgrading from one release to another is the same as installing the other, for all SQL, exactly where the other
keeps the files and all that it adds have greater numbers. -/
theorem upgradable_iff {d d' : MigrationsDir} (hplain : PlainNames d) (hplain' : PlainNames d')
    (hdistinct : (d.files.map version).Nodup) (hdistinct' : (d'.files.map version).Nodup) (hfiles' : d'.files ≠ []) :
    Upgradable d d' ↔ Extends d d' := by
  refine ⟨fun h => ?_, upgradable_of_extends hplain' hdistinct'⟩
  by_cases hfiles : d.files = []
  · exact ⟨by simp [hfiles], by simp [hfiles]⟩
  · exact extends_of_upgradable hplain hplain' hdistinct hdistinct' hfiles hfiles' h

/-- The older release can be upgraded to the repository's, but not one to a release that adds a smaller number. -/
theorem upgradable_iff_repository :
    let d : MigrationsDir := ⟨["002_b.sql"], by decide, by decide⟩
    let d' : MigrationsDir := ⟨["001_a.sql", "002_b.sql"], by decide, by decide⟩
    Upgradable olderFiles repositoryFiles ∧ ¬ Upgradable d d' := by
  intro d d'
  have holder : PlainNames olderFiles := by simp [PlainNames, olderFiles, repositoryFiles, IsPlain]
  have hd : PlainNames d := by simp [PlainNames, d, IsPlain]
  have hd' : PlainNames d' := by simp [PlainNames, d', IsPlain]
  constructor
  · have hiff := upgradable_iff holder plainNames_repositoryFiles (by decide) (by decide) (by decide)
    exact hiff.2 ⟨by decide, by decide⟩
  · intro h
    have hextends := (upgradable_iff hd hd' (by decide) (by decide) (by decide)).1 h
    exact absurd (hextends.added "002_b.sql" (by decide) "001_a.sql" (by decide) (by decide)) (by decide)

end SyriusOrbit.MigrationFiles

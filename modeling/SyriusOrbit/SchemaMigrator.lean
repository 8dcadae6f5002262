import SyriusOrbit.Effect.Program
import Mathlib.Data.List.Nodup

/-!
# Schema migrations

`SchemaMigrator::migrate` with statements that fail and processes that are killed between two statements.  Each
migration is one transaction with its SQL and its row in `schema_migrations`, and so every database that runs have
left was made by committing some of the migrations, each of them once (`migrate_exactly_once`).
-/

namespace SyriusOrbit.SchemaMigrator

open Effect

variable {σ : Type}

/-! ### The database -/

/-- A migration; `sql` says whether its SQL succeeds and what it makes of the tables, also where it fails half way. -/
structure Migration (σ : Type) where
  version : String
  name : String
  sql : σ → Bool × σ

/-- A row of `schema_migrations`. -/
structure MigrationRow where
  version : String
  name : String
  executedAt : String

/-- A database: `schema_migrations` and the other tables.  `executed` is not stored; it lists the versions whose SQL
has been executed on these tables, in their order. -/
structure Database (σ : Type) where
  schemaMigrations : List MigrationRow
  tables : σ
  executed : List String

namespace Database

/-- The database after `bootstrap` on a new file. -/
def created (tables : σ) : Database σ := ⟨[], tables, []⟩

/-- `SELECT version FROM schema_migrations`. -/
def versions (db : Database σ) : List String := db.schemaMigrations.map MigrationRow.version

end Database

/-! ### Running migrations -/

/-- What happens at a statement. -/
inductive Fate where
  | succeeds | fails | killed
  deriving DecidableEq

/-- How a run ends early: by an exception, or with the process. -/
inductive Interrupt where
  | threw | killed
  deriving DecidableEq

/-- The fates of the statements of one migration, and the time at which its row is inserted. -/
structure Fates where
  start : Fate := .succeeds
  exec : Fate := .succeeds
  insert : Fate := .succeeds
  commit : Fate := .succeeds
  now : String

/-- Code that works on the database and may end early. -/
abbrev MigrateM (σ : Type) := Program Interrupt (Database σ)

def statement : Fate → MigrateM σ Unit
  | .succeeds => pure ()
  | .fails => throw .threw
  | .killed => throw .killed

/-- `SQLite::Transaction`: where the body or the commit does not succeed, the database is as it was before. -/
def transaction (start commit : Fate) (body : MigrateM σ Unit) : MigrateM σ Unit := do
  statement start
  let before : Database σ ← get
  try
    body
    statement commit
  catch e =>
    set before
    throw e

/-- `db_.exec(migration.sql)`. -/
def execSql (fate : Fate) (m : Migration σ) : MigrateM σ Unit := do
  statement fate
  let db : Database σ ← get
  set { db with tables := (m.sql db.tables).2, executed := db.executed ++ [m.version] }
  if (m.sql db.tables).1 then pure () else throw .threw

/-- `INSERT INTO schema_migrations`, with `version` the primary key. -/
def insertVersion (fate : Fate) (now : String) (m : Migration σ) : MigrateM σ Unit := do
  statement fate
  let db : Database σ ← get
  if db.versions.contains m.version then throw .threw
  else set { db with schemaMigrations := db.schemaMigrations ++ [MigrationRow.mk m.version m.name now] }

/-- The body of the loop for a migration that has not been applied. -/
def applyMigration (fates : Fates) (m : Migration σ) : MigrateM σ Unit :=
  transaction fates.start fates.commit do
    execSql fates.exec m
    insertVersion fates.insert fates.now m

/-- The loop, with `applied` the versions read before it. -/
def applyPending (fates : String → Fates) (applied : List String) : List (Migration σ) → Nat → MigrateM σ Nat
  | [], count => pure count
  | m :: ms, count =>
    if applied.contains m.version then applyPending fates applied ms count
    else do
      applyMigration (fates m.version) m
      applyPending fates applied ms (count + 1)

/-- `SchemaMigrator::migrate`; `alive` says whether the process lives to see the versions. -/
def migrate (alive : Bool) (fates : String → Fates) (migrations : List (Migration σ)) : MigrateM σ Nat := do
  statement (if alive then .succeeds else .killed)
  let db : Database σ ← get
  applyPending fates db.versions migrations 0

/-! ### One migration -/

/-- The database with the migration committed. -/
def Database.commit (db : Database σ) (now : String) (m : Migration σ) : Database σ where
  schemaMigrations := db.schemaMigrations ++ [⟨m.version, m.name, now⟩]
  tables := (m.sql db.tables).2
  executed := db.executed ++ [m.version]

@[simp] theorem Database.versions_commit (db : Database σ) (now : String) (m : Migration σ) :
    (db.commit now m).versions = db.versions ++ [m.version] := by
  simp [versions, commit]

/-- A statement that succeeds does nothing, and the run ends at any other. -/
private theorem runOn_statement (fate : Fate) (db : Database σ) :
    runOn (statement fate) db = (.ok (), db) ∨ ∃ e, runOn (statement fate) db = (.error e, db) := by
  cases fate with
  | succeeds => exact .inl rfl
  | fails => exact .inr ⟨.threw, rfl⟩
  | killed => exact .inr ⟨.killed, rfl⟩

/-- A transaction either does what its body does, or leaves the database as it was. -/
private theorem runOn_transaction (start commit : Fate) (body : MigrateM σ Unit) (db : Database σ) :
    (∃ db', runOn body db = (.ok (), db') ∧ runOn (transaction start commit body) db = (.ok (), db')) ∨
      ∃ e, runOn (transaction start commit body) db = (.error e, db) := by
  unfold transaction
  rw [runOn_bind]
  rcases runOn_statement start db with hstart | ⟨e, hstart⟩
  · rw [hstart]
    dsimp only
    rw [runOn_get_bind, runOn_tryCatch, runOn_bind]
    cases hbody : runOn body db with
    | mk r db' =>
      cases r with
      | error e => exact .inr ⟨e, rfl⟩
      | ok u =>
        dsimp only
        rcases runOn_statement commit db' with hcommit | ⟨e, hcommit⟩
        · rw [hcommit]
          exact .inl ⟨db', rfl, rfl⟩
        · rw [hcommit]
          exact .inr ⟨e, rfl⟩
  · rw [hstart]
    exact .inr ⟨e, rfl⟩

private theorem runOn_execSql {fate : Fate} {m : Migration σ} {db db' : Database σ}
    (h : runOn (execSql fate m) db = (.ok (), db')) :
    (m.sql db.tables).1 = true ∧
      db' = { db with tables := (m.sql db.tables).2, executed := db.executed ++ [m.version] } := by
  unfold execSql at h
  rw [runOn_bind] at h
  rcases runOn_statement fate db with hfate | ⟨e, hfate⟩
  · rw [hfate] at h
    dsimp only at h
    rw [runOn_get_bind] at h
    cases hsql : (m.sql db.tables).1 with
    | true =>
      rw [hsql] at h
      exact ⟨rfl, (congrArg Prod.snd h).symm⟩
    | false =>
      rw [hsql] at h
      cases h
  · rw [hfate] at h
    cases h

private theorem runOn_insertVersion {fate : Fate} {now : String} {m : Migration σ} {db db' : Database σ}
    (h : runOn (insertVersion fate now m) db = (.ok (), db')) :
    m.version ∉ db.versions ∧
      db' = { db with schemaMigrations := db.schemaMigrations ++ [⟨m.version, m.name, now⟩] } := by
  unfold insertVersion at h
  rw [runOn_bind] at h
  rcases runOn_statement fate db with hfate | ⟨e, hfate⟩
  · rw [hfate] at h
    dsimp only at h
    rw [runOn_get_bind] at h
    split at h
    · cases h
    · next hversion =>
      refine ⟨by simpa using hversion, (congrArg Prod.snd h).symm⟩
  · rw [hfate] at h
    cases h

/-- A migration is committed as a whole, or the run ends and the database is as it was. -/
private theorem runOn_applyMigration (fates : Fates) (m : Migration σ) (db : Database σ) :
    (runOn (applyMigration fates m) db = (.ok (), db.commit fates.now m) ∧ m.version ∉ db.versions ∧
      (m.sql db.tables).1 = true) ∨
    ∃ e, runOn (applyMigration fates m) db = (.error e, db) := by
  rcases runOn_transaction fates.start fates.commit
    (execSql fates.exec m >>= fun _ => insertVersion fates.insert fates.now m) db with ⟨db', hbody, h⟩ | herror
  · rw [runOn_bind] at hbody
    split at hbody
    · next u db₁ hexec =>
      obtain ⟨hsql, rfl⟩ := runOn_execSql hexec
      obtain ⟨hversion, rfl⟩ := runOn_insertVersion hbody
      exact .inl ⟨h, hversion, hsql⟩
    · cases hbody
  · exact .inr herror

/-! ### Runs -/

/-- The migrations are committed one after another, each with its SQL and its row. -/
inductive Commits : List (Migration σ) → Database σ → Database σ → Prop where
  | nil (db : Database σ) : Commits [] db db
  | cons {m : Migration σ} {ms : List (Migration σ)} {db db' : Database σ} (now : String)
      (hversion : m.version ∉ db.versions) (hsql : (m.sql db.tables).1 = true)
      (hrest : Commits ms (db.commit now m) db') : Commits (m :: ms) db db'

theorem Commits.append {ms ms' : List (Migration σ)} {db db' db'' : Database σ} (h : Commits ms db db')
    (h' : Commits ms' db' db'') : Commits (ms ++ ms') db db'' := by
  induction h with
  | nil => exact h'
  | cons now hversion hsql _ ih => exact .cons now hversion hsql (ih h')

theorem Commits.versions {ms : List (Migration σ)} {db db' : Database σ} (h : Commits ms db db') :
    db'.versions = db.versions ++ ms.map Migration.version := by
  induction h with
  | nil => simp
  | cons now _ _ _ ih => simp [ih]

theorem Commits.executed {ms : List (Migration σ)} {db db' : Database σ} (h : Commits ms db db') :
    db'.executed = db.executed ++ ms.map Migration.version := by
  induction h with
  | nil => simp
  | cons now _ _ _ ih => simp [ih, Database.commit]

theorem Commits.nodup {ms : List (Migration σ)} {db db' : Database σ} (h : Commits ms db db')
    (hdb : db.versions.Nodup) : db'.versions.Nodup := by
  induction h with
  | nil => exact hdb
  | cons now hversion _ _ ih =>
    refine ih ?_
    rw [Database.versions_commit, List.nodup_append]
    refine ⟨hdb, List.nodup_singleton _, ?_⟩
    intro v hv v' hv' heq
    rw [List.mem_singleton.1 hv'] at heq
    exact hversion (heq ▸ hv)

/-- The migrations that a database lacks. -/
def pending (migrations : List (Migration σ)) (db : Database σ) : List (Migration σ) :=
  migrations.filter fun m => !db.versions.contains m.version

/-- The outcome of a run of `migrate` on a database, and the database it leaves. -/
structure RunSpec (fates : String → Fates) (migrations : List (Migration σ)) (db : Database σ)
    (run : Except Interrupt Nat × Database σ) : Prop where
  returned : ∀ k, run.1 = .ok k → Commits (pending migrations db) db run.2 ∧ k = (pending migrations db).length ∧
    pending migrations run.2 = []
  threw : run.1 = .error .threw → ∃ before m after, pending migrations db = before ++ m :: after ∧
    Commits before db run.2 ∧ runOn (applyMigration (fates m.version) m) run.2 = (.error .threw, run.2) ∧
    ∀ m' ∈ m :: after, m'.version ∉ run.2.versions
  killed : run.1 = .error .killed → ∃ before after, pending migrations db = before ++ after ∧
    Commits before db run.2 ∧ ∀ m' ∈ after, m'.version ∉ run.2.versions

/-- The loop commits the migrations that are not in `applied` until one does not succeed. -/
theorem runOn_applyPending (fates : String → Fates) (applied : List String) (ms : List (Migration σ)) (count : Nat)
    (db : Database σ) :
    (∃ db', runOn (applyPending fates applied ms count) db =
        (.ok (count + (ms.filter fun m => !applied.contains m.version).length), db') ∧
      Commits (ms.filter fun m => !applied.contains m.version) db db') ∨
    ∃ e before m after db', runOn (applyPending fates applied ms count) db = (.error e, db') ∧
      (ms.filter fun m => !applied.contains m.version) = before ++ m :: after ∧ Commits before db db' ∧
      runOn (applyMigration (fates m.version) m) db' = (.error e, db') := by
  induction ms generalizing count db with
  | nil => exact .inl ⟨db, rfl, .nil db⟩
  | cons m ms ih =>
    unfold applyPending
    rw [List.filter_cons]
    cases happlied : applied.contains m.version with
    | true => simpa using ih count db
    | false =>
      simp only [Bool.not_false, if_true, Bool.false_eq_true, if_false]
      rw [runOn_bind]
      rcases runOn_applyMigration (fates m.version) m db with ⟨hrun, hversion, hsql⟩ | ⟨e, hrun⟩
      · rw [hrun]
        dsimp only
        rcases ih (count + 1) (db.commit (fates m.version).now m) with ⟨db', hrest, hcommits⟩ |
          ⟨e, before, m', after, db', hrest, hsplit, hcommits, hfails⟩
        · refine .inl ⟨db', ?_, .cons _ hversion hsql hcommits⟩
          rw [hrest, List.length_cons, Nat.add_right_comm, Nat.add_assoc]
        · exact .inr ⟨e, m :: before, m', after, db', hrest, by rw [hsplit]; rfl, .cons _ hversion hsql hcommits,
            hfails⟩
      · rw [hrun]
        exact .inr ⟨e, [], m, _, db, rfl, rfl, .nil db, hrun⟩

theorem runOn_migrate (alive : Bool) (fates : String → Fates) (ms : List (Migration σ)) (db : Database σ) :
    runOn (migrate alive fates ms) db =
      if alive then runOn (applyPending fates db.versions ms 0) db else (.error .killed, db) := by
  cases alive <;> rfl

private theorem pending_of_commits {ms : List (Migration σ)} {db db' : Database σ}
    (h : Commits (pending ms db) db db') :
    pending ms db' = [] := by
  unfold pending
  rw [List.filter_eq_nil_iff]
  intro m hm hpending
  have hversions := h.versions
  have hnot : m.version ∉ db'.versions := by simpa using hpending
  rw [hversions, List.mem_append, not_or] at hnot
  have hmem : m ∈ pending ms db := List.mem_filter.2 ⟨hm, by simpa using hnot.1⟩
  exact hnot.2 (List.mem_map_of_mem hmem)

/-- A migration that is still to come has not been committed. -/
theorem not_mem_versions_of_commits {ms before after : List (Migration σ)} {db db' : Database σ}
    (hdistinct : (ms.map Migration.version).Nodup) (hsplit : pending ms db = before ++ after)
    (h : Commits before db db') : ∀ m ∈ after, m.version ∉ db'.versions := by
  intro m hm hversion
  have hpending : m ∈ pending ms db := by
    rw [hsplit]
    exact List.mem_append_right _ hm
  have hnot : m.version ∉ db.versions := by simpa using (List.mem_filter.1 hpending).2
  have hnodup : ((pending ms db).map Migration.version).Nodup := hdistinct.sublist (List.filter_sublist.map _)
  rw [hsplit, List.map_append, List.nodup_append] at hnodup
  rw [h.versions] at hversion
  rcases List.mem_append.1 hversion with hold | hbefore
  · exact hnot hold
  · exact hnodup.2.2 m.version hbefore m.version (List.mem_map_of_mem hm) rfl

theorem runSpec_migrate {ms : List (Migration σ)} (hdistinct : (ms.map Migration.version).Nodup) (alive : Bool)
    (fates : String → Fates) (db : Database σ) : RunSpec fates ms db (runOn (migrate alive fates ms) db) := by
  rw [runOn_migrate]
  cases alive with
  | false =>
    refine ⟨fun k hk => by simp at hk, fun he => by simp at he, fun _ => ⟨[], pending ms db, rfl, .nil db, ?_⟩⟩
    exact not_mem_versions_of_commits hdistinct rfl (.nil db)
  | true =>
    rw [if_pos rfl]
    rcases runOn_applyPending fates db.versions ms 0 db with ⟨db', hrun, hcommits⟩ |
      ⟨e, before, m, after, db', hrun, hsplit, hcommits, hfails⟩
    · rw [hrun, Nat.zero_add]
      refine ⟨fun k hk => ⟨hcommits, (Except.ok.inj hk).symm, pending_of_commits hcommits⟩, fun he => by simp at he,
        fun he => by simp at he⟩
    · have hlater := not_mem_versions_of_commits hdistinct hsplit hcommits
      rw [hrun]
      refine ⟨fun k hk => by simp at hk, fun he => ?_, fun he => ⟨before, m :: after, hsplit, hcommits, hlater⟩⟩
      rw [Except.error.inj he] at hfails
      exact ⟨before, m, after, hsplit, hcommits, hfails, hlater⟩

/-- Where nothing is pending, a run returns 0 and changes nothing. -/
private theorem runOn_migrate_of_pending_nil {ms : List (Migration σ)} {db : Database σ} (h : pending ms db = [])
    (fates : String → Fates) : runOn (migrate true fates ms) db = (.ok 0, db) := by
  have hnone : (ms.filter fun m => !db.versions.contains m.version) = [] := h
  rw [runOn_migrate, if_pos rfl]
  rcases runOn_applyPending fates db.versions ms 0 db with ⟨db', hrun, hcommits⟩ |
    ⟨e, before, m, after, db', -, hsplit, -⟩
  · rw [hnone] at hrun hcommits
    cases hcommits
    exact hrun
  · rw [hnone] at hsplit
    simp at hsplit

/-! ### Databases that runs have left -/

/-- A database that was created and left by runs with prefixes of a list of migrations. -/
inductive Left (all : List (Migration σ)) (tables : σ) : Database σ → Prop where
  | created : Left all tables (.created tables)
  | run {db : Database σ} (n : Nat) (alive : Bool) (fates : String → Fates) (h : Left all tables db) :
    Left all tables (runOn (migrate alive fates (all.take n)) db).2

/-- A run commits some of its migrations. -/
theorem exists_commits (alive : Bool) (fates : String → Fates) (ms : List (Migration σ)) (db : Database σ) :
    ∃ done : List (Migration σ), done ⊆ ms ∧ Commits done db (runOn (migrate alive fates ms) db).2 := by
  have hsub : pending ms db ⊆ ms := List.filter_sublist.subset
  rw [runOn_migrate]
  cases alive with
  | false => exact ⟨[], List.nil_subset _, .nil db⟩
  | true =>
    rw [if_pos rfl]
    rcases runOn_applyPending fates db.versions ms 0 db with ⟨db', hrun, hcommits⟩ |
      ⟨e, before, m, after, db', hrun, hsplit, hcommits, -⟩
    · rw [hrun]
      exact ⟨_, hsub, hcommits⟩
    · rw [hrun]
      have hsplit' : pending ms db = before ++ m :: after := hsplit
      rw [hsplit'] at hsub
      exact ⟨before, (List.append_subset.1 hsub).1, hcommits⟩

theorem nodup_take {all : List (Migration σ)} (h : (all.map Migration.version).Nodup) (n : Nat) :
    ((all.take n).map Migration.version).Nodup := h.sublist ((List.take_sublist n all).map _)

theorem Left.exists_commits {all : List (Migration σ)} {tables : σ} {db : Database σ} (h : Left all tables db) :
    ∃ done : List (Migration σ), done ⊆ all ∧ Commits done (.created tables) db := by
  induction h with
  | created => exact ⟨[], List.nil_subset _, .nil _⟩
  | run n alive fates _ ih =>
    obtain ⟨done, hdone, hcommits⟩ := ih
    obtain ⟨done', hdone', hcommits'⟩ := SchemaMigrator.exists_commits alive fates (all.take n) _
    have hsub : done' ⊆ all := fun m hm => List.mem_of_mem_take (hdone' hm)
    exact ⟨done ++ done', List.append_subset.2 ⟨hdone, hsub⟩, hcommits.append hcommits'⟩

/-- In every database that runs have left, exactly the migrations with a row in `schema_migrations` have been
committed, each once; a run commits what is pending in the order of the list, up to the first migration that fails;
and after a run that returned, a run returns 0 and changes nothing. -/
theorem migrate_exactly_once {all : List (Migration σ)} (hdistinct : (all.map Migration.version).Nodup) {tables : σ}
    {db : Database σ} (h : Left all tables db) :
    (∃ done : List (Migration σ), done ⊆ all ∧ Commits done (.created tables) db) ∧
    (∀ version, db.executed.count version = if version ∈ db.versions then 1 else 0) ∧
    ∀ n alive fates, RunSpec fates (all.take n) db (runOn (migrate alive fates (all.take n)) db) ∧
      ∀ k db', runOn (migrate alive fates (all.take n)) db = (.ok k, db') →
        ∀ fates', runOn (migrate true fates' (all.take n)) db' = (.ok 0, db') := by
  obtain ⟨done, hdone, hcommits⟩ := h.exists_commits
  refine ⟨⟨done, hdone, hcommits⟩, fun version => ?_, fun n alive fates => ?_⟩
  · have hnodup : db.versions.Nodup := hcommits.nodup List.nodup_nil
    have hsame : db.executed = db.versions := by
      rw [hcommits.executed, hcommits.versions]
      rfl
    rw [hsame]
    split
    · next hmem => exact List.count_eq_one_of_mem hnodup hmem
    · next hmem => exact List.count_eq_zero_of_not_mem hmem
  · have hspec := runSpec_migrate (nodup_take hdistinct n) alive fates db
    refine ⟨hspec, fun k db' hrun fates' => ?_⟩
    rw [hrun] at hspec
    exact runOn_migrate_of_pending_nil (hspec.returned k rfl).2.2 fates'

/-- The second of two migrations fails half way and is rolled back. -/
theorem migrate_exactly_once_half_way :
    let robots : Migration (List String) := ⟨"001", "robots", fun tables => (true, tables ++ ["robots"])⟩
    let maps : Migration (List String) := ⟨"002", "maps", fun tables => (false, tables ++ ["maps"])⟩
    let db := (runOn (migrate true (fun _ => { now := "12:00" }) [robots, maps]) (.created [])).2
    (∀ version, db.executed.count version = if version ∈ db.versions then 1 else 0) ∧
      db.versions = ["001"] ∧ db.tables = ["robots"] := by
  intro robots maps db
  have hdistinct : ([robots, maps].map Migration.version).Nodup := by decide
  have hleft : Left [robots, maps] [] db := .run 2 true _ .created
  obtain ⟨-, hcount, -⟩ := migrate_exactly_once hdistinct hleft
  exact ⟨hcount, rfl, rfl⟩

/-! ### Repeated runs -/

/-- A database that was created and left by runs with the same migrations, whatever became of them. -/
inductive Retried (all : List (Migration σ)) (tables : σ) : Database σ → Prop where
  | created : Retried all tables (.created tables)
  | run {db : Database σ} (alive : Bool) (fates : String → Fates) (h : Retried all tables db) :
    Retried all tables (runOn (migrate alive fates all) db).2

theorem Retried.left {all : List (Migration σ)} {tables : σ} {db : Database σ} (h : Retried all tables db) :
    Left all tables db := by
  induction h with
  | created => exact .created
  | run alive fates _ ih =>
    have hrun := Left.run all.length alive fates ih
    rwa [List.take_length] at hrun

theorem runOn_applyMigration_of_succeeds {m : Migration σ} {db : Database σ} (hversion : m.version ∉ db.versions)
    (hsql : (m.sql db.tables).1 = true) (now : String) :
    runOn (applyMigration { now := now } m) db = (.ok (), db.commit now m) := by
  have hexec : runOn (execSql .succeeds m) db =
      (.ok (), { db with tables := (m.sql db.tables).2, executed := db.executed ++ [m.version] }) := by
    simp only [execSql, statement, pure_bind, runOn_get_bind, hsql, if_true]
    rfl
  have hinsert : runOn (insertVersion .succeeds now m)
      { db with tables := (m.sql db.tables).2, executed := db.executed ++ [m.version] } =
        (.ok (), db.commit now m) := by
    unfold insertVersion
    simp only [statement, pure_bind, runOn_get_bind]
    rw [if_neg (by simpa [Database.versions] using hversion)]
    rfl
  unfold applyMigration transaction
  simp only [statement, pure_bind, runOn_get_bind]
  rw [runOn_tryCatch, runOn_bind, runOn_bind, hexec]
  dsimp only
  rw [hinsert]
  rfl

/-- A run that commits something leaves less to be done. -/
private theorem length_pending_lt {all before after : List (Migration σ)} {m : Migration σ} {db db' : Database σ}
    (hsplit : pending all db = m :: before ++ after) (h : Commits (m :: before) db db') :
    (pending all db').length < (pending all db).length := by
  have hmem : m ∈ pending all db := by simp [hsplit]
  have hpending : pending all db' = (pending all db).filter fun m' => !db'.versions.contains m'.version := by
    unfold pending
    rw [List.filter_filter]
    refine List.filter_congr fun m' _ => ?_
    rw [h.versions, List.contains_append]
    cases db.versions.contains m'.version <;> simp
  rw [hpending, List.length_filter_lt_length_iff_exists]
  refine ⟨m, hmem, ?_⟩
  rw [h.versions]
  simp

/-- Where every SQL succeeds, enough runs end with one that returns. -/
theorem exists_returned {all : List (Migration σ)} (hsql : ∀ m ∈ all, ∀ tables, (m.sql tables).1 = true)
    (now : String) {tables : σ} {db : Database σ} (h : Retried all tables db) :
    ∃ db' k db'', Retried all tables db' ∧
      runOn (migrate true (fun _ => { now := now }) all) db' = (.ok k, db'') := by
  -- each run that throws has committed the first of the pending migrations
  induction hn : (pending all db).length using Nat.strongRecOn generalizing db with
  | ind n ih =>
    have hrun := runOn_migrate true (fun _ => { now := now }) all db
    rw [if_pos rfl] at hrun
    rcases runOn_applyPending (fun _ => { now := now }) db.versions all 0 db with ⟨db', hreturns, -⟩ |
      ⟨e, before, m, after, db', hthrows, hsplit, hcommits, hfails⟩
    · exact ⟨db, _, db', h, hrun.trans hreturns⟩
    · have hsplit' : pending all db = before ++ m :: after := hsplit
      cases before with
      | nil =>
        cases hcommits
        obtain ⟨hm, hversion⟩ := List.mem_filter.1 (hsplit' ▸ List.mem_cons_self : m ∈ pending all db)
        rw [runOn_applyMigration_of_succeeds (by simpa using hversion) (hsql m hm _) now] at hfails
        cases hfails
      | cons m' before =>
        have hretried := h.run true fun _ => { now := now }
        rw [hrun, hthrows] at hretried
        have hlt := length_pending_lt hsplit' hcommits
        exact ih _ (hn ▸ hlt) hretried rfl

end SyriusOrbit.SchemaMigrator

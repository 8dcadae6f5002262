import SyriusOrbit.Cmake.Lists
import SyriusOrbit.SchemaMigrator
import Mathlib.Data.List.Perm.Subperm

/-!
# Migration files

`cmake/migrations.cmake`, which embeds the `.sql` files of `src/db/migrations` in the program, together with runs of
`SchemaMigrator::migrate`.  Its checks never reject a file, and two files may get one version; then the first run
throws, but a later one skips the second file and returns (`noneSkipped_iff`).
-/

namespace SyriusOrbit.MigrationFiles

open Effect Cmake SchemaMigrator

variable {σ : Type}

/-! ### Collecting the files -/

/-- The files that `*.sql` matches in `src/db/migrations`, by their names; each character stands for a byte. -/
structure MigrationsDir where
  files : List String
  nodup : files.Nodup
  sql : ∀ f ∈ files, ".sql".toList <:+ f.toList

/-- The path of a file, of which the part before its name has no character that is special in lists. -/
def path (f : String) : List Symbol := none :: f.toList.map some

/-- `_sql_files`: `file(GLOB)` and `list(SORT)`. -/
def sqlFiles (d : MigrationsDir) : List Symbol := listSort (joined (sorted (d.files.map path)))

/-- `string(SUBSTRING "${_filename}" 0 3 _version)`. -/
def version (filename : String) : String := String.ofList (filename.toList.take 3)

/-- `string(REGEX REPLACE "^([0-9]+)_(.+)\\.sql$" "\\2" _name "${_filename}")`, which leaves a file name that does not
match as it is. -/
def name (filename : String) : String :=
  match filename.toList.dropWhile Char.isDigit with
  | '_' :: rest =>
    if filename.toList.head?.any Char.isDigit ∧ ".sql".toList <:+ rest ∧ 4 < rest.length
    then String.ofList (rest.take (rest.length - 4)) else filename
  | _ => filename

/-- The entry of a file; `content` says what executing the text of a file does. -/
def entry (content : String → σ → Bool × σ) (filename : String) : Migration σ :=
  ⟨version filename, name filename, content filename⟩

/-- The body of the loop for an element of `_sql_files`; `none` is an error. -/
def embed (d : MigrationsDir) (content : String → σ → Bool × σ) (f : List Symbol) : Option (Migration σ) :=
  match d.files.find? fun filename => path filename = f with
  | none => none
  | some filename => if version filename = "" ∨ name filename = "" then none else some (entry content filename)

/-- `EMBEDDED_MIGRATIONS` with the texts as they stand between the quotes of the header, or `none` where
`migrations.cmake` stops with an error. -/
def migrationsCmake (d : MigrationsDir) (content : String → σ → Bool × σ) : Option (List (Migration σ)) :=
  if sqlFiles d = [] then none
  else (forEach (sqlFiles d)).mapM (embed d content)

/-! ### What is embedded -/

/-- `_sql_files` has an element that is not the path of a file, and `file(READ)` fails. -/
def Unreadable (d : MigrationsDir) : Prop := ∃ f ∈ forEach (sqlFiles d), f ∉ d.files.map path

private theorem path_injective : Function.Injective path := by
  intro f f' h
  have hlist := List.map_injective_iff.2 (Option.some_injective Char) (List.cons.inj h).2
  exact String.ext hlist

private theorem toList_ne_nil {d : MigrationsDir} {f : String} (hf : f ∈ d.files) : f.toList ≠ [] := by
  intro hnil
  have hsuffix := d.sql f hf
  rw [hnil, List.suffix_nil] at hsuffix
  cases hsuffix

private theorem version_ne_empty {d : MigrationsDir} {f : String} (hf : f ∈ d.files) : version f ≠ "" := by
  intro hempty
  have htake : f.toList.take 3 = [] := by simpa [version] using congrArg String.toList hempty
  rcases List.take_eq_nil_iff.1 htake with hzero | hnil
  · cases hzero
  · exact toList_ne_nil hf hnil

private theorem name_ne_empty {d : MigrationsDir} {f : String} (hf : f ∈ d.files) : name f ≠ "" := by
  have hfile : f ≠ "" := fun hempty => toList_ne_nil hf (by rw [hempty]; rfl)
  unfold name
  split
  · next rest _ =>
    split
    · next hmatch =>
      intro hempty
      have htake : rest.take (rest.length - 4) = [] := by simpa using congrArg String.toList hempty
      have hlength := congrArg List.length htake
      rw [List.length_take, List.length_nil] at hlength
      omega
    · exact hfile
  · exact hfile

private theorem embed_path {d : MigrationsDir} {f : String} (hf : f ∈ d.files) (content : String → σ → Bool × σ) :
    embed d content (path f) = some (entry content f) := by
  unfold embed
  split
  · next hnone => exact absurd (decide_eq_true rfl) (List.find?_eq_none.1 hnone f hf)
  · next f' hsome =>
    have heq : path f' = path f := by simpa using List.find?_some hsome
    obtain rfl := path_injective heq
    rw [if_neg (not_or.2 ⟨version_ne_empty hf, name_ne_empty hf⟩)]

private theorem embed_of_not_mem {d : MigrationsDir} {p : List Symbol} (hp : p ∉ d.files.map path)
    (content : String → σ → Bool × σ) : embed d content p = none := by
  unfold embed
  split
  · rfl
  · next f hsome =>
    have heq : path f = p := by simpa using List.find?_some hsome
    exact absurd (List.mem_map.2 ⟨f, List.mem_of_find?_eq_some hsome, heq⟩) hp

private theorem mapM_embed_map_path {d : MigrationsDir} {fs : List String} (hfs : fs ⊆ d.files)
    (content : String → σ → Bool × σ) : (fs.map path).mapM (embed d content) = some (fs.map (entry content)) := by
  induction fs with
  | nil => rfl
  | cons f fs ih =>
    rw [List.map_cons, List.mapM_cons, embed_path (hfs List.mem_cons_self),
      ih fun g hg => hfs (List.mem_cons_of_mem f hg)]
    rfl

private theorem mapM_embed_eq_none {d : MigrationsDir} {ps : List (List Symbol)} (h : ∃ p ∈ ps, p ∉ d.files.map path)
    (content : String → σ → Bool × σ) : ps.mapM (embed d content) = none := by
  induction ps with
  | nil => simp at h
  | cons p ps ih =>
    rw [List.mapM_cons]
    obtain ⟨q, hq, hnot⟩ := h
    rcases List.mem_cons.1 hq with rfl | hq
    · rw [embed_of_not_mem hnot]
      rfl
    · rw [ih ⟨q, hq, hnot⟩]
      cases embed d content p <;> rfl

/-- The files that the elements of `_sql_files` are, in their order. -/
private theorem exists_files {d : MigrationsDir} (h : ¬ Unreadable d) :
    ∃ fs : List String, fs ⊆ d.files ∧ forEach (sqlFiles d) = fs.map path := by
  unfold Unreadable at h
  generalize forEach (sqlFiles d) = ps at h ⊢
  induction ps with
  | nil => exact ⟨[], List.nil_subset _, rfl⟩
  | cons p ps ih =>
    have hp : p ∈ d.files.map path := by
      by_contra hnot
      exact h ⟨p, List.mem_cons_self, hnot⟩
    obtain ⟨f, hf, rfl⟩ := List.mem_map.1 hp
    obtain ⟨fs, hfs, rfl⟩ := ih fun ⟨q, hq, hnot⟩ => h ⟨q, List.mem_cons_of_mem _ hq, hnot⟩
    exact ⟨f :: fs, List.cons_subset.2 ⟨hf, hfs⟩, rfl⟩

/-! ### Names and list elements -/

private theorem following_path (k : Nat) (f : String) : following k (path f) = [(f.toList.take k).map some] := by
  have hnone : ∀ l : List Char, following k (l.map some) = [] := by
    intro l
    induction l with
    | nil => rfl
    | cons c l ih => exact ih
  rw [path, following, hnone, List.map_take]

private theorem flatMap_following_path (k : Nat) (fs : List String) :
    (fs.map path).flatMap (following k) = fs.map fun f => (f.toList.take k).map some := by
  induction fs with
  | nil => rfl
  | cons f fs ih => rw [List.map_cons, List.flatMap_cons, ih, following_path, List.map_cons, List.singleton_append]

/-- The elements of `_sql_files` have as their beginnings those of the files. -/
private theorem perm_beginnings {d : MigrationsDir} {fs : List String} {k : Nat}
    (hfollows : ∀ f ∈ d.files, Follows k (path f))
    (hfs : forEach (sqlFiles d) = fs.map path) :
    (fs.map fun f => (f.toList.take k).map some).Perm (d.files.map fun f => (f.toList.take k).map some) := by
  have hpaths : ∀ p ∈ sorted (d.files.map path), Follows k p := by
    intro p hp
    obtain ⟨f, hf, rfl⟩ := List.mem_map.1 ((perm_sorted _).mem_iff.1 hp)
    exact hfollows f hf
  have hglob := follows_joined hpaths
  have hforEach := flatMap_following_forEach (follows_listSort hglob)
  have hsort := perm_following_listSort hglob
  rw [following_joined hpaths, ← hforEach] at hsort
  have hperm := hsort.trans ((perm_sorted (d.files.map path)).flatMap_right (following k))
  have hfs' : forEach (listSort (joined (sorted (d.files.map path)))) = fs.map path := hfs
  rwa [hfs', flatMap_following_path, flatMap_following_path] at hperm

/-- There are as many elements as files. -/
private theorem length_eq {d : MigrationsDir} {fs : List String} (hfs : forEach (sqlFiles d) = fs.map path) :
    fs.length = d.files.length := by
  have hfollows : ∀ f ∈ d.files, Follows 0 (path f) := by
    intro f _ t ht
    rw [following_path] at ht
    simp_all
  simpa using (perm_beginnings hfollows hfs).length_eq

private theorem sqlFiles_ne_nil {d : MigrationsDir} (h : d.files ≠ []) : sqlFiles d ≠ [] := by
  intro hnil
  have hlength : [].length = d.files.length := length_eq (by rw [hnil]; rfl)
  exact h (List.length_eq_zero_iff.1 hlength.symm)

private theorem migrationsCmake_eq_some {d : MigrationsDir} {fs : List String} (hfs : fs ⊆ d.files)
    (hforEach : forEach (sqlFiles d) = fs.map path) (hfiles : d.files ≠ []) (content : String → σ → Bool × σ) :
    migrationsCmake d content = some (fs.map (entry content)) := by
  unfold migrationsCmake
  rw [if_neg (sqlFiles_ne_nil hfiles), hforEach, mapM_embed_map_path hfs]

theorem migrationsCmake_eq_none {d : MigrationsDir} (h : d.files = [] ∨ Unreadable d)
    (content : String → σ → Bool × σ) : migrationsCmake d content = none := by
  unfold migrationsCmake
  rcases h with hnil | hunreadable
  · have hempty : sqlFiles d = [] := by
      unfold sqlFiles
      rw [hnil]
      rfl
    rw [if_pos hempty]
  · rw [mapM_embed_eq_none hunreadable, ite_self]

/-! ### The order of the files -/

/-- Without a special character in the names the elements are the paths of the files, sorted as they were found and once
more by `list(SORT)`. -/
private theorem forEach_sqlFiles {d : MigrationsDir} (hfiles : d.files ≠ [])
    (h : ∀ f ∈ d.files, ∀ c ∈ f.toList, IsPlain (some c)) :
    forEach (sqlFiles d) = sorted (sorted (d.files.map path)) := by
  have hplain : ∀ p ∈ d.files.map path, p ≠ [] ∧ ∀ c ∈ p, IsPlain c := by
    intro p hp
    obtain ⟨f, hf, rfl⟩ := List.mem_map.1 hp
    refine ⟨List.cons_ne_nil _ _, fun c hc => ?_⟩
    rcases List.mem_cons.1 hc with rfl | hc
    · simp [IsPlain]
    · obtain ⟨b, hb, rfl⟩ := List.mem_map.1 hc
      exact h f hf b hb
  have hsorted : ∀ ps : List (List Symbol), ps.Perm (d.files.map path) →
      elements 0 (joined (sorted ps)) = sorted ps := by
    intro ps hps
    have hps' := (perm_sorted ps).trans hps
    refine elements_joined (fun p hp => (hplain p (hps'.mem_iff.1 hp)).2) fun hnil => ?_
    rw [hnil] at hps'
    exact hfiles (List.map_eq_nil_iff.1 hps'.nil_eq.symm)
  have hperm := (perm_sorted (sorted (d.files.map path))).trans (perm_sorted (d.files.map path))
  unfold forEach sqlFiles listSort
  rw [hsorted _ (.refl _), hsorted _ (perm_sorted _)]
  exact List.filter_eq_self.2 fun p hp => by simpa using (hplain p (hperm.mem_iff.1 hp)).1

/-- The names in the order of their bytes. -/
def sortedFiles (d : MigrationsDir) : List String := d.files.insertionSort fun f g => f.toList ≤ g.toList

/-- No name has a character with a meaning in CMake lists or C++ strings. -/
def PlainNames (d : MigrationsDir) : Prop := ∀ f ∈ d.files, ∀ c ∈ f.toList, IsPlain (some c) ∧ c ≠ '"'

private theorem map_path_sortedFiles (d : MigrationsDir) : (sortedFiles d).map path = sorted (d.files.map path) := by
  refine List.map_insertionSort _ _ path _ fun f _ g _ => ?_
  have hbytes : ∀ f, (path f).map Symbol.byte = '/' :: f.toList := by
    intro f
    rw [path, List.map_cons, List.map_map]
    exact congrArg ('/' :: ·) (List.map_id _)
  rw [hbytes, hbytes]
  refine ⟨List.cons_le_cons '/', fun h => ?_⟩
  by_contra hlt
  exact absurd h (not_le.2 (List.Lex.cons (not_le.1 hlt)))

theorem perm_sortedFiles (d : MigrationsDir) : (sortedFiles d).Perm d.files := List.perm_insertionSort _ _

theorem pairwise_sortedFiles (d : MigrationsDir) : (sortedFiles d).Pairwise fun f g => f.toList ≤ g.toList := by
  have htotal : Std.Total fun f g : String => f.toList ≤ g.toList := ⟨fun f g => le_total f.toList g.toList⟩
  have htrans : IsTrans String fun f g => f.toList ≤ g.toList := ⟨fun _ _ _ h h' => le_trans h h'⟩
  exact List.pairwise_insertionSort _ _

/-- A list of these names in their order. -/
theorem eq_sortedFiles {d : MigrationsDir} {fs : List String} (hperm : fs.Perm d.files)
    (hsorted : fs.Pairwise fun f g => f.toList ≤ g.toList) : fs = sortedFiles d :=
  (hperm.trans (perm_sortedFiles d).symm).eq_of_pairwise
    (fun _ _ _ _ h h' => String.ext (le_antisymm h h')) hsorted (pairwise_sortedFiles d)

private theorem forEach_eq_map_sortedFiles {d : MigrationsDir} (hfiles : d.files ≠ []) (hplain : PlainNames d) :
    forEach (sqlFiles d) = (sortedFiles d).map path := by
  have htotal : Std.Total fun a b : List Symbol => a.map Symbol.byte ≤ b.map Symbol.byte :=
    ⟨fun a b => le_total (a.map Symbol.byte) (b.map Symbol.byte)⟩
  have htrans : IsTrans (List Symbol) fun a b => a.map Symbol.byte ≤ b.map Symbol.byte :=
    ⟨fun _ _ _ h h' => le_trans h h'⟩
  rw [forEach_sqlFiles hfiles fun f hf c hc => (hplain f hf c hc).1, map_path_sortedFiles]
  exact (List.pairwise_insertionSort _ _).insertionSort_eq

/-- The script embeds the files in this order. -/
theorem migrationsCmake_eq_sortedFiles {d : MigrationsDir} (hfiles : d.files ≠ []) (hplain : PlainNames d)
    (content : String → σ → Bool × σ) : migrationsCmake d content = some ((sortedFiles d).map (entry content)) :=
  migrationsCmake_eq_some (perm_sortedFiles d).subset (forEach_eq_map_sortedFiles hfiles hplain) hfiles content

/-! ### No file is skipped -/

/-- The form `NNN_name.sql`, with three digits. -/
def Numbered (f : String) : Prop :=
  ∃ n₁ n₂ n₃ name, f.toList = n₁ :: n₂ :: n₃ :: '_' :: (name ++ ".sql".toList) ∧ n₁.isDigit ∧ n₂.isDigit ∧
    n₃.isDigit ∧ name ≠ []

/-- After any runs, one that returns leaves a database to which the SQL of every file has been applied. -/
def Applied (d : MigrationsDir) (content : String → σ → Bool × σ) (migrations : List (Migration σ)) : Prop :=
  ∀ tables db, Retried migrations tables db → ∀ alive fates k db',
    runOn (migrate alive fates migrations) db = (.ok k, db') →
      ∃ done, Commits done (.created tables) db' ∧ (d.files.map (entry content)).Subperm done

/-- What is expected of the migrations that have been embedded. -/
structure Kept (d : MigrationsDir) (content : String → σ → Bool × σ) (migrations : List (Migration σ)) : Prop where
  named : ∀ f ∈ d.files, Numbered f
  distinct : (migrations.map Migration.version).Nodup
  applied : Applied d content migrations

def NoneSkipped (d : MigrationsDir) : Prop :=
  ∀ (σ : Type) (content : String → σ → Bool × σ) (migrations : List (Migration σ)),
    migrationsCmake d content = some migrations → Kept d content migrations

private theorem follows_of_numbered {f : String} (h : Numbered f) : Follows 3 (path f) := by
  obtain ⟨n₁, n₂, n₃, name, hf, h₁, h₂, h₃, -⟩ := h
  intro t ht
  rw [following_path, hf, List.mem_singleton] at ht
  subst ht
  refine ⟨rfl, fun c hc => ?_⟩
  have hplain : ∀ n : Char, n.isDigit → IsPlain (some n) := by
    intro n hn
    refine ⟨?_, ?_, ?_, ?_⟩
    all_goals
      rintro h
      rw [Option.some.inj h] at hn
      exact absurd hn (by decide)
  simp only [List.take_succ_cons, List.take_zero, List.map_cons, List.map_nil, List.mem_cons, List.not_mem_nil,
    or_false] at hc
  rcases hc with rfl | rfl | rfl
  · exact hplain n₁ h₁
  · exact hplain n₂ h₂
  · exact hplain n₃ h₃

theorem map_version_entry (content : String → σ → Bool × σ) (fs : List String) :
    (fs.map (entry content)).map Migration.version = fs.map version := by
  rw [List.map_map]
  rfl

/-- The versions of the elements are those of the files. -/
private theorem perm_versions {d : MigrationsDir} {fs : List String} (hnumbered : ∀ f ∈ d.files, Numbered f)
    (hfs : forEach (sqlFiles d) = fs.map path) : (fs.map version).Perm (d.files.map version) := by
  have hperm := (perm_beginnings (fun f hf => follows_of_numbered (hnumbered f hf)) hfs).map
    fun t => String.ofList (t.filterMap id)
  rw [List.map_map, List.map_map] at hperm
  have hversion : ∀ l : List String, (l.map ((fun t => String.ofList (t.filterMap id)) ∘
      fun f => (f.toList.take 3).map some)) = l.map version := by
    intro l
    refine List.map_congr_left fun f _ => ?_
    rw [Function.comp_apply, List.filterMap_map]
    exact congrArg String.ofList List.filterMap_some
  rwa [hversion, hversion] at hperm

/-- Files with different versions, all of them among the elements' versions, are the elements. -/
private theorem perm_files {d : MigrationsDir} {fs : List String} (hsub : fs ⊆ d.files)
    (hfs : forEach (sqlFiles d) = fs.map path) (hdistinct : (d.files.map version).Nodup)
    (hversions : d.files.map version ⊆ fs.map version) : fs.Perm d.files := by
  have hfiles : d.files ⊆ fs := by
    intro f hf
    obtain ⟨f', hf', heq⟩ := List.mem_map.1 (hversions (List.mem_map_of_mem hf))
    rwa [List.inj_on_of_nodup_map hdistinct (hsub hf') hf heq] at hf'
  exact ((d.nodup.subperm hfiles).perm_of_length_le (length_eq hfs).le).symm

/-- Different versions suffice for all the SQL to be applied. -/
private theorem applied_of_nodup {d : MigrationsDir} {fs : List String} (hperm : fs.Perm d.files)
    (hdistinct : (fs.map version).Nodup) (content : String → σ → Bool × σ) :
    Applied d content (fs.map (entry content)) := by
  intro tables db hretried alive fates k db' hrun
  have hversions : ((fs.map (entry content)).map Migration.version).Nodup := by rwa [map_version_entry]
  obtain ⟨done, hdone, hcommits⟩ := hretried.left.exists_commits
  have hreturned := (runSpec_migrate hversions alive fates db).returned k (by rw [hrun])
  rw [hrun] at hreturned
  obtain ⟨hrest, -, hpending⟩ := hreturned
  have hall := hcommits.append hrest
  refine ⟨_, hall, ?_⟩
  have hnodup : (d.files.map (entry content)).Nodup :=
    (hperm.map (entry content)).nodup_iff.1 (List.Nodup.of_map Migration.version hversions)
  refine hnodup.subperm fun m hm => ?_
  have hm' : m ∈ fs.map (entry content) := (hperm.map (entry content)).mem_iff.2 hm
  -- what is not pending has a row, and so a migration with its version has been committed
  have hrow : m.version ∈ db'.versions := by
    by_contra hnot
    have hmem : m ∈ pending (fs.map (entry content)) db' := List.mem_filter.2 ⟨hm', by simpa using hnot⟩
    rw [hpending] at hmem
    cases hmem
  rw [hall.versions] at hrow
  obtain ⟨m', hm'done, heq⟩ := List.mem_map.1 hrow
  have hsub : m' ∈ fs.map (entry content) := by
    rcases List.mem_append.1 hm'done with hbefore | hlast
    · exact hdone hbefore
    · exact (List.mem_filter.1 hlast).1
  rwa [List.inj_on_of_nodup_map hversions hsub hm' heq] at hm'done

/-- Where all the SQL is applied the versions are different, and every file is an element. -/
private theorem nodup_of_applied {d : MigrationsDir} {fs : List String}
    (happlied : Applied d (fun _ (_ : Unit) => (true, ())) (fs.map (entry fun _ _ => (true, ())))) :
    (d.files.map version).Nodup ∧ d.files.map version ⊆ fs.map version := by
  have hsql : ∀ m ∈ fs.map (entry fun _ (_ : Unit) => (true, ())), ∀ tables, (m.sql tables).1 = true := by
    simp [entry]
  obtain ⟨db, k, db', hretried, hrun⟩ := exists_returned hsql "" (.created : Retried _ () _)
  obtain ⟨done, hcommits, hdone⟩ := happlied () db hretried true _ k db' hrun
  have hretried' := hretried.run true fun _ => { now := "" }
  rw [hrun] at hretried'
  obtain ⟨done', hdone', hcommits'⟩ := hretried'.left.exists_commits
  have hversions : done.map Migration.version = done'.map Migration.version :=
    hcommits.versions.symm.trans hcommits'.versions
  have hnodup : (done.map Migration.version).Nodup := by
    have hrows := hcommits.nodup List.nodup_nil
    rwa [hcommits.versions] at hrows
  obtain ⟨l, hperm, hsublist⟩ := hdone
  have hfiles := hperm.map Migration.version
  rw [map_version_entry] at hfiles
  have hfiles' := hsublist.map Migration.version
  refine ⟨hfiles.nodup_iff.1 (hnodup.sublist hfiles'), fun v hv => ?_⟩
  have hv' := hfiles'.subset (hfiles.mem_iff.2 hv)
  rw [hversions] at hv'
  rw [← map_version_entry (fun _ (_ : Unit) => (true, ()))]
  exact List.map_subset _ hdone' hv'

/-- Where the names have no character with a meaning in CMake lists or C++ strings, runs that return have applied all
the SQL exactly if no two files begin with the same three characters, whatever the form of the names. -/
theorem applied_iff {d : MigrationsDir}
    (hplain : ∀ f ∈ d.files, ∀ c ∈ f.toList, IsPlain (some c) ∧ c ≠ '"') :
    (∀ (σ : Type) (content : String → σ → Bool × σ) (migrations : List (Migration σ)),
      migrationsCmake d content = some migrations → Applied d content migrations) ↔ (d.files.map version).Nodup := by
  by_cases hfiles : d.files = []
  · refine ⟨fun _ => by rw [hfiles]; exact List.nodup_nil, fun _ σ content ms hms => ?_⟩
    rw [migrationsCmake_eq_none (.inl hfiles)] at hms
    cases hms
  · have hfs := forEach_eq_map_sortedFiles hfiles hplain
    have hperm := perm_sortedFiles d
    have hsub : sortedFiles d ⊆ d.files := hperm.subset
    constructor
    · intro h
      exact (nodup_of_applied (h Unit _ _ (migrationsCmake_eq_some hsub hfs hfiles _))).1
    · intro hdistinct σ content ms hms
      rw [migrationsCmake_eq_some hsub hfs hfiles] at hms
      obtain rfl := Option.some.inj hms
      exact applied_of_nodup hperm ((hperm.map version).nodup_iff.2 hdistinct) content

/-- No file is skipped exactly where the script stops, as it does for no file and for a name that breaks CMake's list,
or every file has the form `NNN_name.sql` and no two of them begin with the same three characters. -/
theorem noneSkipped_iff (d : MigrationsDir) :
    NoneSkipped d ↔
      d.files = [] ∨ Unreadable d ∨ (∀ f ∈ d.files, Numbered f) ∧ (d.files.map version).Nodup := by
  by_cases hstops : d.files = [] ∨ Unreadable d
  · refine ⟨fun _ => or_assoc.1 (.inl hstops), fun _ σ content ms hms => ?_⟩
    rw [migrationsCmake_eq_none hstops] at hms
    cases hms
  · obtain ⟨hfiles, hreadable⟩ := not_or.1 hstops
    obtain ⟨fs, hsub, hfs⟩ := exists_files hreadable
    constructor
    · intro h
      have hkept := h Unit (fun _ _ => (true, ())) _ (migrationsCmake_eq_some hsub hfs hfiles _)
      have hdistinct := hkept.distinct
      rw [map_version_entry] at hdistinct
      exact .inr (.inr ⟨hkept.named, (perm_versions hkept.named hfs).nodup_iff.1 hdistinct⟩)
    · rintro (hnil | hunreadable | ⟨hnumbered, hdistinct⟩) σ content ms hms
      · exact absurd hnil hfiles
      · exact absurd hunreadable hreadable
      · have hversions := perm_versions hnumbered hfs
        have hdistinct' := hversions.nodup_iff.2 hdistinct
        have hperm := perm_files hsub hfs hdistinct hversions.symm.subset
        rw [migrationsCmake_eq_some hsub hfs hfiles] at hms
        obtain rfl := Option.some.inj hms
        exact ⟨hnumbered, by rwa [map_version_entry], applied_of_nodup hperm hdistinct' content⟩

/-- The first run throws at the second file with version 001, and the next one skips that file and returns. -/
theorem not_noneSkipped_of_collision :
    let d : MigrationsDir := ⟨["001_a.sql", "001_b.sql"], by decide, by decide⟩
    let content : String → List String → Bool × List String := fun f tables => (true, tables ++ [f])
    ¬ NoneSkipped d ∧ ∃ migrations, migrationsCmake d content = some migrations ∧
      let run := runOn (migrate true (fun _ => { now := "12:00" }) migrations)
      (run (.created [])).1 = .error .threw ∧ (run (run (.created [])).2).1 = .ok 0 ∧
        (run (run (.created [])).2).2.tables = ["001_a.sql"] := by
  intro d content
  have hsome : migrationsCmake d content = some [entry content "001_a.sql", entry content "001_b.sql"] := rfl
  refine ⟨fun h => ?_, _, hsome, rfl, rfl, rfl⟩
  exact absurd (h _ content _ hsome).distinct (by decide)

end SyriusOrbit.MigrationFiles

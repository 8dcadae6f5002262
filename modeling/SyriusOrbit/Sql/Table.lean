import SyriusOrbit.Feed.Newest
import Mathlib.Data.List.Nodup

/-!
# Tables with upserts

A table with a primary key and the statement `INSERT … ON CONFLICT DO UPDATE`.  The rows behind one key are a
function of the row there was before and of the statements for that key, in their order (`find?_execAll`), and a
column is a function of its old value and of the values the statements give to it, of which the last one stays
(`column_runRow`).
-/

namespace Sql

variable {ρ κ : Type} {key : ρ → κ}

/-- A table: rows of which no two have the same key. -/
structure Table {ρ κ : Type} (key : ρ → κ) where
  rows : List ρ
  keys_nodup : (rows.map key).Nodup

def Table.empty : Table key := ⟨[], List.nodup_nil⟩

/-- `INSERT … ON CONFLICT(key) DO UPDATE SET …`: the row to insert, and what happens to the row in its place. -/
structure Upsert {ρ κ : Type} (key : ρ → κ) where
  row : ρ
  set : ρ → ρ
  key_set : ∀ r, key (set r) = key r

/-- What the statement makes of the row with its key. -/
def Upsert.act (u : Upsert key) : Option ρ → ρ
  | none => u.row
  | some r => u.set r

/-- What a list of statements for one key makes of its row. -/
def runRow (o : Option ρ) (us : List (Upsert key)) : Option ρ := us.foldl (fun o u => some (u.act o)) o

@[simp] theorem runRow_nil (o : Option ρ) : runRow o ([] : List (Upsert key)) = o := rfl

theorem runRow_cons (o : Option ρ) (u : Upsert key) (us : List (Upsert key)) :
    runRow o (u :: us) = runRow (some (u.act o)) us := rfl

theorem isSome_runRow_some (r : ρ) (us : List (Upsert key)) : (runRow (some r) us).isSome = true := by
  induction us generalizing r with
  | nil => rfl
  | cons u us ih => exact ih (u.act (some r))

theorem isSome_runRow {o : Option ρ} {us : List (Upsert key)} (h : o.isSome = true ∨ us ≠ []) :
    (runRow o us).isSome = true := by
  cases us with
  | nil => simpa using h
  | cons u us => exact isSome_runRow_some (u.act o) us

/-! ### Columns -/

/-- The statement gives the value `e` to a column with the default `d`, or leaves the column alone. -/
structure Upsert.Writes {γ : Type} (u : Upsert key) (c : ρ → γ) (d : γ) (e : Option γ) : Prop where
  row : c u.row = e.getD d
  set : ∀ r, c (u.set r) = e.getD (c r)

theorem Upsert.Writes.act {γ : Type} {u : Upsert key} {c : ρ → γ} {d : γ} {e : Option γ} (h : u.Writes c d e)
    (o : Option ρ) : c (u.act o) = e.getD ((o.map c).getD d) := by
  cases o with
  | none => exact h.row
  | some r => exact h.set r

/-- The column holds the last value given to it, and where none is given its old value or the default. -/
theorem column_runRow {γ ι : Type} {c : ρ → γ} {d : γ} {u : ι → Upsert key} {e : ι → Option γ}
    {is : List ι} (h : ∀ i ∈ is, (u i).Writes c d (e i)) {o : Option ρ} {r : ρ}
    (hr : runRow o (is.map u) = some r) : c r = (is.filterMap e).getLast?.getD ((o.map c).getD d) := by
  induction is generalizing o with
  | nil =>
    simp only [List.map_nil, runRow_nil] at hr
    simp [hr]
  | cons i is ih =>
    rw [List.map_cons, runRow_cons] at hr
    have hrest := ih (fun i' hi' => h i' (List.mem_cons_of_mem i hi')) hr
    rw [hrest, Option.map_some, Option.getD_some, (h i (by simp)).act, List.filterMap_cons]
    cases e i with
    | none => rfl
    | some x => simp [List.getLast?_cons]

/-- In a new row it holds its default or a value given to it. -/
theorem column_runRow_none {γ ι : Type} {c : ρ → γ} {d : γ} {u : ι → Upsert key} {e : ι → Option γ} {is : List ι}
    (h : ∀ i ∈ is, (u i).Writes c d (e i)) {r : ρ} (hr : runRow none (is.map u) = some r) :
    c r = d ∨ ∃ i ∈ is, e i = some (c r) := by
  have hc := column_runRow h hr
  cases hlast : (is.filterMap e).getLast? with
  | none => exact .inl (by simpa [hlast] using hc)
  | some v =>
    have hcv : c r = v := by simpa [hlast] using hc
    obtain ⟨i, hi, hv⟩ := List.mem_filterMap.1 (List.mem_of_getLast? hlast)
    exact .inr ⟨i, hi, hcv ▸ hv⟩

/-- A column that no update touches is that of the row there was, or else of the first row inserted. -/
theorem map_runRow_of_keeps {γ : Type} {c : ρ → γ} {us : List (Upsert key)}
    (h : ∀ u ∈ us, ∀ r, c (u.set r) = c r) (o : Option ρ) :
    (runRow o us).map c = (o.or (us.head?.map Upsert.row)).map c := by
  induction us generalizing o with
  | nil => cases o <;> rfl
  | cons u us ih =>
    rw [runRow_cons, ih fun u' hu' => h u' (List.mem_cons_of_mem u hu')]
    cases o with
    | none => rfl
    | some r => exact congrArg some (h u List.mem_cons_self r)

/-- A column that statements may also fill in when they insert the row holds the last value given to it otherwise. -/
theorem column_runRow_of_last {γ ι : Type} {c : ρ → γ} {u : ι → Upsert key} {e : ι → Option γ} {is : List ι} {v : γ}
    (hset : ∀ i r, c ((u i).set r) = (e i).getD (c r)) (hrow : ∀ i v, e i = some v → c (u i).row = v)
    (hlast : (is.filterMap e).getLast? = some v) {o : Option ρ} {r : ρ} (hr : runRow o (is.map u) = some r) :
    c r = v := by
  induction is generalizing o with
  | nil => simp at hlast
  | cons i is ih =>
    rw [List.map_cons, runRow_cons] at hr
    cases hrest : (is.filterMap e).getLast? with
    | some w =>
      have hw : w = v := by
        rw [List.filterMap_cons] at hlast
        cases he : e i <;> simpa [he, List.getLast?_cons, hrest] using hlast
      exact ih (hw ▸ hrest) hr
    | none =>
      -- the statements after this one leave the column alone
      have hnone : ∀ i' ∈ is, e i' = none := List.filterMap_eq_nil_iff.1 (List.getLast?_eq_none_iff.1 hrest)
      have hi : e i = some v := by
        rw [List.filterMap_cons, List.getLast?_eq_none_iff.1 hrest] at hlast
        cases he : e i with
        | none => simp [he] at hlast
        | some w => simpa [he] using hlast
      have hact : c ((u i).act o) = v := by
        cases o with
        | none => exact hrow i v hi
        | some r₀ => exact (hset i r₀).trans (by rw [hi]; rfl)
      have hkeeps : ∀ u' ∈ is.map u, ∀ r, c (u'.set r) = c r := by
        intro u' hu' r
        obtain ⟨i', hi', rfl⟩ := List.mem_map.1 hu'
        rw [hset, hnone i' hi', Option.getD_none]
      have hmap := map_runRow_of_keeps hkeeps (some ((u i).act o))
      rw [hr, Option.some_or, Option.map_some, Option.map_some, Option.some_inj] at hmap
      exact hmap.trans hact

/-- The same statements in another order make a row where the first order makes one. -/
theorem map_runRow_congr {γ : Type} {c : ρ → γ} {o : Option ρ} {us us' : List (Upsert key)} (hperm : us.Perm us')
    (h : ∀ r r', runRow o us = some r → runRow o us' = some r' → c r = c r') :
    (runRow o us).map c = (runRow o us').map c := by
  by_cases hsome : o.isSome = true ∨ us ≠ []
  · have hsome' : o.isSome = true ∨ us' ≠ [] := hsome.imp_right fun hne hnil => hne (hnil ▸ hperm).eq_nil
    obtain ⟨r, hr⟩ := Option.isSome_iff_exists.1 (isSome_runRow hsome)
    obtain ⟨r', hr'⟩ := Option.isSome_iff_exists.1 (isSome_runRow hsome')
    rw [hr, hr', Option.map_some, Option.map_some, h r r' hr hr']
  · rw [not_or, not_not] at hsome
    obtain ⟨-, rfl⟩ := hsome
    rw [hperm.nil_eq]

/-! ### Whole records -/

/-- The statements write whole records; `keep` says what an update takes over from the row in its place. -/
structure Replaces {ι : Type} (u : ι → Upsert key) (stored : ι → ρ) (keep : ρ → ρ → ρ) : Prop where
  row : ∀ i, (u i).row = stored i
  set : ∀ i r, (u i).set r = keep r (stored i)
  keep_self : ∀ r, keep r r = r
  keep_keep : ∀ r r' r'', keep (keep r r') r'' = keep r r''

theorem Replaces.runRow_some {ι : Type} {u : ι → Upsert key} {stored : ι → ρ} {keep : ρ → ρ → ρ}
    (h : Replaces u stored keep) (is : List ι) (r r' : ρ) :
    runRow (some (keep r r')) (is.map u) = some (keep r (((is.map stored).getLast?).getD r')) := by
  induction is generalizing r' with
  | nil => rfl
  | cons i is ih =>
    have hact : (u i).act (some (keep r r')) = keep r (stored i) := (h.set i _).trans (h.keep_keep r r' (stored i))
    rw [List.map_cons, List.map_cons, runRow_cons, hact, ih, List.getLast?_cons]
    rfl

/-- The first record makes the row, and the last one stays but for what is taken over from the first. -/
theorem Replaces.runRow_none {ι : Type} {u : ι → Upsert key} {stored : ι → ρ} {keep : ρ → ρ → ρ}
    (h : Replaces u stored keep) (is : List ι) :
    runRow none (is.map u) =
      (is.map stored).head?.bind fun first => (is.map stored).getLast?.map fun last => keep first last := by
  cases is with
  | nil => rfl
  | cons i is =>
    have hact : (u i).act none = keep (stored i) (stored i) := (h.row i).trans (h.keep_self (stored i)).symm
    rw [List.map_cons, List.map_cons, runRow_cons, hact, h.runRow_some, List.getLast?_cons]
    rfl

/-! ### Tables -/

section

variable [DecidableEq κ]

def Table.find? (t : Table key) (k : κ) : Option ρ := t.rows.find? fun r => decide (key r = k)

theorem Table.mem_of_find? {t : Table key} {k : κ} {r : ρ} (h : t.find? k = some r) : r ∈ t.rows ∧ key r = k := by
  unfold Table.find? at h
  have hkey := List.find?_some h
  exact ⟨List.mem_of_find?_eq_some h, of_decide_eq_true hkey⟩

theorem Table.find?_of_mem {t : Table key} {r : ρ} (h : r ∈ t.rows) : t.find? (key r) = some r := by
  cases hfind : t.find? (key r) with
  | none =>
    unfold Table.find? at hfind
    rw [List.find?_eq_none] at hfind
    exact absurd (decide_eq_true rfl) (hfind r h)
  | some r' =>
    obtain ⟨hmem, hkey⟩ := Table.mem_of_find? hfind
    rw [List.inj_on_of_nodup_map t.keys_nodup hmem h hkey]

theorem Table.find?_eq_some_iff {t : Table key} {k : κ} {r : ρ} : t.find? k = some r ↔ r ∈ t.rows ∧ key r = k := by
  refine ⟨Table.mem_of_find?, ?_⟩
  rintro ⟨hr, rfl⟩
  exact Table.find?_of_mem hr

/-- The rows after the statement. -/
def upsertRows (u : Upsert key) (rows : List ρ) : List ρ :=
  if key u.row ∈ rows.map key then rows.map fun r => if key r = key u.row then u.set r else r
  else rows ++ [u.row]

private theorem map_key_update (u : Upsert key) (rows : List ρ) :
    (rows.map fun r => if key r = key u.row then u.set r else r).map key = rows.map key := by
  rw [List.map_map]
  refine List.map_congr_left fun r _ => ?_
  by_cases h : key r = key u.row <;> simp [h, u.key_set]

theorem keys_nodup_upsertRows {u : Upsert key} {rows : List ρ} (h : (rows.map key).Nodup) :
    ((upsertRows u rows).map key).Nodup := by
  unfold upsertRows
  split
  · rw [map_key_update]
    exact h
  · next hk =>
    rw [List.map_append, List.map_cons, List.map_nil]
    exact List.nodup_append.2 ⟨h, List.nodup_singleton _, by
      intro a ha b hb hab
      rw [List.mem_singleton] at hb
      subst hb hab
      exact hk ha⟩

/-- Executes the statement. -/
def Table.exec (t : Table key) (u : Upsert key) : Table key :=
  ⟨upsertRows u t.rows, keys_nodup_upsertRows t.keys_nodup⟩

def Table.execAll (t : Table key) (us : List (Upsert key)) : Table key := us.foldl Table.exec t

private theorem find?_update (u : Upsert key) (rows : List ρ) (k : κ) :
    ((rows.map fun r => if key r = key u.row then u.set r else r).find? fun r => decide (key r = k)) =
      (rows.find? fun r => decide (key r = k)).map fun r => if k = key u.row then u.set r else r := by
  induction rows with
  | nil => rfl
  | cons r rows ih =>
    by_cases hr : key r = key u.row
    · by_cases hk : key u.row = k <;> simp [hr, u.key_set, hk, ih]
    · by_cases hk : key r = k
      · subst hk
        simp [hr]
      · simp [hr, hk, ih]

/-- The statement changes the row with its key and no other. -/
theorem Table.find?_exec (t : Table key) (u : Upsert key) (k : κ) :
    (t.exec u).find? k = if k = key u.row then some (u.act (t.find? k)) else t.find? k := by
  unfold Table.find? Table.exec upsertRows
  dsimp only
  split
  · next hmem =>
    rw [find?_update]
    split
    · next hk =>
      subst hk
      obtain ⟨r, hr, hkey⟩ := List.mem_map.1 hmem
      cases hf : t.rows.find? fun r => decide (key r = key u.row) with
      | none =>
        rw [List.find?_eq_none] at hf
        exact absurd (decide_eq_true hkey) (hf r hr)
      | some r' => rfl
    · exact Option.map_id'
  · next hmem =>
    rw [List.find?_append]
    have hnone : ∀ {k}, k = key u.row → (t.rows.find? fun r => decide (key r = k)) = none := by
      rintro k rfl
      rw [List.find?_eq_none]
      intro r hr hkey
      exact hmem (List.mem_map.2 ⟨r, hr, of_decide_eq_true hkey⟩)
    split
    · next hk =>
      rw [hnone hk]
      simp [hk, Upsert.act]
    · next hk => simp [Ne.symm hk]

/-- The row behind a key is made by the statements for that key. -/
theorem Table.find?_execAll (t : Table key) (us : List (Upsert key)) (k : κ) :
    (t.execAll us).find? k = runRow (t.find? k) (us.filter fun u => decide (key u.row = k)) := by
  induction us generalizing t with
  | nil => rfl
  | cons u us ih =>
    have hcons : t.execAll (u :: us) = (t.exec u).execAll us := rfl
    rw [hcons, ih, Table.find?_exec, List.filter_cons]
    by_cases hk : key u.row = k
    · simp [hk, runRow_cons]
    · simp [hk, Ne.symm hk]

theorem Table.exists_find?_execAll {us : List (Upsert key)} {u : Upsert key} (hu : u ∈ us) (t : Table key) :
    ∃ r, (t.execAll us).find? (key u.row) = some r := by
  rw [Table.find?_execAll]
  refine Option.isSome_iff_exists.1 (isSome_runRow (.inr ?_))
  exact List.ne_nil_of_mem (List.mem_filter.2 ⟨hu, decide_eq_true rfl⟩)

/-- A column of the row behind a key holds the last value that the statements give to it under that key. -/
theorem Table.column_execAll {γ ι : Type} {c : ρ → γ} {d : γ} {u : ι → Upsert key} {e : ι → Option γ}
    {is : List ι} (h : ∀ i ∈ is, (u i).Writes c d (e i)) {t : Table key} {k : κ} {r : ρ}
    (hr : (t.execAll (is.map u)).find? k = some r) :
    c r = (Feed.lastValue k (is.filterMap fun i => (e i).map fun v => (key (u i).row, v))).getD
      (((t.find? k).map c).getD d) := by
  rw [Table.find?_execAll, List.filter_map] at hr
  rw [column_runRow (fun i hi => h i (List.mem_filter.1 hi).1) hr, Feed.lastValue, Feed.valuesOf,
    List.filterMap_filterMap, List.filterMap_filter]
  congr 3
  funext i
  cases he : e i <;> simp

/-- Statements that write whole records leave the last one for a key, but for what is taken over from the first. -/
theorem Table.find?_execAll_of_replaces {ι : Type} {u : ι → Upsert key} {stored : ι → ρ}
    {keep : ρ → ρ → ρ} (h : Replaces u stored keep) (is : List ι) (k : κ) :
    (Table.empty.execAll (is.map u)).find? k =
      ((is.map stored).filter fun r => decide (key r = k)).head?.bind fun first =>
        ((is.map stored).filter fun r => decide (key r = k)).getLast?.map fun last => keep first last := by
  have hfilter : (is.map stored).filter (fun r => decide (key r = k)) =
      (is.filter fun i => decide (key (u i).row = k)).map stored := by
    rw [List.filter_map]
    congr 1
    refine List.filter_congr fun i _ => ?_
    simp [h.row i]
  rw [Table.find?_execAll, List.filter_map, hfilter]
  exact h.runRow_none _

theorem Table.execAll_append (t : Table key) (us us' : List (Upsert key)) :
    t.execAll (us ++ us') = (t.execAll us).execAll us' := List.foldl_append

end

end Sql

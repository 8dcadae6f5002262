import SyriusOrbit.Sql.Table

/-!
# Keys of a table and statements that are run again

Statements add keys and never take one away, and leave the columns alone that none of them sets
(`Extends.of_execAll`).  Statements that overwrite columns with fixed values can be run again: the second run finds
every row as the first one left it, and leaves it so (`execAll_execAll`).
-/

namespace Sql

variable {ρ κ : Type} {key : ρ → κ}

/-! ### Rows -/

/-- What statements for one key make of a row that is there. -/
def setAll (us : List (Upsert key)) (r : ρ) : ρ := us.foldl (fun r u => u.set r) r

theorem setAll_cons (u : Upsert key) (us : List (Upsert key)) (r : ρ) : setAll (u :: us) r = setAll us (u.set r) :=
  rfl

theorem runRow_some (r : ρ) (us : List (Upsert key)) : runRow (some r) us = some (setAll us r) := by
  induction us generalizing r with
  | nil => rfl
  | cons u us ih => exact ih (u.set r)

/-- The statements overwrite with fixed values: what a statement writes does not depend on what it wrote before. -/
structure Overwrite (us : List (Upsert key)) : Prop where
  row : ∀ u ∈ us, u.set u.row = u.row
  again : ∀ u ∈ us, ∀ r, u.set (u.set r) = u.set r
  absorb : ∀ u ∈ us, ∀ v ∈ us, ∀ r, u.set (v.set (u.set r)) = u.set (v.set r)

theorem Overwrite.subset {us vs : List (Upsert key)} (h : Overwrite us) (hsub : vs ⊆ us) : Overwrite vs where
  row u hu := h.row u (hsub hu)
  again u hu := h.again u (hsub hu)
  absorb u hu v hv := h.absorb u (hsub hu) v (hsub hv)

theorem Overwrite.map {ι : Type} {u : ι → Upsert key} (row : ∀ i, (u i).set (u i).row = (u i).row)
    (again : ∀ i r, (u i).set ((u i).set r) = (u i).set r)
    (absorb : ∀ i j r, (u i).set ((u j).set ((u i).set r)) = (u i).set ((u j).set r)) (is : List ι) :
    Overwrite (is.map u) where
  row v hv := by
    obtain ⟨i, -, rfl⟩ := List.mem_map.1 hv
    exact row i
  again v hv r := by
    obtain ⟨i, -, rfl⟩ := List.mem_map.1 hv
    exact again i r
  absorb v hv w hw r := by
    obtain ⟨i, -, rfl⟩ := List.mem_map.1 hv
    obtain ⟨j, -, rfl⟩ := List.mem_map.1 hw
    exact absorb i j r

/-- A statement has no effect before a list with the same statement. -/
theorem setAll_set {us : List (Upsert key)} (h : Overwrite us) {u : Upsert key} (hu : u ∈ us) (r : ρ) :
    setAll us (u.set r) = setAll us r := by
  induction us generalizing r with
  | nil => simp at hu
  | cons v us ih =>
    have htail : Overwrite us := h.subset (List.subset_cons_self v us)
    rcases List.mem_cons.1 hu with rfl | hmem
    · rw [setAll_cons, setAll_cons, h.again u hu]
    · -- between the two comes `v`, and the statement stands once more behind it
      have hbefore := ih htail hmem (v.set (u.set r))
      have hafter := ih htail hmem (v.set r)
      have habsorb := h.absorb u hu v List.mem_cons_self r
      rw [setAll_cons, setAll_cons, ← hbefore, ← hafter, habsorb]

theorem setAll_setAll {us vs : List (Upsert key)} (h : Overwrite us) (hsub : vs ⊆ us) (r : ρ) :
    setAll us (setAll vs r) = setAll us r := by
  induction vs generalizing r with
  | nil => rfl
  | cons v vs ih =>
    have hv : v ∈ us := hsub List.mem_cons_self
    have htail : vs ⊆ us := fun u hu => hsub (List.mem_cons_of_mem v hu)
    rw [setAll_cons, ih htail, setAll_set h hv]

/-- The second run leaves the row as it is, also if the first one inserted it. -/
theorem runRow_runRow {us : List (Upsert key)} (h : Overwrite us) (o : Option ρ) :
    runRow (runRow o us) us = runRow o us := by
  cases o with
  | some r => rw [runRow_some, runRow_some, setAll_setAll h (List.Subset.refl us)]
  | none =>
    cases us with
    | nil => rfl
    | cons u us =>
      have hu : u ∈ u :: us := List.mem_cons_self
      have hfirst : runRow none (u :: us) = some (setAll (u :: us) u.row) := by
        rw [runRow_cons, setAll_cons, h.row u hu]
        exact runRow_some u.row us
      rw [hfirst, runRow_some, setAll_setAll h (List.Subset.refl _)]

/-! ### Keys -/

section

variable [DecidableEq κ]

def Table.keys (t : Table key) : List κ := t.rows.map key

theorem Table.mem_keys_of_find? {t : Table key} {k : κ} {r : ρ} (h : t.find? k = some r) : k ∈ t.keys := by
  obtain ⟨hmem, rfl⟩ := Table.mem_of_find? h
  exact List.mem_map_of_mem hmem

/-- A table is given by its keys, in their order, and the rows behind them. -/
theorem Table.ext_find? {t t' : Table key} (hkeys : t.keys = t'.keys) (hfind : ∀ k, t.find? k = t'.find? k) :
    t = t' := by
  have hrows : ∀ t : Table key, t.keys.filterMap t.find? = t.rows := by
    intro t
    have hmap : t.rows.filterMap (t.find? ∘ key) = t.rows.filterMap some :=
      List.filterMap_congr fun r hr => Table.find?_of_mem hr
    rw [Table.keys, List.filterMap_map, hmap, List.filterMap_some]
  have heq : t.rows = t'.rows := by rw [← hrows t, ← hrows t', hkeys, funext hfind]
  cases t
  cases t'
  cases heq
  rfl

theorem Table.keys_exec (t : Table key) (u : Upsert key) :
    (t.exec u).keys = if key u.row ∈ t.keys then t.keys else t.keys ++ [key u.row] := by
  unfold Table.keys Table.exec upsertRows
  dsimp only
  split
  · rw [List.map_map]
    refine List.map_congr_left fun r _ => ?_
    by_cases h : key r = key u.row <;> simp [h, u.key_set]
  · simp

/-- Keys stay in their places, and those that are added are keys of the statements. -/
theorem Table.keys_execAll (t : Table key) (us : List (Upsert key)) :
    ∃ added, (t.execAll us).keys = t.keys ++ added ∧ ∀ k ∈ added, ∃ u ∈ us, key u.row = k := by
  induction us generalizing t with
  | nil => exact ⟨[], by simp [Table.execAll], by simp⟩
  | cons u us ih =>
    obtain ⟨added, hkeys, hadded⟩ := ih (t.exec u)
    have hcons : (t.execAll (u :: us)).keys = (t.exec u).keys ++ added := hkeys
    rw [Table.keys_exec] at hcons
    split at hcons
    · refine ⟨added, hcons, fun k hk => ?_⟩
      obtain ⟨v, hv, rfl⟩ := hadded k hk
      exact ⟨v, List.mem_cons_of_mem u hv, rfl⟩
    · refine ⟨key u.row :: added, by simpa using hcons, fun k hk => ?_⟩
      rcases List.mem_cons.1 hk with rfl | hk
      · exact ⟨u, List.mem_cons_self, rfl⟩
      · obtain ⟨v, hv, rfl⟩ := hadded k hk
        exact ⟨v, List.mem_cons_of_mem u hv, rfl⟩

theorem Table.keys_execAll_of_mem {t : Table key} {us : List (Upsert key)} (h : ∀ u ∈ us, key u.row ∈ t.keys) :
    (t.execAll us).keys = t.keys := by
  induction us generalizing t with
  | nil => rfl
  | cons u us ih =>
    have hu : (t.exec u).keys = t.keys := by rw [Table.keys_exec, if_pos (h u List.mem_cons_self)]
    have htail : ∀ v ∈ us, key v.row ∈ (t.exec u).keys := by
      intro v hv
      rw [hu]
      exact h v (List.mem_cons_of_mem u hv)
    exact (ih htail).trans hu

/-- No row is lost or gets another key, the rows keep the column `c`, and the keys that are added satisfy `new`. -/
structure Table.Extends {γ : Type} (c : ρ → γ) (new : κ → Prop) (t t' : Table key) : Prop where
  rows : ∀ k r, t.find? k = some r → ∃ r', t'.find? k = some r' ∧ c r' = c r
  keys : ∃ added, t'.keys = t.keys ++ added ∧ ∀ k ∈ added, new k

theorem Table.Extends.refl {γ : Type} (c : ρ → γ) (new : κ → Prop) (t : Table key) : t.Extends c new t where
  rows _ r hr := ⟨r, hr, rfl⟩
  keys := ⟨[], by simp, by simp⟩

theorem Table.Extends.trans {γ : Type} {c : ρ → γ} {new : κ → Prop} {t t' t'' : Table key} (h : t.Extends c new t')
    (h' : t'.Extends c new t'') : t.Extends c new t'' where
  rows k r hr := by
    obtain ⟨r', hr', hc'⟩ := h.rows k r hr
    obtain ⟨r'', hr'', hc''⟩ := h'.rows k r' hr'
    exact ⟨r'', hr'', hc''.trans hc'⟩
  keys := by
    obtain ⟨added, hkeys, hnew⟩ := h.keys
    obtain ⟨added', hkeys', hnew'⟩ := h'.keys
    refine ⟨added ++ added', by rw [hkeys', hkeys, List.append_assoc], fun k hk => ?_⟩
    rcases List.mem_append.1 hk with hk | hk
    · exact hnew k hk
    · exact hnew' k hk

theorem Table.Extends.of_execAll {γ : Type} {c : ρ → γ} {new : κ → Prop} {us : List (Upsert key)}
    (hkeeps : ∀ u ∈ us, ∀ r, c (u.set r) = c r) (hnew : ∀ u ∈ us, new (key u.row)) (t : Table key) :
    t.Extends c new (t.execAll us) where
  rows k r hr := by
    have hfilter : ∀ u ∈ us.filter fun u => decide (key u.row = k), ∀ r, c (u.set r) = c r :=
      fun u hu => hkeeps u (List.mem_filter.1 hu).1
    have hc := map_runRow_of_keeps hfilter (some r)
    rw [Table.find?_execAll, hr]
    exact Option.map_eq_some_iff.1 hc
  keys := by
    obtain ⟨added, hkeys, hadded⟩ := t.keys_execAll us
    refine ⟨added, hkeys, fun k hk => ?_⟩
    obtain ⟨u, hu, rfl⟩ := hadded k hk
    exact hnew u hu

/-- Running the statements again leaves the table as the first run left it. -/
theorem Table.execAll_execAll {us : List (Upsert key)} (h : Overwrite us) (t : Table key) :
    (t.execAll us).execAll us = t.execAll us := by
  refine Table.ext_find? ?_ fun k => ?_
  · refine Table.keys_execAll_of_mem fun u hu => ?_
    obtain ⟨r, hr⟩ := Table.exists_find?_execAll hu t
    exact Table.mem_keys_of_find? hr
  · rw [Table.find?_execAll, Table.find?_execAll]
    exact runRow_runRow (h.subset List.filter_sublist.subset) (t.find? k)

end

end Sql

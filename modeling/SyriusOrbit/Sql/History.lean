import SyriusOrbit.Sql.Table

/-!
# Histories

What holds between any two moments of a sequence of steps is what every step keeps, for a relation that is reflexive
and transitive (`throughout_iff`).  For tables: the rows of a table stay and change only as a relation allows, and a
statement keeps to it if it does so on the row it meets (`Table.keeps_exec_iff`).  A property of all rows is one of
the rows to insert that the updates keep (`Table.forall_execAll`).
-/

namespace Sql

section

variable {σ α : Type} {step : σ → α → σ} {R : σ → σ → Prop}

/-- The relation holds between any two moments of a sequence of steps. -/
def Throughout (step : σ → α → σ) (R : σ → σ → Prop) (s : σ) (as : List α) : Prop :=
  ∀ before between after, as = before ++ between ++ after → R (before.foldl step s) ((before ++ between).foldl step s)

/-- Each step satisfies the condition in the state it is taken in. -/
def AtEachStep (step : σ → α → σ) (P : σ → α → Prop) (s : σ) (as : List α) : Prop :=
  ∀ before a after, as = before ++ a :: after → P (before.foldl step s) a

theorem AtEachStep.congr {P P' : σ → α → Prop} (h : ∀ s a, P s a ↔ P' s a) {s : σ} {as : List α} :
    AtEachStep step P s as ↔ AtEachStep step P' s as := by
  unfold AtEachStep
  simp only [h]

theorem throughout_iff (hrefl : ∀ s, R s s) (htrans : ∀ {s s' s''}, R s s' → R s' s'' → R s s'') (s : σ)
    (as : List α) : Throughout step R s as ↔ AtEachStep step (fun s a => R s (step s a)) s as := by
  constructor
  · intro h before a after has
    have hstep := h before [a] after (by rw [has, List.append_assoc, List.singleton_append])
    rwa [List.foldl_append] at hstep
  · intro h before between after has
    induction between generalizing before with
    | nil =>
      rw [List.append_nil]
      exact hrefl _
    | cons a between ih =>
      have hstep := h before a (between ++ after) (by rw [has, List.append_assoc, List.cons_append])
      have hrest := ih (before ++ [a]) (by rw [has, List.append_assoc, List.append_assoc, List.append_assoc]; rfl)
      rw [List.foldl_append, List.foldl_cons, List.foldl_nil, List.append_assoc] at hrest
      exact htrans hstep hrest

end

variable {ρ κ : Type} {key : ρ → κ} [DecidableEq κ] {R : ρ → ρ → Prop}

/-- Each row stays, and what becomes of it is related to what it was. -/
def Table.Keeps (R : ρ → ρ → Prop) (t t' : Table key) : Prop :=
  ∀ k r, t.find? k = some r → ∃ r', t'.find? k = some r' ∧ R r r'

theorem Table.Keeps.refl (hR : ∀ r, R r r) (t : Table key) : t.Keeps R t := fun _ r hr => ⟨r, hr, hR r⟩

theorem Table.Keeps.trans (hR : ∀ {r r' r''}, R r r' → R r' r'' → R r r'') {t t' t'' : Table key}
    (h : t.Keeps R t') (h' : t'.Keeps R t'') : t.Keeps R t'' := by
  intro k r hr
  obtain ⟨r', hr', hrel⟩ := h k r hr
  obtain ⟨r'', hr'', hrel'⟩ := h' k r' hr'
  exact ⟨r'', hr'', hR hrel hrel'⟩

theorem Table.keeps_exec_iff (hR : ∀ r, R r r) (t : Table key) (u : Upsert key) :
    t.Keeps R (t.exec u) ↔ ∀ r, t.find? (key u.row) = some r → R r (u.set r) := by
  constructor
  · intro h r hr
    obtain ⟨r', hr', hrel⟩ := h _ r hr
    rw [Table.find?_exec, if_pos rfl, hr] at hr'
    cases hr'
    exact hrel
  · intro h k r hr
    rw [Table.find?_exec]
    by_cases hk : k = key u.row
    · subst hk
      exact ⟨u.set r, by rw [if_pos rfl, hr]; rfl, h r hr⟩
    · exact ⟨r, by rw [if_neg hk]; exact hr, hR r⟩

theorem Table.keeps_execAll (hrefl : ∀ r, R r r) (htrans : ∀ {r r' r''}, R r r' → R r' r'' → R r r'')
    {us : List (Upsert key)} (hset : ∀ u ∈ us, ∀ r, R r (u.set r)) (t : Table key) : t.Keeps R (t.execAll us) := by
  induction us generalizing t with
  | nil => exact .refl hrefl t
  | cons u us ih =>
    have hstep : t.Keeps R (t.exec u) := (t.keeps_exec_iff hrefl u).2 fun r _ => hset u List.mem_cons_self r
    have hrest := ih (fun u' hu' => hset u' (List.mem_cons_of_mem u hu')) (t.exec u)
    exact hstep.trans (R := R) htrans hrest

/-! ### Properties of all rows -/

theorem Table.forall_exec {p : ρ → Prop} {u : Upsert key} (hrow : p u.row) (hset : ∀ r, p r → p (u.set r))
    {t : Table key} (h : ∀ r ∈ t.rows, p r) : ∀ r ∈ (t.exec u).rows, p r := by
  intro r hr
  have hr : r ∈ upsertRows u t.rows := hr
  unfold upsertRows at hr
  split at hr
  · obtain ⟨r₀, hr₀, rfl⟩ := List.mem_map.1 hr
    split
    · exact hset r₀ (h r₀ hr₀)
    · exact h r₀ hr₀
  · rcases List.mem_append.1 hr with hr | hr
    · exact h r hr
    · rw [List.mem_singleton.1 hr]
      exact hrow

/-- What holds of the rows to insert and is kept by the updates holds of all rows. -/
theorem Table.forall_execAll {p : ρ → Prop} {us : List (Upsert key)} (hrow : ∀ u ∈ us, p u.row)
    (hset : ∀ u ∈ us, ∀ r, p r → p (u.set r)) {t : Table key} (h : ∀ r ∈ t.rows, p r) :
    ∀ r ∈ (t.execAll us).rows, p r := by
  induction us generalizing t with
  | nil => exact h
  | cons u us ih =>
    have hu : u ∈ u :: us := List.mem_cons_self
    refine ih (fun u' hu' => hrow u' (List.mem_cons_of_mem u hu'))
      (fun u' hu' => hset u' (List.mem_cons_of_mem u hu')) ?_
    exact Table.forall_exec (hrow u hu) (hset u hu) h

end Sql

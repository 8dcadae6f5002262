import SyriusOrbit.Sql.Table
import Mathlib.Order.Bounds.Basic

/-!
# Time stamps of rows

Statements that set a time of update in every row they write and a time of creation in the rows they insert.  The
statement executed last decides the time of update.  Where it has the greatest time of all statements for the row,
rows are not created after their last update, over any number of rounds (`Fresh.runRow`).
-/

namespace Sql

variable {ρ κ τ : Type} {key : ρ → κ} {created updated : ρ → τ}

/-- The statement writes its time to `updated`, and to `created` only when it inserts the row. -/
structure Upsert.Stamps (u : Upsert key) (created updated : ρ → τ) : Prop where
  row : created u.row = updated u.row
  created : ∀ r, created (u.set r) = created r
  updated : ∀ r, updated (u.set r) = updated u.row

/-- The times of statements. -/
def times (updated : ρ → τ) (us : List (Upsert key)) : List τ := us.map fun u => updated u.row

theorem updated_runRow {us : List (Upsert key)} (h : ∀ u ∈ us, u.Stamps created updated) {o : Option ρ} {r : ρ}
    (hr : runRow o us = some r) {t : τ} (ht : (times updated us).getLast? = some t) : updated r = t := by
  have hw : ∀ u ∈ us, (id u : Upsert key).Writes updated t (some (updated u.row)) :=
    fun u hu => ⟨rfl, fun r' => (h u hu).updated r'⟩
  have hc := column_runRow hw (o := o) (r := r) (by simpa using hr)
  rw [hc, List.filterMap_eq_map', ← times, ht]
  rfl

theorem created_runRow {us : List (Upsert key)} (h : ∀ u ∈ us, u.Stamps created updated) {o : Option ρ} {r : ρ}
    (hr : runRow o us = some r) :
    (∃ r₀, o = some r₀ ∧ created r = created r₀) ∨ ∃ t ∈ times updated us, created r = t := by
  have hc := map_runRow_of_keeps (fun u hu => (h u hu).created) o
  rw [hr, Option.map_some] at hc
  cases o with
  | some r₀ => exact .inl ⟨r₀, rfl, Option.some.inj hc⟩
  | none =>
    cases us with
    | nil => simp at hc
    | cons u us =>
      refine .inr ⟨updated u.row, by simp [times], ?_⟩
      exact (Option.some.inj hc).trans (h u List.mem_cons_self).row

/-- The times of a new row are times of its statements. -/
theorem times_runRow_none {us : List (Upsert key)} (h : ∀ u ∈ us, u.Stamps created updated) {r : ρ}
    (hr : runRow none us = some r) : updated r ∈ times updated us ∧ created r ∈ times updated us := by
  constructor
  · cases hlast : (times updated us).getLast? with
    | some t =>
      rw [updated_runRow h hr hlast]
      exact List.mem_of_getLast? hlast
    | none =>
      have hnil : us = [] := by simpa [times] using List.getLast?_eq_none_iff.1 hlast
      rw [hnil] at hr
      cases hr
  · rcases created_runRow h hr with ⟨r₀, hr₀, -⟩ | ⟨t, ht, hcreated⟩
    · cases hr₀
    · rwa [hcreated]

variable [LinearOrder τ]

/-- The last time is the greatest. -/
def LastGreatest (ts : List τ) : Prop := ∀ t, ts.getLast? = some t → IsGreatest {t' | t' ∈ ts} t

/-- If there is a row, it was not created after its last update, and it was not updated after all of the given
times. -/
def Fresh (created updated : ρ → τ) (ts : List τ) (o : Option ρ) : Prop :=
  ∀ r, o = some r → created r ≤ updated r ∧ ∃ t ∈ ts, updated r ≤ t

theorem Fresh.mono {ts ts' : List τ} (hts : ∀ t ∈ ts, ∃ t' ∈ ts', t ≤ t') {o : Option ρ}
    (h : Fresh created updated ts o) : Fresh created updated ts' o := by
  intro r hr
  obtain ⟨hcreated, t, ht, hupdated⟩ := h r hr
  obtain ⟨t', ht', hle⟩ := hts t ht
  exact ⟨hcreated, t', ht', hupdated.trans hle⟩

/-- A round of statements keeps rows fresh, if the last of them has the greatest of the given times and the greatest
time of the round. -/
theorem Fresh.runRow {ts : List τ} {us : List (Upsert key)} (hstamps : ∀ u ∈ us, u.Stamps created updated)
    (hlast : LastGreatest (times updated us))
    (hts : ∀ t, (times updated us).getLast? = some t → IsGreatest {t' | t' ∈ ts} t) {o : Option ρ}
    (h : Fresh created updated ts o) : Fresh created updated ts (Sql.runRow o us) := by
  intro r hr
  cases hlast? : (times updated us).getLast? with
  | none =>
    have hnil : us = [] := by simpa [times] using List.getLast?_eq_none_iff.1 hlast?
    rw [hnil] at hr
    exact h r hr
  | some t =>
    have ⟨hmem, hgreatest⟩ := hts t hlast?
    rw [updated_runRow hstamps hr hlast?]
    refine ⟨?_, t, hmem, le_refl t⟩
    rcases created_runRow hstamps hr with ⟨r₀, hr₀, hcreated⟩ | ⟨t₀, ht₀, hcreated⟩
    · -- the row was there: its times are below one of the given times, and so below the greatest
      obtain ⟨hle, t', ht', hle'⟩ := h r₀ hr₀
      rw [hcreated]
      exact hle.trans (hle'.trans (hgreatest ht'))
    · rw [hcreated]
      exact (hlast t hlast?).2 ht₀

end Sql

import Mathlib.Data.List.Basic
import Mathlib.Data.List.Perm.Basic

/-!
# Newest messages and the last value of a key

A message assigns values to several keys.  A snapshot of a sequence of messages holds, for each key, the newest
message with the key, in no particular order.  Executing the assignments of a snapshot gives every key the value of
its newest message, in whatever order the messages come, if and only if the messages that are newest for some key
agree on the keys they share (`newestWins_iff_agree`).
-/

namespace Feed

variable {M ρ κ γ : Type} [DecidableEq κ]

/-! ### Assignments -/

/-- The values that a list of assignments gives to a key, in their order. -/
def valuesOf (k : κ) (as : List (κ × γ)) : List γ := as.filterMap fun a => if a.1 = k then some a.2 else none

/-- The value that stays. -/
def lastValue (k : κ) (as : List (κ × γ)) : Option γ := (valuesOf k as).getLast?

theorem mem_valuesOf {k : κ} {as : List (κ × γ)} {v : γ} : v ∈ valuesOf k as ↔ (k, v) ∈ as := by
  unfold valuesOf
  rw [List.mem_filterMap]
  constructor
  · rintro ⟨⟨k', v'⟩, ha, hv⟩
    by_cases hk : k' = k
    · have : v' = v := by simpa [hk] using hv
      rwa [hk, this] at ha
    · simp [hk] at hv
  · intro ha
    exact ⟨(k, v), ha, if_pos rfl⟩

theorem mem_of_lastValue {k : κ} {as : List (κ × γ)} {v : γ} (h : lastValue k as = some v) : (k, v) ∈ as :=
  mem_valuesOf.1 (List.mem_of_getLast? h)

theorem exists_lastValue {k : κ} {as : List (κ × γ)} {v : γ} (h : (k, v) ∈ as) :
    ∃ v', lastValue k as = some v' := by
  have hne : valuesOf k as ≠ [] := List.ne_nil_of_mem (mem_valuesOf.2 h)
  exact ⟨_, List.getLast?_eq_some_getLast hne⟩

theorem exists_lastValue_iff {k : κ} {as : List (κ × γ)} :
    (∃ v, lastValue k as = some v) ↔ ∃ v, (k, v) ∈ as :=
  ⟨fun ⟨v, hv⟩ => ⟨v, mem_of_lastValue hv⟩, fun ⟨_, hv⟩ => exists_lastValue hv⟩

theorem lastValue_append (k : κ) (as bs : List (κ × γ)) :
    lastValue k (as ++ bs) = (lastValue k bs).or (lastValue k as) := by
  unfold lastValue valuesOf
  rw [List.filterMap_append, List.getLast?_append]

/-- A last value in a concatenation comes from the last part with the key. -/
theorem exists_of_lastValue_flatMap {k : κ} {f : ρ → List (κ × γ)} {rows : List ρ} {v : γ}
    (h : lastValue k (rows.flatMap f) = some v) : ∃ r ∈ rows, lastValue k (f r) = some v := by
  induction rows with
  | nil => simp [lastValue, valuesOf] at h
  | cons r rows ih =>
    rw [List.flatMap_cons, lastValue_append] at h
    cases hrest : lastValue k (rows.flatMap f) with
    | some v' =>
      rw [hrest] at h
      obtain ⟨r', hr', hv⟩ := ih (hrest.trans h)
      exact ⟨r', List.mem_cons_of_mem r hr', hv⟩
    | none =>
      rw [hrest] at h
      exact ⟨r, List.mem_cons_self, by simpa using h⟩

/-- Where all parts with the key give it the same value, this value stays. -/
theorem lastValue_flatMap_eq {k : κ} {f : ρ → List (κ × γ)} {rows : List ρ} {v : γ}
    (hsame : ∀ r ∈ rows, ∀ v', lastValue k (f r) = some v' → v' = v)
    (hex : ∃ r ∈ rows, lastValue k (f r) = some v) : lastValue k (rows.flatMap f) = some v := by
  obtain ⟨r, hr, hv⟩ := hex
  have hmem : (k, v) ∈ rows.flatMap f := List.mem_flatMap.2 ⟨r, hr, mem_of_lastValue hv⟩
  obtain ⟨v', hv'⟩ := exists_lastValue hmem
  obtain ⟨r', hr', hlast⟩ := exists_of_lastValue_flatMap hv'
  rw [hv', hsame r' hr' v' hlast]

/-! ### Newest messages -/

/-- The newest message that gives a value to the key. -/
def newest (items : M → List (κ × γ)) (ms : List M) (k : κ) : Option M :=
  (ms.filter fun m => (lastValue k (items m)).isSome).getLast?

theorem mem_of_newest {items : M → List (κ × γ)} {ms : List M} {k : κ} {m : M} (h : newest items ms k = some m) :
    m ∈ ms ∧ ∃ v, lastValue k (items m) = some v := by
  have hmem := List.mem_filter.1 (List.mem_of_getLast? h)
  exact ⟨hmem.1, Option.isSome_iff_exists.1 hmem.2⟩

theorem newest_append (items : M → List (κ × γ)) (ms : List M) (m : M) (k : κ) :
    newest items (ms ++ [m]) k = if (lastValue k (items m)).isSome then some m else newest items ms k := by
  unfold newest
  rw [List.filter_append, List.getLast?_append]
  by_cases h : (lastValue k (items m)).isSome = true <;> simp [h]

theorem exists_newest {items : M → List (κ × γ)} {ms : List M} {k : κ} {m : M} (hm : m ∈ ms) {v : γ}
    (hv : (k, v) ∈ items m) : ∃ m', newest items ms k = some m' := by
  have hsome : (lastValue k (items m)).isSome = true := Option.isSome_iff_exists.2 (exists_lastValue hv)
  have hne : (ms.filter fun m => (lastValue k (items m)).isSome) ≠ [] :=
    List.ne_nil_of_mem (List.mem_filter.2 ⟨hm, hsome⟩)
  exact ⟨_, List.getLast?_eq_some_getLast hne⟩

/-- Messages without the key do not matter. -/
theorem newest_filter {items : M → List (κ × γ)} {ms : List M} {k : κ} {p : M → Bool}
    (h : ∀ m ∈ ms, ∀ v, lastValue k (items m) = some v → p m = true) :
    newest items (ms.filter p) k = newest items ms k := by
  unfold newest
  rw [List.filter_filter]
  congr 1
  refine List.filter_congr fun m hm => ?_
  cases hlast : lastValue k (items m) with
  | none => simp
  | some v => simp [h m hm v hlast]

/-- A row for each newest message and no others; `assigns` are the assignments of a row. -/
structure IsSnapshot (items : M → List (κ × γ)) (ms : List M) (assigns : ρ → List (κ × γ)) (rows : List ρ) :
    Prop where
  newest_of_mem : ∀ r ∈ rows, ∃ k m, newest items ms k = some m ∧ assigns r = items m
  mem_of_newest : ∀ k m, newest items ms k = some m → ∃ r ∈ rows, assigns r = items m

/-- A message that is newest for some key gives every key it has the value of the newest message with that key. -/
def Agree (items : M → List (κ × γ)) (ms : List M) : Prop :=
  ∀ k m, newest items ms k = some m → ∀ k' m', newest items ms k' = some m' →
    ∀ v, lastValue k (items m') = some v → lastValue k (items m) = some v

/-- In whatever order the rows of a snapshot are executed, each key ends with the value of its newest message. -/
def NewestWins (items : M → List (κ × γ)) (ms : List M) (assigns : ρ → List (κ × γ)) (rows : List ρ) : Prop :=
  ∀ rows' : List ρ, rows'.Perm rows → ∀ k m, newest items ms k = some m →
    lastValue k (rows'.flatMap assigns) = lastValue k (items m)

theorem newestWins_of_agree {items : M → List (κ × γ)} {ms : List M} {assigns : ρ → List (κ × γ)} {rows : List ρ}
    (hs : IsSnapshot items ms assigns rows) (h : Agree items ms) : NewestWins items ms assigns rows := by
  intro rows' hperm k m hm
  obtain ⟨-, v, hv⟩ := mem_of_newest hm
  obtain ⟨r, hr, hassigns⟩ := hs.mem_of_newest k m hm
  have hmem : (k, v) ∈ rows'.flatMap assigns := by
    refine List.mem_flatMap.2 ⟨r, hperm.mem_iff.2 hr, ?_⟩
    rw [hassigns]
    exact mem_of_lastValue hv
  obtain ⟨v', hv'⟩ := exists_lastValue hmem
  -- the value that stays comes from a row that is newest for some key
  obtain ⟨r', hr', hlast⟩ := exists_of_lastValue_flatMap hv'
  obtain ⟨k', m', hm', hassigns'⟩ := hs.newest_of_mem r' (hperm.mem_iff.1 hr')
  rw [hassigns'] at hlast
  rw [hv', h k m hm k' m' hm' v' hlast]

theorem agree_of_newestWins {items : M → List (κ × γ)} {ms : List M} {assigns : ρ → List (κ × γ)} {rows : List ρ}
    (hs : IsSnapshot items ms assigns rows) (h : NewestWins items ms assigns rows) : Agree items ms := by
  intro k m hm k' m' hm' v hv
  obtain ⟨r', hr', hassigns'⟩ := hs.mem_of_newest k' m' hm'
  obtain ⟨before, after, rfl⟩ := List.append_of_mem hr'
  -- the order in which the row of the other key comes last
  have hperm : (before ++ after ++ [r']).Perm (before ++ r' :: after) := by
    rw [List.append_assoc]
    exact List.Perm.append_left before (List.perm_append_singleton r' after)
  have hlast := h (before ++ after ++ [r']) hperm k m hm
  rw [← hlast, List.flatMap_append, lastValue_append, List.flatMap_singleton, hassigns', hv]
  rfl

theorem newestWins_iff_agree {items : M → List (κ × γ)} {ms : List M} {assigns : ρ → List (κ × γ)} {rows : List ρ}
    (hs : IsSnapshot items ms assigns rows) : NewestWins items ms assigns rows ↔ Agree items ms :=
  ⟨agree_of_newestWins hs, newestWins_of_agree hs⟩

end Feed

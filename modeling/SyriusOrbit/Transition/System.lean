import Mathlib.Data.List.Basic

/-!
# Transition systems

Systems that take labelled steps, and the states of those runs whose steps all satisfy a condition.  An invariant is
proved by looking at one step (`Reach.invariant`), and a list of labels is executed with `replay` where steps are
computed (`reachable_of_replay`).
-/

namespace Transition

variable {σ α : Type}

structure System (σ α : Type) where
  init : σ → Prop
  step : σ → α → σ → Prop

/-- The states that are reached by runs whose steps all satisfy the condition. -/
inductive System.Reach (S : System σ α) (allowed : σ → α → Prop) : σ → Prop where
  | init {s : σ} (h : S.init s) : S.Reach allowed s
  | step {s s' : σ} {a : α} (h : S.Reach allowed s) (ha : allowed s a) (hs : S.step s a s') : S.Reach allowed s'

/-- All runs. -/
def System.Reachable (S : System σ α) : σ → Prop := S.Reach fun _ _ => True

namespace System.Reach

variable {S : System σ α} {allowed : σ → α → Prop}

/-- What holds at the start and is kept by the steps that satisfy the condition holds in all states reached. -/
theorem invariant {I : σ → Prop} (hinit : ∀ s, S.init s → I s)
    (hstep : ∀ s a s', S.Reach allowed s → I s → allowed s a → S.step s a s' → I s') {s : σ}
    (h : S.Reach allowed s) : I s := by
  induction h with
  | init h => exact hinit _ h
  | step h ha hs ih => exact hstep _ _ _ h ih ha hs

theorem mono {allowed' : σ → α → Prop} (himp : ∀ s a, allowed s a → allowed' s a) {s : σ} (h : S.Reach allowed s) :
    S.Reach allowed' s := by
  induction h with
  | init h => exact .init h
  | step _ ha hs ih => exact ih.step (himp _ _ ha) hs

theorem reachable {s : σ} (h : S.Reach allowed s) : S.Reachable s := h.mono fun _ _ _ => trivial

/-- A run of a system is seen as one of another system, in which some of its steps do nothing. -/
theorem map {σ' α' : Type} {S' : System σ' α'} {allowed' : σ' → α' → Prop} (f : σ → σ')
    (hinit : ∀ s, S.init s → S'.init (f s))
    (hstep : ∀ s a s', allowed s a → S.step s a s' →
      f s' = f s ∨ ∃ a', allowed' (f s) a' ∧ S'.step (f s) a' (f s'))
    {s : σ} (h : S.Reach allowed s) : S'.Reach allowed' (f s) := by
  induction h with
  | init h => exact .init (hinit _ h)
  | step _ ha hs ih =>
    rcases hstep _ _ _ ha hs with heq | ⟨a', ha', hs'⟩
    · rwa [heq]
    · exact ih.step ha' hs'

/-- Runs of a system are runs of another one with which it goes along, as far as the relation tells; some steps do
nothing there. -/
theorem simulate {σ' α' : Type} {S' : System σ' α'} {allowed' : σ' → α' → Prop} {R : σ → σ' → Prop}
    (hinit : ∀ s, S.init s → ∃ v, S'.init v ∧ R s v)
    (hstep : ∀ s a s' v, R s v → allowed s a → S.step s a s' →
      R s' v ∨ ∃ a' v', allowed' v a' ∧ S'.step v a' v' ∧ R s' v')
    {s : σ} (h : S.Reach allowed s) : ∃ v, S'.Reach allowed' v ∧ R s v := by
  induction h with
  | init h =>
    obtain ⟨v, hv, hR⟩ := hinit _ h
    exact ⟨v, .init hv, hR⟩
  | step _ ha hs ih =>
    obtain ⟨v, hv, hR⟩ := ih
    rcases hstep _ _ _ _ hR ha hs with hR' | ⟨a', v', ha', hs', hR'⟩
    · exact ⟨v, hv, hR'⟩
    · exact ⟨v', hv.step ha' hs', hR'⟩

end System.Reach

/-- The same steps from a given state on. -/
def System.startingAt (S : System σ α) (s : σ) : System σ α := { S with init := fun s₀ => s₀ = s }

theorem System.Reach.trans {S : System σ α} {allowed : σ → α → Prop} {s s' : σ} (h : S.Reach allowed s)
    (h' : (S.startingAt s).Reach allowed s') : S.Reach allowed s' := by
  induction h' with
  | init h₀ => exact h₀ ▸ h
  | step _ ha hs ih => exact ih.step ha hs

/-! ### Computed steps -/

/-- The system whose steps are computed; a label without a result is not enabled. -/
def System.ofStep (init : σ) (step : σ → α → Option σ) : System σ α where
  init s := s = init
  step s a s' := step s a = some s'

/-- What is known when a step with a guard has a result. -/
theorem of_guard {p : Prop} [Decidable p] {o : Option σ} {s' : σ} (h : (if p then none else o) = some s') :
    ¬p ∧ o = some s' := by
  by_cases hp : p
  · simp [hp] at h
  · exact ⟨hp, by simpa [hp] using h⟩

/-- The state after a list of labels. -/
def replay (step : σ → α → Option σ) (s : σ) : List α → Option σ
  | [] => some s
  | a :: as => (step s a).bind fun s' => replay step s' as

/-- The steps that satisfy a condition. -/
def guarded (step : σ → α → Option σ) (allowed : σ → α → Prop) [∀ s a, Decidable (allowed s a)] (s : σ) (a : α) :
    Option σ :=
  if allowed s a then step s a else none

theorem of_replay_cons {step : σ → α → Option σ} {allowed : σ → α → Prop} [∀ s a, Decidable (allowed s a)] {a : α}
    {as : List α} {s s' : σ} (h : replay (guarded step allowed) s (a :: as) = some s') :
    ∃ s₁, allowed s a ∧ step s a = some s₁ ∧ replay (guarded step allowed) s₁ as = some s' := by
  obtain ⟨s₁, hs₁, hrest⟩ := Option.bind_eq_some_iff.1 h
  unfold guarded at hs₁
  split at hs₁
  · next hallowed => exact ⟨s₁, hallowed, hs₁, hrest⟩
  · cases hs₁

theorem reach_of_replay {init : σ} {step : σ → α → Option σ} {allowed : σ → α → Prop}
    [∀ s a, Decidable (allowed s a)] {as : List α} {s s' : σ} (hs : (System.ofStep init step).Reach allowed s)
    (h : replay (guarded step allowed) s as = some s') : (System.ofStep init step).Reach allowed s' := by
  induction as generalizing s with
  | nil => exact Option.some.inj h ▸ hs
  | cons a as ih =>
    obtain ⟨s₁, hallowed, hstep, hrest⟩ := of_replay_cons h
    exact ih (hs.step hallowed hstep) hrest

theorem reachable_of_replay {init : σ} {step : σ → α → Option σ} {as : List α} {s s' : σ}
    (hs : (System.ofStep init step).Reachable s) (h : replay step s as = some s') :
    (System.ofStep init step).Reachable s' := by
  have hguarded : guarded step (fun _ _ => True) = step := by
    funext s a
    simp [guarded]
  exact reach_of_replay hs (hguarded.symm ▸ h)

end Transition

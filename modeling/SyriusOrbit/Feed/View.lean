import SyriusOrbit.Transition.System
import Mathlib.Logic.Function.Basic
import Mathlib.Order.Defs.PartialOrder
import Mathlib.Data.List.Nodup

/-!
# Views of a growing sequence of events

A view shows, for each key, one event of a sequence that grows.  It is refreshed one event at a time, and never with an
older event than it shows for the key.  What it shows then gets newer only (`le_of_reach`), and once it has caught up
it shows the newest events (`Covers.shown_eq_some_iff`), whatever has happened to it before.
-/

namespace Feed

open Transition

variable {E κ : Type} {key : E → κ} {pos : E → Nat}

/-- Events at increasing positions, and for each key an event that is shown, if any. -/
structure View (key : E → κ) (pos : E → Nat) where
  events : List E
  shown : κ → Option E
  increasing : events.Pairwise fun e e' => pos e < pos e'
  mem_of_shown : ∀ k e, shown k = some e → e ∈ events ∧ key e = k

namespace View

theorem eq_of_pos_eq {v : View key pos} {e e' : E} (he : e ∈ v.events) (he' : e' ∈ v.events) (h : pos e = pos e') :
    e = e' := by
  have hnodup : (v.events.map pos).Nodup := List.pairwise_map.2 (v.increasing.imp Nat.ne_of_lt)
  exact List.inj_on_of_nodup_map hnodup he he' h

/-- The events of the first view come first in the second, which shows no older ones. -/
instance : Preorder (View key pos) where
  le v v' := v.events <+: v'.events ∧
    ∀ k e, v.shown k = some e → ∃ e', v'.shown k = some e' ∧ pos e ≤ pos e'
  le_refl v := ⟨List.prefix_rfl, fun _ e he => ⟨e, he, Nat.le_refl _⟩⟩
  le_trans v v' v'' h h' := by
    refine ⟨h.1.trans h'.1, fun k e he => ?_⟩
    obtain ⟨e', he', hle⟩ := h.2 k e he
    obtain ⟨e'', he'', hle'⟩ := h'.2 k e' he'
    exact ⟨e'', he'', Nat.le_trans hle hle'⟩

/-- For this key the view shows no older event than any of a list. -/
def Covers (v : View key pos) (es : List E) (k : κ) : Prop :=
  ∀ e ∈ es, key e = k → ∃ e', v.shown k = some e' ∧ pos e ≤ pos e'

theorem Covers.mono {v v' : View key pos} {es : List E} {k : κ} (h : v.Covers es k) (hle : v ≤ v') :
    v'.Covers es k := by
  intro e he hkey
  obtain ⟨e', he', hpos⟩ := h e he hkey
  obtain ⟨e'', he'', hpos'⟩ := hle.2 k e' he'
  exact ⟨e'', he'', Nat.le_trans hpos hpos'⟩

/-- A view that has caught up shows the newest event. -/
theorem Covers.shown_eq_some_iff {v : View key pos} {k : κ} (h : v.Covers v.events k) {e : E} :
    v.shown k = some e ↔ e ∈ v.events ∧ key e = k ∧ ∀ e' ∈ v.events, key e' = k → pos e' ≤ pos e := by
  constructor
  · intro he
    obtain ⟨hmem, hkey⟩ := v.mem_of_shown k e he
    refine ⟨hmem, hkey, fun e' he' hkey' => ?_⟩
    obtain ⟨e'', he'', hpos⟩ := h e' he' hkey'
    rw [he] at he''
    exact Option.some.inj he'' ▸ hpos
  · rintro ⟨hmem, hkey, hnewest⟩
    obtain ⟨e', he', hpos⟩ := h e hmem hkey
    obtain ⟨hmem', hkey'⟩ := v.mem_of_shown k e' he'
    rw [he', eq_of_pos_eq hmem' hmem (Nat.le_antisymm (hnewest e' hmem' hkey') hpos)]

/-! ### Refreshing -/

inductive Action (E : Type) where
  | receive (e : E)
  | refresh (e : E)

variable [DecidableEq κ]

/-- The view that shows one more event. -/
def refresh (v : View key pos) (e : E) (he : e ∈ v.events) : View key pos where
  events := v.events
  shown := Function.update v.shown (key e) (some e)
  increasing := v.increasing
  mem_of_shown k e' he' := by
    by_cases hk : k = key e
    · subst hk
      rw [Function.update_self] at he'
      exact Option.some.inj he' ▸ ⟨he, rfl⟩
    · rw [Function.update_of_ne hk] at he'
      exact v.mem_of_shown k e' he'

/-- An event is received after all others, or shown in place of one that is not newer. -/
def system (key : E → κ) (pos : E → Nat) : System (View key pos) (Action E) where
  init v := ∀ k, v.shown k = none
  step v a v' :=
    match a with
    | .receive e => v'.events = v.events ++ [e] ∧ v'.shown = v.shown
    | .refresh e => (∀ e', v.shown (key e) = some e' → pos e' ≤ pos e) ∧ ∃ he : e ∈ v.events, v' = v.refresh e he

theorem le_of_step {v v' : View key pos} {a : Action E} (h : (system key pos).step v a v') : v ≤ v' := by
  cases a with
  | receive e =>
    obtain ⟨hevents, hshown⟩ := h
    exact ⟨hevents ▸ List.prefix_append _ _, fun k e' he' => ⟨e', hshown ▸ he', Nat.le_refl _⟩⟩
  | refresh e =>
    obtain ⟨hnewer, he, rfl⟩ := h
    refine ⟨List.prefix_rfl, fun k e' he' => ?_⟩
    by_cases hk : k = key e
    · subst hk
      exact ⟨e, Function.update_self .., hnewer e' he'⟩
    · exact ⟨e', (Function.update_of_ne hk ..).trans he', Nat.le_refl _⟩

/-- Along a run, events are added and what is shown gets newer only. -/
theorem le_of_reach {v v' : View key pos} {allowed : View key pos → Action E → Prop}
    (h : ((system key pos).startingAt v).Reach allowed v') : v ≤ v' := by
  refine h.invariant (I := fun v' => v ≤ v') (fun w hw => ?_) fun w a w' _ hle _ hstep => ?_
  · obtain rfl : w = v := hw
    exact le_refl w
  · exact le_trans hle (le_of_step hstep)

end View

end Feed

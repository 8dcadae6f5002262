import Mathlib.Data.List.Basic

/-!
# Programs that may throw

Programs that work on a state and keep what they have done to it when they throw.  Those that append to a log are
described by what they append (`Emits`, `Returns`): a loop that catches the exceptions of each of its programs appends
what all of them append, whichever of them throw (`returns_forM`).
-/

namespace Effect

variable {ε σ α β : Type}

abbrev Program (ε σ : Type) := ExceptT ε (StateM σ)

/-- The outcome and the state left behind. -/
def runOn (x : Program ε σ α) (s : σ) : Except ε α × σ := x.run.run s

theorem runOn_bind (x : Program ε σ α) (f : α → Program ε σ β) (s : σ) :
    runOn (x >>= f) s =
      match runOn x s with
      | (.ok a, s') => runOn (f a) s'
      | (.error e, s') => (.error e, s') := by
  unfold runOn
  simp only [ExceptT.run_bind, StateT.run_bind]
  generalize x.run.run s = r
  obtain ⟨a | e, s'⟩ := r <;> rfl

theorem runOn_get_bind (f : σ → Program ε σ α) (s : σ) : runOn (get >>= f) s = runOn (f s) s := rfl

theorem runOn_tryCatch (x : Program ε σ α) (h : ε → Program ε σ α) (s : σ) :
    runOn (tryCatch x h) s =
      match runOn x s with
      | (.ok a, s') => (.ok a, s')
      | (.error e, s') => runOn (h e) s' := by
  unfold runOn
  rw [ExceptT.run_tryCatch, StateT.run_bind]
  generalize x.run.run s = r
  obtain ⟨a | e, s'⟩ := r <;> rfl

/-! ### Logs -/

variable {ω : Type}

def emit (c : ω) : Program ε (List ω) Unit := modify (· ++ [c])

/-- Runs a program and ignores its exception. -/
def catching (x : Program ε σ Unit) : Program ε σ Unit := do
  try x
  catch _ => pure ()

/-- The program appends the entries, whether or not it throws. -/
def Emits (x : Program ε (List ω) Unit) (cs : List ω) : Prop := ∀ log, (runOn x log).2 = log ++ cs

/-- The program appends the entries and does not throw. -/
def Returns (x : Program ε (List ω) Unit) (cs : List ω) : Prop := ∀ log, runOn x log = (.ok (), log ++ cs)

theorem Returns.emits {x : Program ε (List ω) Unit} {cs : List ω} (h : Returns x cs) : Emits x cs := by
  intro log
  rw [h log]

theorem returns_pure : Returns (pure () : Program ε (List ω) Unit) [] := by
  intro log
  rw [List.append_nil]
  rfl

theorem returns_emit (c : ω) : Returns (emit c : Program ε (List ω) Unit) [c] := fun _ => rfl

theorem emits_throw (e : ε) : Emits (throw e : Program ε (List ω) Unit) [] := by
  intro log
  rw [List.append_nil]
  rfl

theorem Returns.emits_bind {x y : Program ε (List ω) Unit} {cs cs' : List ω} (h : Returns x cs) (h' : Emits y cs') :
    Emits (x >>= fun _ => y) (cs ++ cs') := by
  intro log
  rw [runOn_bind, h log, ← List.append_assoc]
  exact h' _

theorem Returns.bind {x y : Program ε (List ω) Unit} {cs cs' : List ω} (h : Returns x cs) (h' : Returns y cs') :
    Returns (x >>= fun _ => y) (cs ++ cs') := by
  intro log
  rw [runOn_bind, h log, ← List.append_assoc]
  exact h' _

theorem returns_catching {x : Program ε (List ω) Unit} {cs : List ω} (h : Emits x cs) : Returns (catching x) cs := by
  intro log
  have hrun := h log
  unfold catching
  rw [runOn_tryCatch]
  revert hrun
  generalize runOn x log = r
  obtain ⟨⟨⟩ | e, log'⟩ := r
  · rintro rfl
    rfl
  · rintro rfl
    rfl

/-- A loop over programs that do not throw. -/
theorem returns_forM {γ : Type} {f : γ → Program ε (List ω) Unit} {g : γ → List ω} {l : List γ}
    (h : ∀ a ∈ l, Returns (f a) (g a)) : Returns (l.forM f) (l.flatMap g) := by
  induction l with
  | nil => exact returns_pure
  | cons a l ih =>
    have hrest := ih fun b hb => h b (List.mem_cons_of_mem a hb)
    exact (h a List.mem_cons_self).bind hrest

end Effect

import Mathlib.Data.List.Forall2

/-!
# Reading messages back from rows

Each message leaves a block of rows, and each row of a block knows the message and how many rows it has.  Where no
block is empty, the messages are read back from the rows (`readBlocks_flatMap`).  Where rows may be missing, `Leaves`
says which blocks the rows are made of.
-/

namespace Feed

variable {M ρ : Type}

/-- Reads a message at the head of each block and skips the other rows of the block; `skip` rows are skipped first. -/
def readBlocks (read : ρ → Option M) (size : M → Nat) : Nat → List ρ → List M
  | _, [] => []
  | skip + 1, _ :: rows => readBlocks read size skip rows
  | 0, r :: rows =>
    match read r with
    | some m => m :: readBlocks read size (size m - 1) rows
    | none => readBlocks read size 0 rows

theorem readBlocks_append (read : ρ → Option M) (size : M → Nat) (block rows : List ρ) :
    readBlocks read size block.length (block ++ rows) = readBlocks read size 0 rows := by
  induction block with
  | nil => rfl
  | cons r block ih => exact ih

/-- The rows may be replaced by others from which the same is read. -/
theorem readBlocks_map {ρ' : Type} {read : ρ → Option M} {read' : ρ' → Option M} {f : ρ → ρ'} (size : M → Nat)
    (h : ∀ r, read' (f r) = read r) (skip : Nat) (rows : List ρ) :
    readBlocks read' size skip (rows.map f) = readBlocks read size skip rows := by
  induction rows generalizing skip with
  | nil => cases skip <;> rfl
  | cons r rows ih =>
    cases skip with
    | succ skip => exact ih skip
    | zero =>
      rw [List.map_cons, readBlocks, readBlocks, h]
      cases read r with
      | some m => exact congrArg (m :: ·) (ih (size m - 1))
      | none => exact ih 0

theorem readBlocks_flatMap {read : ρ → Option M} {size : M → Nat} {block : M → List ρ} {ms : List M}
    (hne : ∀ m ∈ ms, block m ≠ []) (hsize : ∀ m ∈ ms, (block m).length = size m)
    (hread : ∀ m ∈ ms, ∀ r ∈ block m, read r = some m) : readBlocks read size 0 (ms.flatMap block) = ms := by
  induction ms with
  | nil => rfl
  | cons m ms ih =>
    have htail := ih (fun m' hm' => hne m' (List.mem_cons_of_mem m hm'))
      (fun m' hm' => hsize m' (List.mem_cons_of_mem m hm')) (fun m' hm' => hread m' (List.mem_cons_of_mem m hm'))
    have hlength := hsize m List.mem_cons_self
    have hblock := hread m List.mem_cons_self
    cases hrows : block m with
    | nil => exact absurd hrows (hne m List.mem_cons_self)
    | cons r rows =>
      rw [hrows] at hlength hblock
      have hskip : size m - 1 = rows.length := by
        rw [List.length_cons] at hlength
        omega
      rw [List.flatMap_cons, hrows, List.cons_append, readBlocks, hblock r List.mem_cons_self]
      dsimp only
      rw [hskip, readBlocks_append, htail]

/-- Elements that are related stay so under a weaker relation. -/
theorem forall₂_imp_of_mem {α β : Type} {R S : α → β → Prop} {as : List α} {bs : List β} (h : List.Forall₂ R as bs)
    (himp : ∀ a ∈ as, ∀ b, R a b → S a b) : List.Forall₂ S as bs := by
  induction h with
  | nil => exact .nil
  | cons hab _ ih =>
    exact .cons (himp _ List.mem_cons_self _ hab) (ih fun a ha => himp a (List.mem_cons_of_mem _ ha))

theorem exists_of_mem_forall₂ {α β : Type} {R : α → β → Prop} {as : List α} {bs : List β}
    (h : List.Forall₂ R as bs) {a : α} (ha : a ∈ as) : ∃ b ∈ bs, R a b := by
  induction h with
  | nil => simp at ha
  | cons hab _ ih =>
    rcases List.mem_cons.1 ha with rfl | ha
    · exact ⟨_, List.mem_cons_self, hab⟩
    · obtain ⟨b, hb, hrel⟩ := ih ha
      exact ⟨b, List.mem_cons_of_mem _ hb, hrel⟩

/-! ### Rows that are missing -/

/-- The rows are made of blocks, one for each message, and `S` tells which blocks a message may leave. -/
def Leaves (S : M → List ρ → Prop) (ms : List M) (rows : List ρ) : Prop :=
  ∃ blocks : List (List ρ), List.Forall₂ S ms blocks ∧ rows = blocks.flatten

namespace Leaves

variable {S : M → List ρ → Prop} {ms ms' : List M} {rows rows' : List ρ}

theorem nil : Leaves S [] [] := ⟨[], .nil, rfl⟩

theorem append (h : Leaves S ms rows) (h' : Leaves S ms' rows') : Leaves S (ms ++ ms') (rows ++ rows') := by
  obtain ⟨blocks, hblocks, rfl⟩ := h
  obtain ⟨blocks', hblocks', rfl⟩ := h'
  exact ⟨blocks ++ blocks', List.rel_append hblocks hblocks', List.flatten_append.symm⟩

/-- One more message. -/
theorem concat (h : Leaves S ms rows) {m : M} {block : List ρ} (hm : S m block) :
    Leaves S (ms ++ [m]) (rows ++ block) :=
  h.append ⟨[block], .cons hm .nil, by simp⟩

/-- Messages that leave nothing. -/
theorem nothing (h : ∀ m ∈ ms, S m []) : Leaves S ms [] := by
  induction ms with
  | nil => exact nil
  | cons m ms ih =>
    obtain ⟨blocks, hblocks, hrows⟩ := ih fun m' hm' => h m' (List.mem_cons_of_mem m hm')
    exact ⟨[] :: blocks, .cons (h m List.mem_cons_self) hblocks, hrows⟩

theorem eq_flatMap {block : M → List ρ} (h : Leaves S ms rows) (hS : ∀ m rows, S m rows → rows = block m) :
    rows = ms.flatMap block := by
  obtain ⟨blocks, hblocks, rfl⟩ := h
  induction hblocks with
  | nil => rfl
  | cons hm _ ih => rw [List.flatten_cons, List.flatMap_cons, hS _ _ hm, ih]

theorem exists_of_mem (h : Leaves S ms rows) {m : M} (hm : m ∈ ms) : ∃ block, S m block := by
  obtain ⟨blocks, hblocks, -⟩ := h
  obtain ⟨block, -, hblock⟩ := exists_of_mem_forall₂ hblocks hm
  exact ⟨block, hblock⟩

theorem imp {S' : M → List ρ → Prop} (h : Leaves S ms rows) (himp : ∀ m ∈ ms, ∀ rows, S m rows → S' m rows) :
    Leaves S' ms rows := by
  obtain ⟨blocks, hblocks, hrows⟩ := h
  exact ⟨blocks, forall₂_imp_of_mem hblocks himp, hrows⟩

/-- Rows are made of blocks if what is read of them is. -/
theorem of_map {ρ' : Type} {f : ρ' → ρ} {rows : List ρ'} (h : Leaves S ms (rows.map f)) :
    Leaves (fun m block => S m (block.map f)) ms rows := by
  obtain ⟨blocks, hblocks, hrows⟩ := h
  induction hblocks generalizing rows with
  | nil =>
    rw [List.flatten_nil, List.map_eq_nil_iff] at hrows
    rw [hrows]
    exact nil
  | cons hm _ ih =>
    rw [List.flatten_cons, List.map_eq_append_iff] at hrows
    obtain ⟨block, rest, rfl, rfl, hrest⟩ := hrows
    obtain ⟨blocks', hblocks', rfl⟩ := ih hrest
    exact ⟨block :: blocks', .cons hm hblocks', rfl⟩

end Leaves

end Feed

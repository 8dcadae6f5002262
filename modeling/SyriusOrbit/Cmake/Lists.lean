import Mathlib.Data.List.Basic
import Mathlib.Data.List.Sort
import Mathlib.Data.String.Basic

/-!
# CMake lists

A CMake list is one string: its elements joined by semicolons.  Every command that takes the list finds the elements
again, by the rules for brackets and backslashes, and these need not be the elements that were joined.  What directly
follows a text without special characters stays behind it all the same (`flatMap_following_elements`,
`following_joined`).
-/

namespace Cmake

/-- A character, or `none` for a given text that has no character with a meaning in lists. -/
abbrev Symbol := Option Char

/-! ### Elements -/

/-- The elements as one string. -/
def joined (elems : List (List Symbol)) : List Symbol := [some ';'].intercalate elems

def nestingOf : Symbol → Int
  | some '[' => 1
  | some ']' => -1
  | _ => 0

/-- The elements of a list, empty ones among them: it is broken at each semicolon that is neither escaped nor between
square brackets. -/
def elements : Int → List Symbol → List (List Symbol)
  | _, [] => [[]]
  | nesting, some '\\' :: some ';' :: s => (elements nesting s).modifyHead (some ';' :: ·)
  | nesting, c :: s =>
    if c = some ';' ∧ nesting = 0 then [] :: elements 0 s
    else (elements (nesting + nestingOf c) s).modifyHead (c :: ·)

/-- The byte by which a symbol is compared; the given text is a path and begins with a slash. -/
def Symbol.byte (c : Symbol) : Char := c.getD '/'

def sorted (elems : List (List Symbol)) : List (List Symbol) :=
  elems.insertionSort fun a b => a.map Symbol.byte ≤ b.map Symbol.byte

/-- `list(SORT)`. -/
def listSort (list : List Symbol) : List Symbol := joined (sorted (elements 0 list))

/-- What `foreach` runs over: the elements that are not empty. -/
def forEach (list : List Symbol) : List (List Symbol) := (elements 0 list).filter (· ≠ [])

theorem perm_sorted (elems : List (List Symbol)) : (sorted elems).Perm elems := List.perm_insertionSort _ elems

theorem elements_ne_nil (nesting : Int) (s : List Symbol) : elements nesting s ≠ [] := by
  fun_induction elements nesting s <;> simp_all

/-- A symbol without a meaning in lists. -/
def IsPlain (c : Symbol) : Prop := c ≠ some ';' ∧ c ≠ some '[' ∧ c ≠ some ']' ∧ c ≠ some '\\'

theorem nestingOf_of_isPlain {c : Symbol} (h : IsPlain c) : nestingOf c = 0 := by
  obtain ⟨-, hopen, hclose, -⟩ := h
  unfold nestingOf
  split <;> simp_all

theorem elements_cons_of_isPlain {c : Symbol} (h : IsPlain c) (nesting : Int) (s : List Symbol) :
    elements nesting (c :: s) = (elements nesting s).modifyHead (c :: ·) := by
  rw [elements.eq_3 nesting c s (by rintro s' rfl; exact absurd rfl h.2.2.2),
    if_neg (fun hbreak => h.1 hbreak.1), nestingOf_of_isPlain h, Int.add_zero]

theorem elements_semicolon (s : List Symbol) : elements 0 (some ';' :: s) = [] :: elements 0 s := by
  rw [elements.eq_3 0 (some ';') s (by rintro s' h; simp at h), if_pos ⟨rfl, rfl⟩]

theorem elements_append_of_isPlain {t : List Symbol} (h : ∀ c ∈ t, IsPlain c) (nesting : Int) (s : List Symbol) :
    elements nesting (t ++ s) = (elements nesting s).modifyHead (t ++ ·) := by
  induction t with
  | nil =>
    rw [List.nil_append]
    generalize elements nesting s = elems
    cases elems <;> rfl
  | cons c t ih =>
    rw [List.cons_append, elements_cons_of_isPlain (h c List.mem_cons_self),
      ih fun b hb => h b (List.mem_cons_of_mem c hb), List.modifyHead_modifyHead]
    rfl

/-- Elements without special characters are found again. -/
theorem elements_joined {elems : List (List Symbol)} (h : ∀ a ∈ elems, ∀ c ∈ a, IsPlain c) (hne : elems ≠ []) :
    elements 0 (joined elems) = elems := by
  unfold joined
  induction elems with
  | nil => exact absurd rfl hne
  | cons a elems ih =>
    cases elems with
    | nil =>
      have hlast := elements_append_of_isPlain (h a List.mem_cons_self) 0 []
      rw [List.append_nil] at hlast
      rw [List.intercalate_singleton, hlast, elements, List.modifyHead_cons, List.append_nil]
    | cons b elems =>
      have hrest := ih (fun x hx => h x (List.mem_cons_of_mem a hx)) (List.cons_ne_nil _ _)
      rw [List.intercalate_cons_cons, List.append_assoc, elements_append_of_isPlain (h a List.mem_cons_self),
        List.singleton_append, elements_semicolon, hrest, List.modifyHead_cons, List.append_nil]

/-! ### What follows a text -/

/-- The `k` symbols after each place where the given text stands. -/
def following (k : Nat) : List Symbol → List (List Symbol)
  | [] => []
  | none :: s => s.take k :: following k s
  | some _ :: s => following k s

/-- At each of its places the given text is followed by `k` symbols, and these have no meaning in lists. -/
def Follows (k : Nat) (s : List Symbol) : Prop := ∀ t ∈ following k s, t.length = k ∧ ∀ c ∈ t, IsPlain c

theorem Follows.tail {k : Nat} {c : Symbol} {s : List Symbol} (h : Follows k (c :: s)) : Follows k s := by
  intro t ht
  cases c with
  | none => exact h t (List.mem_cons_of_mem _ ht)
  | some c => exact h t ht

theorem following_append {k : Nat} {a : List Symbol} (h : Follows k a) (b : List Symbol) :
    following k (a ++ b) = following k a ++ following k b := by
  induction a with
  | nil => rfl
  | cons c a ih =>
    cases c with
    | none =>
      have hlength : (a.take k).length = k := (h _ List.mem_cons_self).1
      have hle : k ≤ a.length := by
        rw [List.length_take] at hlength
        omega
      rw [List.cons_append, following, following, ih h.tail, List.take_append_of_le_length hle, List.cons_append]
    | some c => exact ih h.tail

/-- Joining keeps what follows the given text. -/
theorem following_joined {k : Nat} {elems : List (List Symbol)} (h : ∀ a ∈ elems, Follows k a) :
    following k (joined elems) = elems.flatMap (following k) := by
  unfold joined
  induction elems with
  | nil => rfl
  | cons a elems ih =>
    have hrest := ih fun b hb => h b (List.mem_cons_of_mem a hb)
    cases elems with
    | nil => simp
    | cons b elems =>
      rw [List.intercalate_cons_cons, List.append_assoc, following_append (h a List.mem_cons_self),
        List.flatMap_cons, ← hrest]
      rfl

theorem follows_joined {k : Nat} {elems : List (List Symbol)} (h : ∀ a ∈ elems, Follows k a) :
    Follows k (joined elems) := by
  intro t ht
  rw [following_joined h] at ht
  obtain ⟨a, ha, hta⟩ := List.mem_flatMap.1 ht
  exact h a ha t hta

theorem flatMap_following_modifyHead (k : Nat) (c : Char) (elems : List (List Symbol)) :
    (elems.modifyHead (some c :: ·)).flatMap (following k) = elems.flatMap (following k) := by
  cases elems <;> rfl

/-- Breaking a list into its elements keeps what follows the given text. -/
theorem flatMap_following_elements {k : Nat} {s : List Symbol} (h : Follows k s) (nesting : Int) :
    (elements nesting s).flatMap (following k) = following k s := by
  fun_induction elements nesting s with
  | case1 => rfl
  | case2 nesting s ih =>
    rw [flatMap_following_modifyHead]
    exact ih h.tail.tail
  | case3 nesting c s _ hbreak ih =>
    obtain ⟨rfl, -⟩ := hbreak
    exact ih h.tail
  | case4 nesting c s _ _ ih =>
    cases c with
    | some c =>
      rw [flatMap_following_modifyHead]
      exact ih h.tail
    | none =>
      obtain ⟨hlength, hplain⟩ := h _ List.mem_cons_self
      have hrest := ih h.tail
      -- the symbols that follow the text are in the first element
      have hfirst := elements_append_of_isPlain hplain (nesting + nestingOf none) (s.drop k)
      rw [List.take_append_drop] at hfirst
      obtain ⟨p, ps, hps⟩ := List.exists_cons_of_ne_nil (elements_ne_nil (nesting + nestingOf none) (s.drop k))
      rw [hps, List.modifyHead_cons] at hfirst
      rw [hfirst] at hrest ⊢
      rw [List.modifyHead_cons, List.flatMap_cons, following, following, List.cons_append, ← List.flatMap_cons, hrest,
        List.take_left' hlength]

theorem follows_of_mem_elements {k : Nat} {s : List Symbol} (h : Follows k s) {nesting : Int} {a : List Symbol}
    (ha : a ∈ elements nesting s) : Follows k a := by
  intro t ht
  refine h t ?_
  rw [← flatMap_following_elements h nesting]
  exact List.mem_flatMap.2 ⟨a, ha, ht⟩

theorem flatMap_following_forEach {k : Nat} {s : List Symbol} (h : Follows k s) :
    (forEach s).flatMap (following k) = following k s := by
  rw [← flatMap_following_elements h 0]
  unfold forEach
  generalize elements 0 s = elems
  induction elems with
  | nil => rfl
  | cons a elems ih =>
    rw [List.filter_cons, List.flatMap_cons]
    cases a with
    | nil => exact ih
    | cons c a =>
      rw [if_pos (by simp), List.flatMap_cons, ih]

theorem perm_following_listSort {k : Nat} {s : List Symbol} (h : Follows k s) :
    (following k (listSort s)).Perm (following k s) := by
  have hsort := perm_sorted (elements 0 s)
  unfold listSort
  rw [following_joined fun a ha => follows_of_mem_elements h (hsort.mem_iff.1 ha), ← flatMap_following_elements h 0]
  exact hsort.flatMap_right _

theorem follows_listSort {k : Nat} {s : List Symbol} (h : Follows k s) : Follows k (listSort s) :=
  fun t ht => h t ((perm_following_listSort h).mem_iff.1 ht)

end Cmake

import Mathlib.Data.String.Basic
import Mathlib.Data.List.Basic

/-!
# JSON values

JSON values with ordered object members, as `nlohmann::ordered_json` holds them, and the passage to the
`std::map` order of `nlohmann::json` (`Json.canon`).  The two facts used everywhere else: passing to the sorted
order does not change what a key names (`find?_canon`), and it is idempotent (`canon_canon`).
-/

namespace JsonFormat

/-- A JSON value.  The signed and the unsigned integer kind of the library are one constructor, since they
compare equal when they denote the same integer. -/
inductive Json where
  | null
  | bool (b : Bool)
  | int (n : Int)
  | float (x : Float)
  | str (s : String)
  | arr (xs : List Json)
  | obj (ms : List (String × Json))
  deriving Inhabited

/-- The members of an object, in order. -/
abbrev Members := List (String × Json)

/-- An exception of the library: its id and its text. -/
structure JsonError where
  id : Nat
  message : String
  deriving DecidableEq, Repr

namespace Json

/-- `type_name()`. -/
def typeName : Json → String
  | null => "null"
  | bool _ => "boolean"
  | int _ => "number"
  | float _ => "number"
  | str _ => "string"
  | arr _ => "array"
  | obj _ => "object"

/-- `is_null()`. -/
def isNull : Json → Bool
  | null => true
  | _ => false

/-- `is_object()`. -/
def isObject : Json → Bool
  | obj _ => true
  | _ => false

/-- `contains(key)` and `at(key)` in one: the value under a key, `none` also when the value is no object. -/
def find? : Json → String → Option Json
  | obj ms, key => ms.lookup key
  | _, _ => none

@[simp] theorem find?_obj (ms : Members) (key : String) : (obj ms).find? key = ms.lookup key := rfl

theorem isNull_iff {j : Json} : j.isNull = true ↔ j = null := by
  cases j <;> simp [isNull]

theorem isNull_eq_false_iff {j : Json} : j.isNull = false ↔ j ≠ null := by
  cases j <;> simp [isNull]

end Json

/-! ### Looking a key up -/

theorem lookup_append_of_notMem {key : String} {ms : Members} (h : key ∉ ms.map Prod.fst) (ms' : Members) :
    (ms ++ ms').lookup key = ms'.lookup key := by
  induction ms with
  | nil => rfl
  | cons m ms ih =>
    simp only [List.map_cons, List.mem_cons, not_or] at h
    rw [List.cons_append, List.lookup_cons, beq_false_of_ne h.1]
    exact ih h.2

theorem lookup_eq_none_of_notMem {key : String} {ms : Members} (h : key ∉ ms.map Prod.fst) :
    ms.lookup key = none := by
  simpa using lookup_append_of_notMem h []

/-- Where keys do not repeat, each member is the one its key names. -/
theorem lookup_eq_some_of_mem {key : String} {v : Json} {ms : Members} (hk : (ms.map Prod.fst).Nodup)
    (h : (key, v) ∈ ms) : ms.lookup key = some v := by
  induction ms with
  | nil => simp at h
  | cons m ms ih =>
    rw [List.map_cons, List.nodup_cons] at hk
    rw [List.mem_cons] at h
    rcases h with rfl | h
    · exact List.lookup_cons_self
    · have hne : key ≠ m.1 := by
        intro he
        exact hk.1 (List.mem_map.2 ⟨(key, v), h, he⟩)
      rw [List.lookup_cons, beq_false_of_ne hne]
      exact ih hk.2 h

/-- Leaving members out keeps the value of each key whose member stays, where keys do not repeat. -/
theorem lookup_filter {p : String × Json → Bool} {ms : Members} (hk : (ms.map Prod.fst).Nodup) (key : String) :
    (ms.filter p).lookup key = (ms.lookup key).filter (fun v => p (key, v)) := by
  induction ms with
  | nil => rfl
  | cons m ms ih =>
    obtain ⟨k, v⟩ := m
    rw [List.map_cons, List.nodup_cons] at hk
    have ih := ih hk.2
    by_cases hkey : key = k
    · subst hkey
      have hnone : ms.lookup key = none := lookup_eq_none_of_notMem hk.1
      rw [List.lookup_cons_self, List.filter_cons]
      by_cases hp : p (key, v) = true
      · simp [hp, Option.filter]
      · simp [hp, ih, hnone, Option.filter]
    · rw [List.lookup_cons, beq_false_of_ne hkey, List.filter_cons]
      split
      · rw [List.lookup_cons, beq_false_of_ne hkey]
        exact ih
      · exact ih

/-! ### The sorted order of `std::map` -/

/-- Puts a member into a list sorted by key; a member with the same key is replaced. -/
def insertMember (key : String) (v : Json) : Members → Members
  | [] => [(key, v)]
  | m :: ms =>
    if key < m.1 then (key, v) :: m :: ms
    else if key = m.1 then (key, v) :: ms
    else m :: insertMember key v ms

mutual
/-- The value as `nlohmann::json` holds it: the members of every object sorted by key. -/
def Json.canon : Json → Json
  | .null => .null
  | .bool b => .bool b
  | .int n => .int n
  | .float x => .float x
  | .str s => .str s
  | .arr xs => .arr (canonList xs)
  | .obj ms => .obj (canonMembers ms)

def canonList : List Json → List Json
  | [] => []
  | x :: xs => x.canon :: canonList xs

def canonMembers : Members → Members
  | [] => []
  | (key, v) :: ms => insertMember key v.canon (canonMembers ms)
end

theorem lookup_insertMember (key key' : String) (v : Json) (ms : Members) :
    (insertMember key v ms).lookup key' = if key' = key then some v else ms.lookup key' := by
  induction ms with
  | nil => by_cases h : key' = key <;> simp [insertMember, List.lookup_cons, h, beq_false_of_ne]
  | cons m ms ih =>
    obtain ⟨k, w⟩ := m
    unfold insertMember
    split
    · by_cases h : key' = key <;> simp [List.lookup_cons, h, beq_false_of_ne]
    · split
      · next hlt heq =>
        subst heq
        by_cases h : key' = key <;> simp [List.lookup_cons, h, beq_false_of_ne]
      · next hlt hne =>
        rw [List.lookup_cons, ih, List.lookup_cons]
        by_cases h : key' = k
        · subst h
          simp [Ne.symm hne]
        · rw [beq_false_of_ne h]

theorem lookup_canonMembers (key : String) (ms : Members) :
    (canonMembers ms).lookup key = (ms.lookup key).map Json.canon := by
  induction ms with
  | nil => rfl
  | cons m ms ih =>
    rw [canonMembers, lookup_insertMember, ih, List.lookup_cons]
    by_cases h : key = m.1 <;> simp [h, beq_false_of_ne]

/-- Sorting the members does not change what a key names. -/
@[simp] theorem Json.find?_canon (j : Json) (key : String) :
    j.canon.find? key = (j.find? key).map Json.canon := by
  cases j <;> simp [Json.canon, Json.find?, lookup_canonMembers]

@[simp] theorem Json.isNull_canon (j : Json) : j.canon.isNull = j.isNull := by
  cases j <;> simp [Json.canon, Json.isNull]

theorem canonList_eq_map (xs : List Json) : canonList xs = xs.map Json.canon := by
  induction xs with
  | nil => rfl
  | cons x xs ih => rw [canonList, ih, List.map_cons]

/-- Keys strictly increase along the list. -/
def SortedKeys (ms : Members) : Prop := ms.Pairwise fun m m' => m.1 < m'.1

private theorem fst_mem_insertMember {key : String} {v : Json} {ms : Members} {m : String × Json}
    (h : m ∈ insertMember key v ms) : m = (key, v) ∨ m ∈ ms := by
  induction ms with
  | nil => simpa [insertMember] using h
  | cons a ms ih =>
    unfold insertMember at h
    split at h
    · simpa using h
    · split at h
      · rcases List.mem_cons.1 h with h | h
        · exact .inl h
        · exact .inr (List.mem_cons_of_mem a h)
      · rcases List.mem_cons.1 h with rfl | h
        · simp
        · rcases ih h with h | h
          · exact .inl h
          · exact .inr (List.mem_cons_of_mem a h)

theorem sortedKeys_insertMember {key : String} {v : Json} {ms : Members} (h : SortedKeys ms) :
    SortedKeys (insertMember key v ms) := by
  induction ms with
  | nil => simp [insertMember, SortedKeys]
  | cons a ms ih =>
    unfold SortedKeys at h
    rw [List.pairwise_cons] at h
    unfold insertMember SortedKeys
    split
    · next hlt =>
      rw [List.pairwise_cons, List.pairwise_cons]
      refine ⟨?_, h.1, h.2⟩
      intro m hm
      rcases List.mem_cons.1 hm with rfl | hm
      · exact hlt
      · exact hlt.trans (h.1 m hm)
    · split
      · next heq =>
        rw [List.pairwise_cons]
        refine ⟨?_, h.2⟩
        intro m hm
        rw [heq]
        exact h.1 m hm
      · next hlt hne =>
        rw [List.pairwise_cons]
        refine ⟨?_, ih h.2⟩
        intro m hm
        rcases fst_mem_insertMember hm with rfl | hm
        · exact lt_of_le_of_ne (not_lt.1 hlt) (Ne.symm hne)
        · exact h.1 m hm

theorem sortedKeys_canonMembers (ms : Members) : SortedKeys (canonMembers ms) := by
  induction ms with
  | nil => exact List.Pairwise.nil
  | cons m ms ih => exact sortedKeys_insertMember ih

/-- A member whose key is below all others goes to the front. -/
private theorem insertMember_eq_cons {key : String} {v : Json} {ms : Members} (h : ∀ m ∈ ms, key < m.1) :
    insertMember key v ms = (key, v) :: ms := by
  cases ms with
  | nil => rfl
  | cons m ms =>
    unfold insertMember
    rw [if_pos (h m (by simp))]

/-- Members in sorted order whose values are canonical stay as they are. -/
theorem canonMembers_eq_self {ms : Members} (hs : SortedKeys ms) (hv : ∀ m ∈ ms, m.2.canon = m.2) :
    canonMembers ms = ms := by
  induction ms with
  | nil => rfl
  | cons m ms ih =>
    unfold SortedKeys at hs
    rw [List.pairwise_cons] at hs
    rw [canonMembers, ih hs.2 (fun m' hm' => hv m' (List.mem_cons_of_mem m hm')), hv m (by simp)]
    exact insertMember_eq_cons hs.1

private theorem canon_eq_of_mem_canonMembers {ms : Members} (h : ∀ m ∈ ms, m.2.canon.canon = m.2.canon) :
    ∀ m ∈ canonMembers ms, m.2.canon = m.2 := by
  induction ms with
  | nil => simp [canonMembers]
  | cons a ms ih =>
    intro m hm
    rcases fst_mem_insertMember hm with rfl | hm
    · exact h a (by simp)
    · exact ih (fun m' hm' => h m' (List.mem_cons_of_mem a hm')) m hm

/-- Sorting twice is sorting once. -/
theorem canon_canon (j : Json) : j.canon.canon = j.canon := by
  refine @Json.rec (fun j => j.canon.canon = j.canon) (fun xs => ∀ x ∈ xs, x.canon.canon = x.canon)
    (fun ms => ∀ m ∈ ms, m.2.canon.canon = m.2.canon) (fun m => m.2.canon.canon = m.2.canon)
    rfl (fun _ => rfl) (fun _ => rfl) (fun _ => rfl) (fun _ => rfl) ?arr ?obj ?nil ?cons ?nil' ?cons' ?member j
  case arr =>
    intro xs ih
    simp only [Json.canon, canonList_eq_map, List.map_map, Json.arr.injEq]
    exact List.map_congr_left ih
  case obj =>
    intro ms ih
    simp only [Json.canon, Json.obj.injEq]
    exact canonMembers_eq_self (sortedKeys_canonMembers ms) (canon_eq_of_mem_canonMembers ih)
  case nil => simp
  case cons =>
    intro x xs hx hxs
    simpa using ⟨hx, hxs⟩
  case nil' => simp
  case cons' =>
    intro m ms hm hms
    exact List.forall_mem_cons.2 ⟨hm, hms⟩
  case member =>
    intro key v hv
    exact hv

theorem canonMembers_canonMembers (ms : Members) : canonMembers (canonMembers ms) = canonMembers ms := by
  simpa [Json.canon] using canon_canon (.obj ms)

end JsonFormat

import SyriusOrbit.Json.Value
import Mathlib.Data.Rat.Defs
import Mathlib.Algebra.Order.Ring.Rat

/-!
# Shapes of encoded values

A `Schema` says how a type is laid out in JSON.  Two relations are read off it: `Schema.Keeps`, that a value
re-encoded after decoding carries the same data under every declared key, and `Schema.Exact`, that the input holds
nothing the type has to replace.
-/

namespace JsonFormat

/-! ### Numbers -/

/-- The number a double denotes; `none` for the infinities and for not-a-number. -/
def floatValue (x : Float) : Option ℚ :=
  match x.toModel.unpack with
  | .zero _ => some 0
  | .finite sign mantissa exponent _ => some (sign.apply mantissa * 2 ^ exponent)
  | _ => none

/-- The conversion of an integer to a double, rounding to nearest. -/
def floatOfInt (n : Int) : Float := .ofModel (.ofInt n)

/-- The number a JSON value denotes. -/
def Json.number? : Json → Option ℚ
  | .int n => some n
  | .float x => floatValue x
  | _ => none

/-- The integer lies in the range of a signed machine integer of `w + 1` bits. -/
def InRange (w : Nat) (n : Int) : Prop := -2 ^ w ≤ n ∧ n < 2 ^ w

instance (w : Nat) (n : Int) : Decidable (InRange w n) := by unfold InRange; infer_instance

/-- The number is an integer the signed type of `w + 1` bits holds exactly. -/
def Json.HoldsInt (w : Nat) (j : Json) : Prop := ∃ n : Int, InRange w n ∧ j.number? = some (n : ℚ)

/-- The number is one a double holds exactly. -/
def Json.HoldsDouble : Json → Prop
  | .int n => floatValue (floatOfInt n) = some (n : ℚ)
  | _ => True

/-! ### Schemas -/

/-- How a type is laid out in JSON. -/
inductive Schema where
  | string
  | boolean
  | int64
  | int32
  | double
  /-- An enumeration with its table of names. -/
  | enum (names : List String)
  /-- Any JSON value, as it is. -/
  | raw
  /-- An object with arbitrary keys and raw values. -/
  | map
  | optional (s : Schema)
  | vector (s : Schema)
  | record (fields : List (String × Schema))

mutual
/-- `j'`, encoded after decoding `j`, holds the data of `j` under every key the schema declares. -/
def Schema.Keeps : Schema → Json → Json → Prop
  | .string, j, j' => j = j'
  | .boolean, j, j' => j = j'
  | .int64, j, j' => j.number? = j'.number?
  | .int32, j, j' => j.number? = j'.number?
  | .double, j, j' => j.number? = j'.number?
  | .enum _, j, j' => j = j'
  | .raw, j, j' => j.canon = j'.canon
  | .map, j, j' => j.canon = j'.canon
  | .optional s, j, j' => j = .null ∨ s.Keeps j j'
  | .vector s, j, j' => ∃ xs xs', j = .arr xs ∧ j' = .arr xs' ∧ List.Forall₂ (fun x x' => s.Keeps x x') xs xs'
  | .record fs, j, j' => j.isObject = true ∧ KeepsFields fs j j'

/-- Each declared key with a value in `j` that is not null holds that value in `j'`. -/
def KeepsFields : List (String × Schema) → Json → Json → Prop
  | [], _, _ => True
  | (key, s) :: fs, j, j' =>
    (∀ v, j.find? key = some v → v ≠ .null → ∃ v', j'.find? key = some v' ∧ s.Keeps v v') ∧ KeepsFields fs j j'
end

mutual
/-- The schema's type can hold the data of `j` without replacing any of it. -/
def Schema.Exact : Schema → Json → Prop
  | .string, _ => True
  | .boolean, _ => True
  | .int64, j => j.HoldsInt 63
  | .int32, j => j.HoldsInt 31
  | .double, j => j.HoldsDouble
  | .enum names, j => ∃ s ∈ names, j = .str s
  | .raw, _ => True
  | .map, _ => True
  | .optional s, j => j = .null ∨ s.Exact j
  | .vector s, j => ∀ xs, j = .arr xs → ∀ x ∈ xs, s.Exact x
  | .record fs, j => j.isObject = true ∧ ExactFields fs j

/-- Each declared key with a value in `j` that is not null has an exact one. -/
def ExactFields : List (String × Schema) → Json → Prop
  | [], _ => True
  | (key, s) :: fs, j => (∀ v, j.find? key = some v → v ≠ .null → s.Exact v) ∧ ExactFields fs j
end

theorem keepsFields_append (fs fs' : List (String × Schema)) (j j' : Json) :
    KeepsFields (fs ++ fs') j j' ↔ KeepsFields fs j j' ∧ KeepsFields fs' j j' := by
  induction fs with
  | nil => simp [KeepsFields]
  | cons f fs ih =>
    rw [List.cons_append, KeepsFields, KeepsFields, ih, and_assoc]

theorem exactFields_append (fs fs' : List (String × Schema)) (j : Json) :
    ExactFields (fs ++ fs') j ↔ ExactFields fs j ∧ ExactFields fs' j := by
  induction fs with
  | nil => simp [ExactFields]
  | cons f fs ih =>
    rw [List.cons_append, ExactFields, ExactFields, ih, and_assoc]

/-- The declared keys of a record with their schemas. -/
def Schema.fields : Schema → List (String × Schema)
  | .record fs => fs
  | _ => []

/-- The member may be absent. -/
def Schema.isOptional : Schema → Bool
  | .optional _ => true
  | _ => false

/-- The member is a list. -/
def Schema.isVector : Schema → Bool
  | .vector _ => true
  | _ => false

end JsonFormat

import SyriusOrbit.Json.Schema
import Mathlib.Tactic.Ring

/-!
# Codecs

`JsonCodec α` is the pair of conversions `to_json` and `get<α>()` with the shape they use.  `LawfulJsonCodec` says
that decoding undoes encoding, does not look at the order of members, and replaces data exactly where the input is
not exact for the shape.  The basic types, optionals, vectors, string maps and raw values are lawful codecs.
-/

namespace JsonFormat

/-- What the library does outside of the conversions: the text format, and the result of casting a double that
lies outside of the target type, which the language leaves undefined. -/
class JsonLibrary where
  parse : String → Except JsonError Json
  dump : Json → String
  outOfRangeInt64 : Float → Int64
  outOfRangeInt32 : Float → Int32

/-- A library that writes one text and reads back the value it stands for. -/
@[reducible] def JsonLibrary.ofText (text : String) (j : Json) : JsonLibrary where
  parse s := if s = text then .ok j.canon else .error ⟨101, "[json.exception.parse_error.101] parse error"⟩
  dump _ := text
  outOfRangeInt64 _ := Int64.minValue
  outOfRangeInt32 _ := Int32.minValue

/-- A library that writes and reads back one text for each value of the member `headerId`, and an empty object for
everything else. -/
@[reducible] def JsonLibrary.ofTexts (texts : List (Int × String × Json)) : JsonLibrary where
  parse s :=
    match texts.find? fun e => decide (e.2.1 = s) with
    | some e => .ok e.2.2.canon
    | none => .error ⟨101, "[json.exception.parse_error.101] parse error"⟩
  dump j :=
    match j.find? "headerId" with
    | some (.int n) => ((texts.find? fun e => decide (e.1 = n)).map (·.2.1)).getD "\x7b\x7d"
    | _ => "\x7b\x7d"
  outOfRangeInt64 _ := Int64.minValue
  outOfRangeInt32 _ := Int32.minValue

theorem JsonLibrary.dump_ofTexts {texts : List (Int × String × Json)} {j : Json} {e : Int × String × Json}
    (hid : j.find? "headerId" = some (.int e.1)) (he : (texts.find? fun e' => decide (e'.1 = e.1)) = some e) :
    (ofTexts texts).dump j = e.2.1 := by
  delta ofTexts
  dsimp only
  rw [hid]
  dsimp only
  rw [he]
  rfl

theorem JsonLibrary.dump_ofTexts_of_forall {texts : List (Int × String × Json)} {P : String → Prop}
    (h : ∀ e ∈ texts, P e.2.1) (hempty : P "\x7b\x7d") (j : Json) : P ((ofTexts texts).dump j) := by
  delta ofTexts
  dsimp only
  split
  · next n _ =>
    cases he : texts.find? fun e => decide (e.1 = n) with
    | none => exact hempty
    | some e => exact h e (List.mem_of_find?_eq_some he)
  · exact hempty

theorem JsonLibrary.parse_ofTexts {texts : List (Int × String × Json)} {e : Int × String × Json}
    (he : (texts.find? fun e' => decide (e'.2.1 = e.2.1)) = some e) :
    (ofTexts texts).parse e.2.1 = .ok e.2.2.canon := by
  delta ofTexts
  dsimp only
  rw [he]

class JsonCodec (α : Type) where
  toJson : α → Json
  fromJson : Json → Except JsonError α
  schema : Schema

export JsonCodec (toJson fromJson schema)

class LawfulJsonCodec (α : Type) [JsonCodec α] : Prop where
  fromJson_toJson (a : α) : fromJson (toJson a) = .ok a
  fromJson_canon (j : Json) : fromJson (α := α) j.canon = fromJson j
  keeps_iff_exact {j : Json} {a : α} (h : fromJson j = .ok a) :
    (schema α).Keeps j (toJson a).canon ↔ (schema α).Exact j

export LawfulJsonCodec (fromJson_toJson fromJson_canon keeps_iff_exact)

/-- No value is encoded as null, so that an optional of the type can tell absence apart. -/
class NonNullJson (α : Type) [JsonCodec α] : Prop where
  toJson_ne_null (a : α) : toJson a ≠ Json.null

export NonNullJson (toJson_ne_null)

/-- `type_error::create`. -/
def typeError (id : Nat) (text : String) : JsonError :=
  ⟨id, "[json.exception.type_error." ++ toString id ++ "] " ++ text⟩

/-- The error of `get<>` on a value of another kind. -/
def typeMustBe (expected : String) (j : Json) : JsonError :=
  typeError 302 ("type must be " ++ expected ++ ", but is " ++ j.typeName)

theorem bind_eq_ok {ε α β : Type} {x : Except ε α} {f : α → Except ε β} {b : β} :
    x >>= f = .ok b ↔ ∃ a, x = .ok a ∧ f a = .ok b := by
  cases x with
  | error e => simp [bind, Except.bind]
  | ok a => simp [bind, Except.bind]

theorem map_eq_ok {ε α β : Type} {x : Except ε α} {f : α → β} {b : β} :
    f <$> x = .ok b ↔ ∃ a, x = .ok a ∧ f a = b := by
  cases x with
  | error e => simp [Functor.map, Except.map]
  | ok a => simp [Functor.map, Except.map]

/-! ### Strings and booleans -/

instance : JsonCodec String where
  toJson s := .str s
  fromJson
    | .str s => .ok s
    | j => .error (typeMustBe "string" j)
  schema := .string

instance : LawfulJsonCodec String where
  fromJson_toJson _ := rfl
  fromJson_canon j := by cases j <;> rfl
  keeps_iff_exact {j a} h := by
    cases j with
    | str s =>
      cases h
      simp [schema, Schema.Keeps, Schema.Exact, toJson, Json.canon]
    | _ => cases h

instance : NonNullJson String where
  toJson_ne_null a := by simp [toJson]

instance : JsonCodec Bool where
  toJson b := .bool b
  fromJson
    | .bool b => .ok b
    | j => .error (typeMustBe "boolean" j)
  schema := .boolean

instance : LawfulJsonCodec Bool where
  fromJson_toJson _ := rfl
  fromJson_canon j := by cases j <;> rfl
  keeps_iff_exact {j a} h := by
    cases j with
    | bool b =>
      cases h
      simp [schema, Schema.Keeps, Schema.Exact, toJson, Json.canon]
    | _ => cases h

instance : NonNullJson Bool where
  toJson_ne_null a := by simp [toJson]

/-! ### Numbers -/

/-- The integer part of a double. -/
def truncate (x : Float) : Option Int := (floatValue x).map fun q => q.num.tdiv q.den

theorem truncate_of_floatValue_eq_int {x : Float} {n : Int} (h : floatValue x = some (n : ℚ)) :
    truncate x = some n := by
  simp [truncate, h]

theorem inRange_toInt64 (a : Int64) : InRange 63 a.toInt := ⟨a.le_toInt, a.toInt_lt⟩

theorem inRange_toInt32 (a : Int32) : InRange 31 a.toInt := ⟨a.le_toInt, a.toInt_lt⟩

section

variable [JsonLibrary]

/-- `static_cast<std::int64_t>` of a double. -/
def castInt64 (x : Float) : Int64 :=
  match truncate x with
  | some n => if InRange 63 n then Int64.ofInt n else JsonLibrary.outOfRangeInt64 x
  | none => JsonLibrary.outOfRangeInt64 x

/-- `static_cast<std::int32_t>` of a double. -/
def castInt32 (x : Float) : Int32 :=
  match truncate x with
  | some n => if InRange 31 n then Int32.ofInt n else JsonLibrary.outOfRangeInt32 x
  | none => JsonLibrary.outOfRangeInt32 x

theorem toInt_castInt64 {x : Float} {n : Int} (hx : floatValue x = some (n : ℚ)) (hn : InRange 63 n) :
    (castInt64 x).toInt = n := by
  unfold castInt64
  rw [truncate_of_floatValue_eq_int hx]
  simp only [if_pos hn]
  exact Int64.toInt_ofInt_of_le hn.1 hn.2

theorem toInt_castInt32 {x : Float} {n : Int} (hx : floatValue x = some (n : ℚ)) (hn : InRange 31 n) :
    (castInt32 x).toInt = n := by
  unfold castInt32
  rw [truncate_of_floatValue_eq_int hx]
  simp only [if_pos hn]
  exact Int32.toInt_ofInt_of_le hn.1 hn.2

instance : JsonCodec Int64 where
  toJson n := .int n.toInt
  fromJson
    | .int n => .ok (Int64.ofInt n)
    | .float x => .ok (castInt64 x)
    | j => .error (typeMustBe "number" j)
  schema := .int64

instance : LawfulJsonCodec Int64 where
  fromJson_toJson a := by simp [fromJson, toJson]
  fromJson_canon j := by cases j <;> rfl
  keeps_iff_exact {j a} h := by
    simp only [schema, Schema.Keeps, Schema.Exact, toJson, Json.canon]
    constructor
    · intro hk
      exact ⟨a.toInt, inRange_toInt64 a, hk⟩
    · rintro ⟨n, hn, hj⟩
      rw [hj]
      cases j with
      | int m =>
        cases h
        have hm : m = n := by simpa [Json.number?] using hj
        subst hm
        simp [Json.number?, Int64.toInt_ofInt_of_le hn.1 hn.2]
      | float x =>
        cases h
        simp [Json.number?, toInt_castInt64 hj hn]
      | _ => cases h

instance : NonNullJson Int64 where
  toJson_ne_null a := by simp [toJson]

/-- The narrower integer types go through the conversion of arithmetic types, which also takes booleans. -/
instance : JsonCodec Int32 where
  toJson n := .int n.toInt
  fromJson
    | .int n => .ok (Int32.ofInt n)
    | .float x => .ok (castInt32 x)
    | .bool b => .ok (if b then 1 else 0)
    | j => .error (typeMustBe "number" j)
  schema := .int32

instance : LawfulJsonCodec Int32 where
  fromJson_toJson a := by simp [fromJson, toJson]
  fromJson_canon j := by cases j <;> rfl
  keeps_iff_exact {j a} h := by
    simp only [schema, Schema.Keeps, Schema.Exact, toJson, Json.canon]
    constructor
    · intro hk
      exact ⟨a.toInt, inRange_toInt32 a, hk⟩
    · rintro ⟨n, hn, hj⟩
      rw [hj]
      cases j with
      | int m =>
        cases h
        have hm : m = n := by simpa [Json.number?] using hj
        subst hm
        simp [Json.number?, Int32.toInt_ofInt_of_le hn.1 hn.2]
      | float x =>
        cases h
        simp [Json.number?, toInt_castInt32 hj hn]
      | bool b => simp [Json.number?] at hj
      | _ => cases h

instance : NonNullJson Int32 where
  toJson_ne_null a := by simp [toJson]

end

instance : JsonCodec Float where
  toJson x := .float x
  fromJson
    | .int n => .ok (floatOfInt n)
    | .float x => .ok x
    | j => .error (typeMustBe "number" j)
  schema := .double

instance : LawfulJsonCodec Float where
  fromJson_toJson _ := rfl
  fromJson_canon j := by cases j <;> rfl
  keeps_iff_exact {j a} h := by
    simp only [schema, Schema.Keeps, Schema.Exact, toJson, Json.canon]
    cases j with
    | int n =>
      cases h
      simp only [Json.number?, Json.HoldsDouble]
      exact eq_comm
    | float x =>
      cases h
      simp [Json.HoldsDouble]
    | _ => cases h

instance : NonNullJson Float where
  toJson_ne_null a := by simp [toJson]

/-! ### Raw values and string maps -/

/-- A value of type `nlohmann::json`. -/
def RawJson := { j : Json // j.canon = j }

instance : Inhabited RawJson := ⟨⟨.null, rfl⟩⟩

instance : JsonCodec RawJson where
  toJson a := a.1
  fromJson j := .ok ⟨j.canon, canon_canon j⟩
  schema := .raw

instance : LawfulJsonCodec RawJson where
  fromJson_toJson a := congrArg Except.ok (Subtype.ext a.2)
  fromJson_canon j := congrArg Except.ok (Subtype.ext (canon_canon j))
  keeps_iff_exact {j a} h := by
    cases h
    simp [schema, Schema.Keeps, Schema.Exact, toJson, canon_canon]

/-- A value of type `std::map<std::string, nlohmann::json>`. -/
def StringMap := { ms : Members // canonMembers ms = ms }

instance : JsonCodec StringMap where
  toJson a := .obj a.1
  fromJson
    | .obj ms => .ok ⟨canonMembers ms, canonMembers_canonMembers ms⟩
    | j => .error (typeMustBe "object" j)
  schema := .map

instance : LawfulJsonCodec StringMap where
  fromJson_toJson a := congrArg Except.ok (Subtype.ext a.2)
  fromJson_canon j := by
    cases j with
    | obj ms => exact congrArg Except.ok (Subtype.ext (canonMembers_canonMembers ms))
    | _ => rfl
  keeps_iff_exact {j a} h := by
    cases j with
    | obj ms =>
      cases h
      simp [schema, Schema.Keeps, Schema.Exact, toJson, Json.canon, canonMembers_canonMembers]
    | _ => cases h

instance : NonNullJson StringMap where
  toJson_ne_null a := by simp [toJson]

/-! ### Optionals -/

section

variable {α : Type} [JsonCodec α]

instance : JsonCodec (Option α) where
  toJson
    | none => .null
    | some a => toJson a
  fromJson
    | .null => .ok none
    | j => some <$> fromJson j
  schema := .optional (schema α)

theorem fromJson_option_of_ne_null {j : Json} (h : j ≠ .null) :
    fromJson (α := Option α) j = some <$> fromJson j := by
  cases j with
  | null => exact absurd rfl h
  | _ => rfl

theorem canon_ne_null {j : Json} (h : j ≠ .null) : j.canon ≠ .null := by
  cases j <;> simp_all [Json.canon]

instance [LawfulJsonCodec α] [NonNullJson α] : LawfulJsonCodec (Option α) where
  fromJson_toJson a := by
    cases a with
    | none => rfl
    | some a =>
      have hne : toJson (some a) ≠ Json.null := toJson_ne_null a
      rw [fromJson_option_of_ne_null hne]
      have h : fromJson (toJson (some a)) = .ok a := fromJson_toJson a
      rw [h]
      rfl
  fromJson_canon j := by
    by_cases h : j = .null
    · rw [h]
      rfl
    · rw [fromJson_option_of_ne_null h, fromJson_option_of_ne_null (canon_ne_null h), fromJson_canon]
  keeps_iff_exact {j o} ho := by
    by_cases h : j = .null
    · simp [schema, Schema.Keeps, Schema.Exact, h]
    · rw [fromJson_option_of_ne_null h, map_eq_ok] at ho
      obtain ⟨a, ha, rfl⟩ := ho
      simp only [schema, Schema.Keeps, Schema.Exact, h, false_or]
      exact keeps_iff_exact ha

/-! ### Vectors -/

/-- The elements of an array, decoded in order. -/
def readList : List Json → Except JsonError (List α)
  | [] => .ok []
  | x :: xs => do
    let a ← fromJson x
    let as ← readList xs
    return a :: as

instance : JsonCodec (List α) where
  toJson as := .arr (as.map toJson)
  fromJson
    | .arr xs => readList xs
    | j => .error (typeMustBe "array" j)
  schema := .vector (schema α)

theorem readList_cons_eq_ok {x : Json} {xs : List Json} {as : List α} :
    readList (x :: xs) = .ok as ↔ ∃ a as', fromJson x = .ok a ∧ readList xs = .ok as' ∧ a :: as' = as := by
  simp only [readList, bind_eq_ok, pure, Except.pure, Except.ok.injEq]
  constructor
  · rintro ⟨a, ha, as', has, rfl⟩
    exact ⟨a, as', ha, has, rfl⟩
  · rintro ⟨a, as', ha, has, rfl⟩
    exact ⟨a, ha, as', has, rfl⟩

theorem readList_map_toJson [LawfulJsonCodec α] (as : List α) : readList (as.map toJson) = .ok as := by
  induction as with
  | nil => rfl
  | cons a as ih => exact readList_cons_eq_ok.2 ⟨a, as, fromJson_toJson a, ih, rfl⟩

theorem readList_canonList [LawfulJsonCodec α] (xs : List Json) :
    readList (α := α) (canonList xs) = readList xs := by
  induction xs with
  | nil => rfl
  | cons x xs ih => rw [canonList, readList, readList, fromJson_canon, ih]

theorem keepsList_iff_exact [LawfulJsonCodec α] {xs : List Json} {as : List α} (h : readList xs = .ok as) :
    List.Forall₂ (fun x x' => (schema α).Keeps x x') xs (canonList (as.map toJson)) ↔
      ∀ x ∈ xs, (schema α).Exact x := by
  induction xs generalizing as with
  | nil =>
    cases h
    simp [canonList]
  | cons x xs ih =>
    obtain ⟨a, as', ha, has, rfl⟩ := readList_cons_eq_ok.1 h
    rw [List.map_cons, canonList, List.forall₂_cons, ih has, keeps_iff_exact ha, List.forall_mem_cons]

instance [LawfulJsonCodec α] : LawfulJsonCodec (List α) where
  fromJson_toJson as := readList_map_toJson as
  fromJson_canon j := by
    cases j with
    | arr xs => exact readList_canonList xs
    | _ => rfl
  keeps_iff_exact {j as} h := by
    cases j with
    | arr xs =>
      simp only [schema, Schema.Keeps, Schema.Exact, toJson, Json.canon, Json.arr.injEq]
      have hlist := keepsList_iff_exact h
      constructor
      · rintro ⟨_, _, rfl, rfl, hk⟩ _ rfl
        exact hlist.1 hk
      · intro hk
        exact ⟨xs, _, rfl, rfl, hlist.2 (hk xs rfl)⟩
    | _ => cases h

instance : NonNullJson (List α) where
  toJson_ne_null as := by simp [toJson]

end

instance : LawfulJsonCodec (Option (List String)) := inferInstance

end JsonFormat

import SyriusOrbit.Json.Codec

/-!
# Enumerations and records

The codecs that the macros of the library generate from a table or a list of members.  A `JsonEnum` is given by
its table of names.  A `JsonRecord` is given by a `Record`: the constructor of the structure applied to its
members, each with its key and its projection, in the order of the macro.  Both have lawful codecs, so a structure
needs its list of members and nothing else.  `SparseRecord` is the same for hand-written conversions that leave
absent members out.
-/

namespace JsonFormat

/-! ### Enumerations -/

/-- The table of `NLOHMANN_JSON_SERIALIZE_ENUM`, with the checks that make it usable both ways. -/
class JsonEnum (E : Type) [DecidableEq E] where
  table : List (E × String)
  table_ne_nil : table ≠ [] := by decide
  complete : ∀ e : E, ∃ p ∈ table, p.1 = e := by intro e; cases e <;> decide
  consistent : ∀ p ∈ table, ∀ q ∈ table, p.1 = q.1 ↔ p.2 = q.2 := by decide

namespace JsonEnum

variable {E : Type} [DecidableEq E] [JsonEnum E]

/-- The name of a value; the first of the table when the value is not listed. -/
def name (e : E) : String :=
  ((table.find? fun p : E × String => p.1 == e).getD ((table (E := E)).head table_ne_nil)).2

/-- The value of a name; the first of the table when the name is not listed. -/
def ofName (s : String) : E :=
  ((table.find? fun p : E × String => p.2 == s).getD ((table (E := E)).head table_ne_nil)).1

/-- The names of the table. -/
def names (E : Type) [DecidableEq E] [JsonEnum E] : List String := (table (E := E)).map Prod.snd

theorem name_of_mem {p : E × String} (hp : p ∈ table (E := E)) : name p.1 = p.2 := by
  unfold name
  cases h : table.find? fun q : E × String => q.1 == p.1 with
  | none =>
    rw [List.find?_eq_none] at h
    exact absurd (beq_self_eq_true p.1) (h p hp)
  | some q =>
    have hq : q.1 = p.1 := by simpa using List.find?_some h
    exact (consistent q (List.mem_of_find?_eq_some h) p hp).1 hq

theorem ofName_of_mem {p : E × String} (hp : p ∈ table (E := E)) : ofName p.2 = p.1 := by
  unfold ofName
  cases h : table.find? fun q : E × String => q.2 == p.2 with
  | none =>
    rw [List.find?_eq_none] at h
    exact absurd (beq_self_eq_true p.2) (h p hp)
  | some q =>
    have hq : q.2 = p.2 := by simpa using List.find?_some h
    exact (consistent q (List.mem_of_find?_eq_some h) p hp).2 hq

theorem ofName_name (e : E) : ofName (name e) = e := by
  obtain ⟨p, hp, rfl⟩ := complete e
  rw [name_of_mem hp, ofName_of_mem hp]

theorem name_mem_names (e : E) : name e ∈ names E := by
  obtain ⟨p, hp, rfl⟩ := complete e
  rw [name_of_mem hp]
  exact List.mem_map_of_mem hp

theorem name_ofName {s : String} (hs : s ∈ names E) : name (ofName s : E) = s := by
  obtain ⟨p, hp, rfl⟩ := List.mem_map.1 hs
  rw [ofName_of_mem hp, name_of_mem hp]

end JsonEnum

instance {E : Type} [DecidableEq E] [JsonEnum E] : JsonCodec E where
  toJson e := .str (JsonEnum.name e)
  fromJson
    | .str s => .ok (JsonEnum.ofName s)
    -- no entry of the table equals a value of another kind
    | _ => .ok ((JsonEnum.table (E := E)).head JsonEnum.table_ne_nil).1
  schema := .enum (JsonEnum.names E)

instance {E : Type} [DecidableEq E] [JsonEnum E] : LawfulJsonCodec E where
  fromJson_toJson e := congrArg Except.ok (JsonEnum.ofName_name e)
  fromJson_canon j := by cases j <;> rfl
  keeps_iff_exact {j e} h := by
    simp only [schema, Schema.Keeps, Schema.Exact, toJson, Json.canon]
    constructor
    · intro hj
      exact ⟨_, JsonEnum.name_mem_names e, hj⟩
    · rintro ⟨s, hs, rfl⟩
      cases h
      rw [JsonEnum.name_ofName hs]

instance {E : Type} [DecidableEq E] [JsonEnum E] : NonNullJson E where
  toJson_ne_null e := by simp [toJson]

/-! ### Records -/

/-- The members of a structure `σ` applied one after the other to its constructor. -/
inductive Record (σ : Type) : Type → Type 1 where
  | make {τ : Type} (f : τ) : Record σ τ
  | member {α τ : Type} [JsonCodec α] [LawfulJsonCodec α] (rest : Record σ (α → τ)) (key : String)
      (get : σ → α) : Record σ τ

/-- `value(key, default)`. -/
def Json.value {α : Type} [JsonCodec α] (j : Json) (key : String) (dflt : α) : Except JsonError α :=
  match j with
  | .obj ms =>
    match ms.lookup key with
    | some v => fromJson v
    | none => .ok dflt
  | _ => .error (typeError 306 ("cannot use value() with " ++ j.typeName))

/-- `NLOHMANN_JSON_FROM_WITH_DEFAULT`. -/
def Json.valueOrDefault {α : Type} [JsonCodec α] (j : Json) (key : String) (dflt : α) : Except JsonError α :=
  if j.isNull then .ok dflt else j.value key dflt

namespace Record

variable {σ : Type}

/-- One value for each member. -/
def Values {τ : Type} : Record σ τ → Type
  | .make _ => Unit
  | @member _ α _ _ _ rest _ _ => rest.Values × α

def keys {τ : Type} : Record σ τ → List String
  | .make _ => []
  | @member _ _ _ _ _ rest key _ => rest.keys ++ [key]

/-- The declared keys with their schemas. -/
def fields {τ : Type} : Record σ τ → List (String × Schema)
  | .make _ => []
  | @member _ α _ _ _ rest key _ => rest.fields ++ [(key, schema α)]

/-- The constructor applied to the values. -/
def apply {τ : Type} : (r : Record σ τ) → r.Values → τ
  | .make f, _ => f
  | @member _ _ _ _ _ rest _ _, vs => rest.apply vs.1 vs.2

/-- The member values of a structure. -/
def values {τ : Type} : (r : Record σ τ) → σ → r.Values
  | .make _, _ => ()
  | @member _ _ _ _ _ rest _ get, a => (rest.values a, get a)

/-- The members in the order of the macro. -/
def encode {τ : Type} : (r : Record σ τ) → r.Values → Members
  | .make _, _ => []
  | @member _ _ _ _ _ rest key _, vs => rest.encode vs.1 ++ [(key, toJson vs.2)]

/-- Reads member after member, an absent one from the default structure. -/
def read {τ : Type} : (r : Record σ τ) → (dflt : σ) → Json → Except JsonError r.Values
  | .make _, _, _ => .ok ()
  | @member _ _ _ _ _ rest key get, dflt, j => do
    let vs ← rest.read dflt j
    let a ← j.valueOrDefault key (get dflt)
    return (vs, a)


/-! ### The members of a record -/

theorem map_fst_encode {τ : Type} (r : Record σ τ) (vs : r.Values) : (r.encode vs).map Prod.fst = r.keys := by
  induction r with
  | make f => rfl
  | member rest key get ih => rw [encode, keys, List.map_append, ih]; rfl

theorem lookup_encode {τ : Type} {r : Record σ τ} (hk : r.keys.Nodup) (vs : r.Values) {m : String × Json}
    (hm : m ∈ r.encode vs) : (r.encode vs).lookup m.1 = some m.2 :=
  lookup_eq_some_of_mem (by rwa [map_fst_encode]) hm

/-- The record has a member with this key and this projection. -/
inductive HasMember {α : Type} [JsonCodec α] [LawfulJsonCodec α] (key : String) (get : σ → α) :
    {τ : Type} → Record σ τ → Prop where
  | last {τ : Type} (rest : Record σ (α → τ)) : HasMember key get (rest.member key get)
  | before {β τ : Type} [JsonCodec β] [LawfulJsonCodec β] {rest : Record σ (β → τ)} (h : HasMember key get rest)
      (key' : String) (get' : σ → β) : HasMember key get (rest.member key' get')

theorem HasMember.mem_encode {α τ : Type} [JsonCodec α] [LawfulJsonCodec α] {key : String} {get : σ → α}
    {r : Record σ τ} (h : r.HasMember key get) (a : σ) : (key, toJson (get a)) ∈ r.encode (r.values a) := by
  induction h with
  | last rest => exact List.mem_append_right _ (List.mem_singleton_self _)
  | before h key' get' ih => exact List.mem_append_left _ ih

end Record

theorem Json.valueOrDefault_obj {α : Type} [JsonCodec α] (ms : Members) (key : String) (dflt : α) :
    (Json.obj ms).valueOrDefault key dflt = ((ms.lookup key).map fromJson).getD (.ok dflt) := by
  unfold Json.valueOrDefault Json.value
  cases h : ms.lookup key <;> simp [Json.isNull, h]

theorem Json.valueOrDefault_canon {α : Type} [JsonCodec α] [LawfulJsonCodec α] (j : Json) (key : String)
    (dflt : α) : j.canon.valueOrDefault key dflt = j.valueOrDefault key dflt := by
  cases j with
  | obj ms =>
    rw [Json.canon, valueOrDefault_obj, valueOrDefault_obj, lookup_canonMembers, Option.map_map]
    congr 2
    funext v
    exact fromJson_canon v
  | _ => rfl

/-- What a declared key contributes to `KeepsFields`: the value read under the key decides it. -/
theorem keepsKey_iff_exact {α : Type} [JsonCodec α] [LawfulJsonCodec α] {o o' : Option Json} {a : α}
    (hread : ∀ v, o = some v → v ≠ .null → fromJson v = .ok a)
    (hput : ∀ v, o = some v → v ≠ .null → o' = some (toJson a).canon) :
    (∀ v, o = some v → v ≠ .null → ∃ v', o' = some v' ∧ (schema α).Keeps v v') ↔
      ∀ v, o = some v → v ≠ .null → (schema α).Exact v := by
  refine forall_congr' fun v => forall_congr' fun hv => forall_congr' fun hne => ?_
  rw [hput v hv hne, ← keeps_iff_exact (hread v hv hne)]
  simp

namespace Record

variable {σ : Type}

private theorem pair_eq_ok {ε α β : Type} {x : Except ε β} {y : Except ε α} {p : β × α} :
    (do let b ← x; let a ← y; return (b, a)) = .ok p ↔ x = .ok p.1 ∧ y = .ok p.2 := by
  rw [bind_eq_ok]
  constructor
  · rintro ⟨b, hb, h⟩
    obtain ⟨a, ha, h⟩ := bind_eq_ok.1 h
    cases h
    exact ⟨hb, ha⟩
  · rintro ⟨hb, ha⟩
    exact ⟨p.1, hb, bind_eq_ok.2 ⟨p.2, ha, rfl⟩⟩

theorem read_member_eq_ok {α τ : Type} [JsonCodec α] [LawfulJsonCodec α] {rest : Record σ (α → τ)} {key : String}
    {get : σ → α} {dflt : σ} {j : Json} {vs : (rest.member key get).Values} :
    (rest.member key get).read dflt j = .ok vs ↔
      rest.read dflt j = .ok vs.1 ∧ j.valueOrDefault key (get dflt) = .ok vs.2 :=
  pair_eq_ok

theorem HasMember.valueOrDefault {α τ : Type} [JsonCodec α] [LawfulJsonCodec α] {key : String} {get : σ → α}
    {r : Record σ τ} (h : r.HasMember key get) {dflt a : σ} {j : Json} (hread : r.read dflt j = .ok (r.values a)) :
    j.valueOrDefault key (get dflt) = .ok (get a) := by
  induction h with
  | last rest => exact (read_member_eq_ok.1 hread).2
  | before h key' get' ih => exact ih (read_member_eq_ok.1 hread).1

/-- Reading an object that holds every member gives the values of the members. -/
theorem read_of_lookup {τ : Type} {r : Record σ τ} {vs : r.Values} {ms : Members} (dflt : σ)
    (h : ∀ m ∈ r.encode vs, ms.lookup m.1 = some m.2) : r.read dflt (.obj ms) = .ok vs := by
  induction r with
  | make f => rfl
  | member rest key get ih =>
    rw [read_member_eq_ok]
    simp only [encode, List.mem_append, List.mem_singleton] at h
    refine ⟨ih fun m hm => h m (.inl hm), ?_⟩
    rw [Json.valueOrDefault_obj, h (key, toJson vs.2) (.inr rfl)]
    exact fromJson_toJson vs.2

theorem read_canon {τ : Type} (r : Record σ τ) (dflt : σ) (j : Json) : r.read dflt j.canon = r.read dflt j := by
  induction r with
  | make f => rfl
  | member rest key get ih => rw [read, read, ih, Json.valueOrDefault_canon]

theorem keepsFields_iff_exact {τ : Type} {r : Record σ τ} {dflt : σ} {ms : Members} {j' : Json} {vs : r.Values}
    (hread : r.read dflt (.obj ms) = .ok vs) (hput : ∀ m ∈ r.encode vs, j'.find? m.1 = some m.2.canon) :
    KeepsFields r.fields (.obj ms) j' ↔ ExactFields r.fields (.obj ms) := by
  induction r with
  | make f => simp [fields, KeepsFields, ExactFields]
  | member rest key get ih =>
    rw [read_member_eq_ok] at hread
    simp only [encode, List.mem_append, List.mem_singleton] at hput
    have hrest := ih hread.1 fun m hm => hput m (.inl hm)
    have hkey := hread.2
    rw [Json.valueOrDefault_obj] at hkey
    rw [fields, keepsFields_append, exactFields_append, hrest]
    simp only [KeepsFields, ExactFields, and_true]
    refine and_congr_right fun _ => keepsKey_iff_exact (a := vs.2) ?_ fun v _ _ => hput (key, toJson vs.2) (.inr rfl)
    intro v hv _
    rw [Json.find?_obj] at hv
    simpa [hv] using hkey

end Record

/-! ### The conversions of `NLOHMANN_DEFINE_TYPE_NON_INTRUSIVE_WITH_DEFAULT` -/

/-- A structure given by its list of members.  The fields after the first check that the list is right: no key is
listed twice, and constructor and projections undo each other. -/
class JsonRecord (σ : Type) extends Inhabited σ where
  record : Record σ σ
  keys_nodup : record.keys.Nodup := by simp [Record.keys]
  apply_values : ∀ a : σ, record.apply (record.values a) = a := by intro a; rfl
  values_apply : ∀ vs : record.Values, record.values (record.apply vs) = vs := by
    intro vs
    repeat (rcases vs with ⟨vs, _⟩)
    simp only [Record.values, Record.apply] <;> rfl

open JsonRecord

variable {σ : Type}

instance [JsonRecord σ] : JsonCodec σ where
  toJson a := .obj (record.encode (record.values a))
  fromJson j := record.apply <$> record.read default j
  schema := .record (record (σ := σ)).fields

theorem toJson_record [JsonRecord σ] (a : σ) : toJson a = .obj (record.encode (record.values a)) := rfl

theorem fromJson_record [JsonRecord σ] (j : Json) :
    fromJson (α := σ) j = record.apply <$> record.read default j := rfl

theorem find?_toJson_canon [JsonRecord σ] (vs : (record (σ := σ)).Values) {m : String × Json}
    (hm : m ∈ record.encode vs) : (toJson (record.apply vs)).canon.find? m.1 = some m.2.canon := by
  rw [Json.find?_canon, toJson_record, Json.find?_obj, values_apply, Record.lookup_encode keys_nodup vs hm]
  rfl

section

variable {α : Type} [JsonCodec α] [LawfulJsonCodec α] {key : String} {get : σ → α}

/-- A structure that is encoded holds each of its members. -/
theorem find?_toJson_of_hasMember [JsonRecord σ] (h : (record (σ := σ)).HasMember key get) (a : σ) :
    (toJson a).canon.find? key = some (toJson (get a)).canon := by
  have hfind := find?_toJson_canon (record.values a) (h.mem_encode a)
  rwa [apply_values] at hfind

/-- A structure that is decoded has each of its members from its key. -/
theorem valueOrDefault_of_fromJson [JsonRecord σ] (h : (record (σ := σ)).HasMember key get) {j : Json} {a : σ}
    (ha : fromJson j = .ok a) : j.valueOrDefault key (get default) = .ok (get a) := by
  obtain ⟨vs, hvs, rfl⟩ := map_eq_ok.1 ha
  exact h.valueOrDefault (hvs.trans (congrArg Except.ok (values_apply vs).symm))

end

instance [JsonRecord σ] : LawfulJsonCodec σ where
  fromJson_toJson a := by
    have h : record.read default (.obj (record.encode (record.values a))) = .ok (record.values a) :=
      Record.read_of_lookup default fun m hm => Record.lookup_encode keys_nodup _ hm
    rw [fromJson_record, toJson_record, h]
    exact congrArg Except.ok (apply_values a)
  fromJson_canon j := by
    rw [fromJson_record, fromJson_record, Record.read_canon]
  keeps_iff_exact {j a} h := by
    obtain ⟨vs, hvs, rfl⟩ := map_eq_ok.1 h
    cases j with
    | obj ms =>
      simp only [schema, Schema.Keeps, Schema.Exact, Json.isObject, true_and]
      exact Record.keepsFields_iff_exact hvs fun m hm => find?_toJson_canon vs hm
    | _ => simp [schema, Schema.Keeps, Schema.Exact, Json.isObject]

instance [JsonRecord σ] : NonNullJson σ where
  toJson_ne_null a := by simp [toJson_record]

/-! ### Hand-written conversions that leave absent members out -/

/-- Only null decodes to a value that is encoded as null. -/
class KeepsPresence (α : Type) [JsonCodec α] : Prop where
  toJson_ne_null_of_fromJson {j : Json} {a : α} (hj : j ≠ .null) (h : fromJson j = .ok a) : toJson a ≠ Json.null

instance {α : Type} [JsonCodec α] [NonNullJson α] : KeepsPresence (Option α) where
  toJson_ne_null_of_fromJson hj h := by
    rw [fromJson_option_of_ne_null hj, map_eq_ok] at h
    obtain ⟨a, -, rfl⟩ := h
    exact toJson_ne_null a

/-- `EXTRACT`: the member under the key, if it is present and not null. -/
def Json.extract {α : Type} [JsonCodec α] (j : Json) (key : String) (dflt : α) : Except JsonError α :=
  match j.find? key with
  | some v => if v.isNull then .ok dflt else fromJson v
  | none => .ok dflt

theorem Json.extract_canon {α : Type} [JsonCodec α] [LawfulJsonCodec α] (j : Json) (key : String) (dflt : α) :
    j.canon.extract key dflt = j.extract key dflt := by
  unfold Json.extract
  rw [Json.find?_canon]
  cases j.find? key with
  | none => rfl
  | some v => simp [fromJson_canon]

theorem Json.extract_of_find?_eq_some {α : Type} [JsonCodec α] {j v : Json} {key : String} {dflt : α}
    (h : j.find? key = some v) (hv : v ≠ .null) : j.extract key dflt = fromJson v := by
  simp [Json.extract, h, Json.isNull_eq_false_iff.2 hv]

theorem Json.extract_of_find?_eq_none {α : Type} [JsonCodec α] {j : Json} {key : String} {dflt : α}
    (h : j.find? key = none) : j.extract key dflt = .ok dflt := by
  simp [Json.extract, h]

namespace Record

def extract {τ : Type} : (r : Record σ τ) → (dflt : σ) → Json → Except JsonError r.Values
  | .make _, _, _ => .ok ()
  | @member _ _ _ _ _ rest key get, dflt, j => do
    let vs ← rest.extract dflt j
    let a ← j.extract key (get dflt)
    return (vs, a)

/-- Every member keeps the presence of its value. -/
def AllKeepPresence {τ : Type} : Record σ τ → Prop
  | .make _ => True
  | @member _ α _ _ _ rest _ _ => rest.AllKeepPresence ∧ KeepsPresence α

theorem extract_member_eq_ok {α τ : Type} [JsonCodec α] [LawfulJsonCodec α] {rest : Record σ (α → τ)}
    {key : String} {get : σ → α} {dflt : σ} {j : Json} {vs : (rest.member key get).Values} :
    (rest.member key get).extract dflt j = .ok vs ↔
      rest.extract dflt j = .ok vs.1 ∧ j.extract key (get dflt) = .ok vs.2 :=
  pair_eq_ok

/-- Where the default of every member is the absent value, reading what was put gives the values back. -/
theorem extract_of_find? {τ : Type} {r : Record σ τ} {vs : r.Values} {dflt : σ} {j : Json}
    (hd : ∀ m ∈ r.encode (r.values dflt), m.2 = Json.null)
    (h : ∀ m ∈ r.encode vs, j.find? m.1 = if m.2.isNull then none else some m.2) :
    r.extract dflt j = .ok vs := by
  induction r with
  | make f => rfl
  | member rest key get ih =>
    rw [extract_member_eq_ok]
    simp only [encode, values, List.mem_append, List.mem_singleton] at h hd
    refine ⟨ih (fun m hm => hd m (.inl hm)) fun m hm => h m (.inl hm), ?_⟩
    have hnull : toJson (get dflt) = Json.null := hd (key, toJson (get dflt)) (.inr rfl)
    have hkey := h (key, toJson vs.2) (.inr rfl)
    by_cases hv : toJson vs.2 = Json.null
    · rw [if_pos (Json.isNull_iff.2 hv)] at hkey
      have hback : Except.ok (ε := JsonError) (get dflt) = .ok vs.2 := by
        rw [← fromJson_toJson (get dflt), ← fromJson_toJson vs.2, hnull, hv]
      rw [Json.extract_of_find?_eq_none hkey]
      exact hback
    · rw [if_neg (fun hn => hv (Json.isNull_iff.1 hn))] at hkey
      rw [Json.extract_of_find?_eq_some hkey hv]
      exact fromJson_toJson vs.2

theorem extract_canon {τ : Type} (r : Record σ τ) (dflt : σ) (j : Json) :
    r.extract dflt j.canon = r.extract dflt j := by
  induction r with
  | make f => rfl
  | member rest key get ih => rw [extract, extract, ih, Json.extract_canon]

theorem keepsFields_iff_exact_of_extract {τ : Type} {r : Record σ τ} {dflt : σ} {j j' : Json} {vs : r.Values}
    (hp : r.AllKeepPresence) (hread : r.extract dflt j = .ok vs)
    (hput : ∀ m ∈ r.encode vs, m.2 ≠ Json.null → j'.find? m.1 = some m.2.canon) :
    KeepsFields r.fields j j' ↔ ExactFields r.fields j := by
  induction r with
  | make f => simp [fields, KeepsFields, ExactFields]
  | @member α _ _ _ rest key get ih =>
    rw [extract_member_eq_ok] at hread
    simp only [encode, List.mem_append, List.mem_singleton] at hput
    have hrest := ih hp.1 hread.1 fun m hm => hput m (.inl hm)
    have hkey : ∀ v, j.find? key = some v → v ≠ .null → fromJson v = .ok vs.2 := by
      intro v hv hne
      rw [← Json.extract_of_find?_eq_some hv hne]
      exact hread.2
    rw [fields, keepsFields_append, exactFields_append, hrest]
    simp only [KeepsFields, ExactFields, and_true]
    refine and_congr_right fun _ => keepsKey_iff_exact (a := vs.2) hkey fun v hv hne => ?_
    have hpresent : KeepsPresence α := hp.2
    exact hput (key, toJson vs.2) (.inr rfl) (hpresent.toJson_ne_null_of_fromJson hne (hkey v hv hne))

end Record

/-- A structure with conversions that put a member only if it has a value and read it only if it is there. -/
class SparseRecord (σ : Type) extends Inhabited σ where
  record : Record σ σ
  keys_nodup : record.keys.Nodup := by simp [Record.keys]
  apply_values : ∀ a : σ, record.apply (record.values a) = a := by intro a; rfl
  values_apply : ∀ vs : record.Values, record.values (record.apply vs) = vs := by
    intro vs
    repeat (rcases vs with ⟨vs, _⟩)
    simp only [Record.values, Record.apply] <;> rfl
  default_null : ∀ m ∈ record.encode (record.values default), m.2 = Json.null
  keepPresence : record.AllKeepPresence

/-- The members that have a value. -/
def presentMembers [SparseRecord σ] (a : σ) : Members :=
  (SparseRecord.record.encode (SparseRecord.record.values a)).filter fun m => !m.2.isNull

/-- Nothing is put into the value when no member is present, and it stays null. -/
instance [SparseRecord σ] : JsonCodec σ where
  toJson a := if (presentMembers a).isEmpty then .null else .obj (presentMembers a)
  fromJson j := SparseRecord.record.apply <$> SparseRecord.record.extract default j
  schema := .record (SparseRecord.record (σ := σ)).fields

theorem toJson_sparse [SparseRecord σ] (a : σ) :
    toJson a = if (presentMembers a).isEmpty then .null else .obj (presentMembers a) := rfl

theorem fromJson_sparse [SparseRecord σ] (j : Json) :
    fromJson (α := σ) j = SparseRecord.record.apply <$> SparseRecord.record.extract default j := rfl

theorem find?_toJson_sparse [SparseRecord σ] (a : σ) {m : String × Json}
    (hm : m ∈ SparseRecord.record.encode (SparseRecord.record.values a)) :
    (toJson a).find? m.1 = if m.2.isNull then none else some m.2 := by
  have hlookup : (presentMembers a).lookup m.1 = if m.2.isNull then none else some m.2 := by
    have hk : (((SparseRecord.record (σ := σ)).encode (SparseRecord.record.values a)).map Prod.fst).Nodup := by
      rw [Record.map_fst_encode]
      exact SparseRecord.keys_nodup
    rw [presentMembers, lookup_filter hk, Record.lookup_encode SparseRecord.keys_nodup _ hm]
    cases hn : m.2.isNull <;> simp [Option.filter, hn]
  rw [toJson_sparse, ← hlookup]
  cases hp : presentMembers a <;> rfl

instance [SparseRecord σ] : LawfulJsonCodec σ where
  fromJson_toJson a := by
    rw [fromJson_sparse, Record.extract_of_find? SparseRecord.default_null fun m hm => find?_toJson_sparse a hm]
    exact congrArg Except.ok (SparseRecord.apply_values a)
  fromJson_canon j := by
    rw [fromJson_sparse, fromJson_sparse, Record.extract_canon]
  keeps_iff_exact {j a} h := by
    obtain ⟨vs, hvs, rfl⟩ := map_eq_ok.1 h
    simp only [schema, Schema.Keeps, Schema.Exact]
    refine and_congr_right fun _ => Record.keepsFields_iff_exact_of_extract SparseRecord.keepPresence hvs ?_
    intro m hm hne
    have hm' : m ∈ SparseRecord.record.encode (SparseRecord.record.values (SparseRecord.record.apply vs)) := by
      rwa [SparseRecord.values_apply]
    rw [Json.find?_canon, find?_toJson_sparse _ hm', Json.isNull_eq_false_iff.2 hne]
    rfl

end JsonFormat

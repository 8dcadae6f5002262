import SyriusOrbit.Json.Record

/-!
# Records with members left out

What a reader sees of an encoded record from which some members were removed: `Record.omitted`, the values with the
default in the place of each removed member (`fromJson_filter`).  Where a default is itself removed, encoding what was
read and removing again gives the same members (`filter_members_omitted`).
-/

namespace JsonFormat

variable {σ : Type}

/-- A value read back from a record whose members in `p` are left out. -/
def unlessOmitted {α : Type} [JsonCodec α] (p : Json → Bool) (dflt a : α) : α := if p (toJson a) then dflt else a

namespace Record

/-- The values that are read back when the members with a value in `p` are left out. -/
def omitted {τ : Type} (p : Json → Bool) : (r : Record σ τ) → (dflt a : σ) → r.Values
  | .make _, _, _ => ()
  | @member _ _ _ _ _ rest _ get, dflt, a =>
    (rest.omitted p dflt a, unlessOmitted p (get dflt) (get a))

theorem read_of_lookup_omitted {τ : Type} {p : Json → Bool} {r : Record σ τ} {dflt a : σ} {ms : Members}
    (h : ∀ m ∈ r.encode (r.values a), ms.lookup m.1 = if p m.2 then none else some m.2) :
    r.read dflt (.obj ms) = .ok (r.omitted p dflt a) := by
  induction r with
  | make f => rfl
  | member rest key get ih =>
    rw [read_member_eq_ok]
    simp only [encode, values, List.mem_append, List.mem_singleton] at h
    refine ⟨ih fun m hm => h m (.inl hm), ?_⟩
    rw [Json.valueOrDefault_obj, h (key, toJson (get a)) (.inr rfl)]
    unfold omitted unlessOmitted
    split
    · rfl
    · exact fromJson_toJson (get a)

/-- Where a member can be left out, its default is. -/
def OmitsDefaults {τ : Type} (p : Json → Bool) (dflt : σ) : Record σ τ → Prop
  | .make _ => True
  | @member _ _ _ _ _ rest _ get =>
    rest.OmitsDefaults p dflt ∧ ∀ a, p (toJson (get a)) = true → p (toJson (get dflt)) = true

theorem filter_encode_omitted {τ : Type} {p : Json → Bool} {r : Record σ τ} {dflt : σ} (h : r.OmitsDefaults p dflt)
    (a : σ) : ((r.encode (r.omitted p dflt a)).filter fun m => !p m.2) =
      (r.encode (r.values a)).filter fun m => !p m.2 := by
  induction r with
  | make f => rfl
  | member rest key get ih =>
    rw [encode, encode, List.filter_append, List.filter_append]
    refine congrArg₂ _ (ih h.1) ?_
    cases hp : p (toJson (get a)) with
    | false => simp [omitted, unlessOmitted, values, hp]
    | true =>
      have hdflt : p (toJson (get dflt)) = true := h.2 a hp
      simp [omitted, unlessOmitted, values, hp, hdflt]

end Record

/-- The members of an encoded record. -/
def members [JsonRecord σ] (a : σ) : Members := JsonRecord.record.encode (JsonRecord.record.values a)

theorem toJson_eq_members [JsonRecord σ] (a : σ) : toJson a = .obj (members a) := rfl

theorem members_keys_nodup [JsonRecord σ] (a : σ) : ((members a).map Prod.fst).Nodup := by
  rw [members, Record.map_fst_encode]
  exact JsonRecord.keys_nodup

theorem lookup_filter_members [JsonRecord σ] (p : Json → Bool) (a : σ) (key : String) :
    ((members a).filter fun m => !p m.2).lookup key = ((members a).lookup key).filter fun v => !p v :=
  lookup_filter (members_keys_nodup a) key

/-- Decoding an encoded record without the members in `p` gives the record with defaults in their place. -/
theorem fromJson_filter [JsonRecord σ] (p : Json → Bool) (a : σ) :
    fromJson (.obj ((members a).filter fun m => !p m.2)) =
      .ok (JsonRecord.record.apply (JsonRecord.record.omitted p default a)) := by
  rw [fromJson_record, Record.read_of_lookup_omitted (p := p) (a := a)]
  · rfl
  · intro m hm
    have hlookup : (members a).lookup m.1 = some m.2 := lookup_eq_some_of_mem (members_keys_nodup a) hm
    rw [lookup_filter_members, hlookup]
    cases hp : p m.2 <;> simp [Option.filter, hp]

/-- What is read from a record without the members in `p` is encoded to the same members. -/
theorem filter_members_omitted [JsonRecord σ] {p : Json → Bool}
    (h : (JsonRecord.record (σ := σ)).OmitsDefaults p default) (a : σ) :
    ((members (JsonRecord.record.apply (JsonRecord.record.omitted p default a))).filter fun m => !p m.2) =
      (members a).filter fun m => !p m.2 := by
  rw [members, JsonRecord.values_apply]
  exact Record.filter_encode_omitted h a

end JsonFormat

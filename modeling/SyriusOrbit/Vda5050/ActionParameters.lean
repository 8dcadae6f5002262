import SyriusOrbit.Vda5050.Message
import SyriusOrbit.Feed.Blocks

/-!
# Action parameters

The schema of the database describes the parameters of an action as an array of objects with a key and a value, and
the member of `Action` is a map.  A payload in which an action carries an array of parameters is rejected as a whole:
of the orders and instant actions that are well typed up to these arrays, exactly those are accepted, with their
parameters kept, that have none (`accepted_iff`).
-/

namespace SyriusOrbit.Vda5050

open JsonFormat

/-! ### The actions of a payload -/

/-- The elements of the array under a key. -/
def elements (key : String) (j : Json) : List Json :=
  match j.find? key with
  | some (.arr xs) => xs
  | _ => []

/-- The actions on the nodes and edges of an order, and the list of instant actions. -/
def actionsOf : MessageType → Json → List Json
  | .order, j =>
    (elements "nodes" j).flatMap (elements "actions") ++ (elements "edges" j).flatMap (elements "actions")
  | .instantActions, j => elements "actions" j
  | _, _ => []

/-- The members with the value of a key replaced. -/
def mapMember (key : String) (f : Json → Json) : Members → Members
  | [] => []
  | (key', v) :: ms => if key' = key then (key', f v) :: ms else (key', v) :: mapMember key f ms

/-- The object with the elements of the array under a key replaced. -/
def mapElements (key : String) (f : Json → Json) : Json → Json
  | .obj ms => .obj (mapMember key (fun v =>
    match v with
    | .arr xs => .arr (xs.map f)
    | v => v) ms)
  | j => j

/-- The action without its parameters, if these are an array. -/
def dropArray : Json → Json
  | .obj ms =>
    match ms.lookup "actionParameters" with
    | some (.arr _) => .obj (ms.filter fun m => m.1 ≠ "actionParameters")
    | _ => .obj ms
  | j => j

/-- The payload without the parameters of its actions that are arrays. -/
def withoutArrays : MessageType → Json → Json
  | .order, j =>
    mapElements "edges" (mapElements "actions" dropArray) (mapElements "nodes" (mapElements "actions" dropArray) j)
  | .instantActions, j => mapElements "actions" dropArray j
  | _, j => j

/-- An object with a key and a value. -/
def IsParameter (j : Json) : Prop := ∃ key value, j.find? "key" = some (.str key) ∧ j.find? "value" = some value

/-- The keys and values of the parameters of an action, as a map or as an array. -/
def parametersOf (action : Json) : Members :=
  match action.find? "actionParameters" with
  | some (.obj ms) => ms
  | some (.arr xs) => xs.filterMap fun x =>
    match x.find? "key", x.find? "value" with
    | some (.str key), some value => some (key, value)
    | _, _ => none
  | _ => []

/-- The same keys name the same values. -/
def SameParameters (action action' : Json) : Prop :=
  ∀ key, ((parametersOf action).lookup key).map Json.canon = ((parametersOf action').lookup key).map Json.canon

/-- Some action of the payload carries its parameters as an array. -/
def CarriesArray (t : MessageType) (j : Json) : Prop :=
  ∃ action ∈ actionsOf t j, ∃ xs, action.find? "actionParameters" = some (.arr xs)

/-! ### Payloads without such arrays -/

private theorem mapMember_eq_self {key : String} {f : Json → Json} {ms : Members}
    (h : ∀ v, ms.lookup key = some v → f v = v) : mapMember key f ms = ms := by
  induction ms with
  | nil => rfl
  | cons m ms ih =>
    obtain ⟨key', v⟩ := m
    unfold mapMember
    by_cases hkey : key' = key
    · subst hkey
      rw [if_pos rfl, h v List.lookup_cons_self]
    · have hrest : mapMember key f ms = ms := by
        refine ih fun w hw => h w ?_
        rw [List.lookup_cons, beq_false_of_ne (Ne.symm hkey)]
        exact hw
      rw [if_neg hkey, hrest]

private theorem mapElements_eq_self {key : String} {f : Json → Json} {j : Json} (h : ∀ x ∈ elements key j, f x = x) :
    mapElements key f j = j := by
  cases j with
  | obj ms =>
    refine congrArg Json.obj (mapMember_eq_self fun v hv => ?_)
    cases v with
    | arr xs =>
      have helements : elements key (.obj ms) = xs := by
        unfold elements
        rw [Json.find?_obj, hv]
      have hxs : xs.map f = xs.map id := List.map_congr_left fun x hx => h x (helements ▸ hx)
      rw [List.map_id] at hxs
      exact congrArg Json.arr hxs
    | _ => rfl
  | _ => rfl

private theorem dropArray_eq_self {action : Json} (h : ∀ xs, action.find? "actionParameters" ≠ some (.arr xs)) :
    dropArray action = action := by
  cases action with
  | obj ms =>
    simp only [dropArray]
    split
    · next xs hxs => exact absurd hxs (h xs)
    · rfl
  | _ => rfl

private theorem withoutArrays_eq_self {t : MessageType} {j : Json} (h : ¬ CarriesArray t j) :
    withoutArrays t j = j := by
  have hdrop : ∀ action ∈ actionsOf t j, dropArray action = action := fun action haction =>
    dropArray_eq_self fun xs hxs => h ⟨action, haction, xs, hxs⟩
  cases t with
  | order =>
    have hnodes : ∀ x ∈ elements "nodes" j, mapElements "actions" dropArray x = x := fun x hx =>
      mapElements_eq_self fun action haction =>
        hdrop action (List.mem_append_left _ (List.mem_flatMap.2 ⟨x, hx, haction⟩))
    have hedges : ∀ x ∈ elements "edges" j, mapElements "actions" dropArray x = x := fun x hx =>
      mapElements_eq_self fun action haction =>
        hdrop action (List.mem_append_right _ (List.mem_flatMap.2 ⟨x, hx, haction⟩))
    rw [withoutArrays, mapElements_eq_self hnodes, mapElements_eq_self hedges]
  | instantActions => exact mapElements_eq_self hdrop
  | _ => rfl

/-! ### Decoded actions -/

section

variable {α : Type} [JsonCodec α]

/-- The elements of a list that is a member are decoded one by one. -/
private theorem forall₂_elements {key : String} {j : Json} {as : List α} (h : j.valueOrDefault key [] = .ok as) :
    List.Forall₂ (fun x a => fromJson x = .ok a) (elements key j) as := by
  have hread : ∀ {xs : List Json} {as : List α}, readList xs = .ok as →
      List.Forall₂ (fun x a => fromJson x = .ok a) xs as := by
    intro xs
    induction xs with
    | nil =>
      rintro as ⟨⟩
      exact .nil
    | cons x xs ih =>
      intro as has
      obtain ⟨a, as', ha, has', rfl⟩ := readList_cons_eq_ok.1 has
      exact .cons ha (ih has')
  cases j with
  | obj ms =>
    rw [Json.valueOrDefault_obj] at h
    unfold elements
    rw [Json.find?_obj]
    cases hv : ms.lookup key with
    | none =>
      rw [hv] at h
      cases h
      exact .nil
    | some v =>
      rw [hv] at h
      cases v with
      | arr xs => exact hread h
      | _ => cases h
  | null =>
    cases h
    exact .nil
  | _ => cases h

/-- The elements of a list that is a member, encoded. -/
private theorem elements_of_find? {key : String} {j : Json} {as : List α} (h : j.find? key = some (toJson as).canon) :
    elements key j = as.map fun a => (toJson a).canon := by
  have hcanon : (toJson as).canon = .arr (as.map fun a => (toJson a).canon) := by
    show Json.arr (canonList (as.map toJson)) = _
    rw [canonList_eq_map, List.map_map]
    rfl
  unfold elements
  rw [h, hcanon]

end

section

variable {σ α : Type} [JsonRecord σ] [JsonCodec α] [LawfulJsonCodec α] {key : String} {get : σ → List α}

/-- The elements of a list of a decoded structure. -/
private theorem forall₂_elements_of_fromJson (h : (JsonRecord.record (σ := σ)).HasMember key get)
    (hdefault : get default = [])
    {j : Json} {a : σ} (ha : fromJson j = .ok a) :
    List.Forall₂ (fun x b => fromJson x = .ok b) (elements key j) (get a) := by
  have hvalue := valueOrDefault_of_fromJson h ha
  rw [hdefault] at hvalue
  exact forall₂_elements hvalue

/-- The elements of a list of an encoded structure. -/
private theorem elements_toJson (h : (JsonRecord.record (σ := σ)).HasMember key get) (a : σ) :
    elements key (toJson a).canon = (get a).map fun b => (toJson b).canon :=
  elements_of_find? (find?_toJson_of_hasMember h a)

end

variable [JsonLibrary]

private theorem hasMember_nodes : (JsonRecord.record (σ := Order)).HasMember "nodes" Order.nodes :=
  .before (.last _) _ _

private theorem hasMember_edges : (JsonRecord.record (σ := Order)).HasMember "edges" Order.edges := .last _

private theorem hasMember_nodeActions : (JsonRecord.record (σ := Node)).HasMember "actions" Node.actions := .last _

private theorem hasMember_edgeActions : (JsonRecord.record (σ := Edge)).HasMember "actions" Edge.actions := .last _

private theorem hasMember_actions :
    (JsonRecord.record (σ := InstantActions)).HasMember "actions" InstantActions.actions :=
  .last _

omit [JsonLibrary] in
private theorem hasMember_actionParameters :
    (JsonRecord.record (σ := Action)).HasMember "actionParameters" Action.actionParameters := .before (.last _) _ _

/-- The actions of a message. -/
def messageActions : (t : MessageType) → t.Message → List Action
  | .order, (m : Order) => m.nodes.flatMap Node.actions ++ m.edges.flatMap Edge.actions
  | .instantActions, (m : InstantActions) => m.actions
  | _, _ => []

/-- The actions of a payload are decoded one by one. -/
private theorem forall₂_actionsOf {t : MessageType} {j : Json} {m : t.Message} (h : fromJson j = .ok m) :
    List.Forall₂ (fun x action => fromJson x = .ok action) (actionsOf t j) (messageActions t m) := by
  cases t with
  | order =>
    have hnodes := forall₂_elements_of_fromJson hasMember_nodes rfl (a := (m : Order)) h
    have hedges := forall₂_elements_of_fromJson hasMember_edges rfl (a := (m : Order)) h
    exact List.rel_append
      (List.rel_flatMap hnodes fun _ _ => forall₂_elements_of_fromJson hasMember_nodeActions rfl)
      (List.rel_flatMap hedges fun _ _ => forall₂_elements_of_fromJson hasMember_edgeActions rfl)
  | instantActions => exact forall₂_elements_of_fromJson hasMember_actions rfl h
  | _ => exact .nil

/-- The actions of a message that is encoded. -/
private theorem actionsOf_json (t : MessageType) (m : t.Message) :
    actionsOf t (json m) = (messageActions t m).map fun action => (toJson action).canon := by
  cases t with
  | order =>
    have hnodes := elements_toJson hasMember_nodes (m : Order)
    have hedges := elements_toJson hasMember_edges (m : Order)
    have hnode := elements_toJson hasMember_nodeActions
    have hedge := elements_toJson hasMember_edgeActions
    show (elements "nodes" (toJson (m : Order)).canon).flatMap (elements "actions") ++
      (elements "edges" (toJson (m : Order)).canon).flatMap (elements "actions") = _
    rw [hnodes, hedges, List.flatMap_map, List.flatMap_map]
    simp only [hnode, hedge, messageActions, List.map_append, List.map_flatMap]
  | instantActions => exact elements_toJson hasMember_actions (m : InstantActions)
  | _ => rfl

omit [JsonLibrary] in
/-- What is read for the parameters of an action: nothing, or a map in the order of its keys. -/
private theorem parameters_of_fromJson {j : Json} {action : Action} (h : fromJson j = .ok action) :
    (action.actionParameters = none ∧ parametersOf j = [] ∧ ∀ xs, j.find? "actionParameters" ≠ some (.arr xs)) ∨
      ∃ ms parameters, j.find? "actionParameters" = some (.obj ms) ∧ action.actionParameters = some parameters ∧
        parameters.1 = canonMembers ms := by
  have hvalue : j.valueOrDefault "actionParameters" none = .ok action.actionParameters :=
    valueOrDefault_of_fromJson hasMember_actionParameters h
  cases j with
  | obj members =>
    rw [Json.valueOrDefault_obj] at hvalue
    unfold parametersOf
    rw [Json.find?_obj]
    cases hv : members.lookup "actionParameters" with
    | none =>
      rw [hv] at hvalue
      exact .inl ⟨(Except.ok.inj hvalue).symm, rfl, by simp⟩
    | some v =>
      rw [hv] at hvalue
      cases v with
      | null => exact .inl ⟨(Except.ok.inj hvalue).symm, rfl, by simp⟩
      | obj ms => exact .inr ⟨ms, _, rfl, (Except.ok.inj hvalue).symm, rfl⟩
      | _ => cases hvalue
  | null => exact .inl ⟨(Except.ok.inj hvalue).symm, rfl, by simp [Json.find?]⟩
  | _ => cases hvalue

omit [JsonLibrary] in
private theorem sameParameters_of_fromJson {j : Json} {action : Action} (h : fromJson j = .ok action) :
    SameParameters j (toJson action).canon := by
  have hencoded : (toJson action).canon.find? "actionParameters" = some (toJson action.actionParameters).canon :=
    find?_toJson_of_hasMember hasMember_actionParameters action
  intro key
  rcases parameters_of_fromJson h with ⟨hnone, hempty, -⟩ | ⟨ms, parameters, hfind, hsome, hparameters⟩
  · rw [hnone] at hencoded
    have hempty' : parametersOf (toJson action).canon = [] := by
      unfold parametersOf
      rw [hencoded]
      rfl
    rw [hempty, hempty']
  · have hms : parametersOf j = ms := by
      unfold parametersOf
      rw [hfind]
    have hcanon : (toJson action.actionParameters).canon = .obj (canonMembers ms) := by
      rw [hsome]
      show Json.obj (canonMembers parameters.1) = _
      rw [hparameters, canonMembers_canonMembers]
    have hms' : parametersOf (toJson action).canon = canonMembers ms := by
      unfold parametersOf
      rw [hencoded, hcanon]
    rw [hms, hms', lookup_canonMembers, Option.map_map]
    congr 1
    funext v
    exact (canon_canon v).symm

omit [JsonLibrary] in
/-- An action with an array of parameters is not decoded. -/
private theorem not_array_of_fromJson {j : Json} {action : Action} (h : fromJson j = .ok action) (xs : List Json) :
    j.find? "actionParameters" ≠ some (.arr xs) := by
  rcases parameters_of_fromJson h with ⟨-, -, hnone⟩ | ⟨ms, parameters, hfind, -⟩
  · exact hnone xs
  · rw [hfind]
    simp

/-! ### Accepted payloads -/

/-- The payload is an order or a list of instant actions that decodes without the arrays of parameters, and these
have the documented form. -/
structure OtherwiseWellTyped (t : MessageType) (j : Json) : Prop where
  type : t = .order ∨ t = .instantActions
  decodes : ∃ m : t.Message, fromJson (withoutArrays t j) = .ok m
  parameters : ∀ action ∈ actionsOf t j, ∀ xs, action.find? "actionParameters" = some (.arr xs) →
    ∀ x ∈ xs, IsParameter x

/-- The payload is decoded, and encoding the message gives the parameters of each action again. -/
def Accepted (t : MessageType) (j : Json) : Prop :=
  ∃ m : t.Message, fromJson j = .ok m ∧ List.Forall₂ SameParameters (actionsOf t j) (actionsOf t (json m))

private theorem not_carriesArray_of_fromJson {t : MessageType} {j : Json} {m : t.Message} (h : fromJson j = .ok m) :
    ¬ CarriesArray t j := by
  rintro ⟨x, hx, xs, hxs⟩
  obtain ⟨action, -, haction⟩ := Feed.exists_of_mem_forall₂ (forall₂_actionsOf h) hx
  exact not_array_of_fromJson haction xs hxs

private theorem accepted_of_fromJson {t : MessageType} {j : Json} {m : t.Message} (h : fromJson j = .ok m) :
    Accepted t j := by
  refine ⟨m, h, ?_⟩
  rw [actionsOf_json, List.forall₂_map_right_iff]
  exact (forall₂_actionsOf h).imp fun _ _ => sameParameters_of_fromJson

/-- Of the payloads that are well typed up to arrays of parameters, those are accepted that have none. -/
theorem accepted_iff {t : MessageType} {j : Json} (h : OtherwiseWellTyped t j) :
    Accepted t j ↔ ¬ CarriesArray t j := by
  constructor
  · rintro ⟨m, hm, -⟩
    exact not_carriesArray_of_fromJson hm
  · intro hnone
    obtain ⟨m, hm⟩ := h.decodes
    rw [withoutArrays_eq_self hnone] at hm
    exact accepted_of_fromJson hm

/-! ### A parameter in the documented form -/

/-- An action with parameters. -/
def detectObject (parameters : Json) : Json :=
  .obj [("actionId", .str "a1"), ("actionType", .str "detectObject"), ("blockingType", .str "NONE"),
    ("actionParameters", parameters)]

/-- Instant actions with this action alone. -/
def detectObjects (parameters : Json) : Json :=
  .obj [("headerId", .int 1), ("timestamp", .str "2026-01-01T00:00:00Z"), ("version", .str "3.0.0"),
    ("manufacturer", .str "acme"), ("serialNumber", .str "7"), ("actions", .arr [detectObject parameters])]

omit [JsonLibrary] in
private theorem actionsOf_detectObjects (parameters : Json) :
    actionsOf .instantActions (detectObjects parameters) = [detectObject parameters] := rfl

omit [JsonLibrary] in
theorem accepted_iff_map :
    letI := JsonLibrary.ofText "null" .null
    Accepted .instantActions (detectObjects (.obj [("objectType", .str "pallet")])) ↔
      ¬ CarriesArray .instantActions (detectObjects (.obj [("objectType", .str "pallet")])) := by
  let lib := JsonLibrary.ofText "null" .null
  refine accepted_iff ⟨.inr rfl, ⟨_, rfl⟩, fun action haction xs hxs => ?_⟩
  rw [actionsOf_detectObjects, List.mem_singleton] at haction
  rw [haction] at hxs
  cases hxs

/-- A parameter in the documented form. -/
def objectType : Json := .obj [("key", .str "objectType"), ("value", .str "pallet")]

omit [JsonLibrary] in
theorem not_accepted_array :
    ¬ ∀ [JsonLibrary] (t : MessageType) (j : Json), OtherwiseWellTyped t j → Accepted t j := by
  intro h
  let lib := JsonLibrary.ofText "null" .null
  have hparameters : ∀ action ∈ actionsOf .instantActions (detectObjects (.arr [objectType])), ∀ xs,
      action.find? "actionParameters" = some (.arr xs) → ∀ x ∈ xs, IsParameter x := by
    intro action haction xs hxs x hx
    rw [actionsOf_detectObjects, List.mem_singleton] at haction
    rw [haction] at hxs
    cases hxs
    rw [List.mem_singleton.1 hx]
    exact ⟨_, _, rfl, rfl⟩
  obtain ⟨m, hm, -⟩ := h .instantActions (detectObjects (.arr [objectType])) ⟨.inr rfl, ⟨_, rfl⟩, hparameters⟩
  have herror : fromJson (α := InstantActions) (detectObjects (.arr [objectType])) =
      .error ⟨302, "[json.exception.type_error.302] type must be object, but is array"⟩ := rfl
  cases herror.symm.trans hm

end SyriusOrbit.Vda5050

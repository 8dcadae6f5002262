import SyriusOrbit.Db.RobotsRepository
import SyriusOrbit.Db.OrdersRepository
import SyriusOrbit.Db.InstantActionsRepository
import SyriusOrbit.Db.MapsRepository
import SyriusOrbit.Json.Schema

/-!
# Lookups after upserts

What `findById` and `listAll` of the four repositories return once any records have been upserted: the last record
with the key in every field, but for `created_at`, which is that of the first (`lookups_agree`).
-/

namespace SyriusOrbit.Db

open Sql JsonFormat

/-- The lookups of a repository after the records have been upserted; `Found first last found` says what is found for
a key, with the first and the last record that have it. -/
structure LookupsAgree {R K : Type} [DecidableEq K] (key : R → K) (Found : R → R → R → Prop) (records : List R)
    (findById : K → Option R) (listAll : List R) : Prop where
  none_iff : ∀ k, findById k = none ↔ ∀ r ∈ records, key r ≠ k
  found : ∀ k r, findById k = some r → ∃ first last,
    (records.filter fun r => decide (key r = k)).head? = some first ∧
      (records.filter fun r => decide (key r = k)).getLast? = some last ∧ Found first last r
  listed : ∀ k r, findById k = some r ↔ r ∈ listAll ∧ key r = k
  once : (listAll.map key).Nodup

/-- Statements that write whole records make the lookups agree with the records. -/
private theorem lookupsAgree_of_replaces {R K : Type} [DecidableEq K] {key : R → K} {u : R → Upsert key}
    {stored : R → R}
    {keep : R → R → R} (h : Replaces u stored keep) (hkey : ∀ r, key (stored r) = key r) {Found : R → R → R → Prop}
    {records : List R}
    (hfound : ∀ first ∈ records, ∀ last ∈ records, key first = key last →
      Found first last (keep (stored first) (stored last))) :
    LookupsAgree key Found records (Table.empty.execAll (records.map u)).find?
      (Table.empty.execAll (records.map u)).rows := by
  have hfind : ∀ k, (Table.empty.execAll (records.map u)).find? k =
      (records.filter fun r => decide (key r = k)).head?.bind fun first =>
        (records.filter fun r => decide (key r = k)).getLast?.map fun last => keep (stored first) (stored last) := by
    intro k
    have hfilter : (records.map stored).filter (fun r => decide (key r = k)) =
        (records.filter fun r => decide (key r = k)).map stored := by
      rw [List.filter_map]
      congr 1
      refine List.filter_congr fun r _ => ?_
      simp [hkey r]
    rw [Table.find?_execAll_of_replaces h, hfilter, List.head?_map, List.getLast?_map, Option.bind_map]
    simp [Function.comp_def]
  refine ⟨fun k => ?_, fun k r hr => ?_, fun k r => Table.find?_eq_some_iff, Table.keys_nodup _⟩
  · rw [hfind]
    cases hfilter : records.filter fun r => decide (key r = k) with
    | nil =>
      rw [List.filter_eq_nil_iff] at hfilter
      simpa using hfilter
    | cons first rest =>
      have hmem : first ∈ records.filter fun r => decide (key r = k) := hfilter ▸ List.mem_cons_self
      rw [List.mem_filter, decide_eq_true_iff] at hmem
      simp only [List.head?_cons, Option.bind_some, List.getLast?_cons, Option.map_some, reduceCtorEq, false_iff,
        not_forall, not_not]
      exact ⟨first, hmem.1, hmem.2⟩
  · rw [hfind] at hr
    obtain ⟨first, hfirst, hr⟩ := Option.bind_eq_some_iff.1 hr
    obtain ⟨last, hlast, rfl⟩ := Option.map_eq_some_iff.1 hr
    have hmemFirst := List.mem_filter.1 (List.mem_of_mem_head? hfirst)
    have hmemLast := List.mem_filter.1 (List.mem_of_getLast? hlast)
    have hsame : key first = key last :=
      (of_decide_eq_true hmemFirst.2).trans (of_decide_eq_true hmemLast.2).symm
    exact ⟨first, last, hfirst, hlast, hfound first hmemFirst.1 last hmemLast.1 hsame⟩

/-! ### Doubles -/

private theorem floatValue_of_beq_zero {x : Float} (h : (x == 0) = true) : floatValue x = some 0 := by
  have hzero : (0 : Float).toModel.unpack = .zero .positive := rfl
  have hcompare : (x.toModel.unpack.compare (0 : Float).toModel.unpack == some .eq) = true := h
  rw [hzero] at hcompare
  unfold floatValue
  cases hx : x.toModel.unpack with
  | zero => rfl
  | finite sign =>
    rw [hx] at hcompare
    cases sign <;> exact absurd hcompare Bool.false_ne_true
  | infinity sign =>
    rw [hx] at hcompare
    cases sign <;> exact absurd hcompare Bool.false_ne_true
  | notANumber =>
    rw [hx] at hcompare
    exact absurd hcompare Bool.false_ne_true

private theorem isNaN_of_isFinite {x : Float} (h : x.isFinite = true) : x.isNaN = false := by
  unfold Float.isFinite Float.Model.isFinite at h
  unfold Float.isNaN Float.Model.isNaN
  cases hx : x.toModel.unpack with
  | notANumber =>
    rw [hx] at h
    exact absurd h Bool.false_ne_true
  | _ => rfl

/-- A finite double is read back as the same number. -/
private theorem floatValue_realColumn {x : Float} (h : x.isFinite = true) :
    ∃ y, realColumn x = some y ∧ floatValue y = floatValue x := by
  unfold realColumn
  rw [isNaN_of_isFinite h]
  by_cases hzero : (x == 0) = true
  · refine ⟨0, by simp [hzero], ?_⟩
    rw [floatValue_of_beq_zero hzero]
    rfl
  · exact ⟨x, by simp [hzero], rfl⟩

/-! ### The repositories -/

/-- The factsheet is the text of an object or array, and the battery level is finite. -/
structure Robot.Storable (robot : Robot) : Prop where
  factsheet : ∀ factsheet, robot.factsheet = some factsheet → Bracketed factsheet
  batteryLevel : ∀ x, robot.batteryLevel = some x → x.isFinite = true

structure Order.Storable (order : Order) : Prop where
  nodes : Bracketed order.nodes
  edges : Bracketed order.edges

def InstantAction.Storable (action : InstantAction) : Prop :=
  ∀ parameters, action.actionParameters = some parameters → Bracketed parameters

/-- The last robot with the time of creation of the first; the battery level is the same number. -/
structure Robot.Found (first last found : Robot) : Prop where
  eq : found = { last with batteryLevel := found.batteryLevel, createdAt := first.createdAt }
  batteryLevel : found.batteryLevel.map floatValue = last.batteryLevel.map floatValue

def Order.Found (first last found : Order) : Prop := found = { last with createdAt := first.createdAt }

def InstantAction.Found (first last found : InstantAction) : Prop :=
  found = { last with createdAt := first.createdAt }

private theorem replaces_robots : Replaces (fun robot => (RobotsStatement.upsert robot).sql)
    (fun robot => (RobotsStatement.upsert robot).row)
    fun old new => { new with robotId := old.robotId, createdAt := old.createdAt } :=
  ⟨fun _ => rfl, fun _ _ => rfl, fun _ => rfl, fun _ _ _ => rfl⟩

private theorem replaces_orders : Replaces (fun order => (OrdersStatement.upsert order).sql) id
    fun old new => { new with orderId := old.orderId, createdAt := old.createdAt } :=
  ⟨fun _ => rfl, fun _ _ => rfl, fun _ => rfl, fun _ _ _ => rfl⟩

private theorem replaces_instantActions : Replaces (fun action => (InstantActionsStatement.upsert action).sql) id
    fun old new => { new with actionId := old.actionId, createdAt := old.createdAt } :=
  ⟨fun _ => rfl, fun _ _ => rfl, fun _ => rfl, fun _ _ _ => rfl⟩

private theorem replaces_maps : Replaces MapsRepository.sql id
    fun old new => { new with mapId := old.mapId, siteId := old.siteId } :=
  ⟨fun _ => rfl, fun _ _ => rfl, fun _ => rfl, fun _ _ _ => rfl⟩

variable [Library]

/-- The lookups on `robots`. -/
private theorem lookups_robots {robots : List Robot} (h : ∀ robot ∈ robots, robot.Storable) :
    ∃ t, execStatements Table.empty (robots.map RobotsRepository.upsert) = some t ∧
      LookupsAgree Robot.robotId Robot.Found robots (RobotsRepository.findById t) (RobotsRepository.listAll t) := by
  have hplain : ∀ s ∈ robots.map RobotsStatement.upsert, RobotsRepository.Plain s := by
    intro s hs
    obtain ⟨robot, hrobot, rfl⟩ := List.mem_map.1 hs
    exact fun factsheet hf => Value.plainText_of_bracketed ((h robot hrobot).factsheet factsheet hf)
  obtain ⟨t, hexec, htable⟩ := RobotsRepository.execStatements_eq hplain Table.empty
  rw [List.map_map] at hexec htable
  refine ⟨t, hexec, ?_⟩
  have hfind : RobotsRepository.findById t = (RobotsRepository.robots t).find? :=
    funext (RobotsRepository.findById_eq t)
  rw [hfind, RobotsRepository.listAll_eq, htable]
  refine lookupsAgree_of_replaces replaces_robots (fun _ => rfl) fun first _ last hlast hid => ?_
  refine ⟨Robot.ext hid rfl rfl rfl rfl rfl rfl rfl rfl rfl rfl rfl rfl rfl rfl rfl, ?_⟩
  show (last.batteryLevel.bind realColumn).map floatValue = last.batteryLevel.map floatValue
  cases hbattery : last.batteryLevel with
  | none => rfl
  | some x =>
    obtain ⟨y, hy, hvalue⟩ := floatValue_realColumn ((h last hlast).batteryLevel x hbattery)
    simp [hy, hvalue]

/-- The lookups on `orders`. -/
private theorem lookups_orders {orders : List Order} (h : ∀ order ∈ orders, order.Storable) :
    ∃ t, execStatements Table.empty (orders.map OrdersRepository.upsert) = some t ∧
      LookupsAgree Order.orderId Order.Found orders (OrdersRepository.findById t) (OrdersRepository.listAll t) := by
  have hplain : ∀ s ∈ orders.map OrdersStatement.upsert, OrdersRepository.Plain s := by
    intro s hs
    obtain ⟨order, horder, rfl⟩ := List.mem_map.1 hs
    exact ⟨Value.plainText_of_bracketed (h order horder).nodes, Value.plainText_of_bracketed (h order horder).edges⟩
  obtain ⟨t, hexec, htable⟩ := OrdersRepository.execStatements_eq hplain Table.empty
  rw [List.map_map] at hexec htable
  refine ⟨t, hexec, ?_⟩
  have hfind : OrdersRepository.findById t = (OrdersRepository.orders t).find? :=
    funext (OrdersRepository.findById_eq t)
  rw [hfind, OrdersRepository.listAll_eq, htable]
  refine lookupsAgree_of_replaces replaces_orders (fun _ => rfl) fun first _ last _ hid => ?_
  exact Order.ext hid rfl rfl rfl rfl rfl rfl rfl rfl rfl rfl

/-- The lookups on `instant_actions`. -/
private theorem lookups_instantActions {actions : List InstantAction} (h : ∀ action ∈ actions, action.Storable) :
    ∃ t, execStatements Table.empty (actions.map InstantActionsRepository.upsert) = some t ∧
      LookupsAgree InstantAction.actionId InstantAction.Found actions (InstantActionsRepository.findById t)
        (InstantActionsRepository.listAll t) := by
  have hplain : ∀ s ∈ actions.map InstantActionsStatement.upsert, InstantActionsRepository.Plain s := by
    intro s hs
    obtain ⟨action, haction, rfl⟩ := List.mem_map.1 hs
    exact fun parameters hp => Value.plainText_of_bracketed (h action haction parameters hp)
  obtain ⟨t, hexec, htable⟩ := InstantActionsRepository.execStatements_eq hplain Table.empty
  rw [List.map_map] at hexec htable
  refine ⟨t, hexec, ?_⟩
  have hfind : InstantActionsRepository.findById t = (InstantActionsRepository.instantActions t).find? :=
    funext (InstantActionsRepository.findById_eq t)
  rw [hfind, InstantActionsRepository.listAll_eq, htable]
  refine lookupsAgree_of_replaces replaces_instantActions (fun _ => rfl) fun first _ last _ hid => ?_
  exact InstantAction.ext hid rfl rfl rfl rfl rfl rfl rfl rfl rfl rfl rfl rfl

/-- The lookups on `maps`, whose records have no time of creation. -/
private theorem lookups_maps (maps : List Map) :
    ∃ t, execStatements Table.empty (maps.map MapsRepository.upsert) = some t ∧
      LookupsAgree Map.key (fun _ last found => found = last) maps
        (fun k => MapsRepository.findById t k.1 k.2) (MapsRepository.listAll t) := by
  obtain ⟨t, hexec, htable⟩ := MapsRepository.execStatements_eq maps Table.empty
  refine ⟨t, hexec, ?_⟩
  have hfind : (fun k : String × String => MapsRepository.findById t k.1 k.2) = (MapsRepository.maps t).find? :=
    funext fun k => MapsRepository.findById_eq t k.1 k.2
  rw [hfind, MapsRepository.listAll_eq, htable]
  refine lookupsAgree_of_replaces replaces_maps (fun _ => rfl) fun first _ last _ hkey => ?_
  have hkey : (first.mapId, first.siteId) = (last.mapId, last.siteId) := hkey
  rw [Prod.mk.injEq] at hkey
  exact Map.ext hkey.1 rfl rfl rfl hkey.2 rfl rfl rfl

/-- Upserts and lookups agree in each of the four repositories. -/
theorem lookups_agree :
    (∀ robots : List Robot, (∀ robot ∈ robots, robot.Storable) →
      ∃ t, execStatements Table.empty (robots.map RobotsRepository.upsert) = some t ∧
        LookupsAgree Robot.robotId Robot.Found robots (RobotsRepository.findById t) (RobotsRepository.listAll t)) ∧
    (∀ orders : List Order, (∀ order ∈ orders, order.Storable) →
      ∃ t, execStatements Table.empty (orders.map OrdersRepository.upsert) = some t ∧
        LookupsAgree Order.orderId Order.Found orders (OrdersRepository.findById t) (OrdersRepository.listAll t)) ∧
    (∀ actions : List InstantAction, (∀ action ∈ actions, action.Storable) →
      ∃ t, execStatements Table.empty (actions.map InstantActionsRepository.upsert) = some t ∧
        LookupsAgree InstantAction.actionId InstantAction.Found actions (InstantActionsRepository.findById t)
          (InstantActionsRepository.listAll t)) ∧
    ∀ maps : List Map,
      ∃ t, execStatements Table.empty (maps.map MapsRepository.upsert) = some t ∧
        LookupsAgree Map.key (fun _ last found => found = last) maps
          (fun k => MapsRepository.findById t k.1 k.2) (MapsRepository.listAll t) :=
  ⟨fun _ h => lookups_robots h, fun _ h => lookups_orders h, fun _ h => lookups_instantActions h, lookups_maps⟩

/-- A robot with a factsheet. -/
def robot7 : Robot where
  robotId := "acme.7"
  manufacturer := "acme"
  serialNumber := "7"
  batteryLevel := some 100
  factsheet := some "[]"
  lastUpdatedAt := "2026-01-01T00:00:00Z"
  createdAt := "2026-01-01T00:00:00Z"

/-- The same robot at half of its charge and without a factsheet. -/
def robot7Later : Robot :=
  { robot7 with batteryLevel := some 50, factsheet := none, createdAt := "2026-01-02T00:00:00Z" }

omit [Library] in
theorem lookups_agree_robot7 :
    letI := Library.ofDigits
    ∃ t, execStatements Table.empty ([robot7, robot7Later].map RobotsRepository.upsert) = some t ∧
      LookupsAgree Robot.robotId Robot.Found [robot7, robot7Later] (RobotsRepository.findById t)
        (RobotsRepository.listAll t) := by
  let lib := Library.ofDigits
  refine lookups_agree.1 [robot7, robot7Later] fun robot hrobot => ?_
  simp only [List.mem_cons, List.not_mem_nil, or_false] at hrobot
  rcases hrobot with rfl | rfl
  · refine ⟨fun factsheet hf => ?_, fun x hx => ?_⟩
    · cases hf
      exact .inr rfl
    · cases hx
      rfl
  · refine ⟨fun factsheet hf => ?_, fun x hx => ?_⟩
    · cases hf
    · cases hx
      rfl

end SyriusOrbit.Db

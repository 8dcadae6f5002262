import Mathlib.Data.List.Dedup
import Mathlib.Data.List.Sort
import Mathlib.Data.String.Basic

/-!
# The event log

The append-only table `vda5050_events` and the query of the projection layer.  `newest` says which event a topic
and an item stand for; the query returns these events and no others, one for each item
(`mem_findLatestByTopic`, `filter_findLatestByTopic`).
-/

namespace SyriusOrbit.Db

@[ext] structure Vda5050Event where
  id : Nat
  topic : String
  itemId : String
  receivedAt : String
  manufacturer : String
  serialNumber : String
  robotId : String
  direction : String
  headerId : Option Int64
  headerVersion : Option String
  headerTimestamp : Option String
  payload : String
  deriving DecidableEq, Inhabited

/-- The event without the columns that are set on insertion. -/
def Vda5050Event.content (e : Vda5050Event) : Vda5050Event := { e with id := 0, receivedAt := "" }

/-- The rows of `vda5050_events`, in the order of their ids. -/
structure EventLog where
  events : List Vda5050Event
  increasing : events.Pairwise fun e e' => e.id < e'.id

namespace EventLog

def empty : EventLog := ⟨[], List.Pairwise.nil⟩

/-- The greatest id given out so far. -/
def lastId (log : EventLog) : Nat := (log.events.getLast?.map Vda5050Event.id).getD 0

private theorem id_le_getLast {es : List Vda5050Event} (h : es.Pairwise fun e e' => e.id < e'.id)
    {e e' : Vda5050Event} (he : e ∈ es) (hlast : es.getLast? = some e') : e.id ≤ e'.id := by
  obtain ⟨init, rfl⟩ := List.getLast?_eq_some_iff.1 hlast
  rw [List.pairwise_append] at h
  rcases List.mem_append.1 he with he | he
  · exact (h.2.2 e he e' (by simp)).le
  · rw [List.mem_singleton] at he
    rw [he]

theorem id_le_lastId {log : EventLog} {e : Vda5050Event} (he : e ∈ log.events) : e.id ≤ log.lastId := by
  unfold lastId
  cases hlast : log.events.getLast? with
  | none =>
    rw [List.getLast?_eq_none_iff] at hlast
    simp [hlast] at he
  | some e' => exact id_le_getLast log.increasing he hlast

/-- `INSERT INTO vda5050_events`: the id and the time of receipt are set by the database. -/
def insert (log : EventLog) (now : String) (event : Vda5050Event) : EventLog where
  events := log.events ++ [{ event with id := log.lastId + 1, receivedAt := now }]
  increasing := by
    rw [List.pairwise_append]
    refine ⟨log.increasing, List.pairwise_singleton _ _, ?_⟩
    intro e he e' he'
    rw [List.mem_singleton] at he'
    have := id_le_lastId he
    rw [he']
    exact Nat.lt_succ_of_le this

theorem eq_of_events_eq {log log' : EventLog} (h : log.events = log'.events) : log = log' := by
  cases log
  cases log'
  cases h
  rfl

theorem eq_of_id_eq {log : EventLog} {e e' : Vda5050Event} (he : e ∈ log.events) (he' : e' ∈ log.events)
    (h : e.id = e'.id) : e = e' := by
  have hnodup : (log.events.map Vda5050Event.id).Nodup := List.pairwise_map.2 (log.increasing.imp Nat.ne_of_lt)
  exact List.inj_on_of_nodup_map hnodup he he' h

/-- Among the events with a property, one has the greatest id. -/
theorem exists_greatest {log : EventLog} {p : Vda5050Event → Prop} [DecidablePred p] {e : Vda5050Event}
    (he : e ∈ log.events) (hp : p e) :
    ∃ e' ∈ log.events, p e' ∧ ∀ e'' ∈ log.events, p e'' → e''.id ≤ e'.id := by
  have hmem : e ∈ log.events.filter p := List.mem_filter.2 ⟨he, decide_eq_true hp⟩
  have hlast := List.getLast?_eq_some_getLast (List.ne_nil_of_mem hmem)
  have hgreatest := List.mem_filter.1 (List.mem_of_getLast? hlast)
  refine ⟨_, hgreatest.1, of_decide_eq_true hgreatest.2, fun e'' he'' hp'' => ?_⟩
  have hincreasing := log.increasing.sublist (List.filter_sublist (p := p))
  exact id_le_getLast hincreasing (List.mem_filter.2 ⟨he'', decide_eq_true hp''⟩) hlast

/-! ### The newest event of an item -/

/-- The events of a topic that belong to an item. -/
def group (log : EventLog) (topic item : String) : List Vda5050Event :=
  log.events.filter fun e => e.topic == topic && e.itemId == item

/-- The event with the greatest id of a topic and an item. -/
def newest (log : EventLog) (topic item : String) : Option Vda5050Event := (log.group topic item).getLast?

theorem mem_group {log : EventLog} {topic item : String} {e : Vda5050Event} :
    e ∈ log.group topic item ↔ e ∈ log.events ∧ e.topic = topic ∧ e.itemId = item := by
  simp [group]

private theorem increasing_group (log : EventLog) (topic item : String) :
    (log.group topic item).Pairwise fun e e' => e.id < e'.id :=
  log.increasing.sublist List.filter_sublist

private theorem mem_group_of_newest {log : EventLog} {topic item : String} {e : Vda5050Event}
    (h : log.newest topic item = some e) : e ∈ log.group topic item :=
  List.mem_of_getLast? h

theorem mem_of_newest {log : EventLog} {topic item : String} {e : Vda5050Event}
    (h : log.newest topic item = some e) : e ∈ log.events ∧ e.topic = topic ∧ e.itemId = item :=
  mem_group.1 (mem_group_of_newest h)

theorem id_le_newest {log : EventLog} {topic item : String} {e e' : Vda5050Event}
    (h : log.newest topic item = some e) (he' : e' ∈ log.group topic item) : e'.id ≤ e.id :=
  id_le_getLast (log.increasing_group topic item) he' h

theorem isSome_newest {log : EventLog} {e : Vda5050Event} (he : e ∈ log.events) :
    ∃ e', log.newest e.topic e.itemId = some e' := by
  have hmem : e ∈ log.group e.topic e.itemId := mem_group.2 ⟨he, rfl, rfl⟩
  have hne : log.group e.topic e.itemId ≠ [] := List.ne_nil_of_mem hmem
  exact ⟨_, List.getLast?_eq_some_getLast hne⟩

theorem newest_eq_some_iff {log : EventLog} {topic item : String} {e : Vda5050Event} :
    log.newest topic item = some e ↔ e ∈ log.group topic item ∧ ∀ e' ∈ log.group topic item, e'.id ≤ e.id := by
  constructor
  · exact fun h => ⟨mem_group_of_newest h, fun e' he' => id_le_newest h he'⟩
  · rintro ⟨he, hgreatest⟩
    obtain ⟨hmem, rfl, rfl⟩ := mem_group.1 he
    obtain ⟨e', he'⟩ := isSome_newest hmem
    have hle := hgreatest e' (mem_group_of_newest he')
    rw [he', eq_of_id_eq (mem_of_newest he').1 hmem (Nat.le_antisymm hle (id_le_newest he' he))]

private theorem max?_group (log : EventLog) (topic item : String) :
    ((log.group topic item).map (·.id)).max? = (log.newest topic item).map (·.id) := by
  cases h : log.newest topic item with
  | none =>
    have hnil : log.group topic item = [] := List.getLast?_eq_none_iff.1 h
    rw [hnil]
    rfl
  | some e =>
    rw [Option.map_some, List.max?_eq_some_iff]
    refine ⟨List.mem_map_of_mem (mem_group_of_newest h), ?_⟩
    intro n hn
    obtain ⟨e', he', rfl⟩ := List.mem_map.1 hn
    exact id_le_newest h he'

private theorem group_insert (log : EventLog) (now : String) (event : Vda5050Event) (topic item : String) :
    (log.insert now event).group topic item = log.group topic item ++
      if event.topic = topic ∧ event.itemId = item then
        [{ event with id := log.lastId + 1, receivedAt := now }]
      else [] := by
  unfold group insert
  rw [List.filter_append]
  by_cases ht : event.topic = topic <;> by_cases hi : event.itemId = item <;> simp [ht, hi]

/-- An inserted event becomes the newest of its item, and the other items keep theirs. -/
theorem newest_insert (log : EventLog) (now : String) (event : Vda5050Event) (topic item : String) :
    (log.insert now event).newest topic item =
      if event.topic = topic ∧ event.itemId = item then
        some { event with id := log.lastId + 1, receivedAt := now }
      else log.newest topic item := by
  unfold newest
  rw [group_insert]
  split <;> simp

/-! ### Prefixes -/

/-- The log when it had `n` events. -/
def take (log : EventLog) (n : Nat) : EventLog := ⟨log.events.take n, log.increasing.sublist (List.take_sublist n _)⟩

theorem take_length (log : EventLog) : log.take log.events.length = log := by
  obtain ⟨events, increasing⟩ := log
  simp [take]

theorem mem_of_mem_take {log : EventLog} {n : Nat} {e : Vda5050Event} (he : e ∈ (log.take n).events) :
    e ∈ log.events := List.mem_of_mem_take he

/-- The newest event of an item is replaced by later ones only. -/
theorem newest_take_le {log : EventLog} {n n' : Nat} (hn : n ≤ n') {topic item : String} {e : Vda5050Event}
    (h : (log.take n).newest topic item = some e) :
    ∃ e', (log.take n').newest topic item = some e' ∧ e.id ≤ e'.id := by
  obtain ⟨hmem, rfl, rfl⟩ := mem_of_newest h
  have hmem' : e ∈ (log.take n').events := List.take_subset_take_left log.events hn hmem
  obtain ⟨e', he'⟩ := isSome_newest hmem'
  exact ⟨e', he', id_le_newest he' (mem_group.2 ⟨hmem', rfl, rfl⟩)⟩

/-- Times of receipt do not decrease. -/
def Chronological (log : EventLog) : Prop :=
  ∀ e ∈ log.events, ∀ e' ∈ log.events, e.id ≤ e'.id → e.receivedAt ≤ e'.receivedAt

/-! ### The query of the projection layer -/

/-- `SELECT MAX(id) FROM vda5050_events WHERE topic = ? GROUP BY item_id`. -/
def maxIdsByItem (log : EventLog) (topic : String) : List Nat :=
  ((log.events.filter (·.topic == topic)).map (·.itemId)).dedup.map fun item =>
    ((log.group topic item).map (·.id)).max?.getD 0

/-- `SELECT … FROM vda5050_events WHERE topic = ? AND id IN (…)`. -/
def findLatestByTopic (log : EventLog) (topic : String) : List Vda5050Event :=
  log.events.filter fun e => e.topic == topic && (log.maxIdsByItem topic).contains e.id

private theorem mem_maxIdsByItem {log : EventLog} {topic : String} {n : Nat} :
    n ∈ log.maxIdsByItem topic ↔ ∃ item e, log.newest topic item = some e ∧ e.id = n := by
  simp only [maxIdsByItem, List.mem_map, List.mem_dedup, List.mem_filter, beq_iff_eq, max?_group]
  constructor
  · rintro ⟨item, ⟨e, ⟨he, rfl⟩, rfl⟩, rfl⟩
    obtain ⟨e', he'⟩ := isSome_newest he
    exact ⟨e.itemId, e', he', by rw [he']; rfl⟩
  · rintro ⟨item, e, he, rfl⟩
    obtain ⟨hmem, htopic, hitem⟩ := mem_of_newest he
    exact ⟨item, ⟨e, ⟨hmem, htopic⟩, hitem⟩, by rw [he]; rfl⟩

/-- The query returns the newest event of each item of the topic. -/
theorem mem_findLatestByTopic {log : EventLog} {topic : String} {e : Vda5050Event} :
    e ∈ log.findLatestByTopic topic ↔ log.newest topic e.itemId = some e := by
  simp only [findLatestByTopic, List.mem_filter, Bool.and_eq_true, beq_iff_eq, List.contains_iff_mem,
    mem_maxIdsByItem]
  constructor
  · rintro ⟨he, rfl, item, e', he', hid⟩
    obtain ⟨hmem, -, hitem⟩ := mem_of_newest he'
    have heq : e' = e := eq_of_id_eq hmem he hid
    subst heq
    rw [hitem]
    exact he'
  · intro h
    obtain ⟨hmem, htopic, -⟩ := mem_of_newest h
    exact ⟨hmem, htopic, e.itemId, e, h, rfl⟩

theorem increasing_findLatestByTopic (log : EventLog) (topic : String) :
    (log.findLatestByTopic topic).Pairwise fun e e' => e.id < e'.id :=
  log.increasing.sublist List.filter_sublist

theorem nodup_findLatestByTopic (log : EventLog) (topic : String) : (log.findLatestByTopic topic).Nodup := by
  have hnodup : log.events.Nodup := log.increasing.imp fun h heq => by simp [heq] at h
  exact hnodup.filter _

/-- In whatever order the rows come, those of one item are its newest event. -/
theorem filter_findLatestByTopic {log : EventLog} {topic : String} {rows : List Vda5050Event}
    (h : rows.Perm (log.findLatestByTopic topic)) (item : String) :
    rows.filter (fun e => decide (e.itemId = item)) = (log.newest topic item).toList := by
  have hmem : ∀ e, e ∈ rows.filter (fun e => decide (e.itemId = item)) ↔ log.newest topic item = some e := by
    intro e
    rw [List.mem_filter, h.mem_iff, mem_findLatestByTopic, decide_eq_true_iff]
    constructor
    · rintro ⟨he, rfl⟩
      exact he
    · intro he
      obtain ⟨-, -, hitem⟩ := mem_of_newest he
      rw [hitem]
      exact ⟨he, rfl⟩
  have hnodup : (rows.filter fun e => decide (e.itemId = item)).Nodup :=
    (h.nodup_iff.2 (log.nodup_findLatestByTopic topic)).filter _
  have hperm : (rows.filter fun e => decide (e.itemId = item)).Perm (log.newest topic item).toList := by
    refine (List.perm_ext_iff_of_nodup hnodup ?_).2 ?_
    · cases log.newest topic item <;> simp
    · intro e
      rw [hmem, Option.mem_toList]
  cases hn : log.newest topic item with
  | none =>
    rw [hn] at hperm
    exact hperm.eq_nil
  | some e =>
    rw [hn] at hperm
    exact List.perm_singleton.1 hperm

end EventLog

end SyriusOrbit.Db

import SyriusOrbit.EndToEnd

/-!
# The trail of what was heard

The rows that the two network threads leave in `vda5050_events` while the projection runs, statements fail and the
process is killed and started again.  The rows of a side are those of the messages that were heard there, in the order
in which they were delivered; a failure loses the last rows of a message, and nothing is written twice or out of order
(`rows_of_heard`).  Without failures all messages that list something are read back from the table (`replays_heard`).
-/

namespace SyriusOrbit.Pipeline

open JsonFormat Vda5050 Mqtt Db Sql Projection Transition

variable [JsonLibrary] [Library]

/-- What the recorder has been told on a side. -/
def heardOn (topicPrefix : String) (s : Pipeline) (side : Side) : List Dispatched :=
  (s.traffic.deliveries.filter fun d => d.side = side).filterMap (Delivery.heard topicPrefix)

/-- The rows of the table. -/
def rows (s : Pipeline) : List Vda5050Event := (Vda5050EventsRepository.log s.db.events).events

def rowsOf (s : Pipeline) (side : Side) : List Vda5050Event := s.rows.filter fun e => e.direction = side.direction

/-- Messages are lost: a statement throws, or the process is killed before the threads have done. -/
def Loses (s : Pipeline) : PipelineAction → Prop
  | .db (.insertThrows _) => True
  | .db .restart => ¬∀ side, s.Idle side
  | .daemon _ | .deliver .. | .record _ | .db _ => False

private theorem not_loses_of_works {s : Pipeline} {a : PipelineAction} (h : s.Works a) : ¬ s.Loses a := by
  cases a with
  | db b =>
    cases b with
    | insertThrows => exact h.elim
    | restart => exact not_not.2 h
    | _ => exact id
  | _ => exact id

/-- The message in hand. -/
def inHand (s : Pipeline) (side : Side) : List Dispatched := ((s.db.hand side).head?.map Prod.fst).toList

/-- The events of the message in hand that are not inserted. -/
def missing (s : Pipeline) (side : Side) : List Vda5050Event := (s.db.hand side).map Prod.snd

/-! ### What the rows are -/

/-- A message has left the events of a part, in the sense of `R`. -/
structure Left (R : List Vda5050Event → List Vda5050Event → Prop) (d : Dispatched) (part : List Vda5050Event) :
    Prop where
  events : R part d.events
  parses : part ≠ [] → ParsesBack (json d.message)

/-- The rows of a side are those of the messages that are done, `left`, and those of the message in hand. -/
structure Trail (R : List Vda5050Event → List Vda5050Event → Prop) (topicPrefix : String) (s : Pipeline) (side : Side)
    (done : List Dispatched) (left part : List Vda5050Event) : Prop where
  heard : done ++ s.onTheWay side = s.heardOn topicPrefix side
  leaves : Feed.Leaves (Left R) done left
  rows : (s.rowsOf side).map Vda5050Event.content = left ++ part
  current : part ++ s.missing side = (s.inHand side).flatMap Dispatched.events

variable {R : List Vda5050Event → List Vda5050Event → Prop} {topicPrefix : String} {s s' : Pipeline} {side : Side}

private theorem Trail.part_eq_nil {done : List Dispatched} {left part : List Vda5050Event}
    (h : s.Trail R topicPrefix side done left part) (hhand : s.db.hand side = []) : part = [] := by
  have hcurrent := h.current
  rw [inHand, hhand] at hcurrent
  exact (List.append_eq_nil_iff.1 hcurrent).1

/-- The message in hand may be left as it is. -/
private theorem Trail.leaves_inHand {done : List Dispatched} {left part : List Vda5050Event}
    (h : s.Trail R topicPrefix side done left part) (hR : ∀ part events, part <+: events → R part events)
    (hparse : ∀ d ∈ s.inHand side, ParsesBack (json d.message)) : Feed.Leaves (Left R) (s.inHand side) part := by
  have hcurrent := h.current
  cases hinHand : s.inHand side with
  | nil =>
    rw [hinHand] at hcurrent
    rw [(List.append_eq_nil_iff.1 hcurrent).1]
    exact .nil
  | cons d ds =>
    have hds : ds = [] := by
      cases hhead : (s.db.hand side).head? <;> simp [inHand, hhead] at hinHand
      exact hinHand.2
    subst hds
    rw [hinHand, List.flatMap_singleton] at hcurrent
    have hleft : Left R d part := ⟨hR _ _ ⟨_, hcurrent⟩, fun _ => hparse d (hinHand ▸ List.mem_cons_self)⟩
    exact Feed.Leaves.nil.concat hleft

/-- There is a trail. -/
def HasTrail (R : List Vda5050Event → List Vda5050Event → Prop) (topicPrefix : String) (s : Pipeline) (side : Side) :
    Prop :=
  ∃ done left part, s.Trail R topicPrefix side done left part

namespace HasTrail

/-- Nothing happens on the side. -/
theorem congr (h : s.HasTrail R topicPrefix side) (hway : s'.onTheWay side = s.onTheWay side)
    (hheard : s'.heardOn topicPrefix side = s.heardOn topicPrefix side) (hrows : s'.rowsOf side = s.rowsOf side)
    (hhand : s'.db.hand side = s.db.hand side) : s'.HasTrail R topicPrefix side := by
  obtain ⟨done, left, part, htrail⟩ := h
  refine ⟨done, left, part, by rw [hway, hheard, htrail.heard], htrail.leaves, by rw [hrows, htrail.rows], ?_⟩
  rw [missing, inHand, hhand]
  exact htrail.current

/-- A thread that has done with everything is handed messages. -/
theorem deliver (h : s.HasTrail R topicPrefix side) {ds : List Dispatched} (hbefore : s.onTheWay side = [])
    (hway : s'.onTheWay side = ds) (hheard : s'.heardOn topicPrefix side = s.heardOn topicPrefix side ++ ds)
    (hdb : s'.db = s.db) : s'.HasTrail R topicPrefix side := by
  obtain ⟨done, left, part, htrail⟩ := h
  have hdone := htrail.heard
  rw [hbefore, List.append_nil] at hdone
  refine ⟨done, left, part, by rw [hway, hheard, hdone], htrail.leaves, ?_, ?_⟩
  · rw [rowsOf, Pipeline.rows, hdb]
    exact htrail.rows
  · rw [missing, inHand, hdb]
    exact htrail.current

/-- The listener is called.  A message without events is done. -/
theorem dispatch (h : s.HasTrail R topicPrefix side) (hrefl : ∀ events, R events events) {d : Dispatched}
    {rest : List Dispatched} (hhand : s.db.hand side = []) (hbefore : s.onTheWay side = d :: rest)
    (hway : s'.onTheWay side = if d.events = [] then rest else d :: rest)
    (hhand' : s'.db.hand side = d.events.map fun event => (d, event))
    (hheard : s'.heardOn topicPrefix side = s.heardOn topicPrefix side) (hrows : s'.rowsOf side = s.rowsOf side) :
    s'.HasTrail R topicPrefix side := by
  obtain ⟨done, left, part, htrail⟩ := h
  obtain rfl := htrail.part_eq_nil hhand
  have hmissing : s'.missing side = d.events := by
    rw [missing, hhand', List.map_map]
    exact List.map_id _
  by_cases hevents : d.events = []
  · have hleft : Left R d [] := ⟨hevents ▸ hrefl [], fun hne => absurd rfl hne⟩
    refine ⟨done ++ [d], left, [], ?_, ?_, by rw [hrows, htrail.rows], ?_⟩
    · rw [hway, if_pos hevents, hheard, ← htrail.heard, hbefore, List.append_assoc, List.singleton_append]
    · exact left.append_nil ▸ htrail.leaves.concat hleft
    · rw [hmissing, inHand, hhand', hevents]
      rfl
  · refine ⟨done, left, [], ?_, htrail.leaves, by rw [hrows, htrail.rows], ?_⟩
    · rw [hway, if_neg hevents, hheard, ← htrail.heard, hbefore]
    · have hinHand : s'.inHand side = [d] := by
        obtain ⟨e, es, heq⟩ := List.exists_cons_of_ne_nil hevents
        rw [inHand, hhand', heq]
        rfl
      rw [hmissing, hinHand, List.nil_append, List.flatMap_singleton]

/-- The next event is inserted.  With the last one the message is done. -/
theorem insert (h : s.HasTrail R topicPrefix side) (hrefl : ∀ events, R events events) {d : Dispatched}
    {event : Vda5050Event} {rest : List (Dispatched × Vda5050Event)} (hhand : s.db.hand side = (d, event) :: rest)
    (hsame : ∀ entry ∈ rest, entry.1 = d) (hparse : ParsesBack (json d.message))
    (hbefore : s.onTheWay side = d :: s.pending side)
    (hway : s'.onTheWay side = if rest.isEmpty then s.pending side else d :: s.pending side)
    (hhand' : s'.db.hand side = rest) (hheard : s'.heardOn topicPrefix side = s.heardOn topicPrefix side)
    (hrows : (s'.rowsOf side).map Vda5050Event.content = (s.rowsOf side).map Vda5050Event.content ++ [event]) :
    s'.HasTrail R topicPrefix side := by
  obtain ⟨done, left, part, htrail⟩ := h
  have hcurrent : part ++ event :: rest.map Prod.snd = d.events := by
    have hcurrent := htrail.current
    rw [missing, inHand, hhand] at hcurrent
    simpa using hcurrent
  have hrows' : (s'.rowsOf side).map Vda5050Event.content = left ++ (part ++ [event]) := by
    rw [hrows, htrail.rows, List.append_assoc]
  cases rest with
  | nil =>
    have hall : part ++ [event] = d.events := hcurrent
    have hleft : Left R d (part ++ [event]) := ⟨hall ▸ hrefl _, fun _ => hparse⟩
    refine ⟨done ++ [d], left ++ (part ++ [event]), [], ?_, htrail.leaves.concat hleft, ?_, ?_⟩
    · rw [hway, hheard, ← htrail.heard, hbefore, List.append_assoc]
      rfl
    · rw [hrows', List.append_nil]
    · rw [missing, inHand, hhand']
      rfl
  | cons entry rest =>
    refine ⟨done, left, part ++ [event], ?_, htrail.leaves, hrows', ?_⟩
    · rw [hway, hheard, ← htrail.heard, hbefore]
      rfl
    · have hinHand : s'.inHand side = [d] := by
        rw [inHand, hhand', List.head?_cons, Option.map_some, hsame entry List.mem_cons_self]
        rfl
      rw [missing, hhand', hinHand, List.append_assoc, List.flatMap_singleton, ← hcurrent]
      rfl

/-- The rest of the message in hand is lost, and perhaps the messages after it. -/
private theorem lose (h : s.HasTrail R topicPrefix side) (lost : List Dispatched)
    (hR : ∀ part events, part <+: events → R part events)
    (hparse : ∀ d ∈ s.inHand side, ParsesBack (json d.message))
    (hway : s.onTheWay side = s.inHand side ++ lost ++ s'.onTheWay side) (hhand' : s'.db.hand side = [])
    (hheard : s'.heardOn topicPrefix side = s.heardOn topicPrefix side) (hrows : s'.rowsOf side = s.rowsOf side) :
    s'.HasTrail R topicPrefix side := by
  obtain ⟨done, left, part, htrail⟩ := h
  have hinHand := htrail.leaves_inHand hR hparse
  have hlost : Feed.Leaves (Left R) lost [] :=
    Feed.Leaves.nothing fun d _ => ⟨hR _ _ List.nil_prefix, fun hne => absurd rfl hne⟩
  have hleaves := (htrail.leaves.append hinHand).append hlost
  refine ⟨done ++ s.inHand side ++ lost, left ++ part ++ [], [], ?_, hleaves, ?_, ?_⟩
  · rw [hheard, ← htrail.heard, hway]
    simp only [List.append_assoc]
  · rw [hrows, htrail.rows, List.append_nil, List.append_nil]
  · rw [missing, inHand, hhand']
    rfl

end HasTrail

/-! ### Steps -/

omit [JsonLibrary] in
/-- An event is inserted by the thread of a side. -/
private theorem rows_insert {now : String} {event : Vda5050Event} {db : Cqrs}
    (hlog : Vda5050EventsRepository.log db.events = (Vda5050EventsRepository.log s.db.events).insert now event) :
    ∃ e : Vda5050Event, e.content = event.content ∧ e.direction = event.direction ∧
      rows { s with db } = s.rows ++ [e] :=
  ⟨{ event with id := (Vda5050EventsRepository.log s.db.events).lastId + 1, receivedAt := now }, rfl, rfl,
    congrArg EventLog.events hlog⟩

omit [JsonLibrary] in
private theorem rowsOf_append {e : Vda5050Event} (hrows : s'.rows = s.rows ++ [e]) {side' : Side}
    (hdirection : e.direction = side'.direction) (side : Side) :
    s'.rowsOf side = s.rowsOf side ++ if side = side' then [e] else [] := by
  unfold rowsOf
  rw [hrows, List.filter_append]
  by_cases hside : side = side'
  · simp [hside, hdirection]
  · have hne : side'.direction ≠ side.direction := fun heq => hside (Recording.direction_injective heq).symm
    simp [hside, hdirection, hne]

/-- The next event is one of a message that is read back, and of its side. -/
private theorem Sound.of_hand (h : s.Sound topicPrefix) {d : Dispatched} {event : Vda5050Event}
    {rest : List (Dispatched × Vda5050Event)} (hhand : s.db.hand side = (d, event) :: rest) :
    ParsesBack (json d.message) ∧ event.direction = side.direction ∧ event.content = event := by
  have hleft : Cqrs.LeftOver ((d, event) :: rest) := hhand ▸ h.db.hand side
  obtain ⟨hparse, hevent, -⟩ := hleft.tail
  exact ⟨hparse, Recording.of_mem_events (h.typed_hand hhand d List.mem_cons_self) hevent⟩

private theorem Sound.parses_inHand (h : s.Sound topicPrefix) : ∀ d ∈ s.inHand side, ParsesBack (json d.message) := by
  intro d hd
  cases hhand : s.db.hand side with
  | nil =>
    rw [inHand, hhand] at hd
    cases hd
  | cons entry rest =>
    rw [inHand, hhand] at hd
    obtain rfl := List.mem_singleton.1 hd
    exact (h.of_hand hhand).1

variable [MosquittoLibrary]

theorem HasTrail.step (h : ∀ side, s.HasTrail R topicPrefix side) (hsound : s.Sound topicPrefix)
    (hobjects : DumpsObjects) (hrefl : ∀ events, R events events) {a : PipelineAction}
    (hR : s.Loses a → ∀ part events, part <+: events → R part events) (hs : s.step topicPrefix a = some s')
    (side : Side) : s'.HasTrail R topicPrefix side := by
  cases outcome_of_step hs with
  | daemon => exact (h side).congr rfl rfl rfl rfl
  | @delivered side' msg throws d hside hidle hstep =>
    obtain ⟨hrecords, -⟩ := hsound.typed_delivered hside hstep
    obtain ⟨hbefore, hafter⟩ :=
      onTheWay_delivered ⟨s.traffic.daemon, s.traffic.deliveries ++ [d]⟩ d.records hidle
    by_cases hsame : side = side'
    · subst hsame
      refine (h side).deliver hbefore ((congrFun hafter side).trans (Function.update_self ..)) ?_ rfl
      unfold heardOn
      rw [List.filter_append, List.filterMap_append, List.filter_cons_of_pos (by simp [hside]), hrecords]
      cases hheard : d.heard topicPrefix <;> simp [hheard]
    · have hother : d.side ≠ side := fun heq => hsame (heq.symm.trans hside)
      refine (h side).congr ((congrFun hafter side).trans (Function.update_of_ne hsame ..)) ?_ rfl rfl
      simp [heardOn, hother]
  | @dispatched side' d rest db hpending hstep =>
    obtain ⟨hbefore, hafter⟩ := onTheWay_dispatched hpending hstep
    obtain ⟨hhand, rfl⟩ := Cqrs.dispatch_cases hstep
    by_cases hsame : side = side'
    · subst hsame
      exact (h side).dispatch hrefl hhand hbefore ((congrFun hafter side).trans (Function.update_self ..))
        (Function.update_self ..) rfl rfl
    · exact (h side).congr ((congrFun hafter side).trans (Function.update_of_ne hsame ..)) rfl rfl
        (Function.update_of_ne hsame ..)
  | restarted hstep =>
    obtain rfl := Option.some.inj hstep
    by_cases hidle : ∀ side, s.Idle side
    · refine (h side).congr ?_ rfl rfl (hidle side).2.symm
      simp [onTheWay, (hidle side).1, (hidle side).2]
    · refine (h side).lose (s.pending side) (hR hidle) hsound.parses_inHand ?_ rfl rfl rfl
      simp [onTheWay, inHand]
  | @inserted side' now db hstep =>
    obtain ⟨d, event, rest, hhand, hhand', -, hlog⟩ := Cqrs.insert_cases hobjects hsound.db hstep
    obtain ⟨hparse, hdirection, hcontent⟩ := hsound.of_hand hhand
    obtain ⟨e, he, hdirection', hrows⟩ := rows_insert (s := s) hlog
    have hrowsOf := rowsOf_append hrows (hdirection'.trans hdirection)
    obtain ⟨hbefore, hafter⟩ := onTheWay_hand hhand (hsound.hand_same hhand) hhand'
    by_cases hsame : side = side'
    · subst hsame
      refine (h side).insert hrefl hhand (hsound.hand_same hhand) hparse hbefore
        ((congrFun hafter side).trans (Function.update_self ..)) ?_ rfl ?_
      · exact (congrFun hhand' side).trans (Function.update_self ..)
      · rw [hrowsOf side, if_pos rfl, List.map_append, List.map_singleton, he, hcontent]
    · refine (h side).congr ((congrFun hafter side).trans (Function.update_of_ne hsame ..)) rfl ?_ ?_
      · rw [hrowsOf side, if_neg hsame, List.append_nil]
      · exact (congrFun hhand' side).trans (Function.update_of_ne hsame ..)
  | @threw side' db hstep =>
    obtain ⟨d, event, rest, hhand, rfl⟩ := Cqrs.insertThrows_cases hstep
    have hhand' : Cqrs.hand { s.db with hand := Function.update s.db.hand side' [] } =
        Function.update s.db.hand side' [] := rfl
    obtain ⟨-, hafter⟩ := onTheWay_hand hhand (List.forall_mem_nil _) hhand'
    by_cases hsame : side = side'
    · subst hsame
      refine (h side).lose [] (hR trivial) hsound.parses_inHand ?_ (Function.update_self ..) rfl rfl
      rw [hafter, Function.update_self, List.append_nil]
      rfl
    · exact (h side).congr ((congrFun hafter side).trans (Function.update_of_ne hsame ..)) rfl rfl
        (Function.update_of_ne hsame ..)
  | @projection b db hb hstep =>
    obtain ⟨hhand, -, hevents⟩ := Cqrs.hand_of_step hb hstep
    refine (h side).congr (by simp [onTheWay, hhand]) rfl ?_ (congrFun hhand side)
    rw [rowsOf, Pipeline.rows, hevents]
    rfl

/-- Each row is one of a side. -/
def Known (s : Pipeline) : Prop := ∀ e ∈ s.rows, ∃ side : Side, e.direction = side.direction

theorem Known.step (h : s.Known) (hsound : s.Sound topicPrefix) (hobjects : DumpsObjects) {a : PipelineAction}
    (hs : s.step topicPrefix a = some s') : s'.Known := by
  cases outcome_of_step hs with
  | daemon | delivered => exact h
  | dispatched hpending hstep =>
    obtain ⟨-, rfl⟩ := Cqrs.dispatch_cases hstep
    exact h
  | restarted hstep =>
    obtain rfl := Option.some.inj hstep
    exact h
  | @inserted side now db hstep =>
    obtain ⟨d, event, rest, hhand, -, -, hlog⟩ := Cqrs.insert_cases hobjects hsound.db hstep
    obtain ⟨e, -, hdirection, hrows⟩ := rows_insert (s := s) hlog
    intro e' he'
    rw [hrows] at he'
    rcases List.mem_append.1 he' with he' | he'
    · exact h e' he'
    · rw [List.mem_singleton.1 he']
      exact ⟨side, hdirection.trans (hsound.of_hand hhand).2.1⟩
  | threw hstep =>
    obtain ⟨d, event, rest, -, rfl⟩ := Cqrs.insertThrows_cases hstep
    exact h
  | projection hb hstep =>
    obtain ⟨-, -, hevents⟩ := Cqrs.hand_of_step hb hstep
    unfold Known Pipeline.rows
    rw [hevents]
    exact h

/-! ### Runs -/

theorem hasTrail_of_reach {allowed : Pipeline → PipelineAction → Prop} (hobjects : DumpsObjects)
    (harrays : DumpsArrays) (hrefl : ∀ events, R events events) (hparses : ∀ s a, allowed s a → s.Parses a)
    (hR : ∀ s a, allowed s a → s.Loses a → ∀ part events, part <+: events → R part events)
    (h : (system topicPrefix).Reach allowed s) : ∀ side, s.HasTrail R topicPrefix side := by
  refine h.invariant (fun s hs side => ?_) fun s a s' hreach hI ha hs =>
    HasTrail.step hI (sound_of_reach hobjects harrays (hreach.mono hparses)) hobjects hrefl (hR s a ha) hs
  obtain rfl : s = {} := hs
  exact ⟨[], [], [], rfl, .nil, rfl, rfl⟩

theorem known_of_reach (hobjects : DumpsObjects) (harrays : DumpsArrays) (h : (system topicPrefix).Reach Parses s) :
    s.Known := by
  refine h.invariant (fun s hs e he => ?_) fun s a s' hreach hI ha hs =>
    hI.step (sound_of_reach hobjects harrays hreach) hobjects hs
  obtain rfl : s = {} := hs
  cases he

omit [Library] [MosquittoLibrary] in
/-- What is left of the events of a message are rows of its first items. -/
theorem Left.rows {d : Dispatched} (htype : d.type ∈ side.types) {block : List Vda5050Event}
    (h : Left (· <+: ·) d (block.map Vda5050Event.content)) :
    (∀ e ∈ block, IsRowOf d e) ∧ block.map Vda5050Event.itemId <+: d.items := by
  have hevents := h.events
  rw [Dispatched.events_eq htype] at hevents
  constructor
  · intro e he
    have hmem : e.content ∈ block.map Vda5050Event.content := List.mem_map_of_mem he
    obtain ⟨item, -, hcontent⟩ := List.mem_map.1 (hevents.subset hmem)
    exact (Recording.isRowOf_of_content htype (h.parses (List.ne_nil_of_mem hmem)) hcontent.symm).1
  · have hitems := hevents.map Vda5050Event.itemId
    rw [List.map_map, List.map_map] at hitems
    have hid : Vda5050Event.itemId ∘ d.event side = id := rfl
    rw [hid, List.map_id] at hitems
    exact hitems

omit [MosquittoLibrary] in
private theorem type_mem_of_heardOn {d : Dispatched} (h : d ∈ s.heardOn topicPrefix side) : d.type ∈ side.types := by
  obtain ⟨u, hu, hheard⟩ := List.mem_filterMap.1 h
  have hside : u.side = side := of_decide_eq_true (List.mem_filter.1 hu).2
  exact hside ▸ Delivery.type_mem_of_heard hheard

/-- After any run in which the subscriptions succeed, with failures and with restarts of the process, the rows are those
of the messages that were heard on the two sides, in the order of the messages: of each a row for each item, or for the
first items only. -/
theorem rows_of_heard (hobjects : DumpsObjects) (harrays : DumpsArrays) (h : (system topicPrefix).Reach Parses s) :
    (∀ e ∈ s.rows, ∃ side : Side, e.direction = side.direction) ∧
      ∀ side, Feed.Leaves (fun d block => (∀ e ∈ block, IsRowOf d e) ∧ block.map Vda5050Event.itemId <+: d.items)
        (s.heardOn topicPrefix side) (s.rowsOf side) := by
  refine ⟨known_of_reach hobjects harrays h, fun side => ?_⟩
  obtain ⟨done, left, part, htrail⟩ := hasTrail_of_reach (R := (· <+: ·)) hobjects harrays List.prefix_refl
    (fun _ _ ha => ha) (fun _ _ _ _ _ _ hpart => hpart) h side
  -- the message in hand has left its first rows, and those after it none
  have hinHand := htrail.leaves_inHand (fun _ _ hpart => hpart) (sound_of_reach hobjects harrays h).parses_inHand
  have hpending : Feed.Leaves (Left (· <+: ·)) (s.pending side) [] :=
    Feed.Leaves.nothing fun d _ => ⟨List.nil_prefix, fun hne => absurd rfl hne⟩
  have hleaves : Feed.Leaves (Left (· <+: ·)) (s.heardOn topicPrefix side)
      ((s.rowsOf side).map Vda5050Event.content) := by
    have happend := htrail.leaves.append (hinHand.append hpending)
    rw [List.append_nil] at happend
    rw [htrail.rows, ← htrail.heard]
    exact happend
  exact hleaves.of_map.imp fun d hd block hblock => hblock.rows (type_mem_of_heardOn hd)

/-- The cloud client connects before the recorder is constructed. -/
def hearingRun : List Mqtt.Action := subscribedRun ++
  [.onConnect .localSide true, .connecting .cloudSide, .onConnect .cloudSide true, .initCloud fun _ => true,
    .setupBridge, .notify, .constructRecorder, .attach]

omit [JsonLibrary] [Library] [MosquittoLibrary] in
private theorem dumps_queued :
    letI := JsonLibrary.ofTexts [offlineText, queuedText]
    DumpsObjects ∧ DumpsArrays := by
  refine Cqrs.dumps_ofTexts fun e he => ?_
  simp only [List.mem_cons, List.not_mem_nil, or_false] at he
  rcases he with rfl | rfl
  · exact .inl (by decide +kernel)
  · exact .inl (by decide +kernel)

omit [JsonLibrary] [Library] [MosquittoLibrary] in
private theorem speaks_queued {daemon : Daemon} (hloops : daemon.loopsRunning = true)
    (hcallback : daemon.callback = .idle) (hhears : daemon.hears .cloudSide = true) :
    letI := JsonLibrary.ofTexts [offlineText, queuedText]
    Speaks "uagv/v3" daemon .cloudSide ⟨"uagv/v3/acme/7/responses", queuedText.2.1⟩ queued := by
  let lib := JsonLibrary.ofTexts [offlineText, queuedText]
  have htemplate : parseTopicPrefix "uagv/v3" = some ⟨"uagv", "v3", "", ""⟩ := by decide
  have hcontext : VDA5050TopicContext.parseTopicContext ⟨"uagv", "v3", "", ""⟩ "uagv/v3/acme/7/responses"
      "responses" = some ⟨"uagv", "v3", "acme", "7"⟩ := by decide
  have htype : MessageType.responses ∈ Side.cloudSide.types := by decide
  have hvalid : ValidTopic "uagv/v3/acme/7/responses" := by decide
  have hparse : ParsesBack (json queued.message) :=
    parsesBack_json_ofTexts _ queuedText (t := .responses) _ rfl rfl rfl (by simp [offlineText, queuedText])
  have hdecode : decode queuedText.2.1 = .ok queued.message :=
    decode_ofTexts _ queuedText (t := .responses) _ rfl (by simp [offlineText, queuedText])
  exact ⟨hloops, fun _ => hcallback, hhears, hvalid,
    fun calls => Delivery.read_eq htemplate htype hcontext hdecode, hparse⟩

omit [JsonLibrary] [Library] [MosquittoLibrary] in
/-- A robot goes offline.  Then two of its requests are queued, and the process is killed after the first row. -/
theorem rows_of_heard_queued :
    letI := JsonLibrary.ofTexts [offlineText, queuedText]
    letI := Library.ofDigits
    letI := MosquittoLibrary.levelwise
    ∃ s : Pipeline, s.heard "uagv/v3" = [wentOffline, queued] ∧ s.rows.map Vda5050Event.itemId = ["acme.7", "A"] ∧
      (∀ e ∈ s.rows, ∃ side : Side, e.direction = side.direction) ∧
      ∀ side, Feed.Leaves (fun d block => (∀ e ∈ block, IsRowOf d e) ∧ block.map Vda5050Event.itemId <+: d.items)
        (s.heardOn "uagv/v3" side) (s.rowsOf side) := by
  let lib := JsonLibrary.ofTexts [offlineText, queuedText]
  let sqlLib := Library.ofDigits
  let mosquitto := MosquittoLibrary.levelwise
  have hrun : (replay (guarded (Daemon.step "uagv/v3") Daemon.Succeeds) {} hearingRun).any
      (fun s => s.loopsRunning && s.callback == .idle && s.listening && s.hears .cloudSide) = true := by decide
  obtain ⟨daemon, hdaemon, hholds⟩ := (Option.any_eq_true _ _).1 hrun
  simp only [Bool.and_eq_true, beq_iff_eq] at hholds
  obtain ⟨⟨⟨hloops, hcallback⟩, hlistening⟩, hhears⟩ := hholds
  obtain ⟨hobjects, harrays⟩ := dumps_queued
  have hquiet : (system "uagv/v3").Reach Works (quiet daemon) := reach_quiet (reach_of_replay (.init rfl) hdaemon)
  have hspeaks : Speaks "uagv/v3" daemon .localSide ⟨"uagv/v3/acme/7/connection", offlineText.2.1⟩ wentOffline :=
    speaks_connection hloops hlistening (decode_ofTexts _ offlineText (t := .connection) _ rfl (by simp))
      (parsesBack_json_ofTexts _ offlineText (t := .connection) _ rfl rfl rfl (by simp))
  have hspeaks' := speaks_queued hloops hcallback hhears
  obtain ⟨offline, hoffline, hrobot⟩ : ∃ event, wentOffline.events = [event] ∧ event.itemId = "acme.7" :=
    ⟨_, rfl, rfl⟩
  obtain ⟨s, hs, hheard, hidle, -, hsame, hlog⟩ := exists_recorded hobjects harrays hquiet (fun _ => ⟨rfl, rfl⟩) hspeaks
    hoffline "2026-01-01T00:00:00Z"
  have hdaemon : s.traffic.daemon = daemon := hsame
  rw [← hdaemon] at hspeaks'
  -- the thread of the cloud client has the two events of the message in hand
  obtain ⟨first, second, hqueued, hrequest⟩ :
      ∃ first second, queued.events = [first, second] ∧ first.itemId = "A" := ⟨_, _, rfl, rfl⟩
  let t : Cqrs := { s.db with hand := Function.update s.db.hand .cloudSide [(queued, first), (queued, second)] }
  have hdispatch : s.db.step (.dispatch .cloudSide queued) = some t := by
    simp [Cqrs.step, (hidle .cloudSide).2, hqueued, t]
  obtain ⟨d, -, hd, hreach⟩ := exists_dispatched hobjects harrays hs (hidle .cloudSide) hspeaks' hdispatch
  let s₁ : Pipeline := { s with traffic := ⟨s.traffic.daemon, s.traffic.deliveries ++ [d]⟩, db := t }
  have hplain : Value.PlainText first.payload := Value.plainText_of_bracketed
    (bracketed_of_mem_recordedEvents hobjects (hqueued ▸ List.mem_cons_self : first ∈ queued.events))
  have hhand : t.hand .cloudSide = [(queued, first), (queued, second)] := by simp [t]
  obtain ⟨events, hlog', hinsert⟩ := Cqrs.exists_insert hhand hplain "2026-01-01T00:00:01Z"
  let s₂ : Pipeline := { s₁ with
    db := { t with events, hand := Function.update t.hand .cloudSide [(queued, second)] } }
  have hstored : s₁.step "uagv/v3" (.db (.insert .cloudSide "2026-01-01T00:00:01Z")) = some s₂ := by
    simp only [step, s₁, hinsert]
    rfl
  have hinserts : s₁.Parses (.db (.insert .cloudSide "2026-01-01T00:00:01Z")) := trivial
  -- it is killed before the second one is inserted
  let u : Pipeline := {
    traffic := { s₂.traffic with daemon := {} }
    db := { s₂.db with phase := .waiting, hand := fun _ => [] } }
  have hrestart : s₂.step "uagv/v3" (.db .restart) = some u := rfl
  have hkilled : s₂.Parses (.db .restart) := trivial
  have hu : (system "uagv/v3").Reach Parses u :=
    ((hreach.mono fun _ _ => parses_of_works).step hinserts hstored).step hkilled hrestart
  have hheard' : u.heard "uagv/v3" = [wentOffline, queued] := by
    show (s.traffic.deliveries ++ [d]).filterMap (Delivery.heard "uagv/v3") = _
    rw [List.filterMap_append, List.filterMap_cons_some hd, List.filterMap_nil]
    exact congrArg (· ++ [queued]) hheard
  have hrows : u.rows.map Vda5050Event.itemId = ["acme.7", "A"] := by
    show (Vda5050EventsRepository.log events).events.map Vda5050Event.itemId = _
    rw [hlog']
    show ((Vda5050EventsRepository.log s.db.events).insert _ first).events.map Vda5050Event.itemId = _
    rw [hlog]
    simp [EventLog.insert, hrobot, hrequest]
    rfl
  exact ⟨u, hheard', hrows, rows_of_heard hobjects harrays hu⟩

/-! ### Without failures -/

/-- A message that lists something. -/
def lists (d : Dispatched) : Bool := d.items ≠ []

omit [Library] [MosquittoLibrary] in
/-- The others leave no events. -/
private theorem flatMap_events_filter {ds : List Dispatched} (h : ∀ d ∈ ds, d.type ∈ side.types) :
    (ds.filter lists).flatMap Dispatched.events = ds.flatMap Dispatched.events := by
  induction ds with
  | nil => rfl
  | cons d ds ih =>
    have htail := ih fun d' hd' => h d' (List.mem_cons_of_mem d hd')
    cases hlists : lists d with
    | true => rw [List.filter_cons_of_pos hlists, List.flatMap_cons, List.flatMap_cons, htail]
    | false =>
      have hitems : d.items = [] := by simpa [lists] using hlists
      have hevents : d.events = [] := by rw [Dispatched.events_eq (h d List.mem_cons_self), hitems, List.map_nil]
      rw [List.filter_cons_of_neg (by simp [hlists]), List.flatMap_cons, hevents, List.nil_append, htail]

omit [MosquittoLibrary] in
/-- The table is that of two listener threads that have been called with the messages that are done or in hand. -/
private theorem progress_of_trails {done : Side → List Dispatched} {left part : Side → List Vda5050Event}
    (hknown : s.Known)
    (h : ∀ side, s.Trail Eq topicPrefix side (done side) (left side) (part side)) :
    Recording.Progress ⟨Vda5050EventsRepository.log s.db.events, s.missing,
      fun side => (done side ++ s.inHand side).filter lists⟩ := by
  have htypes : ∀ side, ∀ d ∈ done side ++ s.inHand side, d.type ∈ side.types := by
    intro side d hd
    have hmem : d ∈ s.heardOn topicPrefix side := by
      rw [← (h side).heard, onTheWay, ← List.append_assoc]
      exact List.mem_append_left _ hd
    exact type_mem_of_heardOn hmem
  refine ⟨fun side d hd => htypes side d (List.mem_of_mem_filter hd), fun side => ?_, hknown⟩
  have hrows := (h side).rows
  have hcurrent := (h side).current
  have hleft : left side = (done side).flatMap Dispatched.events :=
    (h side).leaves.eq_flatMap fun d rows hleft => hleft.events
  show (s.rowsOf side).map Vda5050Event.content ++ s.missing side = _
  rw [flatMap_events_filter (htypes side), List.flatMap_append, hrows, hleft, List.append_assoc, hcurrent]

/-- When nothing has failed and a thread has done with all messages, the messages heard on its side that list something
are read back from the table. -/
theorem replays_heard (hobjects : DumpsObjects) (harrays : DumpsArrays) (h : (system topicPrefix).Reach Works s)
    (hidle : s.Idle side) {t : MessageType} (ht : t ∈ side.types) :
    Recording.readBack t (s.rows.filter fun e => e.topic = recordedTopic t) =
      ((s.heardOn topicPrefix side).filter lists).filterMap (Recording.ofType t) := by
  have hparses : (system topicPrefix).Reach Parses s := h.mono fun _ _ => parses_of_works
  choose done left part htrail using hasTrail_of_reach (R := Eq) hobjects harrays (fun _ => rfl)
    (fun _ _ => parses_of_works) (fun _ _ hworks hloses => absurd hloses (not_loses_of_works hworks)) h
  have hprogress := progress_of_trails (known_of_reach hobjects harrays hparses) htrail
  have hinHand : s.inHand side = [] := by rw [inHand, hidle.2]; rfl
  have hmissing : s.missing side = [] := by rw [missing, hidle.2]; rfl
  have hdone : done side ++ s.inHand side = s.heardOn topicPrefix side := by
    rw [← (htrail side).heard, onTheWay, hidle.1, List.append_nil]
    rfl
  rw [← hdone]
  refine Recording.readBack_of_listsSomething hprogress hmissing (fun d hd => ?_) (fun d hd => ?_) ht
  · have hlists : d.items ≠ [] := of_decide_eq_true (List.mem_filter.1 hd).2
    have hmem : d ∈ done side := by
      have hmem := (List.mem_filter.1 hd).1
      rwa [hinHand, List.append_nil] at hmem
    obtain ⟨block, hblock⟩ := (htrail side).leaves.exists_of_mem hmem
    refine hblock.parses ?_
    rw [hblock.events, Dispatched.events_eq (hprogress.types side d hd)]
    exact fun hnil => hlists (List.map_eq_nil_iff.1 hnil)
  · rw [Dispatched.listsNothing_iff]
    exact of_decide_eq_true (List.mem_filter.1 hd).2

omit [JsonLibrary] [Library] [MosquittoLibrary] in
theorem replays_heard_offline :
    letI := JsonLibrary.ofTexts connectionTexts
    letI := Library.ofDigits
    letI := MosquittoLibrary.levelwise
    ∃ s : Pipeline, s.heard "uagv/v3" = [wentOnline, wentOffline] ∧
      Recording.readBack .connection (s.rows.filter fun e => e.topic = recordedTopic .connection) =
        ((s.heardOn "uagv/v3" .localSide).filter lists).filterMap (Recording.ofType .connection) := by
  let lib := JsonLibrary.ofTexts connectionTexts
  let sqlLib := Library.ofDigits
  let mosquitto := MosquittoLibrary.levelwise
  obtain ⟨s, hs, hheard, hidle, -⟩ := reach_acme
  exact ⟨s, hheard, replays_heard Cqrs.dumps_acme.1 Cqrs.dumps_acme.2 hs (hidle .localSide) (by decide)⟩

end SyriusOrbit.Pipeline

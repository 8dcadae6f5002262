import SyriusOrbit.Mqtt.Brokers
import SyriusOrbit.Mqtt.Reading

/-!
# Messages that are passed on

All that a delivery calls, through both clients and in any run: `Publish` on the other endpoint if the bridge is
registered, the recorder if it is registered, and nothing else, so in particular nothing that is not there any more
(`calls_of_reach`).  A message that is passed from daemon to daemon is published by each with the text that the first
one has published (`passed_unchanged`).
-/

namespace SyriusOrbit.Mqtt

open JsonFormat Vda5050 Transition Effect VDA5050EndPoint

/-! ### The calls of a delivery -/

/-- Callbacks that forward before callbacks of the recorder. -/
private theorem perm_of_counts (listeners : List Listener) : listeners.Perm
    (List.replicate (listeners.count .bridge) .bridge ++ List.replicate (listeners.count .recorder) .recorder) := by
  rw [List.perm_iff_count]
  intro listener
  cases listener <;> simp [List.count_replicate]

variable [JsonLibrary]

namespace Delivery

/-- The message as it is forwarded. -/
def forwardOf (d : Delivery) (u : Dispatched) : Outgoing :=
  ⟨d.message.topic, JsonLibrary.dump (pruneTopLevelFields (toJson u.message)), qos u.type, false⟩

/-- What is to be called for a message that says `u`. -/
def due (d : Delivery) (u : Dispatched) : List Call :=
  List.replicate (if d.daemon.bridged then 1 else 0) (.publish d.side.other u.type (some (d.forwardOf u))) ++
    List.replicate (if d.daemon.hears d.side then 1 else 0) (.record u)

variable [MosquittoLibrary] {topicPrefix : String} {d : Delivery}

/-- With the bridge the message is published on the topic it was read from. -/
private theorem callOf_bridge (hmade : Traffic.Made d topicPrefix Daemon.Succeeds) (hbridged : d.daemon.bridged = true)
    {ep : VDA5050EndPoint} (hep : d.daemon.endpoint d.side = some ep) {u : Dispatched}
    (hread : d.read topicPrefix = some u) :
    d.daemon.callOf d.side u .bridge = .publish d.side.other u.type (some (d.forwardOf u)) := by
  obtain ⟨-, hinterface, hversion, htemplate⟩ := hmade.served hep
  obtain ⟨ht, hcontext, -⟩ := of_read htemplate hread
  have hreach := hmade.reach.reachable
  obtain ⟨ep', hep'⟩ :=
    (Daemon.ready_of_reachable hreach).endpoint_of_bridged hmade.loops hbridged d.side.other
  have hfits := (Daemon.wired_of_reachable hreach).2.fits _ _ hep'
  have hpublish := publish_of_topicOf (hfits.side_eq.trans (publisher_of_mem_types ht).symm) hfits.stopped
    (VDA5050TopicContext.topicOf_of_parseTopicContext hcontext) hinterface hversion u.message
  simp only [Daemon.callOf, hep', hpublish, forwardOf]

private theorem calls_perm (hmade : Traffic.Made d topicPrefix Daemon.Succeeds) :
    d.calls.Perm ((d.read topicPrefix).toList.flatMap d.due) := by
  rcases calls_eq hmade with ⟨hnone, hcalls⟩ | ⟨ep, hep, hcalls⟩
  · -- without an endpoint nothing is due
    have hidle := hmade.unregistered hnone
    have hdue : ∀ u ∈ (d.read topicPrefix).toList, d.due u = [] := fun u _ => by simp [due, hidle]
    rw [hcalls, List.flatMap_eq_nil_iff.2 hdue]
  · rw [hcalls]
    cases hread : d.read topicPrefix with
    | none => exact .refl _
    | some u =>
      have hreach := hmade.reach.reachable
      obtain ⟨topicTemplate, htemplate, -⟩ := Option.bind_eq_some_iff.1 hread
      have ht := (of_read htemplate hread).1
      have hbridges : (ep.callbacks u.type).count .bridge = if d.daemon.bridged then 1 else 0 :=
        Daemon.forwards_of_reachable hreach d.side ep hep u.type ht
      have hperm := (perm_of_counts (ep.callbacks u.type)).map (d.daemon.callOf d.side u)
      rw [List.map_append, List.map_replicate, List.map_replicate, hbridges, Daemon.count_recorder hreach hep ht]
        at hperm
      rw [Option.toList_some, List.flatMap_singleton, List.flatMap_singleton]
      refine hperm.trans (.of_eq ?_)
      have hrecorder : d.daemon.callOf d.side u .recorder = .record u := rfl
      cases hbridged : d.daemon.bridged with
      | false => simp [due, hbridged, hrecorder]
      | true => simp [due, hbridged, hrecorder, callOf_bridge hmade hbridged hep hread]

omit [MosquittoLibrary] in
private theorem sent_due (d : Delivery) (u : Dispatched) :
    (d.due u).filterMap Call.sent = if d.daemon.bridged then [(d.side.other, d.forwardOf u)] else [] := by
  unfold due
  cases d.daemon.bridged <;> cases d.daemon.hears d.side <;> rfl

/-- What is handed to the clients to be published. -/
private theorem sent_eq (hmade : Traffic.Made d topicPrefix Daemon.Succeeds) : d.calls.filterMap Call.sent =
    if d.daemon.bridged then (d.read topicPrefix).toList.map fun u => (d.side.other, d.forwardOf u) else [] := by
  have hsent := (calls_perm hmade).filterMap Call.sent
  cases hread : d.read topicPrefix with
  | none =>
    rw [hread] at hsent
    rw [List.perm_nil.1 hsent]
    split <;> rfl
  | some u =>
    rw [hread, Option.toList_some, List.flatMap_singleton, sent_due] at hsent
    split
    · next hbridged =>
      rw [if_pos hbridged] at hsent
      exact List.perm_singleton.1 hsent
    · next hbridged =>
      rw [if_neg hbridged] at hsent
      exact List.perm_nil.1 hsent

end Delivery

/-! ### A robot goes online -/

/-- The recorder is attached, and both clients connect. -/
def relayRun : List Action := attachedRun ++
  [.onConnect .localSide true, .connecting .cloudSide, .onConnect .cloudSide true, .initCloud fun _ => true,
    .setupBridge, .notify]

/-- The robot `acme.7` goes online. -/
def connectionMessage : MqttMessage := ⟨"uagv/v3/acme/7/connection", onlineText.2.1⟩

omit [JsonLibrary] in
/-- As it is published, the message is the same text. -/
private theorem forward_online :
    letI := JsonLibrary.ofTexts connectionTexts
    JsonLibrary.dump (pruneTopLevelFields (toJson wentOnline.message)) = onlineText.2.1 ∧
      ParsesBack (pruneTopLevelFields (toJson wentOnline.message)) := by
  exact ⟨rfl, rfl⟩

omit [JsonLibrary] in
private theorem read_online (daemon : Daemon) (calls : List Call) :
    letI := JsonLibrary.ofTexts connectionTexts
    Delivery.read "uagv/v3" ⟨daemon, .localSide, connectionMessage, calls⟩ = some wentOnline := by
  let lib := JsonLibrary.ofTexts connectionTexts
  have htemplate : parseTopicPrefix "uagv/v3" = some ⟨"uagv", "v3", "", ""⟩ := by decide
  have hcontext : VDA5050TopicContext.parseTopicContext ⟨"uagv", "v3", "", ""⟩ connectionMessage.topic "connection" =
      some ⟨"uagv", "v3", "acme", "7"⟩ := by decide
  have ht : MessageType.connection ∈ Side.localSide.types := by decide
  exact Delivery.read_eq htemplate ht hcontext decode_acme.1

omit [JsonLibrary] in
/-- A daemon that forwards is handed the message at the end of a run. -/
private theorem exists_online (run : List Action) (records : Bool)
    (hrun : (replay (guarded (Daemon.step "uagv/v3") Daemon.Succeeds) {} run).any
      (fun s => s.loopsRunning && s.bridged && s.hears .localSide == records) = true) :
    letI := JsonLibrary.ofTexts connectionTexts
    letI := MosquittoLibrary.levelwise
    ∃ s, (Traffic.system "uagv/v3").Reach (Traffic.Lift Daemon.Succeeds) s ∧ ∃ d ∈ s.deliveries,
      d.side = .localSide ∧ d.message = connectionMessage ∧ d.read "uagv/v3" = some wentOnline ∧
      d.daemon.bridged = true ∧ d.daemon.hears .localSide = records := by
  let lib := JsonLibrary.ofTexts connectionTexts
  let mosquitto := MosquittoLibrary.levelwise
  obtain ⟨daemon, hdaemon, hholds⟩ := (Option.any_eq_true _ _).1 hrun
  simp only [Bool.and_eq_true, beq_iff_eq] at hholds
  obtain ⟨⟨hloops, hbridged⟩, hhears⟩ := hholds
  have hvalid : ValidTopic connectionMessage.topic := by decide
  have hlocal : Side.localSide = .cloudSide → daemon.callback = .idle := fun h => by cases h
  have hdelivered := Traffic.reach_deliver (reach_of_replay (.init rfl) hdaemon) connectionMessage (fun _ => false)
    hloops hlocal hvalid
  exact ⟨_, hdelivered, _, List.mem_singleton_self _, rfl, rfl, read_online daemon _, hbridged, hhears⟩

/-! ### What a run calls -/

/-- In every run in which the subscriptions succeed, a delivery calls exactly what is due for the message that its topic
and its payload say, and nothing if they cannot be read; nothing is called through an endpoint that is not there. -/
theorem calls_of_reach [MosquittoLibrary] {topicPrefix : String} {s : Traffic}
    (h : (Traffic.system topicPrefix).Reach (Traffic.Lift Daemon.Succeeds) s) :
    ∀ d ∈ s.deliveries, d.calls.Perm ((d.read topicPrefix).toList.flatMap d.due) ∧ Call.dangling ∉ d.calls := by
  intro d hd
  have hperm := Delivery.calls_perm (Traffic.made_of_reach h d hd)
  refine ⟨hperm, fun hdangling => ?_⟩
  obtain ⟨u, -, hdue⟩ := List.mem_flatMap.1 (hperm.subset hdangling)
  rcases List.mem_append.1 hdue with hdue | hdue
  · cases List.eq_of_mem_replicate hdue
  · cases List.eq_of_mem_replicate hdue

omit [JsonLibrary] in
/-- It forwards the message and records it. -/
theorem calls_of_reach_online :
    letI := JsonLibrary.ofTexts connectionTexts
    letI := MosquittoLibrary.levelwise
    ∃ s, (Traffic.system "uagv/v3").Reach (Traffic.Lift Daemon.Succeeds) s ∧ ∃ d ∈ s.deliveries,
      d.calls.Perm [.publish .cloudSide .connection (some ⟨"uagv/v3/acme/7/connection", onlineText.2.1, 1, false⟩),
        .record wentOnline] := by
  let lib := JsonLibrary.ofTexts connectionTexts
  let mosquitto := MosquittoLibrary.levelwise
  obtain ⟨s, hs, d, hd, hside, hmessage, hread, hbridged, hhears⟩ := exists_online relayRun true (by decide)
  obtain ⟨hperm, -⟩ := calls_of_reach hs d hd
  refine ⟨s, hs, d, hd, hperm.trans (.of_eq ?_)⟩
  simp only [hread, Option.toList_some, List.flatMap_singleton, Delivery.due, hbridged, hside, hhears,
    Delivery.forwardOf, hmessage, forward_online.1]
  rfl

/-! ### Several daemons -/

omit [JsonLibrary] in
private theorem absentIfEmpty_absentIfEmpty {α : Type} (o : Option (List α)) :
    absentIfEmpty (absentIfEmpty o) = absentIfEmpty o := by
  match o with
  | none => rfl
  | some [] => rfl
  | some (a :: as) => rfl

omit [JsonLibrary] in
private theorem withoutEmptyArrays_withoutEmptyArrays {t : MessageType} (m : t.Message) :
    withoutEmptyArrays (withoutEmptyArrays m) = withoutEmptyArrays m := by
  cases t with
  | state => simp only [withoutEmptyArrays, absentIfEmpty_absentIfEmpty]
  | _ => rfl

/-- The message as it is read after it has been forwarded. -/
def passed (u : Dispatched) : Dispatched := ⟨u.context, u.type, withoutEmptyArrays u.message⟩

omit [JsonLibrary] in
private theorem passed_passed (u : Dispatched) : passed (passed u) = passed u := by
  unfold passed
  rw [withoutEmptyArrays_withoutEmptyArrays]

private theorem pruneTopLevelFields_passed (u : Dispatched) :
    pruneTopLevelFields (toJson (passed u).message) = pruneTopLevelFields (toJson u.message) :=
  pruneTopLevelFields_withoutEmptyArrays u.message

variable [MosquittoLibrary]

/-- A daemon is handed what another has published, on the side that the message has reached the other on. -/
structure Hop (topicPrefix : String) (d d' : Delivery) : Prop where
  made : Traffic.Made d' topicPrefix Daemon.Succeeds
  side_eq : d'.side = d.side
  sent : ∃ out, (d.side.other, out) ∈ d.calls.filterMap Call.sent ∧ d'.message = ⟨out.topic, out.payload⟩

variable {topicPrefix : String} {d d' : Delivery} {u : Dispatched}

/-- What the next daemon reads and is going to forward. -/
theorem Hop.step (h : Hop topicPrefix d d') (hmade : Traffic.Made d topicPrefix Daemon.Succeeds)
    (hread : d.read topicPrefix = some u) (hparse : ParsesBack (pruneTopLevelFields (toJson u.message))) :
    d'.read topicPrefix = some (passed u) ∧ d'.forwardOf (passed u) = d.forwardOf u := by
  obtain ⟨out, hout, hmessage⟩ := h.sent
  have hforward : out = d.forwardOf u := by
    rw [Delivery.sent_eq hmade, hread] at hout
    split at hout
    · simpa using hout
    · cases hout
  subst hforward
  obtain ⟨topicTemplate, htemplate, -⟩ := Option.bind_eq_some_iff.1 hread
  obtain ⟨ht, hcontext, -⟩ := Delivery.of_read htemplate hread
  constructor
  · refine Delivery.read_eq htemplate (h.side_eq ▸ ht) (hmessage ▸ hcontext) ?_
    rw [hmessage]
    exact (decode_dump hparse).trans (fromJson_pruneTopLevelFields u.message)
  · rw [Delivery.forwardOf, pruneTopLevelFields_passed, hmessage]
    rfl

/-- The message has come to a daemon: as it was, or as it is passed on. -/
structure Comes (topicPrefix : String) (d : Delivery) (u : Dispatched) (d' : Delivery) (u' : Dispatched) : Prop where
  made : Traffic.Made d' topicPrefix Daemon.Succeeds
  side_eq : d'.side = d.side
  read : d'.read topicPrefix = some u'
  forwardOf : d'.forwardOf u' = d.forwardOf u
  same : d' = d ∧ u' = u ∨ u' = passed u

theorem Comes.step {u' : Dispatched} (h : Comes topicPrefix d u d' u') {d'' : Delivery} (hop : Hop topicPrefix d' d'')
    (hparse : ParsesBack (pruneTopLevelFields (toJson u.message))) : Comes topicPrefix d u d'' (passed u) := by
  have hu' : passed u' = passed u ∧ ParsesBack (pruneTopLevelFields (toJson u'.message)) := by
    rcases h.same with ⟨-, rfl⟩ | rfl
    · exact ⟨rfl, hparse⟩
    · exact ⟨passed_passed u, (pruneTopLevelFields_passed u).symm ▸ hparse⟩
  obtain ⟨hread, hforward⟩ := hop.step h.made h.read hu'.2
  rw [hu'.1] at hread hforward
  exact ⟨hop.made, hop.side_eq.trans h.side_eq, hread, hforward.trans h.forwardOf, .inr rfl⟩

/-- However many daemons with the same prefix a message is passed on by, each publishes it on the same topic with the
same text and quality of service as the first one, once if its bridge is registered; and those after the first read the
same message.  Their subscriptions have succeeded, and the text is read back as it was written. -/
theorem passed_unchanged (hmade : Traffic.Made d topicPrefix Daemon.Succeeds) (hread : d.read topicPrefix = some u)
    (hparse : ParsesBack (pruneTopLevelFields (toJson u.message))) (h : Relation.ReflTransGen (Hop topicPrefix) d d') :
    (d'.calls.filterMap Call.sent = if d'.daemon.bridged then [(d.side.other, d.forwardOf u)] else []) ∧
      (d' = d ∨ d'.read topicPrefix = some (passed u)) := by
  obtain ⟨u', hcomes⟩ : ∃ u', Comes topicPrefix d u d' u' := by
    induction h with
    | refl => exact ⟨u, hmade, rfl, hread, rfl, .inl ⟨rfl, rfl⟩⟩
    | tail _ hop ih =>
      obtain ⟨u', hcomes⟩ := ih
      exact ⟨passed u, hcomes.step hop hparse⟩
  constructor
  · rw [Delivery.sent_eq hcomes.made, hcomes.read, hcomes.side_eq, Option.toList_some, List.map_singleton,
      hcomes.forwardOf]
  · rcases hcomes.same with ⟨hfirst, -⟩ | rfl
    · exact .inl hfirst
    · exact .inr hcomes.read

omit [JsonLibrary] [MosquittoLibrary] in
/-- What a daemon that records has published is handed to a second daemon, which has no recorder yet. -/
theorem passed_unchanged_online :
    letI := JsonLibrary.ofTexts connectionTexts
    letI := MosquittoLibrary.levelwise
    ∃ d d', d.daemon.hears .localSide = true ∧ d'.daemon.hears .localSide = false ∧ Hop "uagv/v3" d d' ∧
      d'.calls.filterMap Call.sent =
        [(.cloudSide, ⟨"uagv/v3/acme/7/connection", onlineText.2.1, 1, false⟩)] := by
  let lib := JsonLibrary.ofTexts connectionTexts
  let mosquitto := MosquittoLibrary.levelwise
  obtain ⟨s, hs, d, hd, hside, hmessage, hread, hbridged, hhears⟩ := exists_online relayRun true (by decide)
  obtain ⟨s', hs', d', hd', hside', hmessage', -, hbridged', hhears'⟩ :=
    exists_online Daemon.connectedRun false (by decide)
  have hmade := Traffic.made_of_reach hs d hd
  have hforward : d.forwardOf wentOnline = ⟨"uagv/v3/acme/7/connection", onlineText.2.1, 1, false⟩ := by
    rw [Delivery.forwardOf, hmessage, forward_online.1]
    rfl
  have hsent : (d.side.other, d.forwardOf wentOnline) ∈ d.calls.filterMap Call.sent := by
    rw [Delivery.sent_eq hmade, if_pos hbridged, hread]
    exact List.mem_singleton_self _
  have hhop : Hop "uagv/v3" d d' :=
    ⟨Traffic.made_of_reach hs' d' hd', hside'.trans hside.symm, _, hsent, by rw [hmessage', hforward]; rfl⟩
  obtain ⟨hpassed, -⟩ := passed_unchanged hmade hread forward_online.2 (.single hhop)
  refine ⟨d, d', hhears, hhears', hhop, ?_⟩
  rw [hpassed, if_pos hbridged', hside, hforward]
  rfl

end SyriusOrbit.Mqtt

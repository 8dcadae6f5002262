import SyriusOrbit.Projection.Projectors
import SyriusOrbit.Recorder
import SyriusOrbit.Db.InstantActionsRepository

/-!
# Captured actions

What the rows of `instant_actions` hold of the actions of a message once its event has been projected.
`upsertFromAction` has no parameter for `retriable`, and a descriptor that is an empty text is bound as NULL.  All the
other members of the last action with an id are found in its row, so that the event is captured in full exactly where
these two come out right without having been written (`capturedInFull_iff`).
-/

namespace SyriusOrbit.Projection

open JsonFormat Vda5050 Db Sql

private theorem nonEmpty_of_bracketed {s : String} (h : Bracketed s) : nonEmpty s = some s := by
  unfold nonEmpty
  have hne : s ≠ "" := by
    rintro rfl
    rcases h with h | h <;> cases h
  simp [hne]

private theorem nonEmpty_getD (o : Option String) : nonEmpty (o.getD "") = o ↔ o ≠ some "" := by
  cases o with
  | none => simp [nonEmpty]
  | some s =>
    by_cases hs : s = ""
    · subst hs
      simp [nonEmpty]
    · simp [nonEmpty, hs]

variable [JsonLibrary] [Library]

/-- `project` on the rows of `instant_actions`; `none` when a statement throws. -/
def InstantActionsProjector.projectRows (event : Vda5050Event)
    (t : Table (TableDef.key InstantActionsColumn.table)) : Option (Table (TableDef.key InstantActionsColumn.table)) :=
  execStatements t ((InstantActionsProjector.statements event).map InstantActionsRepository.statement)

/-- The last action of the message with the id. -/
def lastAction (m : InstantActions) (actionId : String) : Option Action :=
  (m.actions.filter fun action => decide (action.actionId = actionId)).getLast?

/-- The row holds what the action says. -/
structure Captured (event : Vda5050Event) (action : Action) (row : InstantAction) : Prop where
  actionType : row.actionType = action.actionType
  actionDescriptor : row.actionDescriptor = action.actionDescriptor
  blockingType : row.blockingType = JsonEnum.name action.blockingType
  actionParameters : row.actionParameters =
    action.actionParameters.map fun parameters => JsonLibrary.dump (toJson parameters).canon
  retriable : row.retriable = action.retriable.getD false
  robotId : row.robotId = event.robotId

/-- Projecting the event gives each id of the message a row that holds the last action with it, and leaves the other
rows as they are. -/
def CapturedInFull (event : Vda5050Event) (m : InstantActions)
    (t : Table (TableDef.key InstantActionsColumn.table)) : Prop :=
  ∃ t', InstantActionsProjector.projectRows event t = some t' ∧
    (∀ actionId action, lastAction m actionId = some action →
      ∃ row, InstantActionsRepository.findById t' actionId = some row ∧ Captured event action row) ∧
    ∀ actionId, (∀ action ∈ m.actions, action.actionId ≠ actionId) → t'.find? [actionId] = t.find? [actionId]

/-! ### The statements for an action -/

omit [Library] in
/-- The text of the parameters is not empty if there are any. -/
private theorem nonEmpty_paramsJson (hdump : DumpsObjects) (action : Action) :
    nonEmpty (InstantActionsProjector.paramsJson action) =
      action.actionParameters.map fun parameters => JsonLibrary.dump (toJson parameters).canon := by
  unfold InstantActionsProjector.paramsJson
  cases action.actionParameters with
  | none => rfl
  | some parameters => exact nonEmpty_of_bracketed (hdump _)

theorem plain_upsertFromAction (hdump : DumpsObjects) (event : Vda5050Event) (action : Action) :
    InstantActionsRepository.Plain (InstantActionsProjector.upsertFromAction event action) := by
  intro parameters hparameters
  have hrow : (InstantActionsProjector.upsertFromAction event action).row.actionParameters =
      nonEmpty (InstantActionsProjector.paramsJson action) := rfl
  rw [hrow, nonEmpty_paramsJson hdump] at hparameters
  obtain ⟨members, -, rfl⟩ := Option.map_eq_some_iff.1 hparameters
  exact Value.plainText_of_bracketed (hdump _)

/-- The rows after the projection, decoded and by their keys. -/
private theorem projectRows_eq (hdump : DumpsObjects) {event : Vda5050Event} {m : InstantActions}
    (hm : decode event.payload = .ok m) (t : Table (TableDef.key InstantActionsColumn.table)) :
    ∃ t', InstantActionsProjector.projectRows event t = some t' ∧
      InstantActionsRepository.instantActions t' = (InstantActionsRepository.instantActions t).execAll
        ((m.actions.map (InstantActionsProjector.upsertFromAction event)).map InstantActionsStatement.sql) ∧
      ∀ actionId, (∀ action ∈ m.actions, action.actionId ≠ actionId) → t'.find? [actionId] = t.find? [actionId] := by
  have hstatements : InstantActionsProjector.statements event =
      m.actions.map (InstantActionsProjector.upsertFromAction event) := onDecoded_of_decode hm
  have hplain : ∀ s ∈ m.actions.map (InstantActionsProjector.upsertFromAction event),
      InstantActionsRepository.Plain s := by
    intro s hs
    obtain ⟨action, -, rfl⟩ := List.mem_map.1 hs
    exact plain_upsertFromAction hdump event action
  obtain ⟨t', hexec, htable⟩ := InstantActionsRepository.execStatements_eq hplain t
  refine ⟨t', (congrArg _ (congrArg _ hstatements)).trans hexec, htable, fun actionId hother => ?_⟩
  have haccepted : ∀ s ∈ (m.actions.map (InstantActionsProjector.upsertFromAction event)).map
      InstantActionsRepository.statement, s.accepted = true := by
    intro s hs
    obtain ⟨s, -, rfl⟩ := List.mem_map.1 hs
    exact InstantActionsRepository.accepted_statement s
  rw [execStatements_of_accepted haccepted, Option.some_inj] at hexec
  rw [← hexec, Table.find?_execAll, List.filter_eq_nil_iff.2, runRow_nil]
  intro u hu
  simp only [List.mem_map] at hu
  obtain ⟨_, ⟨_, ⟨action, haction, rfl⟩, rfl⟩, rfl⟩ := hu
  have hkey : TableDef.key InstantActionsColumn.table (InstantActionsRepository.statement
      (InstantActionsProjector.upsertFromAction event action)).sql.row = [action.actionId] := rfl
  simp [hkey, hother action haction]

/-- The rows hold the instant actions that the projector leaves in the read model. -/
theorem instantActions_projectRows (hdump : DumpsObjects) {event : Vda5050Event} {m : InstantActions}
    (hm : decode event.payload = .ok m) {t t' : Table (TableDef.key InstantActionsColumn.table)}
    (h : InstantActionsProjector.projectRows event t = some t') {db : ReadModel}
    (hdb : db.instantActions = InstantActionsRepository.instantActions t) :
    (runOn (InstantActionsProjector.project event) db).2.instantActions =
      InstantActionsRepository.instantActions t' := by
  have hstatements : InstantActionsProjector.statements event =
      m.actions.map (InstantActionsProjector.upsertFromAction event) := onDecoded_of_decode hm
  obtain ⟨t'', h', htable, -⟩ := projectRows_eq hdump hm t
  rw [h, Option.some_inj] at h'
  rw [InstantActionsProjector.runOn_project, h', htable, ← hdb, hstatements]
  rfl

/-! ### The row of an action -/

/-- The row of an id of the message has the columns of the last action with the id, and is as retriable as before. -/
private theorem exists_row_of_lastAction (hdump : DumpsObjects) {event : Vda5050Event} {m : InstantActions}
    (hm : decode event.payload = .ok m) {t t' : Table (TableDef.key InstantActionsColumn.table)}
    (h : InstantActionsProjector.projectRows event t = some t') {actionId : String} {action : Action}
    (hlast : lastAction m actionId = some action) :
    ∃ row, InstantActionsRepository.findById t' actionId = some row ∧
      row.actionColumns = (InstantActionsProjector.upsertFromAction event action).row.actionColumns ∧
      row.retriable = ((InstantActionsRepository.findById t actionId).map InstantAction.retriable).getD false := by
  obtain ⟨t'', h', htable, -⟩ := projectRows_eq hdump hm t
  rw [h, Option.some_inj] at h'
  subst h'
  have hfilter : ((m.actions.map (InstantActionsProjector.upsertFromAction event)).map
      InstantActionsStatement.sql).filter (fun u => decide (u.row.actionId = actionId)) =
      (m.actions.filter fun action => decide (action.actionId = actionId)).map fun action =>
        (InstantActionsProjector.upsertFromAction event action).sql := by
    rw [List.map_map, List.filter_map]
    rfl
  rw [InstantActionsRepository.findById_eq, InstantActionsRepository.findById_eq, htable, Table.find?_execAll, hfilter]
  unfold lastAction at hlast
  generalize (InstantActionsRepository.instantActions t).find? actionId = prior
  generalize m.actions.filter (fun action => decide (action.actionId = actionId)) = actions at hlast
  have hne : actions.map (fun action => (InstantActionsProjector.upsertFromAction event action).sql) ≠ [] := by
    intro hnil
    rw [List.map_eq_nil_iff.1 hnil] at hlast
    cases hlast
  obtain ⟨row, hrow⟩ := Option.isSome_iff_exists.1 (isSome_runRow (o := prior) (.inr hne))
  refine ⟨row, hrow, ?_, ?_⟩
  · have hcolumns := column_runRow (c := InstantAction.actionColumns)
      (d := (InstantActionsProjector.upsertFromAction event action).row.actionColumns)
      (e := fun action => some (InstantActionsProjector.upsertFromAction event action).row.actionColumns)
      (fun action _ => ⟨rfl, fun _ => rfl⟩) hrow
    rw [List.filterMap_eq_map', List.getLast?_map, hlast] at hcolumns
    exact hcolumns
  · have hset : ∀ u ∈ actions.map (fun action => (InstantActionsProjector.upsertFromAction event action).sql),
        ∀ r, (u.set r).retriable = r.retriable := by
      intro u hu r
      obtain ⟨action, -, rfl⟩ := List.mem_map.1 hu
      rfl
    have hkeeps := map_runRow_of_keeps hset prior
    rw [hrow, Option.map_some] at hkeeps
    cases prior with
    | some r => simpa using hkeeps
    | none =>
      cases actions with
      | nil => cases hlast
      | cons first actions => exact Option.some.inj hkeeps

omit [Library] in
private theorem captured_iff (hdump : DumpsObjects) {event : Vda5050Event} {action : Action} {row : InstantAction}
    (hcolumns : row.actionColumns = (InstantActionsProjector.upsertFromAction event action).row.actionColumns) :
    Captured event action row ↔
      action.actionDescriptor ≠ some "" ∧ row.retriable = action.retriable.getD false := by
  simp only [InstantAction.actionColumns, ActionColumns.mk.injEq] at hcolumns
  obtain ⟨htype, hdescriptor, hblocking, hparameters, hrobot⟩ := hcolumns
  have hdescriptor : row.actionDescriptor = nonEmpty (action.actionDescriptor.getD "") := hdescriptor
  constructor
  · intro h
    exact ⟨(nonEmpty_getD _).1 (hdescriptor.symm.trans h.actionDescriptor), h.retriable⟩
  · rintro ⟨hne, hretriable⟩
    exact ⟨htype, hdescriptor.trans ((nonEmpty_getD _).2 hne), hblocking,
      hparameters.trans (nonEmpty_paramsJson hdump action), hretriable, hrobot⟩

/-- An event is captured in full if and only if the last action with each id has no descriptor that is an empty text
and is as retriable as the row there was, or not retriable where there was none. -/
theorem capturedInFull_iff (hdump : DumpsObjects) {event : Vda5050Event} {m : InstantActions}
    (hm : decode event.payload = .ok m) (t : Table (TableDef.key InstantActionsColumn.table)) :
    CapturedInFull event m t ↔ ∀ actionId action, lastAction m actionId = some action →
      action.actionDescriptor ≠ some "" ∧ action.retriable.getD false =
        ((InstantActionsRepository.findById t actionId).map InstantAction.retriable).getD false := by
  obtain ⟨t', hproject, -, hother⟩ := projectRows_eq hdump hm t
  constructor
  · rintro ⟨t'', hproject', hcaptured, -⟩ actionId action hlast
    rw [hproject, Option.some_inj] at hproject'
    subst hproject'
    obtain ⟨row, hrow, hcolumns, hretriable⟩ := exists_row_of_lastAction hdump hm hproject hlast
    obtain ⟨row', hrow', hcaptured⟩ := hcaptured actionId action hlast
    rw [hrow, Option.some_inj] at hrow'
    subst hrow'
    obtain ⟨hne, hsame⟩ := (captured_iff hdump hcolumns).1 hcaptured
    exact ⟨hne, hsame.symm.trans hretriable⟩
  · intro h
    refine ⟨t', hproject, fun actionId action hlast => ?_, hother⟩
    obtain ⟨row, hrow, hcolumns, hretriable⟩ := exists_row_of_lastAction hdump hm hproject hlast
    obtain ⟨hne, hsame⟩ := h actionId action hlast
    exact ⟨row, hrow, (captured_iff hdump hcolumns).2 ⟨hne, hretriable.trans hsame.symm⟩⟩

/-! ### An action that may be retried -/

/-- Instant actions with one action. -/
def startPauseText (retriable : String) : String :=
  "\x7b" ++ ("\"actions\":[\x7b\"actionId\":\"a1\",\"actionType\":\"startPause\",\"retriable\":" ++ retriable ++
    "\x7d]\x7d")

def startPause (retriable : Bool) : Json :=
  .obj [("actions", .arr [.obj [("actionId", .str "a1"), ("actionType", .str "startPause"),
    ("retriable", .bool retriable)]])]

/-- The recorded event. -/
def startPauseEvent (retriable : String) : Vda5050Event where
  id := 1
  topic := "instantActions"
  itemId := "a1"
  receivedAt := "2026-01-01T00:00:00Z"
  manufacturer := "acme"
  serialNumber := "7"
  robotId := "acme.7"
  direction := "downlink"
  headerId := some 0
  headerVersion := some ""
  headerTimestamp := some ""
  payload := startPauseText retriable

/-- The message that the event is decoded to. -/
def startPauseMessage (retriable : Bool) : InstantActions :=
  { (default : InstantActions) with
    actions := [{ (default : Action) with actionId := "a1", actionType := "startPause", retriable := some retriable }] }

omit [JsonLibrary] [Library] in
private theorem dumpsObjects_startPause (retriable : String) (j : Json) :
    letI := JsonLibrary.ofText (startPauseText retriable) j
    DumpsObjects := by
  exact fun _ => bracketed_brace _

omit [JsonLibrary] [Library] in
private theorem decode_startPause (retriable : String) (b : Bool) :
    letI := JsonLibrary.ofText (startPauseText retriable) (startPause b)
    decode (startPauseEvent retriable).payload = .ok (startPauseMessage b) := by
  let lib := JsonLibrary.ofText (startPauseText retriable) (startPause b)
  have hparse : lib.parse (startPauseText retriable) = .ok (startPause b).canon := if_pos rfl
  have hdecode : decode (α := InstantActions) (startPauseEvent retriable).payload = fromJson (startPause b).canon := by
    rw [decode, startPauseEvent, hparse]
    rfl
  rw [hdecode, fromJson_canon]
  rfl

omit [JsonLibrary] [Library] in
theorem capturedInFull_startPause :
    letI := JsonLibrary.ofText (startPauseText "false") (startPause false)
    letI := Library.ofDigits
    CapturedInFull (startPauseEvent "false") (startPauseMessage false) Table.empty := by
  let lib := JsonLibrary.ofText (startPauseText "false") (startPause false)
  let lib' := Library.ofDigits
  refine (capturedInFull_iff (dumpsObjects_startPause _ _) (decode_startPause "false" false) _).2
    fun actionId action hlast => ?_
  have hmem := (List.mem_filter.1 (List.mem_of_getLast? hlast)).1
  rw [startPauseMessage, List.mem_singleton] at hmem
  subst hmem
  exact ⟨nofun, rfl⟩

omit [JsonLibrary] [Library] in
/-- The row of an action that may be retried says that it may not. -/
theorem not_capturedInFull_of_retriable :
    ¬ ∀ [JsonLibrary] [Library], DumpsObjects → ∀ (event : Vda5050Event) (m : InstantActions)
      (t : Table (TableDef.key InstantActionsColumn.table)),
      decode event.payload = .ok m → CapturedInFull event m t := by
  intro h
  let lib := JsonLibrary.ofText (startPauseText "true") (startPause true)
  let lib' := Library.ofDigits
  have hdump : DumpsObjects := dumpsObjects_startPause _ _
  have hdecode := decode_startPause "true" true
  obtain ⟨t', hproject, hcaptured, -⟩ := h hdump _ _ Table.empty hdecode
  have hlast : lastAction (startPauseMessage true) "a1" = (startPauseMessage true).actions.head? := rfl
  obtain ⟨row, hrow, -, hretriable⟩ := exists_row_of_lastAction hdump hdecode hproject hlast
  obtain ⟨row', hrow', hcaptured⟩ := hcaptured "a1" _ hlast
  rw [hrow, Option.some_inj] at hrow'
  subst hrow'
  have hfalse : row.retriable = false := hretriable
  have htrue : row.retriable = true := hcaptured.retriable
  rw [hfalse] at htrue
  cases htrue

end SyriusOrbit.Projection

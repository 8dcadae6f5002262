import SyriusOrbit.Sql.History
import SyriusOrbit.Db.ReadModel

/-!
# What the schema calls immutable

The schema says that a row once archived stays archived and that an order keeps its site; the time of creation is
never written to a row that exists.  The statements of the projectors keep to this.  The statements that write all
columns of a row do so as long as they repeat what the row says (`immutable_iff`).
-/

namespace SyriusOrbit.Db

open Sql

/-- A statement of one of the repositories. -/
inductive Statement where
  | robots (s : RobotsStatement)
  | orders (s : OrdersStatement)
  | instantActions (s : InstantActionsStatement)

namespace ReadModel

def exec (db : ReadModel) : Statement → ReadModel
  | .robots s => db.execRobots [s]
  | .orders s => db.execOrders [s]
  | .instantActions s => db.execInstantActions [s]

/-- A row that is archived stays archived, and its time of creation stays as it is. -/
structure RowKept {ρ : Type} (archived : ρ → Bool) (createdAt : ρ → String) (r r' : ρ) : Prop where
  archived : archived r = true → archived r' = true
  createdAt : createdAt r' = createdAt r

/-- An order also keeps its site. -/
structure OrderKept (r r' : Order) : Prop extends RowKept Order.archived Order.createdAt r r' where
  siteId : r'.siteId = r.siteId

section

variable {ρ : Type} {archived : ρ → Bool} {createdAt : ρ → String}

theorem RowKept.refl (r : ρ) : RowKept archived createdAt r r := ⟨id, rfl⟩

theorem RowKept.trans {r r' r'' : ρ} (h : RowKept archived createdAt r r') (h' : RowKept archived createdAt r' r'') :
    RowKept archived createdAt r r'' :=
  ⟨fun harchived => h'.archived (h.archived harchived), h'.createdAt.trans h.createdAt⟩

theorem OrderKept.refl (r : Order) : OrderKept r r := ⟨.refl r, rfl⟩

theorem OrderKept.trans {r r' r'' : Order} (h : OrderKept r r') (h' : OrderKept r' r'') : OrderKept r r'' :=
  ⟨h.toRowKept.trans h'.toRowKept, h'.siteId.trans h.siteId⟩

end

/-- What the schema says of the rows there were. -/
structure Immutable (db db' : ReadModel) : Prop where
  robots : db.robots.Keeps (RowKept Robot.archived Robot.createdAt) db'.robots
  orders : db.orders.Keeps OrderKept db'.orders
  instantActions :
    db.instantActions.Keeps (RowKept InstantAction.archived InstantAction.createdAt) db'.instantActions

theorem Immutable.refl (db : ReadModel) : db.Immutable db := ⟨.refl .refl _, .refl .refl _, .refl .refl _⟩

theorem Immutable.trans {db db' db'' : ReadModel} (h : db.Immutable db') (h' : db'.Immutable db'') :
    db.Immutable db'' :=
  ⟨h.robots.trans RowKept.trans h'.robots, h.orders.trans (R := OrderKept) OrderKept.trans h'.orders,
    h.instantActions.trans RowKept.trans h'.instantActions⟩

/-- An `upsert` does not take back that its row is archived, and that of an order repeats the site. -/
def Respects (db : ReadModel) : Statement → Prop
  | .robots (.upsert robot) =>
    ∀ r, db.robots.find? robot.robotId = some r → r.archived = true → robot.archived = true
  | .orders (.upsert order) =>
    ∀ r, db.orders.find? order.orderId = some r →
      (r.archived = true → order.archived = true) ∧ order.siteId = r.siteId
  | .instantActions (.upsert action) =>
    ∀ r, db.instantActions.find? action.actionId = some r → r.archived = true → action.archived = true
  | _ => True

/-- A statement that leaves the time of creation alone has to leave archived rows archived. -/
private theorem keeps_rowKept_exec_iff {ρ : Type} {key : ρ → String} {archived : ρ → Bool} {createdAt : ρ → String}
    {u : Upsert key} (hcreated : ∀ r, createdAt (u.set r) = createdAt r) (t : Table key) :
    t.Keeps (RowKept archived createdAt) (t.exec u) ↔
      ∀ r, t.find? (key u.row) = some r → archived r = true → archived (u.set r) = true := by
  rw [Table.keeps_exec_iff .refl]
  refine forall₂_congr fun r _ => ⟨RowKept.archived, fun harchived => ⟨harchived, hcreated r⟩⟩

private theorem immutable_execRobots_iff (db : ReadModel) (s : RobotsStatement) :
    db.Immutable (db.execRobots [s]) ↔ db.Respects (.robots s) := by
  have hrobots : db.Immutable (db.execRobots [s]) ↔
      db.robots.Keeps (RowKept Robot.archived Robot.createdAt) (db.robots.exec s.sql) :=
    ⟨Immutable.robots, fun h => ⟨h, .refl .refl _, .refl .refl _⟩⟩
  have hcreated : ∀ r, (s.sql.set r).createdAt = r.createdAt := by
    intro r
    cases s <;> rfl
  rw [hrobots, keeps_rowKept_exec_iff hcreated]
  cases s with
  | upsert robot => exact Iff.rfl
  | upsertConnection | upsertState | upsertFactsheet => exact iff_of_true (fun _ _ => id) trivial

private theorem immutable_execOrders_iff (db : ReadModel) (s : OrdersStatement) :
    db.Immutable (db.execOrders [s]) ↔ db.Respects (.orders s) := by
  have horders : db.Immutable (db.execOrders [s]) ↔ db.orders.Keeps OrderKept (db.orders.exec s.sql) :=
    ⟨Immutable.orders, fun h => ⟨.refl .refl _, h, .refl .refl _⟩⟩
  rw [horders, Table.keeps_exec_iff .refl]
  cases s with
  | upsert order =>
    refine forall₂_congr fun r _ => ⟨fun h => ⟨h.archived, h.siteId⟩, fun h => ⟨⟨h.1, rfl⟩, h.2⟩⟩
  | upsertFromOrder => exact iff_of_true (fun _ _ => ⟨⟨id, rfl⟩, rfl⟩) trivial

private theorem immutable_execInstantActions_iff (db : ReadModel) (s : InstantActionsStatement) :
    db.Immutable (db.execInstantActions [s]) ↔ db.Respects (.instantActions s) := by
  have hactions : db.Immutable (db.execInstantActions [s]) ↔
      db.instantActions.Keeps (RowKept InstantAction.archived InstantAction.createdAt)
        (db.instantActions.exec s.sql) :=
    ⟨Immutable.instantActions, fun h => ⟨.refl .refl _, .refl .refl _, h⟩⟩
  have hcreated : ∀ r, (s.sql.set r).createdAt = r.createdAt := by
    intro r
    cases s <;> rfl
  rw [hactions, keeps_rowKept_exec_iff hcreated]
  cases s with
  | upsert action => exact Iff.rfl
  | upsertFromAction | upsertFromResponse => exact iff_of_true (fun _ _ => id) trivial

private theorem immutable_exec_iff (db : ReadModel) (s : Statement) : db.Immutable (db.exec s) ↔ db.Respects s := by
  cases s with
  | robots s => exact immutable_execRobots_iff db s
  | orders s => exact immutable_execOrders_iff db s
  | instantActions s => exact immutable_execInstantActions_iff db s

/-- What the schema says holds between any two moments of a sequence of statements if and only if each `upsert` in it
repeats what its row says. -/
theorem immutable_iff (db : ReadModel) (ss : List Statement) :
    Throughout exec Immutable db ss ↔ AtEachStep exec Respects db ss := by
  rw [throughout_iff Immutable.refl Immutable.trans]
  exact AtEachStep.congr immutable_exec_iff

/-- An order is archived, and then written again with another site and without the flag. -/
def archivedOrder : Order :=
  { orderId := "o1", assignedRobotId := "acme.7", siteId := "s1", nodes := "[]", edges := "[]", archived := true,
    createdAt := "2026-01-01T00:00:00Z", lastUpdatedAt := "2026-01-01T00:00:00Z" }

theorem not_immutable_of_upsert :
    ¬ ∀ (db : ReadModel) (ss : List Statement), Throughout exec Immutable db ss := by
  intro h
  have hkept := h empty
    [.orders (.upsert archivedOrder), .orders (.upsert { archivedOrder with siteId := "s2", archived := false })]
    [.orders (.upsert archivedOrder)]
    [.orders (.upsert { archivedOrder with siteId := "s2", archived := false })] [] rfl
  obtain ⟨r, hr, hrow⟩ := hkept.orders "o1" archivedOrder rfl
  cases hr
  exact absurd hrow.siteId (by decide)

end ReadModel

end SyriusOrbit.Db

import SyriusOrbit.Sql.Table

/-!
# Cells and prepared statements

What lies below the tables of records: rows of cells, the affinity of a column, statements with parameters bound by
position, and the columns of a result read by position.  A decoder of rows that is compatible with the statements
(`Upsert.Decodes`) turns a table of rows into a table of records, on which the statements act as well
(`Table.map_execAll`).
-/

namespace Sql

/-! ### Cells -/

inductive Value where
  | null
  | integer (n : Int64)
  | real (x : Float)
  | text (s : String)

/-- A text that begins with a bracket, as those of JSON objects and arrays do. -/
def Bracketed (s : String) : Prop :=
  (s.toList.dropWhile Char.isWhitespace).head? = some '{' ∨ (s.toList.dropWhile Char.isWhitespace).head? = some '['

theorem bracketed_brace (s : String) : Bracketed ("\x7b" ++ s) := by
  refine .inl ?_
  rw [String.toList_append]
  rfl

/-- The conversions between texts and numbers: the number that a text is a literal of, and a double as text. -/
class Library where
  numeric : String → Option Value
  printReal : Float → String
  -- a literal begins with a sign, a digit or a point
  numeric_of_bracketed : ∀ s, Bracketed s → numeric s = none

/-- The affinities, by the declared types `TEXT`, `INTEGER`, `REAL` and any that is none of the known ones. -/
inductive Affinity where
  | text | integer | real | numeric
  deriving DecidableEq

/-- A library in which the literals are the texts of decimal digits. -/
@[reducible] def Library.ofDigits : Library where
  numeric s :=
    if !s.toList.isEmpty && s.toList.all Char.isDigit then
      some (.integer (.ofNat (s.toList.foldl (fun n c => 10 * n + (c.toNat - '0'.toNat)) 0)))
    else none
  printReal _ := ""
  numeric_of_bracketed s h := by
    refine if_neg fun hall => ?_
    have hdigits := List.all_eq_true.1 (Bool.and_eq_true_iff.1 hall).2
    have hmem : ∀ c, (s.toList.dropWhile Char.isWhitespace).head? = some c → c ∈ s.toList := fun c hc =>
      (List.dropWhile_sublist _).subset (List.mem_of_mem_head? hc)
    rcases h with h | h
    · exact absurd (hdigits _ (hmem _ h)) (by decide)
    · exact absurd (hdigits _ (hmem _ h)) (by decide)

namespace Value

def ofBool (b : Bool) : Value := .integer (if b then 1 else 0)

def ofOption {α : Type} (f : α → Value) : Option α → Value
  | some a => f a
  | none => .null

def isNull : Value → Bool
  | .null => true
  | _ => false

/-- A double in a `REAL` column: not-a-number is stored as NULL, and the sign of zero is not stored. -/
def ofReal (x : Float) : Value :=
  if x.isNaN then .null
  else if x == 0 then .real 0
  else .real x

section

variable [Library]

/-- The value that a column stores.  A number in a `TEXT` column and the like do not occur. -/
def store : Affinity → Value → Value
  | .numeric, .text s => (Library.numeric s).getD (.text s)
  | .real, .real x => ofReal x
  | _, v => v

def getString : Value → String
  | .null => ""
  | .integer n => toString n.toInt
  | .real x => Library.printReal x
  | .text s => s

/-- `getString()` unless `isNull()`. -/
def getString? (v : Value) : Option String := if v.isNull then none else some v.getString

end

/-- `getInt64()` on a column of integers. -/
def getInt64 : Value → Int64
  | .integer n => n
  | _ => 0

/-- `getInt64()` unless `isNull()`. -/
def getInt64? (v : Value) : Option Int64 := if v.isNull then none else some v.getInt64

/-- `getInt() != 0`. -/
def getBool (v : Value) : Bool := v.getInt64 != 0

/-- `getDouble()` on a column of doubles, unless `isNull()`. -/
def getDouble? : Value → Option Float
  | .real x => some x
  | _ => none

@[simp] theorem getInt64?_ofOption (o : Option Int64) : (ofOption .integer o).getInt64? = o := by cases o <;> rfl

@[simp] theorem getBool_ofBool (b : Bool) : (ofBool b).getBool = b := by cases b <;> rfl

variable [Library]

@[simp] theorem store_text (v : Value) : v.store .text = v := rfl

@[simp] theorem store_integer (v : Value) : v.store .integer = v := rfl

@[simp] theorem store_ofReal (x : Float) : (Value.real x).store .real = ofReal x := rfl

@[simp] theorem getString_text (s : String) : (Value.text s).getString = s := rfl

@[simp] theorem getString?_ofOption (o : Option String) : (ofOption .text o).getString? = o := by cases o <;> rfl

/-- A text that is no numeric literal. -/
def PlainText (s : String) : Prop := Library.numeric s = none

theorem plainText_of_bracketed {s : String} (h : Bracketed s) : PlainText s := Library.numeric_of_bracketed s h

theorem store_numeric {s : String} (h : PlainText s) : (Value.text s).store .numeric = .text s := by
  have hstore : (Value.text s).store .numeric = (Library.numeric s).getD (.text s) := rfl
  rw [hstore, h]
  rfl

theorem getString_store_numeric {s : String} (h : PlainText s) : ((Value.text s).store .numeric).getString = s := by
  rw [store_numeric h]
  rfl

theorem getString?_store_numeric {o : Option String} (h : ∀ s, o = some s → PlainText s) :
    ((ofOption .text o).store .numeric).getString? = o := by
  cases o with
  | none => rfl
  | some s =>
    have hstore : (ofOption .text (some s)).store .numeric = .text s := store_numeric (h s rfl)
    rw [hstore]
    rfl

end Value

/-! ### Statements -/

structure ColumnDef where
  affinity : Affinity
  notNull : Bool := false
  dflt : Value := .null

/-- A table as `CREATE TABLE` declares it. -/
structure TableDef (ι : Type) where
  columns : List ι
  column : ι → ColumnDef
  primaryKey : List ι

abbrev Row (ι : Type) := ι → Value

/-- The entries of a `VALUES` list. -/
inductive Term where
  -- `?`
  | parameter
  | expression (v : Value)

/-- The values of the list, with the number of the next parameter. -/
def Term.values (bound : Nat → Value) : Nat → List Term → List Value
  | _, [] => []
  | n, .parameter :: ts => bound n :: values bound (n + 1) ts
  | n, .expression v :: ts => v :: values bound n ts

/-- `INSERT INTO … (columns) VALUES (values) ON CONFLICT(…) DO UPDATE SET c = excluded.c, …`, with the values bound to
its parameters. -/
structure InsertStatement {ι : Type} (d : TableDef ι) where
  columns : List ι
  values : List Term
  update : List ι := []
  binds : List (Nat × Value)
  update_key : ∀ c ∈ d.primaryKey, c ∉ update

namespace InsertStatement

variable {ι : Type} [DecidableEq ι] {d : TableDef ι} [Library]

/-- A parameter that was not bound is NULL. -/
def bound (s : InsertStatement d) (n : Nat) : Value := (s.binds.lookup n).getD .null

/-- The row to insert; columns without a value have their default. -/
def row (s : InsertStatement d) : Row ι := fun c =>
  match (s.columns.zip (Term.values s.bound 1 s.values)).lookup c with
  | some v => v.store (d.column c).affinity
  | none => (d.column c).dflt

/-- `DO UPDATE SET`. -/
def set (s : InsertStatement d) (old : Row ι) : Row ι := fun c => if c ∈ s.update then s.row c else old c

/-- No column that is declared `NOT NULL` would be NULL. -/
def accepted (s : InsertStatement d) : Bool := d.columns.all fun c => !((d.column c).notNull && (s.row c).isNull)

end InsertStatement

/-- The texts of the primary key. -/
def TableDef.key {ι : Type} [Library] (d : TableDef ι) (r : Row ι) : List String :=
  d.primaryKey.map fun c => (r c).getString

def InsertStatement.sql {ι : Type} [DecidableEq ι] [Library] {d : TableDef ι} (s : InsertStatement d) :
    Upsert d.key where
  row := s.row
  set := s.set
  key_set _ := List.map_congr_left fun c hc => congrArg Value.getString (if_neg (s.update_key c hc))

section

variable {ι : Type} [DecidableEq ι] [Library] {d : TableDef ι}

/-- Executes the statement; `none` when it throws. -/
def InsertStatement.exec (s : InsertStatement d) (t : Table d.key) : Option (Table d.key) :=
  if s.accepted then some (t.exec s.sql) else none

def execStatements (t : Table d.key) (ss : List (InsertStatement d)) : Option (Table d.key) :=
  ss.foldlM (fun t s => s.exec t) t

theorem execStatements_of_accepted {ss : List (InsertStatement d)} (h : ∀ s ∈ ss, s.accepted = true)
    (t : Table d.key) : execStatements t ss = some (t.execAll (ss.map InsertStatement.sql)) := by
  induction ss generalizing t with
  | nil => rfl
  | cons s ss ih =>
    have hexec : s.exec t = some (t.exec s.sql) := if_pos (h s List.mem_cons_self)
    rw [execStatements, List.foldlM_cons, hexec]
    exact ih (fun s' hs' => h s' (List.mem_cons_of_mem s hs')) (t.exec s.sql)

end

/-- `getColumn(i)` of a result with the columns. -/
def getColumn {ι : Type} (columns : List ι) (r : Row ι) (i : Nat) : Value := (columns[i]?.map r).getD .null

/-! ### Decoding tables -/

section

variable {ρ κ ρ' κ' : Type} {key : ρ → κ} {key' : ρ' → κ'} {f : ρ → ρ'} {g : κ' → κ}

/-- The statement on rows does to the decoded records what the statement on records does. -/
structure Upsert.Decodes (f : ρ → ρ') (u : Upsert key) (u' : Upsert key') : Prop where
  row : f u.row = u'.row
  set : ∀ r, f (u.set r) = u'.set (f r)

/-- The table with its rows decoded. -/
def Table.map (f : ρ → ρ') (hkey : ∀ r, key r = g (key' (f r))) (t : Table key) : Table key' where
  rows := t.rows.map f
  keys_nodup := by
    have hkeys : t.rows.map key = ((t.rows.map f).map key').map g := by
      rw [List.map_map, List.map_map]
      exact List.map_congr_left fun r _ => hkey r
    exact (hkeys ▸ t.keys_nodup).of_map

variable [DecidableEq κ] [DecidableEq κ'] {hkey : ∀ r, key r = g (key' (f r))}

theorem Table.find?_map (hg : Function.Injective g) (t : Table key) (k : κ') :
    (t.map f hkey).find? k = (t.find? (g k)).map f := by
  have hp : ∀ r, decide (key' (f r) = k) = decide (key r = g k) := by
    intro r
    rw [hkey r, decide_eq_decide]
    exact hg.eq_iff.symm
  unfold Table.find? Table.map
  rw [List.find?_map]
  simp only [Function.comp_def, hp]

theorem Table.map_exec (hg : Function.Injective g) {u : Upsert key} {u' : Upsert key'} (h : u.Decodes f u')
    (t : Table key) : ((t.exec u).map f hkey).rows = ((t.map f hkey).exec u').rows := by
  have hku : key u.row = g (key' u'.row) := by rw [hkey, h.row]
  have hmem : key u.row ∈ t.rows.map key ↔ key' u'.row ∈ (t.rows.map f).map key' := by
    rw [hku, List.map_map, List.mem_map, List.mem_map]
    exact exists_congr fun r => and_congr_right fun _ => by rw [hkey r, hg.eq_iff]; rfl
  show (upsertRows u t.rows).map f = upsertRows u' (t.rows.map f)
  unfold upsertRows
  by_cases hk : key u.row ∈ t.rows.map key
  · rw [if_pos hk, if_pos (hmem.1 hk), List.map_map, List.map_map]
    refine List.map_congr_left fun r _ => ?_
    have hr : key r = key u.row ↔ key' (f r) = key' u'.row := by rw [hku, hkey r, hg.eq_iff]
    by_cases hrow : key r = key u.row
    · simp [hrow, hr.1 hrow, h.set]
    · simp [hrow, mt hr.2 hrow]
  · rw [if_neg hk, if_neg (mt hmem.2 hk), List.map_append, List.map_singleton, h.row]

omit [DecidableEq κ] in
theorem Table.ext_rows {t t' : Table key} (h : t.rows = t'.rows) : t = t' := by
  cases t
  cases t'
  cases h
  rfl

/-- Statements that decode act on the decoded table as on the rows. -/
theorem Table.map_execAll (hg : Function.Injective g) {σ : Type} {u : σ → Upsert key} {u' : σ → Upsert key'}
    {ss : List σ} (h : ∀ s ∈ ss, (u s).Decodes f (u' s)) (t : Table key) :
    (t.execAll (ss.map u)).map f hkey = (t.map f hkey).execAll (ss.map u') := by
  induction ss generalizing t with
  | nil => rfl
  | cons s ss ih =>
    have hs : (t.exec (u s)).map f hkey = (t.map f hkey).exec (u' s) :=
      ext_rows (map_exec hg (h s List.mem_cons_self) t)
    show ((t.exec (u s)).execAll (ss.map u)).map f hkey = ((t.map f hkey).exec (u' s)).execAll (ss.map u')
    rw [ih (fun s' hs' => h s' (List.mem_cons_of_mem s hs')), hs]

end

/-- Statements that are accepted and decode never throw, and act on the decoded table as on the rows. -/
theorem execStatements_decodes {ι : Type} [DecidableEq ι] [Library] {d : TableDef ι} {ρ' κ' : Type}
    [DecidableEq κ'] {key' : ρ' → κ'} {f : Row ι → ρ'} {g : κ' → List String} {hkey : ∀ r, d.key r = g (key' (f r))}
    (hg : Function.Injective g) {σ : Type} {statement : σ → InsertStatement d} {u' : σ → Upsert key'} {ss : List σ}
    (haccepted : ∀ s ∈ ss, (statement s).accepted = true) (h : ∀ s ∈ ss, (statement s).sql.Decodes f (u' s))
    (t : Table d.key) :
    ∃ t', execStatements t (ss.map statement) = some t' ∧
      t'.map f hkey = (t.map f hkey).execAll (ss.map u') := by
  refine ⟨t.execAll ((ss.map statement).map InsertStatement.sql), execStatements_of_accepted ?_ t, ?_⟩
  · intro stm hstm
    obtain ⟨s, hs, rfl⟩ := List.mem_map.1 hstm
    exact haccepted s hs
  · rw [List.map_map]
    exact Table.map_execAll hg h t

end Sql

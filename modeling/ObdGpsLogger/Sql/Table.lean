import Mathlib.Data.List.Basic
import Mathlib.Logic.Function.Basic
import Mathlib.Order.Lattice
import ObdGpsLogger.Sql.Statement

/-!
# Tables, and what statements do to them

A table is a list of column names and a list of rows, each as wide as the
table. A cell is found by the name of its column (`cell`); a missing column and
a `NULL` both give no value. The values are any type with an order.

`exec` runs a statement on a database, `selectRows` gives the joined rows of a
query. Both fail (`none`) where there is no such table or column, or already
one.

`leftJoin_eq_map` is what a join is used for here: where a row has at most one
match, the join gives it back once, with that match or without any.
-/

namespace ObdGpsLogger.Sql

/-! ## Cells -/

section Cells

variable {V : Type}

/-- The value that a row has in a column. `none` is NULL. -/
def cell (columns : List Name) (row : List (Option V)) (c : Name) : Option V :=
  row[columns.idxOf c]?.join

variable {columns more : List Name} {row rest : List (Option V)} {c d : Name}

theorem cell_of_not_mem (hwidth : row.length = columns.length) (hc : c ∉ columns) :
    cell columns row c = none := by
  rw [cell, List.idxOf_of_notMem hc, ← hwidth, List.getElem?_length]
  rfl

theorem cell_append_left (hwidth : row.length = columns.length) (hc : c ∈ columns) :
    cell (columns ++ more) (row ++ rest) c = cell columns row c := by
  have hlt := List.idxOf_lt_length_iff.mpr hc
  rw [cell, List.idxOf_append_of_mem hc, List.getElem?_append_left (by omega), cell]

theorem cell_append_right (hwidth : row.length = columns.length) (hc : c ∉ columns) :
    cell (columns ++ more) (row ++ rest) c = cell more rest c := by
  rw [cell, List.idxOf_append_of_notMem hc, List.getElem?_append_right (by omega), cell]
  congr 2
  omega

/-- A row that is computed column by column has in each of its cells what was
computed for the column. -/
theorem cell_map (f : Name → Option V) (hc : c ∈ columns) :
    cell columns (columns.map f) c = f c := by
  have hlt := List.idxOf_lt_length_iff.mpr hc
  rw [cell, List.getElem?_map, List.getElem?_eq_getElem hlt, List.getElem_idxOf hlt]
  rfl

/-- The columns of a list of values stand in its order. -/
theorem cell_getElem (hnodup : columns.Nodup) {k : Nat} (hc : columns[k]? = some c) :
    cell columns row c = row[k]?.join := by
  obtain ⟨hk, rfl⟩ := List.getElem?_eq_some_iff.mp hc
  rw [cell, hnodup.idxOf_getElem k hk]

end Cells

/-! ## Tables -/

/-- A table whose rows are as wide as it is. -/
@[ext]
structure Table (V : Type) where
  columns : List Name
  rows : List (List (Option V))
  width : ∀ r ∈ rows, r.length = columns.length

namespace Table

variable {V : Type}

/-- A table with columns and without rows. -/
def empty (columns : List Name) : Table V := ⟨columns, [], fun _ h => nomatch h⟩

/-- The table with one more column, which is NULL in every row. -/
def addColumn (t : Table V) (c : Name) : Table V where
  columns := t.columns ++ [c]
  rows := t.rows.map (· ++ [none])
  width := by
    intro r hr
    obtain ⟨r, hr', rfl⟩ := List.mem_map.mp hr
    simp [t.width r hr']

/-- The table with some more columns, which are NULL in every row. -/
def addColumns (t : Table V) (cs : List Name) : Table V where
  columns := t.columns ++ cs
  rows := t.rows.map (· ++ List.replicate cs.length none)
  width := by
    intro r hr
    obtain ⟨r, hr', rfl⟩ := List.mem_map.mp hr
    simp [t.width r hr']

@[simp] theorem addColumns_nil (t : Table V) : t.addColumns [] = t := by
  ext1
  · exact List.append_nil _
  · exact (List.map_congr_left fun r _ => List.append_nil r).trans (List.map_id _)

theorem addColumns_singleton (t : Table V) (c : Name) : t.addColumns [c] = t.addColumn c := rfl

/-- Columns can be added to a table in two parts, or all at once. -/
theorem addColumns_addColumns (t : Table V) (cs ds : List Name) :
    (t.addColumns cs).addColumns ds = t.addColumns (cs ++ ds) := by
  ext1
  · exact List.append_assoc ..
  · show (t.rows.map _).map _ = _
    rw [List.map_map]
    refine List.map_congr_left fun r _ => ?_
    show (r ++ List.replicate cs.length none) ++ List.replicate ds.length none = _
    rw [List.append_assoc, List.length_append, List.replicate_add]

/-- One more row; the columns that are not listed get no value. -/
def insert (t : Table V) (columns : List Name) (values : List (Option V)) : Table V where
  columns := t.columns
  rows := t.rows ++ [t.columns.map (cell columns values)]
  width := by
    intro r hr
    rcases List.mem_append.mp hr with hr | hr
    · exact t.width r hr
    · rw [List.mem_singleton.mp hr, List.length_map]

/-- The table in which a column is set to one value in the rows that `p`
selects. -/
def update (t : Table V) (c : Name) (v : Option V) (p : List (Option V) → Bool) : Table V where
  columns := t.columns
  rows := t.rows.map fun r => if p r then r.set (t.columns.idxOf c) v else r
  width := by
    intro r hr
    obtain ⟨r, hr', rfl⟩ := List.mem_map.mp hr
    split <;> simp [t.width r hr']

/-- A column is set in some rows, in each to what the row gives. -/
def updateEach (t : Table V) (c : Name) (v : List (Option V) → Option V)
    (p : List (Option V) → Bool) : Table V where
  columns := t.columns
  rows := t.rows.map fun r => if p r then r.set (t.columns.idxOf c) (v r) else r
  width := by
    intro r hr
    obtain ⟨r, hr', rfl⟩ := List.mem_map.mp hr
    split <;> simp [t.width r hr']

/-- A `SELECT` in the place of a value: that of its first row, or `NULL`. -/
def scalar (t : Table V) (p : List (Option V) → Bool) (v : List (Option V) → Option V) :
    Option V :=
  (t.rows.find? p).bind v

/-- Updates of one column, one after the other, work row by row. -/
theorem foldl_update {α : Type} (c : Name) (v : α → Option V) (p : α → List (Option V) → Bool)
    (l : List α) (t : Table V) :
    (l.foldl (fun t a => t.update c (v a) (p a)) t).columns = t.columns ∧
    (l.foldl (fun t a => t.update c (v a) (p a)) t).rows = t.rows.map fun r =>
      l.foldl (fun r a => if p a r then r.set (t.columns.idxOf c) (v a) else r) r := by
  induction l generalizing t with
  | nil => exact ⟨rfl, (List.map_id' _).symm⟩
  | cons a l ih =>
    obtain ⟨hcolumns, hrows⟩ := ih (t.update c (v a) (p a))
    refine ⟨hcolumns, ?_⟩
    rw [List.foldl_cons, hrows]
    show (t.rows.map _).map _ = _
    rw [List.map_map]
    rfl

/-- On a row whose last cell is the one that is set, where the tests do not
look at that cell. -/
theorem foldl_set_last {α : Type} {v : α → Option V} {p : α → List (Option V) → Bool}
    {q : α → Bool} {r : List (Option V)} (hp : ∀ a x, p a (r ++ [x]) = q a) (l : List α)
    (x : Option V) :
    l.foldl (fun r' a => if p a r' then r'.set r.length (v a) else r') (r ++ [x]) =
      r ++ [l.foldl (fun x a => if q a then v a else x) x] := by
  induction l generalizing x with
  | nil => rfl
  | cons a l ih =>
    rw [List.foldl_cons, List.foldl_cons, hp]
    cases q a with
    | false => exact ih x
    | true =>
      rw [if_pos rfl, if_pos rfl, List.set_append_right _ _ (Nat.le_refl _), Nat.sub_self]
      exact ih (v a)

end Table

/-- A cell set under tests of which at most one holds. -/
theorem foldl_ite_eq_find {α β : Type} {q : α → Bool} {v : α → Option β} {l : List α}
    (h : l.Pairwise fun a b => ¬ (q a = true ∧ q b = true)) (x : Option β) :
    l.foldl (fun x a => if q a then v a else x) x =
      match l.find? q with
      | some a => v a
      | none => x := by
  induction l generalizing x with
  | nil => rfl
  | cons a l ih =>
    obtain ⟨hhead, htail⟩ := List.pairwise_cons.mp h
    rw [List.foldl_cons, ih htail, List.find?_cons]
    cases ha : q a with
    | false => rfl
    | true =>
      have hnone : l.find? q = none :=
        List.find?_eq_none.mpr fun b hb hqb => hhead b hb ⟨ha, hqb⟩
      rw [hnone]
      rfl

/-- If only one entry of a list can meet a test, that at index `k`, searching
for it is looking at that index. -/
theorem find?_eq_getElem? {α : Type} {p : α → Bool} {k : Nat} {l : List α}
    (h : ∀ i (hi : i < l.length), p l[i] = true ↔ i = k) : l.find? p = l[k]? := by
  by_cases hk : k < l.length
  · rw [List.getElem?_eq_getElem hk, List.find?_eq_some_iff_getElem]
    refine ⟨(h k hk).mpr rfl, k, hk, rfl, fun j hj => ?_⟩
    have hjk : ¬ p l[j] = true := fun hp => Nat.ne_of_lt hj ((h j _).mp hp)
    simpa using hjk
  · rw [List.getElem?_eq_none (Nat.not_lt.mp hk), List.find?_eq_none]
    intro a ha hp
    obtain ⟨i, hi, rfl⟩ := List.getElem_of_mem ha
    exact hk ((h i hi).mp hp ▸ hi)

/-! ## Conditions -/

section Conditions

variable {V : Type} [LinearOrder V]

/-- A comparison holds of two values that are not NULL. -/
def Comparison.holds : Comparison → V → V → Bool
  | .lt, a, b => a < b
  | .gt, a, b => b < a
  | .eq, a, b => a = b

/-- A test; one with a `NULL` does not hold. -/
def Test.holds (env : Operand → Option V) (t : Test) : Bool :=
  match env t.left, env t.right with
  | some a, some b => t.comparison.holds a b
  | _, _ => false

/-- `a = b`; with a `NULL` it does not hold. -/
def sqlEq (a b : Option V) : Bool :=
  match a, b with
  | some a, some b => Comparison.eq.holds a b
  | _, _ => false

/-- A condition holds: all of its tests do. -/
def Cond.holds (env : Operand → Option V) (cond : Cond) : Bool := cond.all (Test.holds env)

/-- The operands of a statement on one table. -/
def rowEnv (params : Nat → Option V) (columns : List Name) (row : List (Option V)) :
    Operand → Option V
  | .column _ c => cell columns row c
  | .param n => params n

end Conditions

/-! ## Statements -/

section Statements

variable {V : Type} [LinearOrder V]

/-- A database: the tables under their names. -/
abbrev Database (V : Type) := Name → Option (Table V)

/-- The database in which one table has been stored under its name. -/
def Database.set (db : Database V) (name : Name) (t : Table V) : Database V :=
  Function.update db name (some t)

omit [LinearOrder V] in
@[simp] theorem Database.set_self (db : Database V) (name : Name) (t : Table V) :
    db.set name t name = some t :=
  Function.update_self ..

omit [LinearOrder V] in
theorem Database.set_of_eq {db : Database V} {name : Name} {t : Table V} (h : db name = some t) :
    db.set name t = db := by
  rw [Database.set, ← h, Function.update_eq_self]

omit [LinearOrder V] in
@[simp] theorem Database.set_set (db : Database V) (name : Name) (t t' : Table V) :
    (db.set name t).set name t' = db.set name t' :=
  Function.update_idem ..

omit [LinearOrder V] in
theorem Database.set_ne (db : Database V) {name other : Name} (h : other ≠ name) (t : Table V) :
    db.set name t other = db other :=
  Function.update_of_ne h ..

/-- `PRAGMA table_info(name)`: the columns, none where there is no table. -/
def Database.tableInfo (db : Database V) (name : Name) : List Name :=
  ((db name).map Table.columns).getD []

omit [LinearOrder V] in
theorem Database.tableInfo_eq {db : Database V} {name : Name} {t : Table V}
    (h : db name = some t) : db.tableInfo name = t.columns := by
  rw [Database.tableInfo, h]
  rfl

/-- A statement is run, with values for its parameters. `none`: it is refused,
and the database stays as it was. -/
def exec (db : Database V) (params : Nat → Option V) : Statement → Option (Database V)
  | .createTable name columns =>
    match db name with
    | some _ => none
    | none => some (db.set name (Table.empty columns))
  | .addColumn name c => do
    let t ← db name
    if c ∈ t.columns then none else some (db.set name (t.addColumn c))
  | .insert name columns n => do
    let t ← db name
    if n = columns.length ∧ ∀ c ∈ columns, c ∈ t.columns then
      some (db.set name (t.insert columns ((List.range n).map fun k => params (k + 1))))
    else none
  | .update name c cond => do
    let t ← db name
    if c ∈ t.columns then
      some (db.set name (t.update c (params 1) fun row =>
        Cond.holds (rowEnv params t.columns row) cond))
    else none
  | .select .. => some db

/-- `sqlite3_exec`, for a text without parameters. -/
def execText (db : Database V) (text : List Char) : Option (Database V) :=
  (readStatement text).bind (exec db fun _ => none)

/-- `sqlite3_prepare_v2`, for a statement that writes: it fails where running
the statement would. -/
def prepare (db : Database V) (text : List Char) : Option Statement :=
  (readStatement text).filter fun stmt => (exec db (fun _ => none) stmt).isSome

theorem prepare_eq {db db' : Database V} {text : List Char} {stmt : Statement}
    (hread : readStatement text = some stmt) (hexec : exec db (fun _ => none) stmt = some db') :
    prepare db text = some stmt := by
  rw [prepare, hread, Option.filter_some, hexec]
  rfl

theorem exec_update {db : Database V} {name c : Name} {t : Table V} (ht : db name = some t)
    (hc : c ∈ t.columns) (params : Nat → Option V) (cond : Cond) :
    exec db params (.update name c cond) = some (db.set name (t.update c (params 1) fun row =>
      Cond.holds (rowEnv params t.columns row) cond)) := by
  rw [exec, ht, Option.bind_eq_bind, Option.bind_some, if_pos hc]

end Statements

/-! ## Joins -/

section Joins

variable {α β γ : Type}

/-- A left join: each row with every match, or once without any. -/
def leftJoin (on : α → β → Bool) (pair : α → Option β → γ) (l : List α) (r : List β) : List γ :=
  l.flatMap fun a =>
    match r.filter (on a) with
    | [] => [pair a none]
    | b :: bs => (b :: bs).map fun b => pair a (some b)

/-- **Where no row has two matches**, a left join has one result for each row:
with its match, or without one. -/
theorem leftJoin_eq_map {on : α → β → Bool} {l : List α} {r : List β}
    (h : ∀ a ∈ l, r.Pairwise fun b b' => ¬ (on a b = true ∧ on a b' = true))
    (pair : α → Option β → γ) :
    leftJoin on pair l r = l.map fun a => pair a (r.find? (on a)) := by
  rw [leftJoin, List.map_eq_flatMap]
  refine List.flatMap_congr fun a ha => ?_
  have hpair := (h a ha).filter (on a)
  have hhead : r.find? (on a) = (r.filter (on a)).head? := (List.head?_filter ..).symm
  rw [hhead]
  cases hf : r.filter (on a) with
  | nil => rfl
  | cons b bs =>
    -- a second match would exclude the first
    have hall : ∀ x ∈ b :: bs, on a x = true := by
      intro x hx
      rw [← hf] at hx
      exact (List.mem_filter.mp hx).2
    rw [hf] at hpair
    obtain rfl : bs = [] := by
      cases bs with
      | nil => rfl
      | cons x xs =>
        have hb := hall b (List.mem_cons_self ..)
        have hx := hall x (by simp)
        exact absurd ⟨hb, hx⟩ ((List.pairwise_cons.mp hpair).1 x (List.mem_cons_self ..))
    rfl

end Joins

section Queries

variable {V : Type} [LinearOrder V]

/-- The part of a joined row that one of its tables gives. -/
structure JoinPart (V : Type) where
  table : Name
  columns : List Name
  row : List (Option V)

/-- What the operands of a query stand for in a joined row. -/
def joinEnv (parts : List (JoinPart V)) : Operand → Option V
  | .column (some t) c =>
    (parts.find? fun p => p.table == t).bind fun p => cell p.columns p.row c
  | .column none c =>
    (parts.find? fun p => p.columns.contains c).bind fun p => cell p.columns p.row c
  | .param _ => none

omit [LinearOrder V] in
/-- In a query of a single table, a column without the name of a table is that
of the table. -/
theorem joinEnv_single {name : Name} {columns : List Name} {row : List (Option V)}
    (hwidth : row.length = columns.length) (c : Name) :
    joinEnv [⟨name, columns, row⟩] (.column none c) = cell columns row c := by
  rw [joinEnv, List.find?_cons]
  by_cases hc : c ∈ columns
  · simp [hc]
  · simp [hc, cell_of_not_mem hwidth hc]

/-- One more table is joined to the rows so far: a row without a match gets
NULLs. -/
def joinTable (db : Database V) (acc : List (List (JoinPart V))) (join : Name × Cond) :
    Option (List (List (JoinPart V))) :=
  (db join.1).map fun t =>
    leftJoin (fun parts row => Cond.holds (joinEnv (parts ++ [⟨join.1, t.columns, row⟩])) join.2)
      (fun parts row =>
        parts ++ [⟨join.1, t.columns, row.getD (List.replicate t.columns.length none)⟩])
      acc t.rows

/-- The joined rows of a `SELECT`, in order. -/
def selectRows (db : Database V) : Statement → Option (List (List (JoinPart V)))
  | .select _ name joins => do
    let t ← db name
    joins.foldlM (joinTable db) (t.rows.map fun row => [⟨name, t.columns, row⟩])
  | _ => none

/-- The value of an output that is a column. -/
def outputValue (parts : List (JoinPart V)) (output : List Token) : Option V :=
  (parseOperand 1 output).bind (joinEnv parts)

/-- The lines that a `SELECT` delivers: its columns of the joined rows. -/
def query (db : Database V) : Statement → Option (List (List (Option V)))
  | .select outputs name joins =>
    (selectRows db (.select outputs name joins)).map fun lines =>
      lines.map fun parts => outputs.map (outputValue parts)
  | _ => none

/-- A query of some columns of a single table gives one line for each row, with
the cells of the row in these columns. -/
theorem query_columns {db : Database V} {name : Name} {t : Table V} (ht : db name = some t)
    (columns : List Name) :
    query db (.select (columns.map fun c => [.word c]) name []) =
      some (t.rows.map fun row => columns.map (cell t.columns row)) := by
  rw [query, selectRows, ht]
  show some ((t.rows.map _).map _) = _
  rw [List.map_map]
  congr 1
  refine List.map_congr_left fun row hrow => ?_
  show (columns.map _).map _ = _
  rw [List.map_map]
  exact List.map_congr_left fun c _ => joinEnv_single (t.width row hrow) c

end Queries

end ObdGpsLogger.Sql

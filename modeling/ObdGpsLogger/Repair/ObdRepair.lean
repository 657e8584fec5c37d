import ObdGpsLogger.CLib.Arith
import ObdGpsLogger.CLib.ScanInt
import ObdGpsLogger.Logger.LogDb

/-!
# `obdrepair.c` — trip ids for a log without them

`checktripids` of `src/repair/obdrepair.c`: where a table has no column `trip`,
it is added, and each trip writes its id into the rows of its time.

The update asks for `time>? AND time<?`, so a row at the very start or end of
its trip gets nothing. The logger puts the first row of every trip at its
start: `checktripids_restores` says that a log of such trips is restored only
when it is empty.

Mirroring notes:
- Rows are read while others are written, in another table; that changes
  nothing here.
- The printed texts and the `sqlite3_step` result of an update, which is not
  looked at, are left out.
-/

namespace ObdGpsLogger.Repair

open CLib Sql
open Logger (obdTable timeOf tripTable)

/-- The name of the column `trip`. -/
def tripColumn : Name := "trip".toList

/-- `sqlite3_column_int`: the low 32 bits; a `NULL` is 0. -/
def columnInt (v : Option Rat) : Int := toInt (trunc (v.getD 0))

/-- `sqlite3_column_double`; a `NULL` is 0. -/
def columnDouble (v : Option Rat) : Rat := v.getD 0

/-- `addcol_sql`, an array of 256: the statement that adds the column `trip`. -/
def addcolSql (table_name : Name) : List Char :=
  snprintf 256 ("ALTER TABLE ".toList ++ table_name ++ " ADD trip INTEGER".toList)

/-- `update_sql`, an array of 1024: the statement that stores the id of a trip
in the rows inside of it. -/
def updateSql (table_name : Name) : List Char :=
  snprintf 1024 ("UPDATE ".toList ++ table_name ++ " SET trip=? WHERE time>? AND time<?".toList)

/-- `trip_sql`: the query for the trips. -/
def tripSql : List Char := "SELECT tripid, start, end FROM trip".toList

/-- The parameters with which the update runs for a line of `trip_sql`: the id,
the start and the end of the trip. -/
def updateParams (r : List (Option Rat)) : Nat → Option Rat
  | 1 => some (columnInt r[0]?.join)
  | 2 => some (columnDouble r[1]?.join)
  | 3 => some (columnDouble r[2]?.join)
  | _ => none

/-- `checktripids`: what it returns, and the database. -/
def checktripids (db : Database Rat) (table_name : Name) : Int × Database Rat :=
  if tripColumn ∈ db.tableInfo table_name then (0, db)
  else
    match execText db (addcolSql table_name) with
    | none => (-1, db)
    | some db =>
      match prepare db (updateSql table_name), (readStatement tripSql).bind (query db) with
      | some update_stmt, some lines =>
        (lines.length, lines.foldl (fun db line =>
          (exec db (updateParams line) update_stmt).getD db) db)
      | _, _ => (-1, db)

/-! ## What a log is -/

/-- A time is in the closed interval of a trip. -/
def Covers (trips : Table Rat) (a : List (Option Rat)) (t : Rat) : Prop :=
  ∃ start fin, cell trips.columns a "start".toList = some start ∧
    cell trips.columns a "end".toList = some fin ∧ start ≤ t ∧ t ≤ fin

/-- A time is in the open interval of a trip. -/
def Inside (trips : Table Rat) (a : List (Option Rat)) (t : Rat) : Prop :=
  ∃ start fin, cell trips.columns a "start".toList = some start ∧
    cell trips.columns a "end".toList = some fin ∧ start < t ∧ t < fin

/-- A log whose rows do not tell their trips: the trips are disjoint, each row
is in one of them, and a trip with rows has one at its start and one at its
end. -/
structure LogWithoutTrips (db : Database Rat) (obd trips : Table Rat) : Prop where
  obd_eq : db obdTable = some obd
  trips_eq : db tripTable = some trips
  time_mem : "time".toList ∈ obd.columns
  trip_not_mem : tripColumn ∉ obd.columns
  /-- Every trip of the log has an id, a start and an end, so none of them is
  still open. -/
  filled : ∀ a ∈ trips.rows, ∃ (id : Int) (start fin : Rat),
    cell trips.columns a "tripid".toList = some (id : Rat) ∧
    cell trips.columns a "start".toList = some start ∧
    cell trips.columns a "end".toList = some fin
  disjoint : trips.rows.Pairwise fun a b => ∀ t, ¬ (Covers trips a t ∧ Covers trips b t)
  distinct : obd.rows.Pairwise fun r r' => timeOf obd r ≠ timeOf obd r'
  covered : ∀ r ∈ obd.rows, ∃ t, timeOf obd r = some t ∧ ∃ a ∈ trips.rows, Covers trips a t
  first : ∀ r ∈ obd.rows, ∀ t, timeOf obd r = some t → ∀ a ∈ trips.rows, Covers trips a t →
    ∃ r' ∈ obd.rows, timeOf obd r' = cell trips.columns a "start".toList
  last : ∀ r ∈ obd.rows, ∀ t, timeOf obd r = some t → ∀ a ∈ trips.rows, Covers trips a t →
    ∃ r' ∈ obd.rows, timeOf obd r' = cell trips.columns a "end".toList

/-- A row of the table afterwards has what it had. -/
def Kept (obd obd' : Table Rat) (r r' : List (Option Rat)) : Prop :=
  ∀ c ∈ obd.columns, cell obd'.columns r' c = cell obd.columns r c

/-- The row `r'` of the repaired table has the id of the trip `a` in its trip
column. -/
def Stamped (trips obd' : Table Rat) (r' a : List (Option Rat)) : Prop :=
  cell obd'.columns r' tripColumn = cell trips.columns a "tripid".toList

/-- **Every row has the id of its trip** in the repaired table, a row outside
all trips has none, and nothing else has changed. -/
structure Restored (obd trips : Table Rat) (db db' : Database Rat) : Prop where
  added : ∃ obd', db' obdTable = some obd' ∧ obd'.columns = obd.columns ++ [tripColumn] ∧
    List.Forall₂ (fun r r' => Kept obd obd' r r' ∧
      ∀ t, timeOf obd r = some t → ∀ a ∈ trips.rows, Covers trips a t → Stamped trips obd' r' a)
      obd.rows obd'.rows
  others : ∀ name, name ≠ obdTable → db' name = db name

/-! ## The statements -/

theorem readStatement_addcolSql :
    readStatement (addcolSql obdTable) = some (.addColumn obdTable tripColumn) := by
  decide +kernel

/-- The condition of the update: a time strictly between its two parameters. -/
def between : Cond :=
  [⟨.column none "time".toList, .gt, .param 2⟩, ⟨.column none "time".toList, .lt, .param 3⟩]

theorem readStatement_updateSql :
    readStatement (updateSql obdTable) = some (.update obdTable tripColumn between) := by
  decide +kernel

/-- The columns that `trip_sql` asks for. -/
def tripOutputs : List Name := ["tripid".toList, "start".toList, "end".toList]

theorem readStatement_tripSql : readStatement tripSql =
    some (.select (tripOutputs.map fun c => [.word c]) tripTable []) := by
  decide +kernel

/-! ## What the updates do -/

section Updates

variable {db : Database Rat} {obd trips : Table Rat}

/-- The test of the update for a trip, on the time of a row. -/
def insideTest (trips : Table Rat) (time : Option Rat) (a : List (Option Rat)) : Bool :=
  time.any fun t => decide (columnDouble (cell trips.columns a "start".toList) < t) &&
    decide (t < columnDouble (cell trips.columns a "end".toList))

/-- What the update for a trip stores in the rows: its id, read as an integer. -/
def stampOf (trips : Table Rat) (a : List (Option Rat)) : Option Rat :=
  some (columnInt (cell trips.columns a "tripid".toList))

/-- The line of `trip_sql` for a row of `trip`. -/
def lineOf (trips : Table Rat) (a : List (Option Rat)) : List (Option Rat) :=
  tripOutputs.map (cell trips.columns a)

theorem query_tripSql {db : Database Rat} (ht : db tripTable = some trips) :
    (readStatement tripSql).bind (query db) = some (trips.rows.map (lineOf trips)) := by
  rw [readStatement_tripSql]
  exact query_columns ht tripOutputs

theorem between_holds (t : Table Rat) (r a : List (Option Rat)) :
    Cond.holds (rowEnv (updateParams (lineOf trips a)) t.columns r) between =
      insideTest trips (timeOf t r) a := by
  have htime : rowEnv (updateParams (lineOf trips a)) t.columns r (.column none "time".toList) =
      timeOf t r := rfl
  simp only [between, Cond.holds, List.all_cons, List.all_nil, Bool.and_true, Test.holds, htime]
  cases timeOf t r with
  | none => rfl
  | some time => rfl

/-- The update for one trip sets the trip column in the rows whose time is
inside that trip, as SQLite compares them. -/
theorem exec_update_line {db : Database Rat} {t : Table Rat} (ht : db obdTable = some t)
    (htrip : tripColumn ∈ t.columns) (a : List (Option Rat)) :
    exec db (updateParams (lineOf trips a)) (.update obdTable tripColumn between) =
      some (db.set obdTable (t.update tripColumn (stampOf trips a) fun r =>
        insideTest trips (timeOf t r) a)) := by
  rw [exec_update ht htrip]
  simp only [between_holds]
  rfl

/-- The table after the updates for some trips. -/
def stampAll (trips : Table Rat) (l : List (List (Option Rat))) (t : Table Rat) : Table Rat :=
  l.foldl (fun t' a => t'.update tripColumn (stampOf trips a) fun r =>
    insideTest trips (timeOf t r) a) t

theorem foldl_exec_lines (db : Database Rat) {l : List (List (Option Rat))} {t t₀ : Table Rat}
    (ht : t.columns = t₀.columns) (htrip : tripColumn ∈ t₀.columns) :
    (l.map (lineOf trips)).foldl (fun db line =>
        (exec db (updateParams line) (.update obdTable tripColumn between)).getD db)
      (db.set obdTable t) =
      db.set obdTable (l.foldl (fun t' a => t'.update tripColumn (stampOf trips a) fun r =>
        insideTest trips (timeOf t₀ r) a) t) := by
  induction l generalizing t with
  | nil => rfl
  | cons a l ih =>
    have hset : ∀ t' : Table Rat, (db.set obdTable t).set obdTable t' = db.set obdTable t' :=
      fun t' => Function.update_idem ..
    have htime : ∀ r, timeOf t r = timeOf t₀ r := fun r => by rw [timeOf, timeOf, ht]
    rw [List.map_cons, List.foldl_cons, exec_update_line (Database.set_self ..) (ht ▸ htrip),
      Option.getD_some, hset]
    simp only [htime]
    exact ih ht

theorem checktripids_eq (h : LogWithoutTrips db obd trips) :
    checktripids db obdTable =
      ((trips.rows.length : Int),
        db.set obdTable (stampAll trips trips.rows (obd.addColumn tripColumn))) := by
  have hinfo : tripColumn ∉ db.tableInfo obdTable := by
    rw [Database.tableInfo, h.obd_eq]
    exact h.trip_not_mem
  have hadd : execText db (addcolSql obdTable) =
      some (db.set obdTable (obd.addColumn tripColumn)) := by
    rw [execText, readStatement_addcolSql, Option.bind_some, exec, h.obd_eq, Option.bind_eq_bind,
      Option.bind_some, if_neg h.trip_not_mem]
  have htrip : tripColumn ∈ (obd.addColumn tripColumn).columns := by
    show tripColumn ∈ obd.columns ++ [tripColumn]
    simp
  have htrips : (db.set obdTable (obd.addColumn tripColumn)) tripTable = some trips :=
    (Database.set_ne db (by decide) _).trans h.trips_eq
  unfold checktripids
  rw [if_neg hinfo, hadd]
  dsimp only
  rw [prepare_eq readStatement_updateSql (exec_update (Database.set_self ..) htrip _ _),
    query_tripSql htrips]
  dsimp only
  rw [List.length_map, foldl_exec_lines db rfl htrip]
  rfl

theorem checktripids_obd (h : LogWithoutTrips db obd trips) :
    (checktripids db obdTable).2 obdTable =
      some (stampAll trips trips.rows (obd.addColumn tripColumn)) := by
  rw [checktripids_eq h]
  show db.set obdTable _ obdTable = _
  exact Database.set_self ..

/-! ## Row by row -/

/-- The id that a row of `obd` should get: that of the first trip it is inside
of. -/
def tripCell (obd trips : Table Rat) (r : List (Option Rat)) : Option Rat :=
  (trips.rows.find? (insideTest trips (timeOf obd r))).bind (stampOf trips)

/-- The test of the update is that of the open interval: the time is after the
start of the trip and before its end. -/
theorem insideTest_iff (h : LogWithoutTrips db obd trips) {a : List (Option Rat)}
    (ha : a ∈ trips.rows) (t : Rat) : insideTest trips (some t) a = true ↔ Inside trips a t := by
  obtain ⟨-, start, fin, -, hstart, hfin⟩ := h.filled a ha
  rw [insideTest, hstart, hfin, Option.any_some, Bool.and_eq_true, decide_eq_true_eq,
    decide_eq_true_eq]
  constructor
  · rintro ⟨hlt, hlt'⟩
    exact ⟨start, fin, hstart, hfin, hlt, hlt'⟩
  · rintro ⟨s, f, hs, hf, hlt, hlt'⟩
    rw [hstart] at hs
    rw [hfin] at hf
    cases hs
    cases hf
    exact ⟨hlt, hlt'⟩

theorem Inside.covers {a : List (Option Rat)} {t : Rat} (h : Inside trips a t) :
    Covers trips a t := by
  obtain ⟨start, fin, hstart, hfin, hlt, hlt'⟩ := h
  exact ⟨start, fin, hstart, hfin, le_of_lt hlt, le_of_lt hlt'⟩

/-- The trips of the log do not overlap, so no time is inside two of them, and
no update undoes another one. -/
theorem pairwise_insideTest (h : LogWithoutTrips db obd trips) (time : Option Rat) :
    trips.rows.Pairwise fun a b =>
      ¬ (insideTest trips time a = true ∧ insideTest trips time b = true) := by
  refine h.disjoint.imp_of_mem fun {a b} ha hb hdisjoint hboth => ?_
  cases time with
  | none => exact absurd hboth.1 (by simp [insideTest])
  | some t =>
    exact hdisjoint t ⟨((insideTest_iff h ha t).mp hboth.1).covers,
      ((insideTest_iff h hb t).mp hboth.2).covers⟩

/-- The rows afterwards are the rows before, each with one more cell. -/
theorem stampAll_rows (h : LogWithoutTrips db obd trips) :
    (stampAll trips trips.rows (obd.addColumn tripColumn)).columns = obd.columns ++ [tripColumn] ∧
    (stampAll trips trips.rows (obd.addColumn tripColumn)).rows =
      obd.rows.map fun r => r ++ [tripCell obd trips r] := by
  obtain ⟨hcolumns, hrows⟩ := Table.foldl_update tripColumn (stampOf trips)
    (fun a r => insideTest trips (timeOf (obd.addColumn tripColumn) r) a) trips.rows
    (obd.addColumn tripColumn)
  refine ⟨hcolumns, hrows.trans ?_⟩
  show (obd.rows.map _).map _ = _
  rw [List.map_map]
  refine List.map_congr_left fun r hr => ?_
  have hwidth := obd.width r hr
  have hidx : (obd.addColumn tripColumn).columns.idxOf tripColumn = r.length := by
    show (obd.columns ++ [tripColumn]).idxOf tripColumn = _
    rw [List.idxOf_append_of_notMem h.trip_not_mem, hwidth]
    simp
  have htest : ∀ (a : List (Option Rat)) (x : Option Rat),
      insideTest trips (timeOf (obd.addColumn tripColumn) (r ++ [x])) a =
        insideTest trips (timeOf obd r) a := by
    intro a x
    rw [timeOf, Table.addColumn, cell_append_left hwidth h.time_mem, timeOf]
  show List.foldl _ (r ++ [none]) _ = _
  rw [hidx, Table.foldl_set_last htest, foldl_ite_eq_find (pairwise_insideTest h _), tripCell]
  cases trips.rows.find? (insideTest trips (timeOf obd r)) with
  | none => rfl
  | some a => rfl

/-- **A row gets the id of its trip** when it is strictly inside, and the id
is an `int`. -/
theorem tripCell_eq_iff (h : LogWithoutTrips db obd trips) {r a : List (Option Rat)} {t : Rat}
    (ht : timeOf obd r = some t) (ha : a ∈ trips.rows) (hcovers : Covers trips a t) :
    tripCell obd trips r = cell trips.columns a "tripid".toList ↔
      Inside trips a t ∧
        ∀ id : Int, cell trips.columns a "tripid".toList = some (id : Rat) → toInt id = id := by
  obtain ⟨id, -, -, hid, -, -⟩ := h.filled a ha
  -- a trip whose interval the time is inside of is this one
  have honly : ∀ b ∈ trips.rows, insideTest trips (timeOf obd r) b = true → b = a := by
    intro b hb hinside
    rw [ht, insideTest_iff h hb] at hinside
    by_contra hne
    have hsymm : Std.Symm fun a b => ∀ t, ¬ (Covers trips a t ∧ Covers trips b t) :=
      ⟨fun a b hab t hboth => hab t hboth.symm⟩
    exact h.disjoint.forall hb ha hne t ⟨hinside.covers, hcovers⟩
  have hinside_iff : insideTest trips (timeOf obd r) a = true ↔ Inside trips a t := by
    rw [ht, insideTest_iff h ha]
  unfold tripCell
  cases hfind : trips.rows.find? (insideTest trips (timeOf obd r)) with
  | none =>
    have hnot := List.find?_eq_none.mp hfind a ha
    rw [hinside_iff] at hnot
    constructor
    · intro heq
      rw [hid] at heq
      cases heq
    · intro hboth
      exact absurd hboth.1 hnot
  | some b =>
    obtain rfl := honly b (List.mem_of_find?_eq_some hfind) (List.find?_some hfind)
    have hinside := hinside_iff.mp (List.find?_some hfind)
    show some ((toInt (trunc ((cell trips.columns b "tripid".toList).getD 0)) : Int) : Rat) = _ ↔ _
    rw [hid, Option.getD_some, trunc_intCast, Option.some_inj, Int.cast_inj]
    constructor
    · intro hfits
      refine ⟨hinside, fun id' hid' => ?_⟩
      rw [← Int.cast_inj.mp (Option.some.inj hid')]
      exact hfits
    · intro hboth
      exact hboth.2 id rfl

/-- What a row of the new table has in its columns. -/
theorem cell_stamped (h : LogWithoutTrips db obd trips) {r : List (Option Rat)}
    (hr : r ∈ obd.rows) (x : Option Rat) :
    (∀ c ∈ obd.columns, cell (obd.columns ++ [tripColumn]) (r ++ [x]) c = cell obd.columns r c) ∧
    cell (obd.columns ++ [tripColumn]) (r ++ [x]) tripColumn = x := by
  have hwidth := obd.width r hr
  refine ⟨fun c hc => cell_append_left hwidth hc, ?_⟩
  rw [cell_append_right hwidth h.trip_not_mem]
  rfl

/-- A log with a row is not restored: the first row of its trip gets nothing. -/
theorem not_restored (h : LogWithoutTrips db obd trips) {r : List (Option Rat)}
    (hr : r ∈ obd.rows) : ¬ Restored obd trips db (checktripids db obdTable).2 := by
  intro hrestored
  obtain ⟨obd', hobd', hcolumns, hall⟩ := hrestored.added
  obtain ⟨-, hrows⟩ := stampAll_rows h
  rw [checktripids_obd h] at hobd'
  obtain rfl := Option.some.inj hobd'
  rw [hrows, List.forall₂_map_right_iff, List.forall₂_same] at hall
  -- the trip of the row, and the row at its start
  obtain ⟨t, ht, a, ha, hcovers⟩ := h.covered r hr
  obtain ⟨r', hr', hstart'⟩ := h.first r hr t ht a ha hcovers
  obtain ⟨start, fin, hstart, hfin, hle, hle'⟩ := hcovers
  rw [hstart] at hstart'
  have hcovers' : Covers trips a start := ⟨start, fin, hstart, hfin, le_refl _, hle.trans hle'⟩
  have hstamped := (hall r' hr').2 start hstart' a ha hcovers'
  rw [Stamped, hcolumns, (cell_stamped h hr' _).2] at hstamped
  obtain ⟨start', -, hs, -, hlt, -⟩ := ((tripCell_eq_iff h hstart' ha hcovers').mp hstamped).1
  rw [hstart] at hs
  cases hs
  exact absurd hlt (lt_irrefl _)

/-- **Which rows get their trip back.** The column is added, and the other
columns and tables stay as they are. A row gets the id of its trip if and only
if it is strictly inside the interval, and the id is an `int`; so a log is
restored if and only if it has no rows. -/
theorem checktripids_restores (h : LogWithoutTrips db obd trips) :
    (Restored obd trips db (checktripids db obdTable).2 ↔ obd.rows = []) ∧
    (checktripids db obdTable).1 = trips.rows.length ∧
    (∀ name, name ≠ obdTable → (checktripids db obdTable).2 name = db name) ∧
    ∃ obd', (checktripids db obdTable).2 obdTable = some obd' ∧
      obd'.columns = obd.columns ++ [tripColumn] ∧
      List.Forall₂ (fun r r' => Kept obd obd' r r' ∧
        ∀ t, timeOf obd r = some t → ∀ a ∈ trips.rows, Covers trips a t →
          (Stamped trips obd' r' a ↔ Inside trips a t ∧
            ∀ id : Int, cell trips.columns a "tripid".toList = some (id : Rat) → toInt id = id))
        obd.rows obd'.rows := by
  obtain ⟨hcolumns, hrows⟩ := stampAll_rows h
  have hothers : ∀ name, name ≠ obdTable → (checktripids db obdTable).2 name = db name := by
    intro name hname
    rw [checktripids_eq h]
    exact Database.set_ne db hname _
  refine ⟨⟨fun hrestored => ?_, fun hnil =>
    ⟨⟨_, checktripids_obd h, hcolumns, ?_⟩, hothers⟩⟩, ?_, hothers, _, checktripids_obd h, hcolumns,
    ?_⟩
  · by_contra hne
    -- any row shows that not all of them got the trip they had
    obtain ⟨r, hr⟩ := List.exists_mem_of_ne_nil _ hne
    exact not_restored h hr hrestored
  · rw [hrows, hnil]
    exact List.Forall₂.nil
  · rw [checktripids_eq h]
  · rw [hrows, List.forall₂_map_right_iff, List.forall₂_same]
    intro r hr
    obtain ⟨hkept, htrip⟩ := cell_stamped h hr (tripCell obd trips r)
    refine ⟨fun c hc => ?_, fun t ht a ha hcovers => ?_⟩
    · rw [hcolumns]
      exact hkept c hc
    · rw [Stamped, hcolumns, htrip]
      exact tripCell_eq_iff h ht ha hcovers

end Updates

/-! ## A trip of three rows -/

/-- A table `obd` of three samples, one second apart. -/
def threeRows : Table Rat where
  columns := ["rpm".toList, "time".toList]
  rows := [[some 800, some 10], [some 900, some 11], [some 850, some 12]]
  width := by decide

/-- The table of trips for a log of three rows: one trip, from the time of the
first row to that of the last. -/
def oneTrip : Table Rat where
  columns := tripOutputs
  rows := [[some 1, some 10, some 12]]
  width := by decide

/-- A log with these samples and the trip around them. -/
def threeRowLog : Database Rat :=
  Database.set (Database.set (fun _ => none) tripTable oneTrip) obdTable threeRows

theorem threeRowLog_ok : LogWithoutTrips threeRowLog threeRows oneTrip where
  obd_eq := Database.set_self ..
  trips_eq := (Database.set_ne _ (by decide) _).trans (Database.set_self ..)
  time_mem := by decide
  trip_not_mem := by decide
  filled := by
    intro a ha
    obtain rfl := List.mem_singleton.mp ha
    exact ⟨1, 10, 12, rfl, rfl, rfl⟩
  disjoint := List.pairwise_singleton ..
  distinct := by decide
  covered := by
    have hcovers : ∀ t : Rat, 10 ≤ t → t ≤ 12 → Covers oneTrip [some 1, some 10, some 12] t :=
      fun t hle hle' => ⟨10, 12, rfl, rfl, hle, hle'⟩
    intro r hr
    rcases List.mem_cons.mp hr with rfl | hr
    · exact ⟨10, rfl, _, List.mem_singleton_self _, hcovers 10 (by decide) (by decide)⟩
    rcases List.mem_cons.mp hr with rfl | hr
    · exact ⟨11, rfl, _, List.mem_singleton_self _, hcovers 11 (by decide) (by decide)⟩
    obtain rfl := List.mem_singleton.mp hr
    exact ⟨12, rfl, _, List.mem_singleton_self _, hcovers 12 (by decide) (by decide)⟩
  first := by
    intro r hr t ht a ha hcovers
    obtain rfl := List.mem_singleton.mp ha
    exact ⟨_, List.mem_cons_self .., rfl⟩
  last := by
    intro r hr t ht a ha hcovers
    obtain rfl := List.mem_singleton.mp ha
    exact ⟨[some 850, some 12], by decide, rfl⟩

/-- The log of three rows is not restored: its first row and its last are on the
ends of the trip, which the test leaves out. -/
theorem threeRowLog_not_restored : LogWithoutTrips threeRowLog threeRows oneTrip ∧
    ¬ Restored threeRows oneTrip threeRowLog (checktripids threeRowLog obdTable).2 :=
  ⟨threeRowLog_ok, not_restored threeRowLog_ok (List.mem_cons_self ..)⟩

theorem threeRowLog_restores : LogWithoutTrips threeRowLog threeRows oneTrip ∧
    (Restored threeRows oneTrip threeRowLog (checktripids threeRowLog obdTable).2 ↔
      threeRows.rows = []) :=
  ⟨threeRowLog_ok, (checktripids_restores threeRowLog_ok).1⟩

end ObdGpsLogger.Repair

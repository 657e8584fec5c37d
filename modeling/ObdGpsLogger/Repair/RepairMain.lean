import ObdGpsLogger.Repair.ObdRepair
import ObdGpsLogger.Repair.TripEnds
import ObdGpsLogger.Sql.Keeps

/-!
# `obdrepair` as a whole

The `main` of `src/repair/obdrepairmain.c` runs one check after the other on a
log, each of which may change it and may fail: ends for open trips, trip ids,
indices, a column for the ECU. Then `ANALYZE` writes the table `sqlite_stat1`. It
takes any database, also one that the logger would never write: with tables and
columns missing, with indices of its own.

`repair_idempotent`: it has nothing to do on what it has repaired.
`repair_keeps`: what was in the database still is, but for the ends that were
missing and the old statistics, and where there are tables for them the columns
are there.

Mirroring notes:
- `ANALYZE` is that of `libs/sqlite3/sqlite3.c`: it creates `sqlite_stat1` or empties
  it, and writes its rows anew. It is taken to succeed. The rows are kept by table
  and index: in which order they are written depends on a hash table.
- The tables are those of the log, not `sqlite_stat1`; none of them is a view.
- The integrity check reads only, and is left out.
- Names are compared as they are written. SQLite has no two columns of a table
  whose names differ in case only.
- An index of the log's own may be on any table, but only one on a table that is
  not written here is unique.
- A column that the update of `checktripids` asks for and that is missing makes
  the statement fail; here it finds no rows.
-/

namespace ObdGpsLogger.Repair

open Sql
open Logger (obdTable tripTable)

/-! ## Indices -/

/-- An index on some columns of a table, unique or not. -/
structure Index where
  name : Name
  table : Name
  columns : List Name
  unique : Bool
  deriving DecidableEq

/-- The table `sqlite_stat1`: the texts for a table and one of its indices, or for a
table without indices and `NULL`. -/
abbrev Statistics := Name → Option Name → Option (List Char)

/-- A log file: its tables, their indices, and `sqlite_stat1` if there is one. -/
structure File where
  tables : Database Rat
  indices : List Index
  stat1 : Option Statistics

/-- Two rows have the same values, in all of the columns. -/
def sameKey (t : Table Rat) (columns : List Name) (r r' : List (Option Rat)) : Bool :=
  columns.all fun c => sqlEq (cell t.columns r c) (cell t.columns r' c)

/-- `CREATE INDEX`, if there can be such an index. -/
def createIndex (f : File) (i : Index) : Option File :=
  match f.tables i.table with
  | none => none
  | some t =>
    if (∀ j ∈ f.indices, j.name ≠ i.name) ∧ (f.tables i.name).isNone ∧ i.columns ⊆ t.columns ∧
        (i.unique = true → t.rows.Pairwise fun r r' => sameKey t i.columns r r' = false) then
      some { f with indices := f.indices ++ [i] }
    else none

/-- The table has an index of that name. -/
def Indexed (f : File) (i : Index) : Prop := ∃ j ∈ f.indices, j.table = i.table ∧ j.name = i.name

instance (f : File) (i : Index) : Decidable (Indexed f i) :=
  inferInstanceAs (Decidable (∃ j ∈ f.indices, _ ∧ _))

/-- `checkindex`: what it returns, and the log. -/
def checkindex (f : File) (i : Index) : Int × File :=
  if Indexed f i then (0, f)
  else
    match createIndex f i with
    | none => (-1, f)
    | some f' => (1, f')

/-- The five indices that `checkindices` looks for, under the names of the
source. -/
def idxGpstime : Index := ⟨"IDX_GPSTIME".toList, "gps".toList, ["time".toList], false⟩
def idxGpstrip : Index := ⟨"IDX_GPSTRIP".toList, "gps".toList, ["trip".toList], false⟩
def idxObdtime : Index := ⟨"IDX_OBDTIME".toList, "obd".toList, ["time".toList], false⟩
def idxObdtrip : Index := ⟨"IDX_OBDTRIP".toList, "obd".toList, ["trip".toList], false⟩
def idxVinecu : Index := ⟨"IDX_VINECU".toList, "ecu".toList, ["vin".toList, "ecu".toList], true⟩

/-- The checks of some indices, whatever they return. -/
def checkAll (f : File) (is : List Index) : File := is.foldl (fun f i => (checkindex f i).2) f

/-- `checkindices`. Only the first check's result is looked at, five times. -/
def checkindices (f : File) : Int × File :=
  let first := checkindex f idxGpstime
  if first.1 = -1 then (-1, first.2)
  else (if 0 < first.1 then 5 else 0,
    checkAll first.2 [idxGpstrip, idxObdtime, idxObdtrip, idxVinecu])

/-! ## The ECU column -/

/-- The name of the column `ecu`. -/
def ecuColumn : Name := "ecu".toList

/-- `checkobdecu`: `ALTER TABLE obd ADD ecu INTEGER DEFAULT 0`. -/
def checkobdecu (db : Database Rat) : Int × Database Rat :=
  if ecuColumn ∈ db.tableInfo obdTable then (0, db)
  else
    match db obdTable with
    | none => (-1, db)
    | some t => (1, db.set obdTable (t.addColumnDefault ecuColumn (some 0)))

/-- What `main` does to the tables before it comes to the indices. -/
def repairTables (db : Database Rat) : Database Rat :=
  (checktripids (checktripids (checktripends db).2 obdTable).2 Logger.gpsTable).2

/-! ## `ANALYZE` -/

/-- How many rows differ in the first `n` columns of an index. -/
def distinctPrefixes (t : Table Rat) (columns : List Name) (n : Nat) : Nat :=
  (t.rows.map fun r => (columns.take n).map (cell t.columns r)).dedup.length

/-- The text for an index: the number of rows, and for one column more each time
how many rows a value of them selects, rounded up. -/
def indexStat (t : Table Rat) (columns : List Name) : List Char :=
  let rows := t.rows.length
  Nat.toDigits 10 rows ++ (List.range columns.length).flatMap fun n =>
    let distinct := distinctPrefixes t columns (n + 1)
    ' ' :: Nat.toDigits 10 ((rows + distinct - 1) / distinct)

/-- What `analyzeOneTable` writes for a table: a row for each of its indices, or one
for the table if it has none, and nothing if it is empty or a table of SQLite's. -/
def analyzeOneTable (f : File) : Statistics := fun tbl idx =>
  match f.tables tbl with
  | none => none
  | some t =>
    if "sqlite_".toList.isPrefixOf tbl || t.rows.isEmpty then none
    else
      match idx with
      | some name =>
        (f.indices.find? fun i => i.table = tbl ∧ i.name = name).map fun i => indexStat t i.columns
      | none =>
        if ∀ i ∈ f.indices, i.table ≠ tbl then some (Nat.toDigits 10 t.rows.length) else none

/-- `analyze`: what was in `sqlite_stat1` is cleared, and is not looked at. -/
def analyze (f : File) : File := { f with stat1 := some (analyzeOneTable f) }

/-! ## The whole repair -/

/-- What `main` does to a log: the repairs of its tables, the indices, the
column `ecu` and the statistics. -/
def repair (f : File) : File :=
  let indexed := (checkindices { f with tables := repairTables f.tables }).2
  analyze { indexed with tables := (checkobdecu indexed.tables).2 }

/-! ## The tables -/

section Tables

variable {db db' : Database Rat}

/-- Updates of a table, each of which may fail, change no columns. -/
theorem foldl_exec_columns (params : List (Option Rat) → Nat → Option Rat) (cond : Cond)
    {name c : Name} {t₀ : Table Rat} (hc : c ∉ t₀.columns) :
    ∀ (lines : List (List (Option Rat))) {t : Table Rat} (_ : db name = some t)
      (_ : c ∈ t.columns) (_ : t₀.Keeps (fun _ _ => False) t),
      ∃ t', lines.foldl (fun db line => (exec db (params line) (.update name c cond)).getD db) db =
          db.set name t' ∧ t'.columns = t.columns ∧ t₀.Keeps (fun _ _ => False) t' := by
  intro lines
  induction lines generalizing db with
  | nil => exact fun ht _ hk => ⟨_, (Database.set_of_eq ht).symm, rfl, hk⟩
  | cons line lines ih =>
    intro t ht hmem hk
    have hset := Database.set_self db name (t.update c (params line 1) fun row =>
      Cond.holds (rowEnv (params line) t.columns row) cond)
    obtain ⟨t', hfold, hcolumns, hk'⟩ := ih hset hmem (hk.update hc (params line 1) _)
    rw [List.foldl_cons, exec_update ht hmem, Option.getD_some]
    exact ⟨t', by rw [hfold, Database.set_set], hcolumns, hk'⟩

/-- **`checktripids`** adds the column, unless it is there or the table is
not. -/
theorem checktripids_spec (db : Database Rat) {table_name : Name}
    (hadd : readStatement (addcolSql table_name) = some (.addColumn table_name tripColumn))
    (hupdate : readStatement (updateSql table_name) =
      some (.update table_name tripColumn between)) :
    (checktripids db table_name).2 = db ∧
        (tripColumn ∈ db.tableInfo table_name ∨ db table_name = none) ∨
      ∃ t t', db table_name = some t ∧ (checktripids db table_name).2 = db.set table_name t' ∧
        t'.columns = t.columns ++ [tripColumn] ∧ t.Keeps (fun _ _ => False) t' := by
  unfold checktripids
  by_cases hinfo : tripColumn ∈ db.tableInfo table_name
  · rw [if_pos hinfo]
    exact Or.inl ⟨rfl, Or.inl hinfo⟩
  rw [if_neg hinfo, execText, hadd, Option.bind_some, exec]
  cases ht : db table_name with
  | none => exact Or.inl ⟨rfl, Or.inr rfl⟩
  | some t =>
    rw [Database.tableInfo_eq ht] at hinfo
    have hk : t.Keeps (fun _ _ => False) (t.addColumn tripColumn) :=
      Table.keeps_addColumnDefault _ t tripColumn none
    have hmem : tripColumn ∈ (t.addColumn tripColumn).columns := by
      show tripColumn ∈ t.columns ++ [tripColumn]
      simp
    rw [Option.bind_eq_bind, Option.bind_some, if_neg hinfo]
    dsimp only
    rw [prepare_eq hupdate (exec_update (Database.set_self ..) hmem _ _)]
    refine Or.inr ⟨t, ?_⟩
    -- the column is added in any case; the updates run only where the trips can be read
    cases hq : (readStatement tripSql).bind
        (query (db.set table_name (t.addColumn tripColumn))) with
    | none => exact ⟨_, rfl, rfl, rfl, hk⟩
    | some lines =>
      have hset := Database.set_self db table_name (t.addColumn tripColumn)
      obtain ⟨t', hfold, hcolumns, hk'⟩ :=
        foldl_exec_columns updateParams between hinfo lines hset hmem hk
      refine ⟨t', rfl, ?_, hcolumns, hk'⟩
      dsimp only
      rw [hfold, Database.set_set]

/-- The table `trip` once the open trips have got their ends. -/
def endedTrips (trip : Table Rat) : Table Rat :=
  trip.updateEach "end".toList (newEnd trip) fun row =>
    sqlEq (cell trip.columns row "end".toList) (some (-1))

/-- **`checktripends`** gives open trips their ends, if the table is one of
trips. -/
theorem checktripends_spec (db : Database Rat) :
    (checktripends db).2 = db ∧
        (∀ trip, db tripTable = some trip → ¬ tripColumns ⊆ trip.columns) ∨
      ∃ trip, db tripTable = some trip ∧ tripColumns ⊆ trip.columns ∧
        (checktripends db).2 = db.set tripTable (endedTrips trip) := by
  unfold checktripends
  cases ht : db tripTable with
  | none => exact Or.inl ⟨rfl, fun trip h => by cases h⟩
  | some trip =>
    dsimp only
    by_cases hcolumns : tripColumns ⊆ trip.columns
    · rw [if_pos hcolumns]
      exact Or.inr ⟨trip, rfl, hcolumns, rfl⟩
    · rw [if_neg hcolumns]
      exact Or.inl ⟨rfl, fun t h => Option.some.inj h ▸ hcolumns⟩

/-- The end that an open trip gets is computed from the starts of the trips, and
does not depend on what ends other trips get. -/
theorem newEnd_ended {trip : Table Rat} (hcolumns : tripColumns ⊆ trip.columns)
    (r : List (Option Rat)) (v : Option Rat) :
    newEnd (endedTrips trip) (r.set (trip.columns.idxOf "end".toList) v) = newEnd trip r := by
  have hid : ∀ (r : List (Option Rat)) (v : Option Rat),
      cell trip.columns (r.set (trip.columns.idxOf "end".toList) v) "tripid".toList =
        cell trip.columns r "tripid".toList := fun r v =>
    cell_set_ne r (hcolumns (by decide)) (by decide) v
  have hstart : ∀ (r : List (Option Rat)) (v : Option Rat),
      cell trip.columns (r.set (trip.columns.idxOf "end".toList) v) "start".toList =
        cell trip.columns r "start".toList := fun r v =>
    cell_set_ne r (hcolumns (by decide)) (by decide) v
  unfold newEnd Table.scalar
  show (List.find? _ (trip.rows.map _)).bind _ = (trip.rows.find? _).bind _
  rw [List.find?_map, Option.bind_map]
  -- the search and what it gives look at the ids and the starts only
  congr 1
  · congr 1
    funext t2
    show sqlEq (cell trip.columns _ "tripid".toList)
      ((cell trip.columns (if _ then _ else _) "tripid".toList).map _) = _
    rw [hid]
    split
    · rw [hid]
    · rfl
  · funext t2
    show (cell trip.columns (if _ then _ else _) "start".toList).map _ = _
    split
    · rw [hstart]
    · rfl

/-- After a repair of the ends no trip is open, so there is nothing to end when
it is repeated. -/
theorem checktripends_again (h : db' tripTable = (checktripends db).2 tripTable) :
    (checktripends db').2 = db' := by
  rcases checktripends_spec db with ⟨hsame, hno⟩ | ⟨trip, ht, hcolumns, hset⟩
  · rw [hsame] at h
    rcases checktripends_spec db' with ⟨hsame', -⟩ | ⟨trip, ht, hcolumns, -⟩
    · exact hsame'
    · exact absurd hcolumns (hno trip (h ▸ ht))
  · rw [hset, Database.set_self] at h
    rcases checktripends_spec db' with ⟨hsame', -⟩ | ⟨trip', ht', -, hset'⟩
    · exact hsame'
    · rw [h] at ht'
      obtain rfl := Option.some.inj ht'
      rw [hset']
      refine Database.set_of_eq (h.trans (congrArg some (Eq.symm ?_)))
      exact Table.updateEach_updateEach trip "end".toList fun r _ _ => newEnd_ended hcolumns r _

/-- A column that was asked for is there, or there is no table for it. -/
def Present (db : Database Rat) (table c : Name) : Prop := c ∈ db.tableInfo table ∨ db table = none

theorem Present.keeps {table c : Name} {ex : Name → Name → List (Option Rat) → Prop}
    (h : Present db table c) (hk : Database.Keeps ex db db') : Present db' table c := by
  have hrel := hk table
  unfold Present Database.tableInfo at *
  generalize db table = a at h hrel
  generalize db' table = b at hrel ⊢
  cases hrel with
  | none => exact Or.inr rfl
  | some hrel =>
    rcases h with h | h
    · exact Or.inl (hrel.columns.subset h)
    · cases h

/-- What `checktripids` leaves: the column is there, all other cells and tables
are kept, and a second call changes nothing. -/
structure IdsChecked (db : Database Rat) (table_name : Name) : Prop where
  keeps : Database.Keeps (fun _ _ _ => False) db (checktripids db table_name).2
  present : Present (checktripids db table_name).2 table_name tripColumn
  frame : ∀ name, name ≠ table_name → (checktripids db table_name).2 name = db name
  again : Present db table_name tripColumn → (checktripids db table_name).2 = db

theorem idsChecked {table_name : Name}
    (hadd : readStatement (addcolSql table_name) = some (.addColumn table_name tripColumn))
    (hupdate : readStatement (updateSql table_name) =
      some (.update table_name tripColumn between)) (db : Database Rat) :
    IdsChecked db table_name := by
  rcases checktripids_spec db hadd hupdate with
    ⟨hsame, hpresent⟩ | ⟨t, t', ht, hset, hcolumns, hk⟩
  · refine ⟨?_, ?_, fun name _ => ?_, fun _ => hsame⟩ <;> rw [hsame]
    · exact Database.Keeps.refl _ db
    · exact hpresent
  · refine ⟨?_, ?_, fun name hname => ?_, fun hpresent => ?_⟩
    · rw [hset]
      exact (Database.Keeps.refl _ db).set ht hk
    · rw [hset]
      refine Or.inl ?_
      rw [Database.tableInfo_eq (Database.set_self ..), hcolumns]
      simp
    · rw [hset, Database.set_ne _ hname]
    · -- then the column is not added
      unfold checktripids
      rcases hpresent with h | h
      · rw [if_pos h]
      · rw [ht] at h
        cases h

theorem idsChecked_obd (db : Database Rat) : IdsChecked db obdTable :=
  idsChecked readStatement_addcolSql readStatement_updateSql db

theorem idsChecked_gps (db : Database Rat) : IdsChecked db Logger.gpsTable :=
  idsChecked (by decide +kernel) (by decide +kernel) db

/-- What `checkobdecu` leaves: the table `obd` has an ECU column, everything
else is as it was, and with the column there nothing is done. -/
theorem checkobdecu_spec (db : Database Rat) :
    Database.Keeps (fun _ _ _ => False) db (checkobdecu db).2 ∧
    Present (checkobdecu db).2 obdTable ecuColumn ∧
    (∀ name, name ≠ obdTable → (checkobdecu db).2 name = db name) ∧
    (Present db obdTable ecuColumn → (checkobdecu db).2 = db) := by
  unfold checkobdecu
  by_cases hinfo : ecuColumn ∈ db.tableInfo obdTable
  · rw [if_pos hinfo]
    exact ⟨Database.Keeps.refl _ db, Or.inl hinfo, fun _ _ => rfl, fun _ => rfl⟩
  rw [if_neg hinfo]
  cases ht : db obdTable with
  | none => exact ⟨Database.Keeps.refl _ db, Or.inr ht, fun _ _ => rfl, fun _ => rfl⟩
  | some t =>
    refine ⟨(Database.Keeps.refl _ db).set ht (Table.keeps_addColumnDefault _ t _ _), Or.inl ?_,
      fun name hname => Database.set_ne _ hname _, fun hpresent => ?_⟩
    · rw [Database.tableInfo_eq (Database.set_self ..)]
      show ecuColumn ∈ t.columns ++ [ecuColumn]
      simp
    · rcases hpresent with h | h
      · exact absurd h hinfo
      · rw [ht] at h
        cases h

/-- The end of a trip that was left open. -/
def OpenEnd (db : Database Rat) (table c : Name) (r : List (Option Rat)) : Prop :=
  table = tripTable ∧ c = "end".toList ∧
    ∃ trip, db tripTable = some trip ∧ cell trip.columns r c = some (-1)

theorem keeps_checktripends (db : Database Rat) :
    Database.Keeps (OpenEnd db) db (checktripends db).2 := by
  rcases checktripends_spec db with ⟨hsame, -⟩ | ⟨trip, ht, -, hset⟩
  · rw [hsame]
    exact Database.Keeps.refl _ db
  · rw [hset]
    refine (Database.Keeps.refl _ db).set ht ((Table.keeps_updateEach trip _ _ _).mono ?_)
    rintro c r ⟨rfl, hopen⟩
    refine ⟨rfl, rfl, trip, ht, ?_⟩
    cases hend : cell trip.columns r "end".toList with
    | none =>
      rw [hend] at hopen
      cases hopen
    | some e =>
      rw [hend] at hopen
      exact congrArg some (of_decide_eq_true hopen)

/-- What the first three checks leave: nothing is lost, open trips have ends,
and the rows of `obd` and `gps` have a trip column. -/
theorem repairTables_spec (db : Database Rat) :
    Database.Keeps (OpenEnd db) db (repairTables db) ∧
    repairTables db tripTable = (checktripends db).2 tripTable ∧
    Present (repairTables db) obdTable tripColumn ∧
    Present (repairTables db) Logger.gpsTable tripColumn := by
  have hobd := idsChecked_obd (checktripends db).2
  have hgps := idsChecked_gps (checktripids (checktripends db).2 obdTable).2
  refine ⟨((keeps_checktripends db).trans hobd.keeps).trans hgps.keeps, ?_,
    hobd.present.keeps hgps.keeps, hgps.present⟩
  exact (hgps.frame _ (by decide)).trans (hobd.frame _ (by decide))

/-- The first three checks do nothing on tables that they have repaired: no trip
is open, and the trip columns are there. -/
theorem repairTables_again (hends : db' tripTable = (checktripends db).2 tripTable)
    (hobd : Present db' obdTable tripColumn) (hgps : Present db' Logger.gpsTable tripColumn) :
    repairTables db' = db' := by
  unfold repairTables
  rw [checktripends_again hends, (idsChecked_obd db').again hobd, (idsChecked_gps db').again hgps]

end Tables

/-! ## The indices -/

section Indices

variable {f f' : File} {i : Index}

/-- There is nothing to do for an index: the file has it, or else it cannot be
created on the tables as they are. -/
def Done (f : File) (i : Index) : Prop := Indexed f i ∨ createIndex f i = none

theorem checkindex_done (h : Done f i) : (checkindex f i).2 = f := by
  unfold checkindex
  by_cases hidx : Indexed f i
  · rw [if_pos hidx]
  · rw [if_neg hidx, h.resolve_left hidx]

/-- When an index can be created: its name is free, its columns exist, and a
unique one meets no two equal rows. -/
structure Creatable (f : File) (i : Index) : Prop where
  name : ∀ j ∈ f.indices, j.name ≠ i.name
  noTable : f.tables i.name = none
  table : ∃ t, f.tables i.table = some t ∧ i.columns ⊆ t.columns ∧
    (i.unique = true → t.rows.Pairwise fun r r' => sameKey t i.columns r r' = false)

theorem createIndex_none_iff : createIndex f i = none ↔ ¬ Creatable f i := by
  unfold createIndex
  cases ht : f.tables i.table with
  | none =>
    refine iff_of_true rfl fun h => ?_
    obtain ⟨t, h, -⟩ := h.table
    rw [ht] at h
    cases h
  | some t =>
    dsimp only
    split
    · next h =>
      have hname := Option.isNone_iff_eq_none.mp h.2.1
      exact iff_of_false (by simp) (not_not_intro ⟨h.1, hname, t, ht, h.2.2.1, h.2.2.2⟩)
    · next h =>
      refine iff_of_true rfl fun hc =>
        h ⟨hc.name, Option.isNone_iff_eq_none.mpr hc.noTable, ?_⟩
      obtain ⟨t', ht', hrest⟩ := hc.table
      rw [ht] at ht'
      exact Option.some.inj ht' ▸ hrest

theorem createIndex_eq (h : createIndex f i = some f') :
    f' = { f with indices := f.indices ++ [i] } := by
  unfold createIndex at h
  split at h
  · cases h
  · split at h
    · exact (Option.some.inj h).symm
    · cases h

/-- A later log has all the indices, and the tables but for the column that
`checkobdecu` adds. -/
structure Later (f f' : File) : Prop where
  indices : f.indices <+: f'.indices
  tables : f'.tables = f.tables ∨ f'.tables = (checkobdecu f.tables).2

/-- An index that does not depend on that column. -/
def Apart (i : Index) : Prop :=
  i.name ≠ obdTable ∧ (i.table = obdTable → ecuColumn ∉ i.columns ∧ i.unique = false)

/-- If an index can be created after a check, it could be created before: the
column that a check adds is not one that another index is on. -/
theorem Creatable.of_later (h : Creatable f' i) (hlater : Later f f') (hi : Apart i) :
    Creatable f i := by
  refine ⟨fun j hj => h.name j (hlater.indices.subset hj), ?_, ?_⟩
  · -- the check has made no table of the index's name
    have hnone := h.noTable
    rcases hlater.tables with hsame | hsame
    · rwa [hsame] at hnone
    · rwa [hsame, (checkobdecu_spec f.tables).2.2.1 _ hi.1] at hnone
  · -- nor a column that the index is on
    obtain ⟨t, ht, hcolumns, hunique⟩ := h.table
    rcases hlater.tables with hsame | hsame
    · exact ⟨t, hsame ▸ ht, hcolumns, hunique⟩
    · rw [hsame] at ht
      by_cases hobd : i.table = obdTable
      · obtain ⟨hecu, hnot⟩ := hi.2 hobd
        rw [hobd] at ht ⊢
        unfold checkobdecu at ht
        split at ht
        · exact ⟨t, ht, hcolumns, hunique⟩
        · split at ht
          · exact ⟨t, ht, hcolumns, hunique⟩
          · next t₀ ht₀ =>
            have hset : f.tables.set obdTable (t₀.addColumnDefault ecuColumn (some 0)) obdTable =
                some t := ht
            rw [Database.set_self] at hset
            obtain rfl := Option.some.inj hset
            refine ⟨t₀, ht₀, fun c hc => ?_, fun hu => by rw [hnot] at hu; cases hu⟩
            rcases List.mem_append.mp (hcolumns hc) with hmem | hmem
            · exact hmem
            · exact absurd (List.mem_singleton.mp hmem ▸ hc) hecu
      · rw [(checkobdecu_spec f.tables).2.2.1 _ hobd] at ht
        exact ⟨t, ht, hcolumns, hunique⟩

theorem Done.later (h : Done f i) (hlater : Later f f') (hi : Apart i) : Done f' i := by
  rcases h with ⟨j, hj, htable, hname⟩ | hnone
  · exact Or.inl ⟨j, hlater.indices.subset hj, htable, hname⟩
  · refine Or.inr (createIndex_none_iff.mpr fun h => ?_)
    exact createIndex_none_iff.mp hnone (h.of_later hlater hi)

/-- What the check of one index leaves: the tables are as they were, indices are
only added, and nothing is left to do for this one. -/
theorem checkindex_spec (f : File) (i : Index) :
    Later f (checkindex f i).2 ∧ (checkindex f i).2.tables = f.tables ∧
      Done (checkindex f i).2 i := by
  unfold checkindex
  by_cases hidx : Indexed f i
  · rw [if_pos hidx]
    exact ⟨⟨List.prefix_refl _, Or.inl rfl⟩, rfl, Or.inl hidx⟩
  · rw [if_neg hidx]
    cases hc : createIndex f i with
    | none => exact ⟨⟨List.prefix_refl _, Or.inl rfl⟩, rfl, Or.inr hc⟩
    | some f' =>
      obtain rfl := createIndex_eq hc
      refine ⟨⟨List.prefix_append _ _, Or.inl rfl⟩, rfl, Or.inl ⟨i, ?_, rfl, rfl⟩⟩
      exact List.mem_append_right _ (List.mem_singleton_self i)

/-- What checking a list of indices leaves: the tables are as they were, indices
are only added, and nothing is left to do for any of them. -/
theorem checkAll_spec : ∀ (is : List Index) (f : File), (∀ i ∈ is, Apart i) →
    Later f (checkAll f is) ∧ (checkAll f is).tables = f.tables ∧
      ∀ i ∈ is, Done (checkAll f is) i
  | [], f, _ => ⟨⟨List.prefix_refl _, Or.inl rfl⟩, rfl, nofun⟩
  | i :: is, f, hapart => by
    obtain ⟨hlater, htables, hdone⟩ := checkindex_spec f i
    obtain ⟨hlater', htables', hdone'⟩ := checkAll_spec is (checkindex f i).2 fun j hj =>
      hapart j (List.mem_cons_of_mem _ hj)
    refine ⟨⟨hlater.indices.trans hlater'.indices, Or.inl (htables'.trans htables)⟩,
      htables'.trans htables, fun j hj => ?_⟩
    rcases List.mem_cons.mp hj with rfl | hj
    · exact hdone.later hlater' (hapart j (List.mem_cons_self ..))
    · exact hdone' j hj

theorem checkAll_done : ∀ (is : List Index) (f : File), (∀ i ∈ is, Done f i) → checkAll f is = f
  | [], _, _ => rfl
  | i :: is, f, h => by
    show checkAll (checkindex f i).2 is = f
    rw [checkindex_done (h i (List.mem_cons_self ..))]
    exact checkAll_done is f fun j hj => h j (List.mem_cons_of_mem _ hj)

end Indices

/-! ## The whole repair -/

/-- The indices other than the first. -/
def otherIndices : List Index := [idxGpstrip, idxObdtime, idxObdtrip, idxVinecu]

theorem indices_apart : ∀ i ∈ idxGpstime :: otherIndices, Apart i := by
  unfold Apart
  decide

/-- The first check fails where there is no such index, and cannot be. -/
theorem checkindex_fails_iff (f : File) (i : Index) :
    (checkindex f i).1 = -1 ↔ ¬ Indexed f i ∧ createIndex f i = none := by
  unfold checkindex
  by_cases hidx : Indexed f i
  · rw [if_pos hidx]
    exact iff_of_false (show (0 : Int) ≠ -1 by decide) fun h => h.1 hidx
  · rw [if_neg hidx]
    cases createIndex f i with
    | none => exact iff_of_true rfl ⟨hidx, rfl⟩
    | some f' => exact iff_of_false (show (1 : Int) ≠ -1 by decide) fun h => by cases h.2

/-- `checkindices` leaves the tables alone, and has nothing to do afterwards. -/
theorem checkindices_spec (f : File) :
    Later f (checkindices f).2 ∧ (checkindices f).2.tables = f.tables ∧
      ∀ f', Later (checkindices f).2 f' → f'.indices = (checkindices f).2.indices →
        (checkindices f').2 = f' := by
  obtain ⟨hlater, htables, hdone⟩ := checkindex_spec f idxGpstime
  have hfirst : Apart idxGpstime := indices_apart _ (List.mem_cons_self ..)
  by_cases hfails : (checkindex f idxGpstime).1 = -1
  · -- the first check fails, and fails again
    obtain ⟨hno, hnone⟩ := (checkindex_fails_iff f idxGpstime).mp hfails
    have heq : (checkindices f).2 = f := by
      unfold checkindices
      dsimp only
      rw [if_pos hfails]
      exact checkindex_done (Or.inr hnone)
    rw [heq]
    refine ⟨⟨List.prefix_refl _, Or.inl rfl⟩, rfl, fun f' hlater' hsame => ?_⟩
    have hnone' : createIndex f' idxGpstime = none :=
      createIndex_none_iff.mpr fun h => createIndex_none_iff.mp hnone (h.of_later hlater' hfirst)
    have hno' : ¬ Indexed f' idxGpstime := by
      unfold Indexed
      rw [hsame]
      exact hno
    unfold checkindices
    dsimp only
    rw [if_pos ((checkindex_fails_iff f' idxGpstime).mpr ⟨hno', hnone'⟩)]
    exact checkindex_done (Or.inr hnone')
  · -- the first check is done, so all others are made, now and the next time
    obtain ⟨hlater₂, htables₂, hdone₂⟩ := checkAll_spec otherIndices (checkindex f idxGpstime).2
      fun i hi => indices_apart i (List.mem_cons_of_mem _ hi)
    have heq : (checkindices f).2 = checkAll (checkindex f idxGpstime).2 otherIndices := by
      unfold checkindices
      dsimp only
      rw [if_neg hfails]
      rfl
    rw [heq]
    refine ⟨⟨hlater.indices.trans hlater₂.indices, Or.inl (htables₂.trans htables)⟩,
      htables₂.trans htables, fun f' hlater' _ => ?_⟩
    have hall : ∀ i ∈ otherIndices, Done f' i := fun i hi =>
      (hdone₂ i hi).later hlater' (indices_apart i (List.mem_cons_of_mem _ hi))
    have hgps := (hdone.later hlater₂ hfirst).later hlater' hfirst
    unfold checkindices
    dsimp only
    split
    · exact checkindex_done hgps
    · dsimp only
      rw [checkindex_done hgps]
      exact checkAll_done otherIndices f' hall

/-- `ANALYZE` looks at tables and indices only, so after it there is nothing to do
for it. -/
theorem analyze_analyze (f : File) : analyze (analyze f) = analyze f := rfl

/-- The tables of a repaired log: the indices and `ANALYZE` leave them alone. -/
theorem repair_tables (f : File) :
    (repair f).tables = (checkobdecu (repairTables f.tables)).2 := by
  obtain ⟨-, htables, -⟩ := checkindices_spec { f with tables := repairTables f.tables }
  show (checkobdecu (checkindices { f with tables := repairTables f.tables }).2.tables).2 = _
  rw [htables]

/-- **Once is enough.** On any log, also one that the logger would not write, a
second repair changes nothing: no table, no index, and not the statistics. -/
theorem repair_idempotent (f : File) : repair (repair f) = repair f := by
  obtain ⟨hkeeps, htrips, hobd, hgps⟩ := repairTables_spec f.tables
  obtain ⟨-, htables, hagain⟩ := checkindices_spec { f with tables := repairTables f.tables }
  have hecu := checkobdecu_spec (repairTables f.tables)
  have hsame : repairTables (repair f).tables = (repair f).tables := by
    rw [repair_tables]
    have hends := (hecu.2.2.1 tripTable (by decide)).trans htrips
    exact repairTables_again hends (hobd.keeps hecu.1) (hgps.keeps hecu.1)
  have hindices : (checkindices (repair f)).2 = repair f := by
    refine hagain _ ⟨List.prefix_refl _, Or.inr ?_⟩ rfl
    rw [repair_tables, htables]
  have hcolumn : (checkobdecu (repair f).tables).2 = (repair f).tables := by
    rw [repair_tables]
    exact (checkobdecu_spec _).2.2.2 hecu.2.1
  -- one check after the other finds what it has left
  rw [repair, hsame]
  show analyze { (checkindices (repair f)).2 with
    tables := (checkobdecu (checkindices (repair f)).2.tables).2 } = repair f
  rw [hindices, hcolumn]
  exact analyze_analyze _

/-- **Nothing is lost.** The repair of any log drops no table, no column, no row
and no index of it, adds no table but `sqlite_stat1`, and changes no cell but the
end of a trip that was left open. What is in `sqlite_stat1` afterwards are the
statistics of the repaired tables and indices, whatever was there. The rows of
`obd` and `gps` have a trip, and those of `obd` an ECU. -/
theorem repair_keeps (f : File) :
    Database.Keeps (OpenEnd f.tables) f.tables (repair f).tables ∧
    f.indices <+: (repair f).indices ∧
    (repair f).stat1 = some (analyzeOneTable (repair f)) ∧
    Present (repair f).tables obdTable tripColumn ∧
    Present (repair f).tables Logger.gpsTable tripColumn ∧
    Present (repair f).tables obdTable ecuColumn := by
  obtain ⟨hkeeps, -, hobd, hgps⟩ := repairTables_spec f.tables
  obtain ⟨hlater, -, -⟩ := checkindices_spec { f with tables := repairTables f.tables }
  obtain ⟨hk, hecu, -⟩ := checkobdecu_spec (repairTables f.tables)
  rw [repair_tables]
  exact ⟨hkeeps.trans hk, hlater.indices, rfl, hobd.keeps hk, hgps.keeps hk, hecu⟩

end ObdGpsLogger.Repair

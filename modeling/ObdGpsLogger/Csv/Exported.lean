import ObdGpsLogger.Csv.ReadBack
import ObdGpsLogger.Sql.Expression

/-!
# A log, exported and read back

All of `obd2csv`: the `SELECT`, its values, the file. `exported_readBack` is
about the log after any number of runs: `opencsv` makes a table of the file with
one row for each row of `obd`, in the same order, with every value of that row
under the name of its column, and beside them the position of the same time, the
trip around it, and the miles per gallon.

Mirroring notes:
- Run without `-s`, `-e` and `-z`.
- The log has its times in microseconds, the file in seconds.
- `sqlite3_column_double` of `NULL` is 0.
-/

namespace ObdGpsLogger.Csv

open CLib Machine Sql Logger Analysis

/-! ## The file -/

/-- The lines of the `SELECT`, with all their values. -/
def exportLines (db : Database Rat) : Option (List (List (Option Rat))) :=
  (readStatement (selectSql db)).bind (queryResults db)

/-- The name of the column with the times. -/
def obdTimeColumn : List Char := "obd.time".toList

/-- `sqlite3_column_double(select_stmt, i)`. -/
def columnDouble (name : List Char) (v : Option Rat) : Rat :=
  if name = obdTimeColumn then v.getD 0 / 10 ^ 6 else v.getD 0

/-- The file that `main` of `obd2csv` writes. -/
def obd2csv (db : Database Rat) : Option (List Char) :=
  let columns := db.tableInfo obdTable
  (exportLines db).map fun lines =>
    csvText columns (lines.map ((columnnames columns).zipWith columnDouble))

/-! ## What should be in it -/

/-- The position of the log that was taken at a given time, if there is one. -/
def positionAt (log : Log) (time : Int) : Option GpsRow := log.gps.find? fun p => p.time = time

/-- The trip of the log that a given time lies inside of, if there is one. -/
def tripAround (log : Log) (time : Int) : Option Trip :=
  log.trips.rows.find? fun c => c.start < time ∧ time < c.endTime

/-- The miles per gallon of a row of `obd`: NULL where the speed or the air flow
is NULL, or the air flow is 0. -/
def mpg (columns : List Name) (r : List (Option Rat)) : Option Rat := do
  let vss ← cell columns r "vss".toList
  let maf ← cell columns r "maf".toList
  if maf = 0 then none else some (7107 / 1000 * vss / maf)

/-- The name that the export writes above the miles per gallon: the expression
of the query. -/
def mpgColumn : List Char := "(7.107*obd.vss/obd.maf) as mpg".toList

/-- A row of the file has what belongs to a row of `obd`. -/
structure Exported (real : RealColumn) (log : Log) (t : Table Rat) (r : List (Option Rat))
    (row : List (Option (List Char))) : Prop where
  obd : ∀ c ∈ t.columns, c ≠ "time".toList →
    Holds real ((cell t.columns r c).getD 0) (cell (columnnames t.columns) row ("obd.".toList ++ c))
  mpg : "vss".toList ∈ t.columns → "maf".toList ∈ t.columns →
    Holds real ((mpg t.columns r).getD 0) (cell (columnnames t.columns) row mpgColumn)
  placed : ∃ time : Int, timeOf t r = some (time : Rat) ∧
    Holds real (time / 10 ^ 6) (cell (columnnames t.columns) row obdTimeColumn) ∧
    Holds real (((positionAt log time).map GpsRow.lon).getD 0)
      (cell (columnnames t.columns) row "gps.lon".toList) ∧
    Holds real (((positionAt log time).map GpsRow.lat).getD 0)
      (cell (columnnames t.columns) row "gps.lat".toList) ∧
    Holds real (((positionAt log time).bind GpsRow.alt).getD 0)
      (cell (columnnames t.columns) row "gps.alt".toList) ∧
    Holds real (((tripAround log time).map fun c => (c.tripid : Rat)).getD 0)
      (cell (columnnames t.columns) row lastColumn)

/-- No number of the log takes more than thirty digits. -/
structure Printable (log : Log) (t : Table Rat) : Prop where
  obd : ∀ r ∈ t.rows, ∀ c ∈ t.columns, ∀ v, cell t.columns r c = some v → |v| < 10 ^ 30
  mpg : ∀ r ∈ t.rows, ∀ v, mpg t.columns r = some v → |v| < 10 ^ 30
  gps : ∀ p ∈ log.gps, |p.lon| < 10 ^ 30 ∧ |p.lat| < 10 ^ 30 ∧ ∀ a, p.alt = some a → |a| < 10 ^ 30
  trips : ∀ c ∈ log.trips.rows, |(c.tripid : Rat)| < 10 ^ 30

/-! ## The lines -/

section Lines

variable {ts : List Int} {log : Log} {t : Table Rat}

/-- The part of `gps` in the joined row of a row of `obd`. -/
def gpsJoined (log : Log) (t : Table Rat) (r : List (Option Rat)) : List (Option Rat) :=
  ((log.gps.find? fun p => timeOf t r = some (p.time : Rat)).map gpsRow).getD
    (List.replicate (gpsRows log.gps).columns.length none)

theorem join_position (h : LogInv ts log) (t : Table Rat) :
    joinTable log.db (t.rows.map fun r => [obdPart t r]) (gpsTable, onGps) =
      some (t.rows.map fun r => [obdPart t r, gpsPart log (gpsJoined log t r)]) := by
  have hdb : log.db gpsTable = some (gpsRows log.gps) := rfl
  rw [joinTable, hdb, Option.map_some, leftJoin_eq_map, List.map_map]
  · congr 1
    refine List.map_congr_left fun r _ => ?_
    show [obdPart t r] ++ [gpsPart log ((((log.gps.map gpsRow).find? _).getD _))] = _
    rw [List.find?_map]
    have hfind : (log.gps.find? fun p =>
        Cond.holds (joinEnv ([obdPart t r] ++ [gpsPart log (gpsRow p)])) onGps) =
          log.gps.find? fun p => timeOf t r = some (p.time : Rat) := by
      congr 1
      funext p
      exact Bool.eq_iff_iff.mpr ((onGps_iff r p).trans decide_eq_true_iff.symm)
    exact congrArg (fun p : Option GpsRow => [obdPart t r, gpsPart log ((p.map gpsRow).getD
      (List.replicate (gpsRows log.gps).columns.length none))]) hfind
  · intro parts hparts
    obtain ⟨r, hr, rfl⟩ := List.mem_map.mp hparts
    have htimes : log.gps.Pairwise fun a b => a.time < b.time :=
      List.pairwise_map.mp (h.clock.sublist h.gps)
    refine List.pairwise_map.mpr (htimes.imp fun {a b} hlt hboth => ?_)
    have ha := (onGps_iff r a).mp hboth.1
    rw [(onGps_iff r b).mp hboth.2, Option.some_inj, Int.cast_inj] at ha
    exact Int.ne_of_lt hlt ha.symm

/-- The number that the export writes for a row of `obd` in the column of a
given name. -/
def exportValue (log : Log) (t : Table Rat) (r : List (Option Rat)) (name : List Char) : Rat :=
  columnDouble name (resultValue (joined log t (gpsJoined log t) r) (lex name))

/-- **The file** that `obd2csv` writes for a log: the names of the columns, and
under them one line for each row of `obd`, with the value each result has for
it. -/
theorem obd2csv_eq (h : LogInv ts log) (ht : log.obd = some t) :
    obd2csv log.db = some (csvText t.columns
      (t.rows.map fun r => (columnnames t.columns).map (exportValue log t r))) := by
  have hinfo : log.db.tableInfo obdTable = t.columns := Database.tableInfo_eq ht
  have hlines : exportLines log.db = some (t.rows.map fun r => (columnnames t.columns).map fun s =>
      resultValue (joined log t (gpsJoined log t) r) (lex s)) := by
    rw [exportLines, readStatement_selectSql hinfo (h.columns t ht), Option.bind_some, queryResults,
      selectRows, show log.db obdTable = some t from ht]
    show Option.map _ ((joinTable log.db (t.rows.map fun r => [obdPart t r]) (gpsTable, onGps)).bind
      fun acc => (joinTable log.db acc (tripTable, onTrip)).bind some) = _
    rw [join_position h t, Option.bind_some, join_trip h ht]
    show some ((t.rows.map (joined log t (gpsJoined log t))).map _) = _
    rw [List.map_map]
    congr 1
    refine List.map_congr_left fun r _ => ?_
    show List.map _ ((firstColumns t.columns).map lex ++ [lex lastColumn]) = _
    rw [columnnames, List.map_append, List.map_append, List.map_map]
    rfl
  rw [obd2csv, hinfo, hlines, Option.map_some, List.map_map]
  congr 2
  refine List.map_congr_left fun r _ => ?_
  show List.zipWith columnDouble (columnnames t.columns) (List.map _ (columnnames t.columns)) = _
  rw [List.zipWith_map_right, List.zipWith_self]
  rfl

/-! ## The values -/

theorem lex_obdName {c : Name} (h : IsWord c) :
    lex ("obd.".toList ++ c) = [kw "obd", .sym '.', .word c] := by
  show kw "obd" :: .sym '.' :: lexFrom [] c = _
  have hc := lexFrom_append h.all [] []
  rw [List.append_nil, List.nil_append] at hc
  rw [hc, lexFrom, flush, if_neg h.ne_nil]

/-- The result `obd.c` of the join has, for a row of `obd`, the value of the
column `c` in that row. -/
theorem resultValue_obd (log : Log) (t : Table Rat) {c : Name} (h : c ∈ allColumns)
    (r : List (Option Rat)) :
    resultValue (joined log t (gpsJoined log t) r) (lex ("obd.".toList ++ c)) =
      cell t.columns r c := by
  have hobd : natural "obd".toList = none := by decide
  rw [lex_obdName (allColumns_ok h).1, kw, resultValue_column _ hobd]
  rfl

theorem parseResult_mpg : parseResult (lex mpgColumn) =
    some (.div (.mul (.number (7107 / 1000)) (.operand (.column (some obdTable) "vss".toList)))
      (.operand (.column (some obdTable) "maf".toList))) := by
  decide +kernel

theorem resultValue_mpg (r : List (Option Rat)) :
    resultValue (joined log t (gpsJoined log t) r) (lex mpgColumn) = mpg t.columns r := by
  have hvss : joinEnv (joined log t (gpsJoined log t) r)
      (.column (some obdTable) "vss".toList) = cell t.columns r "vss".toList := rfl
  have hmaf : joinEnv (joined log t (gpsJoined log t) r)
      (.column (some obdTable) "maf".toList) = cell t.columns r "maf".toList := rfl
  rw [resultValue, parseResult_mpg, Option.bind_some]
  simp only [Expr.eval, hvss, hmaf, Rat.cast_id, mpg]
  cases cell t.columns r "vss".toList with
  | none => rfl
  | some vss =>
    cases cell t.columns r "maf".toList with
    | none => rfl
    | some maf => rfl

/-- A row has a time, and what is joined is that time's. -/
theorem timeOf_row (h : LogInv ts log) (ht : log.obd = some t) {r : List (Option Rat)}
    (hr : r ∈ t.rows) : ∃ time : Int, timeOf t r = some (time : Rat) := by
  obtain ⟨time, -, -, ⟨htime, -⟩, -⟩ := h.rows t ht r hr
  exact ⟨time, htime⟩

theorem gpsJoined_eq {r : List (Option Rat)} {time : Int} (htime : timeOf t r = some (time : Rat)) :
    gpsJoined log t r = ((positionAt log time).map gpsRow).getD
      (List.replicate (gpsRows log.gps).columns.length none) := by
  unfold gpsJoined positionAt
  rw [htime]
  simp [eq_comm]

theorem tripFound_eq {r : List (Option Rat)} {time : Int} (htime : timeOf t r = some (time : Rat))
    (g : List (Option Rat) → List (Option Rat)) :
    tripFound log t g r = tripAround log time := by
  unfold tripFound tripAround
  congr 1
  funext c
  rw [Bool.eq_iff_iff, decide_eq_true_iff]
  exact onTrip_iff htime (g r) c

/-- The results of the join that are columns of `gps` or `trip`, for a row of
`obd` with a time: the position of that second, and the trip whose interval has
the time inside. -/
theorem resultValue_joined (log : Log) {r : List (Option Rat)} {time : Int}
    (htime : timeOf t r = some (time : Rat)) :
    let parts := joined log t (gpsJoined log t) r
    resultValue parts (lex "gps.lon".toList) = (positionAt log time).map GpsRow.lon ∧
      resultValue parts (lex "gps.lat".toList) = (positionAt log time).map GpsRow.lat ∧
      resultValue parts (lex "gps.alt".toList) = (positionAt log time).bind GpsRow.alt ∧
      resultValue parts (lex lastColumn) = (tripAround log time).map fun c => (c.tripid : Rat) := by
  have hgps : natural "gps".toList = none := by decide
  have htrip : natural "trip".toList = none := by decide
  have hlex : lex "gps.lon".toList = [kw "gps", .sym '.', kw "lon"] ∧
      lex "gps.lat".toList = [kw "gps", .sym '.', kw "lat"] ∧
      lex "gps.alt".toList = [kw "gps", .sym '.', kw "alt"] ∧
      lex lastColumn = [kw "trip", .sym '.', kw "tripid"] := by
    decide
  -- each part of the joined row is looked up under the name of its table
  have hpart : ∀ c, joinEnv (joined log t (gpsJoined log t) r) (.column (some gpsTable) c) =
      cell (gpsRows log.gps).columns (gpsJoined log t r) c := fun _ => rfl
  have htrips : ∀ c, joinEnv (joined log t (gpsJoined log t) r) (.column (some tripTable) c) =
      cell (tripRows log.trips).columns
        (((tripFound log t (gpsJoined log t) r).map tripRow).getD [none, none, none]) c :=
    fun _ => rfl
  dsimp only
  rw [hlex.1, hlex.2.1, hlex.2.2.1, hlex.2.2.2]
  simp only [kw, resultValue_column _ hgps, resultValue_column _ htrip]
  refine ⟨(hpart _).trans ?_, (hpart _).trans ?_, (hpart _).trans ?_, (htrips _).trans ?_⟩
  · rw [gpsJoined_eq htime]
    cases positionAt log time <;> rfl
  · rw [gpsJoined_eq htime]
    cases positionAt log time <;> rfl
  · rw [gpsJoined_eq htime]
    cases positionAt log time <;> rfl
  · rw [tripFound_eq htime]
    cases tripAround log time <;> rfl

theorem columnDouble_of_ne {name : List Char} (h : name ≠ obdTimeColumn) (v : Option Rat) :
    columnDouble name v = v.getD 0 := if_neg h

theorem exportValue_obd (log : Log) {c : Name} (hknown : c ∈ allColumns) (hc : c ≠ "time".toList)
    (r : List (Option Rat)) :
    exportValue log t r ("obd.".toList ++ c) = (cell t.columns r c).getD 0 := by
  have hne : "obd.".toList ++ c ≠ obdTimeColumn := fun he => hc (List.append_cancel_left he)
  rw [exportValue, columnDouble_of_ne hne, resultValue_obd log t hknown]

theorem exportValue_time (log : Log) {r : List (Option Rat)} {time : Int}
    (htime : timeOf t r = some (time : Rat)) :
    exportValue log t r obdTimeColumn = (time : Rat) / 10 ^ 6 := by
  have hvalue := resultValue_obd log t (show "time".toList ∈ allColumns by decide) r
  rw [exportValue, columnDouble, if_pos rfl]
  exact congrArg (fun v => v.getD 0 / 10 ^ 6) (hvalue.trans htime)

theorem exportValue_mpg (log : Log) (r : List (Option Rat)) :
    exportValue log t r mpgColumn = (mpg t.columns r).getD 0 := by
  rw [exportValue, columnDouble_of_ne (by decide), resultValue_mpg]

theorem exportValue_joined (log : Log) {r : List (Option Rat)} {time : Int}
    (htime : timeOf t r = some (time : Rat)) :
    exportValue log t r "gps.lon".toList = ((positionAt log time).map GpsRow.lon).getD 0 ∧
      exportValue log t r "gps.lat".toList = ((positionAt log time).map GpsRow.lat).getD 0 ∧
      exportValue log t r "gps.alt".toList = ((positionAt log time).bind GpsRow.alt).getD 0 ∧
      exportValue log t r lastColumn =
        ((tripAround log time).map fun c => (c.tripid : Rat)).getD 0 := by
  obtain ⟨hlon, hlat, halt, htrip⟩ := resultValue_joined log htime
  refine ⟨?_, ?_, ?_, ?_⟩
  · rw [exportValue, columnDouble_of_ne (by decide), hlon]
  · rw [exportValue, columnDouble_of_ne (by decide), hlat]
  · rw [exportValue, columnDouble_of_ne (by decide), halt]
  · rw [exportValue, columnDouble_of_ne (by decide), htrip]

/-- Each value that is printed for a row is small enough for the buffer, if the
log is printable. -/
theorem exportValue_lt (h : LogInv ts log) (ht : log.obd = some t) (hprint : Printable log t)
    {r : List (Option Rat)} (hr : r ∈ t.rows) {name : List Char}
    (hname : name ∈ columnnames t.columns) : |exportValue log t r name| < 10 ^ 30 := by
  have hgetD : ∀ v : Option Rat, (∀ x, v = some x → |x| < 10 ^ 30) → |v.getD 0| < 10 ^ 30 := by
    intro v hv
    cases v with
    | none => show |(0 : Rat)| < 10 ^ 30; norm_num
    | some x => exact hv x rfl
  obtain ⟨time, htime⟩ := timeOf_row h ht hr
  obtain ⟨hlon, hlat, halt, htrip⟩ := exportValue_joined log htime
  have hposition : ∀ p, positionAt log time = some p → p ∈ log.gps := fun p hp =>
    List.mem_of_find?_eq_some hp
  have hcolumns := h.columns t ht
  obtain ⟨others, hsub, heq⟩ := columnnames_eq hcolumns
  rw [heq] at hname
  -- the columns of `obd` first, the time among them, then the computed and the joined ones
  rcases List.mem_append.mp hname with hobd | hother
  · obtain ⟨c, hc, rfl⟩ := List.mem_map.mp hobd
    by_cases hctime : c = "time".toList
    · have hlt := hprint.obd r hr c hc time (hctime ▸ htime)
      rw [hctime]
      show |exportValue log t r obdTimeColumn| < 10 ^ 30
      rw [exportValue_time log htime, abs_div, abs_of_pos (by norm_num : (0 : Rat) < 10 ^ 6)]
      exact (div_le_self (abs_nonneg _) (by norm_num)).trans_lt hlt
    · rw [exportValue_obd log (hcolumns.known c hc) hctime]
      exact hgetD _ (hprint.obd r hr c hc)
  · have hcases : name ∈ otherNames := hsub.subset hother
    simp only [otherNames, List.mem_cons, List.not_mem_nil, or_false] at hcases
    rcases hcases with rfl | rfl | rfl | rfl | rfl
    · show |exportValue log t r mpgColumn| < 10 ^ 30
      rw [exportValue_mpg log]
      exact hgetD _ (hprint.mpg r hr)
    · rw [hlon]
      refine hgetD _ fun x hx => ?_
      obtain ⟨p, hp, rfl⟩ := Option.map_eq_some_iff.mp hx
      exact (hprint.gps p (hposition p hp)).1
    · rw [hlat]
      refine hgetD _ fun x hx => ?_
      obtain ⟨p, hp, rfl⟩ := Option.map_eq_some_iff.mp hx
      exact (hprint.gps p (hposition p hp)).2.1
    · rw [halt]
      refine hgetD _ fun x hx => ?_
      obtain ⟨p, hp, hpx⟩ := Option.bind_eq_some_iff.mp hx
      exact (hprint.gps p (hposition p hp)).2.2 x hpx
    · rw [htrip]
      refine hgetD _ fun x hx => ?_
      obtain ⟨c, hc, rfl⟩ := Option.map_eq_some_iff.mp hx
      exact hprint.trips c (List.mem_of_find?_eq_some hc)

end Lines

/-! ## There and back -/

section Exports

variable {real : RealColumn} {ts : List Int} {log : Log} {t : Table Rat}

/-- If the cells of a row hold the values of its columns, one by one, the cell
under a name holds the value of the column of that name. -/
theorem holds_cell {names : List (List Char)} {f : List Char → Rat}
    {row : List (Option (List Char))} (h : List.Forall₂ (Holds real) (names.map f) row)
    {name : List Char} (hname : name ∈ names) : Holds real (f name) (cell names row name) := by
  have hlt := List.idxOf_lt_length_iff.mpr hname
  have hlt' : names.idxOf name < row.length := by
    rw [← h.length_eq, List.length_map]
    exact hlt
  have hget := h.get (by rw [List.length_map]; exact hlt) hlt'
  rw [List.get_eq_getElem, List.getElem_map, List.getElem_idxOf hlt] at hget
  rw [cell, List.getElem?_eq_getElem hlt']
  exact hget

theorem mem_columnnames (columns : List Name) :
    "gps.lon".toList ∈ columnnames columns ∧ "gps.lat".toList ∈ columnnames columns ∧
      "gps.alt".toList ∈ columnnames columns ∧ lastColumn ∈ columnnames columns := by
  have hgps : ∀ s ∈ ["gps.lon".toList, "gps.lat".toList, "gps.alt".toList],
      s ∈ columnnames columns := fun s hs =>
    List.mem_append_left _ (List.mem_append_right _ hs)
  exact ⟨hgps _ (List.mem_cons_self ..), hgps _ (List.mem_cons_of_mem _ (List.mem_cons_self ..)),
    hgps _ (List.mem_cons_of_mem _ (List.mem_cons_of_mem _ (List.mem_cons_self ..))),
    List.mem_append_right _ (List.mem_singleton_self _)⟩

theorem mpg_mem_columnnames {columns : List Name} (hvss : "vss".toList ∈ columns)
    (hmaf : "maf".toList ∈ columns) : mpgColumn ∈ columnnames columns := by
  refine List.mem_append_left _ (List.mem_append_left _ (List.mem_append_right _ ?_))
  rw [if_pos ⟨hvss, hmaf⟩]
  exact List.mem_singleton_self _

theorem obd_mem_columnnames {columns : List Name} (h : ObdColumns columns) {c : Name}
    (hc : c ∈ columns) : "obd.".toList ++ c ∈ columnnames columns := by
  obtain ⟨others, -, heq⟩ := columnnames_eq h
  rw [heq]
  exact List.mem_append_left _ (List.mem_map_of_mem hc)

/-- A row whose cells hold what is printed for a row of `obd` is an export of
it. -/
theorem exported_of_holds (h : LogInv ts log) (ht : log.obd = some t) {r : List (Option Rat)}
    (hr : r ∈ t.rows) {row : List (Option (List Char))}
    (hrow : List.Forall₂ (Holds real) ((columnnames t.columns).map (exportValue log t r)) row) :
    Exported real log t r row := by
  have hcolumns := h.columns t ht
  obtain ⟨time, htime⟩ := timeOf_row h ht hr
  obtain ⟨hlon, hlat, halt, htrip⟩ := exportValue_joined log htime
  obtain ⟨hlonMem, hlatMem, haltMem, htripMem⟩ := mem_columnnames t.columns
  refine ⟨fun c hc hne => ?_, fun hvss hmaf => ?_, time, htime, ?_, ?_, ?_, ?_, ?_⟩
  · rw [← exportValue_obd log (hcolumns.known c hc) hne]
    exact holds_cell hrow (obd_mem_columnnames hcolumns hc)
  · rw [← exportValue_mpg log]
    exact holds_cell hrow (mpg_mem_columnnames hvss hmaf)
  · rw [← exportValue_time log htime]
    exact holds_cell hrow (obd_mem_columnnames hcolumns (hcolumns.timed _ (by decide)))
  · rw [← hlon]
    exact holds_cell hrow hlonMem
  · rw [← hlat]
    exact holds_cell hrow hlatMem
  · rw [← halt]
    exact holds_cell hrow haltMem
  · rw [← htrip]
    exact holds_cell hrow htripMem

/-- The file that `obd2csv` writes for a log, read back by `opencsv`: the names
are those of the log, and each row is the export of one row of `obd`. -/
theorem obd2csv_opencsv (real : RealColumn) (h : LogInv ts log) (ht : log.obd = some t)
    (hprint : Printable log t) : ∃ text rows, obd2csv log.db = some text ∧
      opencsv text = some ⟨0, some (columnnames t.columns), rows⟩ ∧
      List.Forall₂ (Exported real log t) t.rows rows := by
  have hcolumns := h.columns t ht
  have hwidth : ∀ line ∈ t.rows.map fun r => (columnnames t.columns).map (exportValue log t r),
      line.length = (columnnames t.columns).length := by
    intro line hline
    obtain ⟨r, -, rfl⟩ := List.mem_map.mp hline
    exact List.length_map _
  have hvalues : ∀ line ∈ t.rows.map fun r => (columnnames t.columns).map (exportValue log t r),
      ∀ v ∈ line, |v| < 10 ^ 30 := by
    intro line hline v hv
    obtain ⟨r, hr, rfl⟩ := List.mem_map.mp hline
    obtain ⟨name, hname, rfl⟩ := List.mem_map.mp hv
    exact exportValue_lt h ht hprint hr hname
  obtain ⟨rows, hopen, hholds⟩ := opencsv_outLines real (columnnames_exportable hcolumns)
    (columnnames_plain hcolumns) hwidth hvalues
  refine ⟨_, rows, obd2csv_eq h ht, hopen, ?_⟩
  rw [List.forall₂_map_left_iff] at hholds
  refine List.forall₂_iff_get.mpr ⟨hholds.length_eq, fun k hk hk' => ?_⟩
  exact exported_of_holds h ht (List.getElem_mem hk) (hholds.get hk hk')

/-- **A log, exported and read back.** The log of any number of runs on a clock that
goes on, if its numbers can be printed: `opencsv` makes a table of the file of
`obd2csv`, with one row for each row of `obd`, in their order. -/
theorem exported_readBack (real : RealColumn) (h : Logged ts log) (ht : log.obd = some t)
    (hprint : Printable log t) : ∃ text rows, obd2csv log.db = some text ∧
      opencsv text = some ⟨0, some (columnnames t.columns), rows⟩ ∧
      List.Forall₂ (Exported real log t) t.rows rows :=
  obd2csv_opencsv real (logged_inv h) ht hprint

end Exports

/-- Two samples of the speed, the first with a position. -/
def locatedDrive : List Pass :=
  [{ drivePass 1000000 .success with
      obdvalue := fun _ => (.success, 88)
      gpsstatus := 1
      position := ⟨3272 / 100, -11716 / 100, 20, 25, 90, 0⟩ },
    drivePass 2000000 .success]

/-- A run of the logger: the loop over a drive with positions. -/
def locatedRun : Option (LoopState × List (List Int)) :=
  run (iteration ⟨true, 1⟩) (LoopState.init ⟨true, 1⟩ emptyDb true (-1)) locatedDrive

theorem exported_readBack_located : ∃ log t text rows, Logged (clock locatedDrive) log ∧
    log.obd = some t ∧ t.rows.length = 2 ∧ obd2csv log.db = some text ∧
    opencsv text = some ⟨0, some (columnnames t.columns), rows⟩ ∧
    List.Forall₂ (Exported doubleColumn log t) t.rows rows := by
  obtain ⟨⟨s, ended⟩, hrun⟩ := Option.isSome_iff_exists.mp (show locatedRun.isSome by decide)
  -- the run is computed once, and what is needed of it is read off
  have hobd : locatedRun.map (fun r => r.1.obd) =
      some [⟨[some 88], 1000000, 1⟩, ⟨[some 0], 2000000, 1⟩] := by
    decide
  have hsmall : locatedRun.map (fun r => (r.1.gps.all fun p => |p.lon| < 10 ^ 30 ∧
      |p.lat| < 10 ^ 30 ∧ p.alt.all fun a => |a| < 10 ^ 30) &&
      r.1.trips.rows.all fun c => |(c.tripid : Rat)| < 10 ^ 30) = some true := by
    decide +kernel
  rw [hrun] at hobd hsmall
  have hobd : s.obd = [⟨[some 88], 1000000, 1⟩, ⟨[some 0], 2000000, 1⟩] := Option.some.inj hobd
  have hsmall := Option.some.inj hsmall
  simp only [Bool.and_eq_true, List.all_eq_true, decide_eq_true_eq, Option.all_eq_true] at hsmall
  obtain ⟨t, ht, hcolumns, hrows⟩ := afterRun_new [0x0D] s.toTripLog
  rw [show s.toTripLog.obd = _ from hobd] at hrows
  obtain ⟨u, heq, -, hcols, -⟩ := runTable (logged_inv Logged.empty) [0x0D]
  -- the log of that run, on a new file
  have hlogged : Logged (clock locatedDrive) (Log.empty.afterRun [0x0D] s.toTripLog) := by
    refine Logged.run (l := s.toTripLog) Logged.empty ?_ hrun (by decide) (Or.inl rfl)
    rw [heq, createobdinsertstmt_eq [0x0D] ⟨u, Database.set_self Log.empty.db obdTable u, hcols⟩]
    decide +kernel
  have hvalues : ∀ r ∈ t.rows, (∀ c ∈ t.columns, ∀ v ∈ cell t.columns r c, |v| < 10 ^ 30) ∧
      ∀ v ∈ mpg t.columns r, |v| < 10 ^ 30 := by
    rw [hrows, hcolumns]
    decide +kernel
  obtain ⟨text, rows, hfile, hopen, hall⟩ := exported_readBack doubleColumn hlogged ht
    { obd := fun r hr c hc v hv => (hvalues r hr).1 c hc v hv
      mpg := fun r hr v hv => (hvalues r hr).2 v hv
      gps := fun p hp => hsmall.1 p hp
      trips := fun c hc => hsmall.2 c hc }
  exact ⟨_, t, text, rows, hlogged, ht, by rw [hrows]; rfl, hfile, hopen, hall⟩

end ObdGpsLogger.Csv

import Mathlib.Algebra.Order.Ring.Cast
import Mathlib.Data.Int.CharZero
import ObdGpsLogger.Logger.LogDb

/-!
# `obdgpscsv.c` — the export

The `SELECT` that `main` of `src/csv/obdgpscsv.c` builds, and the lines it
gives on the log.

The trip of a line is not the one that is stored in the row. It is looked up
by the time, with `obd.time>trip.start AND obd.time<trip.end`. On a log of the
logger that finds at most one trip, so there is one line for each row
(`csvLines_eq`). The row at the very start of a trip is not found, and every
trip with rows has one: `csv_attribution` says which rows keep their trip.

Mirroring notes:
- Run without `-s` and `-e`, so `where_clause` is empty.
- How the values are printed is left out.
-/

namespace ObdGpsLogger.Csv

open CLib Sql Logger

/-- `obdcolumn`, an array of 20: the name of a column of `obd`, with its table
in front. -/
def obdcolumn (columnname : Name) : List Char := snprintf 20 ("obd.".toList ++ columnname)

/-- What `columnnames` begins with: all of them but the last. -/
def firstColumns (columns : List Name) : List (List Char) :=
  columns.map obdcolumn ++
    (if "vss".toList ∈ columns ∧ "maf".toList ∈ columns then
      ["(7.107*obd.vss/obd.maf) as mpg".toList] else []) ++
    ["gps.lon".toList, "gps.lat".toList, "gps.alt".toList]

/-- `columnnames[col_count-1]`: the trip of a row is the last of the columns. -/
def lastColumn : List Char := "trip.tripid".toList

/-- `strncat(select_sql, s, sizeof(select_sql)-strlen(s)-strlen(select_sql)-1)`; a difference of
`size_t` does not get negative. -/
def catSelect (select_sql s : List Char) : List Char :=
  strncat select_sql s (((4096 : Int) - s.length - select_sql.length - 1) % 2 ^ 64).toNat

/-- `end_select_sql`: the tables of the query, and how their rows are joined. -/
def endSelectSql : List Char :=
  (" FROM obd LEFT JOIN gps ON obd.time=gps.time " ++
    "LEFT JOIN trip ON obd.time>trip.start AND obd.time<trip.end ").toList

/-- `select_sql`: the text of the query, put together with the columns that the
log has. -/
def selectSql (db : Database Rat) : List Char :=
  let select_sql := (firstColumns (db.tableInfo obdTable)).foldl
    (fun sql name => catSelect (catSelect sql name) ", ".toList) "SELECT ".toList
  catSelect (catSelect select_sql lastColumn) endSelectSql

/-- The lines of the export: what SQLite answers to the text of the query. -/
def csvLines (db : Database Rat) : Option (List (List (Option Rat))) :=
  (readStatement (selectSql db)).bind (query db)

/-- `trip.tripid` of a line, its last value. -/
def tripidOf (line : List (Option Rat)) : Option Rat := line.getLast?.join

/-! ## The text -/

/-- Where the select text and twice the new one fit the buffer together, the
check lets the new text through, and `strncat` appends all of it. -/
theorem catSelect_eq {select_sql s : List Char}
    (h : select_sql.length + 2 * s.length + 1 ≤ 4096) :
    catSelect select_sql s = select_sql ++ s := by
  have hn : s.length ≤ (((4096 : Int) - s.length - select_sql.length - 1) % 2 ^ 64).toNat := by
    rw [Int.emod_eq_of_lt (by omega) (by omega)]
    omega
  rw [catSelect, strncat, List.take_of_length_le hn]

/-- The loop over names that are short and few. -/
theorem foldl_catSelect (names : List (List Char)) (sql : List Char)
    (hshort : ∀ s ∈ names, s.length ≤ 30) (hfew : sql.length + 32 * names.length + 61 ≤ 4096) :
    names.foldl (fun sql name => catSelect (catSelect sql name) ", ".toList) sql =
        sql ++ names.flatMap (· ++ ", ".toList) ∧
      (sql ++ names.flatMap (· ++ ", ".toList)).length ≤ sql.length + 32 * names.length := by
  induction names generalizing sql with
  | nil => exact ⟨(List.append_nil _).symm, by simp⟩
  | cons s names ih =>
    have hs := hshort s (List.mem_cons_self ..)
    have hcomma : (", ".toList).length = 2 := rfl
    rw [List.length_cons] at hfew
    have hlen : (sql ++ s).length = sql.length + s.length := List.length_append
    have hstep : catSelect (catSelect sql s) ", ".toList = sql ++ s ++ ", ".toList := by
      rw [catSelect_eq (s := s) (by omega), catSelect_eq (by omega)]
    have hlen' : (sql ++ s ++ ", ".toList).length = sql.length + s.length + 2 := by
      rw [List.length_append, hlen, hcomma]
    obtain ⟨heq, hle⟩ := ih (sql ++ s ++ ", ".toList)
      (fun s hs => hshort s (List.mem_cons_of_mem _ hs)) (by omega)
    have happend : sql ++ s ++ ", ".toList ++ names.flatMap (· ++ ", ".toList) =
        sql ++ (s :: names).flatMap (· ++ ", ".toList) := by simp
    rw [happend] at heq hle
    rw [List.foldl_cons, hstep, List.length_cons]
    exact ⟨heq, by omega⟩

/-- Every column name of the table is a short word, and not the one at which a
`SELECT` is cut into its parts. -/
theorem allColumns_ok {c : Name} (h : c ∈ allColumns) :
    IsWord c ∧ c.length ≤ 11 ∧ c ≠ "FROM".toList := by
  have hall : allColumns.all (fun c => c ≠ [] && c.all isWordChar && decide (c.length ≤ 11) &&
      c ≠ "FROM".toList) = true := by
    decide +kernel
  have hc := List.all_eq_true.mp hall c h
  simp only [Bool.and_eq_true, decide_eq_true_eq] at hc
  obtain ⟨⟨⟨hne, hword⟩, hlen⟩, hfrom⟩ := hc
  exact ⟨⟨hne, List.all_eq_true.mp hword⟩, hlen, hfrom⟩

section Text

variable {columns : List Name}

theorem obdcolumn_eq {c : Name} (h : c ∈ allColumns) : obdcolumn c = "obd.".toList ++ c := by
  refine snprintf_eq_self ?_
  have := (allColumns_ok h).2.1
  rw [List.length_append]
  show 4 + c.length < 20
  omega

/-- There are 91 columns in front of the last at most, and their names are
short, so all of them fit into the select text. -/
theorem firstColumns_fit (h : ObdColumns columns) :
    (∀ s ∈ firstColumns columns, s.length ≤ 30) ∧ (firstColumns columns).length ≤ 91 := by
  have hgps : ∀ s ∈ ["gps.lon".toList, "gps.lat".toList, "gps.alt".toList], s.length ≤ 30 := by
    decide
  constructor
  · intro s hs
    rcases List.mem_append.mp hs with hs | hs
    · rcases List.mem_append.mp hs with hs | hs
      · obtain ⟨c, hc, rfl⟩ := List.mem_map.mp hs
        have := (allColumns_ok (h.known c hc)).2.1
        rw [obdcolumn_eq (h.known c hc), List.length_append]
        show 4 + c.length ≤ 30
        omega
      · split at hs
        · rw [List.mem_singleton.mp hs]
          decide
        · cases hs
    · exact hgps s hs
  · have hcount : columns.length ≤ 87 := by
      refine (h.nodup.subperm h.known).length_le.trans ?_
      have hall : (rowIndices.filterMap dbColumn).length ≤ 84 := List.length_filterMap_le ..
      rw [allColumns, List.length_append, List.length_append]
      show _ + 2 + 1 ≤ 87
      omega
    unfold firstColumns
    rw [List.length_append, List.length_append, List.length_map]
    split
    · show columns.length + 1 + 3 ≤ 91
      omega
    · show columns.length + 0 + 3 ≤ 91
      omega

theorem selectSql_eq {db : Database Rat} (hinfo : db.tableInfo obdTable = columns)
    (h : ObdColumns columns) : selectSql db = "SELECT ".toList ++
      ((firstColumns columns).flatMap (· ++ ", ".toList) ++ (lastColumn ++ endSelectSql)) := by
  obtain ⟨hshort, hfew⟩ := firstColumns_fit h
  have hselect : ("SELECT ".toList).length = 7 := rfl
  have hlast : lastColumn.length = 11 := rfl
  have hend : endSelectSql.length ≤ 120 := by decide
  obtain ⟨heq, hle⟩ := foldl_catSelect (firstColumns columns) "SELECT ".toList hshort (by omega)
  unfold selectSql
  rw [hinfo]
  dsimp only
  rw [heq, catSelect_eq (s := lastColumn) (by omega), catSelect_eq]
  · simp only [List.append_assoc]
  · rw [List.length_append]
    omega

/-- The condition `obd.time=gps.time` of the first join. -/
def onGps : Cond :=
  [⟨.column (some "obd".toList) "time".toList, .eq, .column (some "gps".toList) "time".toList⟩]

/-- `obd.time>trip.start AND obd.time<trip.end`. -/
def onTrip : Cond :=
  [⟨.column (some "obd".toList) "time".toList, .gt, .column (some "trip".toList) "start".toList⟩,
    ⟨.column (some "obd".toList) "time".toList, .lt, .column (some "trip".toList) "end".toList⟩]

/-- A name is one item, and no end of the list. -/
theorem firstColumns_lex (h : ObdColumns columns) : ∀ s ∈ firstColumns columns,
    .sym ',' ∉ lex s ∧ kw "FROM" ∉ lex s := by
  have hothers : ∀ s ∈ ["(7.107*obd.vss/obd.maf) as mpg".toList, "gps.lon".toList,
      "gps.lat".toList, "gps.alt".toList], .sym ',' ∉ lex s ∧ kw "FROM" ∉ lex s := by
    decide +kernel
  intro s hs
  rcases List.mem_append.mp hs with hs | hs
  · rcases List.mem_append.mp hs with hs | hs
    · obtain ⟨c, hc, rfl⟩ := List.mem_map.mp hs
      obtain ⟨hword, -, hfrom⟩ := allColumns_ok (h.known c hc)
      have hlex : lex ("obd.".toList ++ c) = [kw "obd", .sym '.', .word c] := by
        show kw "obd" :: .sym '.' :: lexFrom [] c = _
        have hc' := lexFrom_append hword.all [] []
        rw [List.append_nil, List.nil_append] at hc'
        rw [hc', lexFrom, flush, if_neg hword.ne_nil]
      have hne : kw "FROM" ≠ .word c := fun he => hfrom (Token.word.inj he).symm
      rw [obdcolumn_eq (h.known c hc), hlex]
      refine ⟨by simp [kw], fun hmem => ?_⟩
      rcases List.mem_cons.mp hmem with he | hmem
      · exact absurd he (by decide)
      rcases List.mem_cons.mp hmem with he | hmem
      · exact absurd he (by decide)
      · exact hne (List.mem_singleton.mp hmem)
    · split at hs
      · exact hothers s (List.mem_singleton.mp hs ▸ List.mem_cons_self ..)
      · cases hs
  · exact hothers s (List.mem_cons_of_mem _ hs)

/-- The tokens of the query behind the word `FROM`. -/
def sourceTokens : List Token :=
  [kw "obd",
    kw "LEFT", kw "JOIN", kw "gps", kw "ON",
    kw "obd", .sym '.', kw "time", .sym '=', kw "gps", .sym '.', kw "time",
    kw "LEFT", kw "JOIN", kw "trip", kw "ON",
    kw "obd", .sym '.', kw "time", .sym '>', kw "trip", .sym '.', kw "start", kw "AND",
    kw "obd", .sym '.', kw "time", .sym '<', kw "trip", .sym '.', kw "end"]

theorem lex_endSelectSql :
    lex (lastColumn ++ endSelectSql) = lex lastColumn ++ kw "FROM" :: sourceTokens := by
  decide +kernel

/-- What the joins of the select text say: the table `gps` on the second of a
row, and the table `trip` on the interval that a row is inside. -/
theorem parse_sourceTokens : ∃ js, sourceTokens.splitOn (kw "LEFT") = [kw "obd"] :: js ∧
    js.mapM parseJoin = some [(gpsTable, onGps), (tripTable, onTrip)] :=
  ⟨(sourceTokens.splitOn (kw "LEFT")).tail, by decide +kernel, by decide +kernel⟩

/-- What SQLite reads from the select text: a `SELECT` of the columns, with the
trip as the last, from `obd` joined to `gps` and `trip`. -/
theorem readStatement_selectSql {db : Database Rat} (hinfo : db.tableInfo obdTable = columns)
    (h : ObdColumns columns) : readStatement (selectSql db) =
      some (.select ((firstColumns columns).map lex ++ [lex lastColumn]) obdTable
        [(gpsTable, onGps), (tripTable, onTrip)]) := by
  have hstart : ∀ rest, lex ("SELECT ".toList ++ rest) = kw "SELECT" :: lex rest := fun _ => rfl
  have hfrom : kw "FROM" ∉ sourceTokens := by decide +kernel
  obtain ⟨js, hleft, hjoins⟩ := parse_sourceTokens
  have hitems := firstColumns_lex h
  have hlast : .sym ',' ∉ lex lastColumn ∧ kw "FROM" ∉ lex lastColumn := by decide
  -- the statement is cut at `FROM`, which must not be among the results
  have hout : kw "FROM" ∉
      (firstColumns columns).flatMap (fun s => lex s ++ [.sym ',']) ++ lex lastColumn := by
    intro hmem
    rcases List.mem_append.mp hmem with hmem | hmem
    · obtain ⟨s, hs, hmem⟩ := List.mem_flatMap.mp hmem
      rcases List.mem_append.mp hmem with hmem | hmem
      · exact (hitems s hs).2 hmem
      · exact absurd (List.mem_singleton.mp hmem) (by simp [kw])
    · exact hlast.2 hmem
  -- and the results at the commas, which must not be inside of one
  have hlist : ((firstColumns columns).flatMap (fun s => lex s ++ [Token.sym ',']) ++
      lex lastColumn).splitOn (.sym ',') = (firstColumns columns).map lex ++ [lex lastColumn] := by
    have hcommas : ∀ ts ∈ (firstColumns columns).map lex, Token.sym ',' ∉ ts := by
      intro ts hts
      obtain ⟨s, hs, rfl⟩ := List.mem_map.mp hts
      exact (hitems s hs).1
    rw [← splitOn_items hcommas hlast.1, List.flatMap_map]
  rw [readStatement, selectSql_eq hinfo h, hstart, lex_listed, lex_endSelectSql,
    ← List.append_assoc]
  show parseSelect (_ ++ kw "FROM" :: sourceTokens) = _
  rw [parseSelect_eq hout hfrom hleft hjoins, hlist]
  rfl

end Text

/-! ## The joins -/

section Joins

variable {ts : List Int} {log : Log} {t : Table Rat}

/-- The part of a joined row that the table `obd` gives. -/
def obdPart (t : Table Rat) (r : List (Option Rat)) : JoinPart Rat := ⟨obdTable, t.columns, r⟩

/-- The part of a joined row that the table `gps` gives, a row of NULLs if need
be. -/
def gpsPart (log : Log) (r : List (Option Rat)) : JoinPart Rat :=
  ⟨gpsTable, (gpsRows log.gps).columns, r⟩

/-- The part of a joined row that the table `trip` gives, a row of NULLs if need
be. -/
def tripPart (log : Log) (r : List (Option Rat)) : JoinPart Rat :=
  ⟨tripTable, (tripRows log.trips).columns, r⟩

theorem onGps_iff (r : List (Option Rat)) (p : GpsRow) :
    Cond.holds (joinEnv ([obdPart t r] ++ [gpsPart log (gpsRow p)])) onGps = true ↔
      timeOf t r = some (p.time : Rat) := by
  have hobd : joinEnv ([obdPart t r] ++ [gpsPart log (gpsRow p)])
      (.column (some "obd".toList) "time".toList) = timeOf t r := rfl
  have hgps : joinEnv ([obdPart t r] ++ [gpsPart log (gpsRow p)])
      (.column (some "gps".toList) "time".toList) = some (p.time : Rat) := rfl
  simp only [onGps, Cond.holds, List.all_cons, List.all_nil, Bool.and_true, Test.holds, hobd, hgps]
  cases timeOf t r with
  | none => simp
  | some time => simp [Comparison.holds]

theorem onTrip_iff {r : List (Option Rat)} {time : Int} (htime : timeOf t r = some (time : Rat))
    (g : List (Option Rat)) (c : Trip) :
    Cond.holds (joinEnv ([obdPart t r, gpsPart log g] ++ [tripPart log (tripRow c)])) onTrip =
        true ↔
      c.start < time ∧ time < c.endTime := by
  have hobd : joinEnv ([obdPart t r, gpsPart log g] ++ [tripPart log (tripRow c)])
      (.column (some "obd".toList) "time".toList) = some (time : Rat) := htime
  have hstart : joinEnv ([obdPart t r, gpsPart log g] ++ [tripPart log (tripRow c)])
      (.column (some "trip".toList) "start".toList) = some (c.start : Rat) := rfl
  have hend : joinEnv ([obdPart t r, gpsPart log g] ++ [tripPart log (tripRow c)])
      (.column (some "trip".toList) "end".toList) = some (c.endTime : Rat) := rfl
  simp only [onTrip, Cond.holds, List.all_cons, List.all_nil, Bool.and_true, Test.holds, hobd, hstart,
    hend, Comparison.holds, Bool.and_eq_true, decide_eq_true_eq, Int.cast_lt]

/-- The time of a row is that of one position at most. -/
theorem join_gps (h : LogInv ts log) (t : Table Rat) : ∃ g : List (Option Rat) → List (Option Rat),
    joinTable log.db (t.rows.map fun r => [obdPart t r]) (gpsTable, onGps) =
      some (t.rows.map fun r => [obdPart t r, gpsPart log (g r)]) := by
  have hdb : log.db gpsTable = some (gpsRows log.gps) := rfl
  rw [joinTable, hdb, Option.map_some, leftJoin_eq_map, List.map_map]
  · exact ⟨_, rfl⟩
  · intro parts hparts
    obtain ⟨r, hr, rfl⟩ := List.mem_map.mp hparts
    have htimes : log.gps.Pairwise fun a b => a.time < b.time :=
      List.pairwise_map.mp (h.clock.sublist h.gps)
    refine List.pairwise_map.mpr (htimes.imp fun {a b} hlt hboth => ?_)
    have ha := (onGps_iff r a).mp hboth.1
    rw [(onGps_iff r b).mp hboth.2, Option.some_inj, Int.cast_inj] at ha
    exact Int.ne_of_lt hlt ha.symm

/-- The trip that the second join finds for a row of `obd`, if it finds one. -/
def tripFound (log : Log) (t : Table Rat) (g : List (Option Rat) → List (Option Rat))
    (r : List (Option Rat)) : Option Trip :=
  log.trips.rows.find? fun c =>
    Cond.holds (joinEnv ([obdPart t r, gpsPart log (g r)] ++ [tripPart log (tripRow c)])) onTrip

/-- The joined row of a row of `obd`: with the position `g` gives it, and with
the trip that is found. -/
def joined (log : Log) (t : Table Rat) (g : List (Option Rat) → List (Option Rat))
    (r : List (Option Rat)) : List (JoinPart Rat) :=
  [obdPart t r, gpsPart log (g r),
    tripPart log (((tripFound log t g r).map tripRow).getD [none, none, none])]

/-- A row of `obd` is inside one trip at most, so the join to `trip` makes one
line of each row: with its trip, or with NULLs. -/
theorem join_trip (h : LogInv ts log) (ht : log.obd = some t)
    (g : List (Option Rat) → List (Option Rat)) :
    joinTable log.db (t.rows.map fun r => [obdPart t r, gpsPart log (g r)]) (tripTable, onTrip) =
      some (t.rows.map (joined log t g)) := by
  have hdb : log.db tripTable = some (tripRows log.trips) := rfl
  rw [joinTable, hdb, Option.map_some, leftJoin_eq_map, List.map_map]
  · congr 1
    refine List.map_congr_left fun r hr => ?_
    show [obdPart t r, gpsPart log (g r)] ++ [tripPart log
      ((((log.trips.rows.map tripRow).find? _).getD [none, none, none]))] = _
    rw [List.find?_map]
    rfl
  · intro parts hparts
    obtain ⟨r, hr, rfl⟩ := List.mem_map.mp hparts
    obtain ⟨time, -, -, ⟨htime, -⟩, -⟩ := h.rows t ht r hr
    refine List.pairwise_map.mpr (h.apart.imp fun {a b} hle hboth => ?_)
    have ha := (onTrip_iff htime (g r) a).mp hboth.1
    have hb := (onTrip_iff htime (g r) b).mp hboth.2
    omega

/-- **The lines**: one for each row of `obd`, in their order, with the trip that
is found. -/
theorem csvLines_eq (h : LogInv ts log) (ht : log.obd = some t) : ∃ g lines,
    csvLines log.db = some lines ∧
    lines.map tripidOf =
      t.rows.map fun r => (tripFound log t g r).map fun c => (c.tripid : Rat) := by
  have hinfo : log.db.tableInfo obdTable = t.columns := Database.tableInfo_eq ht
  obtain ⟨g, hgps⟩ := join_gps h t
  have htrip := join_trip h ht g
  refine ⟨g, t.rows.map fun r => ((firstColumns t.columns).map lex ++ [lex lastColumn]).map
    (outputValue (joined log t g r)), ?_, ?_⟩
  · rw [csvLines, readStatement_selectSql hinfo (h.columns t ht), Option.bind_some, query,
      selectRows, show log.db obdTable = some t from ht]
    show Option.map _ ((joinTable log.db (t.rows.map fun r => [obdPart t r]) (gpsTable, onGps)).bind
      fun acc => (joinTable log.db acc (tripTable, onTrip)).bind some) = _
    rw [hgps, Option.bind_some, htrip]
    show some ((t.rows.map (joined log t g)).map _) = _
    rw [List.map_map]
    rfl
  · rw [List.map_map]
    refine List.map_congr_left fun r hr => ?_
    -- the last output is the id of the trip
    show ((List.map _ (_ ++ [lex lastColumn])).getLast?).join = _
    rw [List.map_append, List.map_singleton, List.getLast?_concat]
    show cell (tripRows log.trips).columns (((tripFound log t g r).map tripRow).getD
      [none, none, none]) "tripid".toList = _
    cases tripFound log t g r with
    | none => rfl
    | some c => rfl

/-- The trip that is found is the one a row is filed under, if the row is
strictly inside. -/
theorem tripFound_iff (h : LogInv ts log) (g : List (Option Rat) → List (Option Rat))
    {r : List (Option Rat)} {time : Int} (htime : timeOf t r = some (time : Rat)) {c : Trip}
    (hc : c ∈ log.trips.rows) :
    (tripFound log t g r).map (fun c => (c.tripid : Rat)) = some (c.tripid : Rat) ↔
      c.start < time ∧ time < c.endTime := by
  have hfind : ∀ d, tripFound log t g r = some d →
      d ∈ log.trips.rows ∧ d.start < time ∧ time < d.endTime := by
    intro d hd
    have htest := List.find?_some hd
    exact ⟨List.mem_of_find?_eq_some hd, (onTrip_iff htime (g r) d).mp htest⟩
  constructor
  · intro hfound
    obtain ⟨d, hd, hid⟩ := Option.map_eq_some_iff.mp hfound
    obtain ⟨hdmem, hbetween⟩ := hfind d hd
    obtain rfl := eq_of_tripid hdmem hc (Int.cast_inj.mp hid)
    exact hbetween
  · intro hbetween
    cases hfound : tripFound log t g r with
    | none =>
      have hnot := List.find?_eq_none.mp hfound c hc
      exact absurd ((onTrip_iff htime (g r) c).mpr hbetween) hnot
    | some d =>
      obtain ⟨hdmem, hd⟩ := hfind d hfound
      -- two trips that contain the time are one
      have hsymm : Std.Symm fun a b : Trip => a.endTime ≤ b.start ∨ b.endTime ≤ a.start :=
        ⟨fun _ _ => Or.symm⟩
      have hapart := (h.apart.imp (S := fun a b => a.endTime ≤ b.start ∨ b.endTime ≤ a.start)
        Or.inl).forall hdmem hc
      have hdc : d = c := by
        by_contra hne
        have := hapart hne
        omega
      rw [hdc, Option.map_some]

end Joins

/-! ## Attribution -/

/-- The export attributes the rows of a log to their trips: there is one line
for each row, and the trip on it is that of the row. -/
def Attributed (log : Log) (t : Table Rat) : Prop :=
  ∃ lines, csvLines log.db = some lines ∧
    List.Forall₂ (fun r line => tripidOf line = cell t.columns r "trip".toList) t.rows lines

section Attribution

variable {ts : List Int} {log : Log} {t : Table Rat}

/-- Two lists with equal values under `f` and `g` have these values in common
one by one. -/
theorem forall₂_of_map_eq {α β γ : Type} {f : α → γ} {g : β → γ} {l : List α} {m : List β}
    (h : m.map g = l.map f) : List.Forall₂ (fun a b => g b = f a) l m := by
  have heq : List.Forall₂ Eq (m.map g) (l.map f) := by rw [h, List.forall₂_eq_eq_eq]
  rw [List.forall₂_map_left_iff, List.forall₂_map_right_iff] at heq
  exact heq.flip

/-- A log with a row is not exported with its trips. -/
theorem not_attributed (h : LogInv ts log) (ht : log.obd = some t) {r : List (Option Rat)}
    (hr : r ∈ t.rows) : ¬ Attributed log t := by
  rintro ⟨lines, hlines, hall⟩
  obtain ⟨g, lines', hlines', hmap⟩ := csvLines_eq h ht
  rw [hlines] at hlines'
  obtain rfl := Option.some.inj hlines'
  -- the row at the start of the trip
  obtain ⟨time, c, hc, -, -, -, r', hr', hrow⟩ := h.rows t ht r hr
  have hstored : t.rows.map (fun r => (tripFound log t g r).map fun c => (c.tripid : Rat)) =
      t.rows.map fun r => cell t.columns r "trip".toList := by
    rw [← hmap, ← List.forall₂_eq_eq_eq, List.forall₂_map_left_iff, List.forall₂_map_right_iff]
    exact hall.flip
  have hfound := (List.map_inj_left.mp hstored r' hr').trans hrow.2
  exact Int.lt_irrefl _ ((tripFound_iff h g hrow.1 hc).mp hfound).1

/-- **Which lines keep their trip.** There is one line for each row, in the same
order. The line of a row has the trip it is filed under if and only if the row
is strictly inside it; so the trips of a log are exported as they are if and
only if there are no rows. -/
theorem csv_attribution (h : Logged ts log) (ht : log.obd = some t) :
    (Attributed log t ↔ t.rows = []) ∧
    ∃ lines, csvLines log.db = some lines ∧ List.Forall₂ (fun r line =>
      ∀ (time : Int), ∀ c ∈ log.trips.rows, RowOf t r time c.tripid →
        (tripidOf line = some (c.tripid : Rat) ↔ c.start < time ∧ time < c.endTime))
      t.rows lines := by
  have hinv := logged_inv h
  obtain ⟨g, lines, hlines, hmap⟩ := csvLines_eq hinv ht
  refine ⟨⟨fun hattributed => ?_, fun hnil => ⟨lines, hlines, ?_⟩⟩, lines, hlines, ?_⟩
  · by_contra hne
    obtain ⟨r, hr⟩ := List.exists_mem_of_ne_nil _ hne
    exact not_attributed hinv ht hr hattributed
  · rw [hnil, List.map_nil, List.map_eq_nil_iff] at hmap
    rw [hnil, hmap]
    exact List.Forall₂.nil
  · refine (forall₂_of_map_eq hmap).imp fun r line hline time c hc hrow => ?_
    rw [hline]
    exact tripFound_iff hinv g hrow.1 hc

end Attribution

/-! ## The export of a drive -/

/-- The log of a drive that only knows the speed. -/
theorem logged_drive : ∃ log t, Logged (clock drive) log ∧ log.obd = some t ∧ t.rows ≠ [] := by
  obtain ⟨⟨s, ended⟩, hrun⟩ := Option.isSome_iff_exists.mp (show driveRun.isSome by decide)
  have hlength : driveRun.map (fun r => r.1.obd.length) = some 2 := by decide
  rw [hrun] at hlength
  have hobd : s.obd.length = 2 := Option.some.inj hlength
  have hinv := logged_inv Logged.empty
  obtain ⟨t, t', ht', -, hrows, -⟩ := afterRun_obd [0x0D] hinv s.toTripLog
  obtain ⟨u, heq, -, hcols, -⟩ := runTable hinv [0x0D]
  refine ⟨_, t', Logged.run (l := s.toTripLog) Logged.empty ?_ hrun ?_ (Or.inl rfl), ht', ?_⟩
  · rw [heq, createobdinsertstmt_eq [0x0D] ⟨u, Database.set_self Log.empty.db obdTable u, hcols⟩]
    decide +kernel
  · decide
  · intro hnil
    rw [hrows] at hnil
    have hmap := (List.append_eq_nil_iff.mp hnil).2
    rw [List.map_eq_nil_iff.mp hmap] at hobd
    cases hobd

/-- A log with a row at the start of its trip: the row is not inside the trip,
and so it is not exported with it. -/
theorem drive_not_attributed : ¬ ∀ (ts : List Int) (log : Log) (t : Table Rat),
    Logged ts log → log.obd = some t → Attributed log t := by
  intro hall
  obtain ⟨log, t, hlogged, ht, hne⟩ := logged_drive
  obtain ⟨r, hr⟩ := List.exists_mem_of_ne_nil _ hne
  exact not_attributed (logged_inv hlogged) ht hr (hall _ log t hlogged ht)

theorem drive_attribution : ∃ log t, Logged (clock drive) log ∧ log.obd = some t ∧
    (Attributed log t ↔ t.rows = []) := by
  obtain ⟨log, t, hlogged, ht, -⟩ := logged_drive
  exact ⟨log, t, hlogged, ht, (csv_attribution hlogged ht).1⟩

end ObdGpsLogger.Csv

import Mathlib.Data.Set.Finite.Lattice
import ObdGpsLogger.Logger.ObdDb
import ObdGpsLogger.Logger.Samples

/-!
# The log

The database of the logger after any number of runs (`Logged`), each with its
own capabilities, on a clock that strictly goes on: the table `obd` as the
statements of `obddb.c` leave it, and the tables `trip` and `gps`.

`logged_inv` says what all these logs have in common. The trips follow each
other in time. Every row of `obd` is in the interval of the trip it is filed
under, and at the start of that trip there is a row too. No two positions have
the same time.

Mirroring notes:
- A log ends behind the loop of a run, or after any pass through it, where the
  logger may be killed or the log be read while it runs.
- The tables `trip` and `gps` are there from the start.
-/

namespace ObdGpsLogger.Logger

open Machine Obdcomm Sql

/-- The name of the table `trip`. -/
def tripTable : Name := "trip".toList

/-- The name of the table `gps`. -/
def gpsTable : Name := "gps".toList

/-- The cells of a row of `trip`: its id, its start and its end. -/
def tripRow (t : Trip) : List (Option Rat) :=
  [some (t.tripid : Rat), some (t.start : Rat), some (t.endTime : Rat)]

/-- The table `trip` as SQLite stores it. -/
def tripRows (db : TripTable) : Table Rat where
  columns := ["tripid".toList, "start".toList, "end".toList]
  rows := db.rows.map tripRow
  width := by simp [tripRow]

/-- The cells of a row of `gps`. -/
def gpsRow (r : GpsRow) : List (Option Rat) :=
  [some r.lat, some r.lon, r.alt, some r.speed, some r.course, some r.gpstime,
    some (r.time : Rat), some (r.trip : Rat)]

/-- The table `gps` as SQLite stores it. -/
def gpsRows (gps : List GpsRow) : Table Rat where
  columns := ["lat".toList, "lon".toList, "alt".toList, "speed".toList, "course".toList,
    "gpstime".toList, "time".toList, "trip".toList]
  rows := gps.map gpsRow
  width := by simp [gpsRow]

/-- A log: the table `obd`, if a run has made it, and the rows of `gps` and
`trip`. -/
structure Log where
  obd : Option (Table Rat)
  gps : List GpsRow
  trips : TripTable

namespace Log

/-- The log before the first run. -/
def empty : Log := ⟨none, [], emptyDb⟩

/-- The log as a database: its tables under their names. -/
def db (log : Log) : Database Rat := fun name =>
  if name = obdTable then log.obd
  else if name = gpsTable then some (gpsRows log.gps)
  else if name = tripTable then some (tripRows log.trips)
  else none

/-- The OBD inserts of a run, one statement for each row, in order. -/
def insertObdRows (db : Database Rat) (obdinsert : Statement) (rows : List ObdRow) :
    Database Rat :=
  rows.foldl (fun db r => (exec db (obdParams r.values r.time r.trip) obdinsert).getD db) db

/-- The log after a run that wrote `l`. -/
def afterRun (log : Log) (obdcaps : List Nat) (l : TripLog) : Log :=
  let db := (createobdtable log.db obdcaps).2
  { obd := match (createobdinsertstmt db obdcaps).2 with
      | none => db obdTable
      | some obdinsert => insertObdRows db obdinsert l.obd obdTable
    gps := log.gps ++ l.gps
    trips := l.trips }

end Log

/-- The logs after any number of runs, and the times that were read. -/
inductive Logged : List Int → Log → Prop where
  | empty : Logged [] Log.empty
  | run {ts : List Int} {log : Log} {obdcaps : List Nat} {cfg : Setup} {gpsdata : Bool}
      {samplecount : Int} {qs : List Pass} {s : LoopState} {ended : List (List Int)} {l : TripLog} :
      Logged ts log →
      (createobdinsertstmt (createobdtable log.db obdcaps).2 obdcaps).1 = cfg.numCommands + 1 →
      run (iteration cfg) (LoopState.init cfg log.trips gpsdata samplecount) qs = some (s, ended) →
      (ts ++ clock qs).Pairwise (· < ·) →
      l = s.toTripLog ∨ l = atExit s →
      Logged (ts ++ clock qs) (log.afterRun obdcaps l)

/-! ## What all logs have in common -/

/-- The time of a row of `obd`, if it is not NULL. -/
def timeOf (t : Table Rat) (r : List (Option Rat)) : Option Rat := cell t.columns r "time".toList

/-- A row has this time, and is filed under this trip. -/
def RowOf (t : Table Rat) (r : List (Option Rat)) (time trip : Int) : Prop :=
  cell t.columns r "time".toList = some (time : Rat) ∧
    cell t.columns r "trip".toList = some (trip : Rat)

/-- All the columns that the table `obd` can ever have. -/
def allColumns : List Name := rowIndices.filterMap dbColumn ++ timeAndTrip ++ ["ecu".toList]

/-- The columns of a table `obd`: no name twice, none that no command has, and
the time and the trip among them. -/
structure ObdColumns (columns : List Name) : Prop where
  nodup : columns.Nodup
  known : ∀ c ∈ columns, c ∈ allColumns
  timed : ∀ c ∈ timeAndTrip, c ∈ columns

/-- A row is in the interval of its trip, which has a row at its start. -/
def InTrip (trips : List Trip) (t : Table Rat) (r : List (Option Rat)) : Prop :=
  ∃ time : Int, ∃ c ∈ trips, RowOf t r time c.tripid ∧ c.start ≤ time ∧ time ≤ c.endTime ∧
    ∃ r' ∈ t.rows, RowOf t r' c.start c.tripid

/-- What holds of every log whose runs read the clock at the times `ts`: the
intervals of its trips lie apart and in the past, and each row of `obd` lies in
its trip. -/
structure LogInv (ts : List Int) (log : Log) : Prop where
  clock : ts.Pairwise (· < ·)
  intervals : ∀ c ∈ log.trips.rows, c.start ≤ c.endTime
  past : ∀ t, (∀ u ∈ ts, u < t) → ∀ c ∈ log.trips.rows, c.endTime < t
  apart : log.trips.rows.Pairwise fun a b => a.endTime ≤ b.start
  gps : (log.gps.map GpsRow.time).Sublist ts
  columns : ∀ t, log.obd = some t → ObdColumns t.columns
  rows : ∀ t, log.obd = some t → ∀ r ∈ t.rows, InTrip log.trips.rows t r

/-! ## The table of a run -/

section Tables

variable (obdcaps : List Nat)

theorem known_columnNames {c : Name} (h : c ∈ columnNames obdcaps) :
    c ∈ rowIndices.filterMap dbColumn := by
  obtain ⟨i, hi, hcol⟩ := List.mem_filterMap.mp h
  exact List.mem_filterMap.mpr ⟨i, hi, dbColumn_of_picked hcol⟩

theorem newColumns_ok : ObdColumns (newColumns obdcaps) where
  nodup := by
    have hecu : "ecu".toList ∉ rowIndices.filterMap dbColumn := by decide +kernel
    refine List.nodup_append.mpr ⟨columnNames_nodup obdcaps, List.pairwise_singleton .., ?_⟩
    intro c hc d hd hcd
    rw [hcd, List.mem_singleton.mp hd] at hc
    rcases List.mem_append.mp hc with hc | hc
    · exact hecu (known_columnNames obdcaps hc)
    · exact absurd hc (by decide)
  known := by
    intro c hc
    rcases List.mem_append.mp hc with hc | hc
    · rcases List.mem_append.mp hc with hc | hc
      · exact List.mem_append_left _ (List.mem_append_left _ (known_columnNames obdcaps hc))
      · exact List.mem_append_left _ (List.mem_append_right _ hc)
    · exact List.mem_append_right _ hc
  timed := fun c hc => List.mem_append_left _ (List.mem_append_right _ hc)

theorem ObdColumns.addColumns {before more : List Name} (h : ObdColumns before)
    (hadded : Added before (columnNames obdcaps) more) : ObdColumns (before ++ more) where
  nodup := hadded.nodup h.nodup
  known := by
    intro c hc
    rcases List.mem_append.mp hc with hc | hc
    · exact h.known c hc
    · exact List.mem_append_left _
        (List.mem_append_left _ (known_columnNames obdcaps (hadded.mem c hc)))
  timed := fun c hc => List.mem_append_left _ (h.timed c hc)

/-- A row keeps its time and its trip when columns are added. -/
theorem rowOf_addColumns {t : Table Rat} (h : ObdColumns t.columns) {r : List (Option Rat)}
    (hr : r ∈ t.rows) (more : List Name) (rest : List (Option Rat)) {time trip : Int}
    (hrow : RowOf t r time trip) : RowOf (t.addColumns more) (r ++ rest) time trip := by
  have hwidth := t.width r hr
  exact ⟨(cell_append_left hwidth (h.timed _ (by decide))).trans hrow.1,
    (cell_append_left hwidth (h.timed _ (by decide))).trans hrow.2⟩

/-- The cells that an OBD insert stores in a table with these columns. -/
def storedRow (columns : List Name) (r : ObdRow) : List (Option Rat) :=
  columns.map (cell (columnNames obdcaps ++ timeAndTrip)
    ((List.range ((columnNames obdcaps).length + 2)).map fun k =>
      obdParams r.values r.time r.trip (k + 1)))

/-- Inserting the rows of a run appends them, in order, to the rows the table
has had, each as it is stored in the columns of the table. -/
theorem insertObdRows_eq {db : Database Rat} (rows : List ObdRow) {t : Table Rat}
    (hcols : ∀ c ∈ columnNames obdcaps ++ timeAndTrip, c ∈ t.columns) :
    ∃ t', Log.insertObdRows (db.set obdTable t) (obdInsert obdcaps) rows = db.set obdTable t' ∧
      t'.columns = t.columns ∧ t'.rows = t.rows ++ rows.map (storedRow obdcaps t.columns) := by
  induction rows generalizing t with
  | nil => exact ⟨t, rfl, rfl, (List.append_nil _).symm⟩
  | cons r rows ih =>
    obtain ⟨t', heq, hcolumns, hrows⟩ := ih (t := t.insert (columnNames obdcaps ++ timeAndTrip)
      ((List.range ((columnNames obdcaps).length + 2)).map fun k =>
        obdParams r.values r.time r.trip (k + 1))) hcols
    refine ⟨t', ?_, hcolumns, ?_⟩
    · rw [← heq, Log.insertObdRows, List.foldl_cons,
        exec_obdInsert obdcaps (Database.set_self db obdTable t) hcols, Option.getD_some,
        Database.set_set]
      rfl
    · rw [hrows]
      exact (List.append_assoc ..).trans rfl

theorem rowOf_storedRow {t : Table Rat}
    (hcols : ∀ c ∈ columnNames obdcaps ++ timeAndTrip, c ∈ t.columns) {r : ObdRow}
    (hlen : r.values.length = (columnNames obdcaps).length) :
    RowOf t (storedRow obdcaps t.columns r) r.time r.trip := by
  have hcell := fun {k c} => cell_obdInsert obdcaps hcols (obdParams r.values r.time r.trip)
    (k := k) (c := c)
  constructor
  · refine (hcell (k := (columnNames obdcaps).length) (by simp [timeAndTrip])).trans ?_
    unfold obdParams
    rw [if_pos (by omega)]
  · refine (hcell (k := (columnNames obdcaps).length + 1) (by simp [timeAndTrip])).trans ?_
    unfold obdParams
    rw [if_neg (by omega), if_pos (by omega)]

end Tables

/-! ## Runs -/

section Runs

variable {ts us : List Int} {log : Log} {obdcaps : List Nat} {n : Nat} {l : TripLog}

theorem InTrip.mono {trips trips' : List Trip} {t t' : Table Rat} {r : List (Option Rat)}
    (h : InTrip trips t r) (htrips : ∀ c ∈ trips, c ∈ trips') (hcolumns : t'.columns = t.columns)
    (hrows : ∀ r ∈ t.rows, r ∈ t'.rows) : InTrip trips' t' r := by
  obtain ⟨time, c, hc, hrow, hle, hle', r', hr', hrow'⟩ := h
  refine ⟨time, c, htrips c hc, ?_, hle, hle', r', hrows r' hr', ?_⟩
  · rwa [RowOf, hcolumns]
  · rwa [RowOf, hcolumns]

/-- The table `obd` at the start of a run, before its rows: it has all columns
of the run, and its rows are each in their trips, as in the log before. -/
theorem runTable (h : LogInv ts log) (obdcaps : List Nat) : ∃ t,
    (createobdtable log.db obdcaps).2 = log.db.set obdTable t ∧ ObdColumns t.columns ∧
    (∀ c ∈ columnNames obdcaps ++ timeAndTrip, c ∈ t.columns) ∧
    ∀ r ∈ t.rows, InTrip log.trips.rows t r := by
  have hobd : log.db obdTable = log.obd := rfl
  have hdb : log.db obdTable = none ∨ HasColumns log.db timeAndTrip := by
    rw [hobd]
    cases ht : log.obd with
    | none => exact Or.inl rfl
    | some t => exact Or.inr ⟨t, hobd.trans ht, (h.columns t ht).timed⟩
  rcases createobdtable_cases obdcaps hdb with ⟨-, heq⟩ | ⟨t, more, ht, heq, hadded⟩
  · rw [heq]
    exact ⟨_, rfl, newColumns_ok obdcaps, fun c hc => List.mem_append_left _ hc,
      fun r hr => nomatch hr⟩
  · have hcolumns := h.columns t ht
    rw [heq]
    refine ⟨t.addColumns more, rfl, hcolumns.addColumns obdcaps hadded, fun c hc => ?_,
      fun r hr => ?_⟩
    · rcases List.mem_append.mp hc with hc | hc
      · exact hadded.all c hc
      · exact List.mem_append_left _ (hcolumns.timed c hc)
    · obtain ⟨r, hr', rfl⟩ := List.mem_map.mp hr
      obtain ⟨time, c, hc, hrow, hle, hle', r₀, hr₀, hrow₀⟩ := h.rows t ht r hr'
      exact ⟨time, c, hc, rowOf_addColumns hcolumns hr' more _ hrow, hle, hle', _,
        List.mem_map_of_mem hr₀, rowOf_addColumns hcolumns hr₀ more _ hrow₀⟩

/-- The table `obd` behind a run: the columns are those that it had at the
start, and the rows of the run are behind the rows from before. -/
theorem afterRun_obd (obdcaps : List Nat) (h : LogInv ts log) (l : TripLog) : ∃ t t',
    (log.afterRun obdcaps l).obd = some t' ∧ t'.columns = t.columns ∧
    t'.rows = t.rows ++ l.obd.map (storedRow obdcaps t.columns) ∧ ObdColumns t.columns ∧
    (∀ c ∈ columnNames obdcaps ++ timeAndTrip, c ∈ t.columns) ∧
    ∀ r ∈ t.rows, InTrip log.trips.rows t r := by
  obtain ⟨t, heq, hcolumns, hcols, hrows⟩ := runTable h obdcaps
  obtain ⟨t', hinsert, hcolumns', hrows'⟩ :=
    insertObdRows_eq obdcaps l.obd hcols
  refine ⟨t, t', ?_, hcolumns', hrows', hcolumns, hcols, hrows⟩
  unfold Log.afterRun
  dsimp only
  rw [heq, createobdinsertstmt_eq obdcaps ⟨t, Database.set_self log.db obdTable t, hcols⟩]
  dsimp only
  rw [hinsert]
  exact Database.set_self log.db obdTable t'

/-- The log of a run on a new file: the table `obd` has the columns of the run,
and the rows are those of the run alone. -/
theorem afterRun_new (obdcaps : List Nat) (l : TripLog) : ∃ t,
    (Log.empty.afterRun obdcaps l).obd = some t ∧ t.columns = newColumns obdcaps ∧
      t.rows = l.obd.map (storedRow obdcaps (newColumns obdcaps)) := by
  have hcols : ∀ c ∈ columnNames obdcaps ++ timeAndTrip,
      c ∈ (Table.empty (V := Rat) (newColumns obdcaps)).columns := fun c hc =>
    List.mem_append_left _ hc
  have hdb : Log.empty.db obdTable = none ∨ HasColumns Log.empty.db timeAndTrip := Or.inl rfl
  rcases createobdtable_cases obdcaps hdb with ⟨-, heq⟩ | ⟨t, more, ht, -, -⟩
  · obtain ⟨t, hinsert, hcolumns, hrows⟩ :=
      @insertObdRows_eq obdcaps Log.empty.db l.obd _ hcols
    refine ⟨t, ?_, hcolumns, hrows⟩
    unfold Log.afterRun
    dsimp only
    rw [heq, createobdinsertstmt_eq obdcaps ⟨_, Database.set_self .., hcols⟩]
    dsimp only
    rw [hinsert]
    exact Database.set_self ..
  · cases ht

/-- A value that was read is in the column of its command. -/
theorem cell_storedRow (obdcaps : List Nat) {t : Table Rat}
    (hcols : ∀ c ∈ columnNames obdcaps ++ timeAndTrip, c ∈ t.columns) {r : ObdRow}
    (hlen : r.values.length = (columnNames obdcaps).length) {k : Nat} {c : Name}
    (hc : (columnNames obdcaps)[k]? = some c) :
    cell t.columns (storedRow obdcaps t.columns r) c = r.values[k]?.join := by
  have hk := (List.getElem?_eq_some_iff.mp hc).1
  have hcell := cell_obdInsert obdcaps hcols (obdParams r.values r.time r.trip) (k := k) (c := c)
    (by rw [List.getElem?_append_left hk, hc])
  refine hcell.trans ?_
  unfold obdParams
  rw [if_neg (by omega), if_neg (by omega), if_neg (by omega), Nat.add_sub_cancel]

/-- The ids of the trips in a table are different, so two trips of one id are
the same trip. -/
theorem eq_of_tripid {db : TripTable} {c d : Trip} (hc : c ∈ db.rows) (hd : d ∈ db.rows)
    (hid : c.tripid = d.tripid) : c = d := by
  by_contra hne
  have hsymm : Std.Symm fun a b : Trip => a.tripid ≠ b.tripid := ⟨fun _ _ h => h.symm⟩
  have hids : db.rows.Pairwise fun a b => a.tripid ≠ b.tripid := db.sorted.imp Int.ne_of_lt
  exact hids.forall hc hd hne hid

/-- A trip that a run creates starts at a time of the run. -/
theorem RunLog.start_mem {db : TripTable} {last : Int} {created : List Trip}
    (hrun : RunLog db n us l) (hin : InOrder db last created l) {c : Trip} (hc : c ∈ created) :
    c.start ∈ us := by
  have hmem : c ∈ l.trips.rows := hin.rows ▸ List.mem_append_right _ hc
  refine (hrun.dated.trips c hmem).resolve_left fun ⟨d, hd, hid⟩ => ?_
  have hsorted := l.trips.sorted
  rw [hin.rows] at hsorted
  exact Int.ne_of_lt ((List.pairwise_append.mp hsorted).2.2 d hd c hc) hid

/-- A row that a run files for a trip has its time in the interval which the
table has for that trip at the end of the run. -/
theorem RunLog.inTrip {db : TripTable} {last : Int} {created : List Trip}
    (hrun : RunLog db n us l) (hin : InOrder db last created l) {t : Table Rat}
    {stored : ObdRow → List (Option Rat)} (hrow : ∀ r ∈ l.obd, RowOf t (stored r) r.time r.trip)
    (hmem : ∀ r ∈ l.obd, stored r ∈ t.rows) {r : ObdRow} (hr : r ∈ l.obd) :
    InTrip l.trips.rows t (stored r) := by
  obtain ⟨c, hc, hid, hle, hle'⟩ := hin.obd r hr
  obtain ⟨r₀, hr₀, hid₀, d, hd, hdid, hdstart⟩ := hrun.started r hr
  have hcmem : c ∈ l.trips.rows := hin.rows ▸ List.mem_append_right _ hc
  obtain rfl := eq_of_tripid hcmem hd (hid.trans hdid.symm)
  refine ⟨r.time, c, hcmem, hid ▸ hrow r hr, hle, hle', stored r₀, hmem r₀ hr₀, ?_⟩
  rw [hdstart, hid, ← hid₀]
  exact hrow r₀ hr₀

/-- **A run keeps what holds of all logs**: if the clock goes up over the runs
before and the new one, the log behind the new run is again such a log. -/
theorem logInv_afterRun (h : LogInv ts log) (hts : (ts ++ us).Pairwise (· < ·))
    (hrun : RunLog log.trips (columnNames obdcaps).length us l) :
    LogInv (ts ++ us) (log.afterRun obdcaps l) := by
  have hlater : ∀ u ∈ us, ∀ v ∈ ts, v < u := fun u hu v hv =>
    (List.pairwise_append.mp hts).2.2 v hv u hu
  -- the trips of the table are those there were and those the run has created
  obtain ⟨last, hlast⟩ := us.finite_toSet.bddAbove
  obtain ⟨created, hin⟩ := hrun.order last fun u hu => hlast hu
  have hsplit : ∀ c ∈ l.trips.rows, c ∈ log.trips.rows ∨ c ∈ created := by
    -- every trip is an interval
    intro c hc
    rw [hin.rows] at hc
    exact List.mem_append.mp hc
  obtain ⟨t, t', hobd, hcolumns, hrows, hok, hcols, hold⟩ := afterRun_obd obdcaps h l
  refine ⟨hts, ?_, ?_, ?_, ?_, ?_, ?_⟩
  · intro c hc
    rcases hsplit c hc with hc | hc
    · exact h.intervals c hc
    · exact (hin.interval c hc).1
  · -- every trip ends before any later reading of the clock
    intro v hv c hc
    have hv' : ∀ u ∈ us, u ≤ v - 1 := fun u hu => by
      have := hv u (List.mem_append_right _ hu)
      omega
    obtain ⟨created', hin'⟩ := hrun.order (v - 1) hv'
    have hc' : c ∈ log.trips.rows ++ created' := hin'.rows ▸ hc
    rcases List.mem_append.mp hc' with hc | hc
    · exact h.past v (fun u hu => hv u (List.mem_append_left _ hu)) c hc
    · have := (hin'.interval c hc).2
      omega
  · -- a trip of this run begins behind the end of an older one
    show l.trips.rows.Pairwise _
    rw [hin.rows]
    refine List.pairwise_append.mpr ⟨h.apart, hin.apart, fun a ha b hb => ?_⟩
    exact Int.le_of_lt (h.past b.start (hlater b.start (hrun.start_mem hin hb)) a ha)
  · -- the positions are in the order of the clock
    show ((log.gps ++ l.gps).map GpsRow.time).Sublist _
    rw [List.map_append]
    exact h.gps.append hrun.dated.gps
  · intro u hu
    rw [hobd] at hu
    obtain rfl := Option.some.inj hu
    rw [hcolumns]
    exact hok
  · -- every row lies in its trip: the old ones, whose trips are still there, and the new ones
    intro u hu r hr
    rw [hobd] at hu
    obtain rfl := Option.some.inj hu
    rw [hrows] at hr
    rcases List.mem_append.mp hr with hr | hr
    · refine (hold r hr).mono (fun c hc => ?_) hcolumns (fun r hr => ?_)
      · exact hin.rows ▸ List.mem_append_left _ hc
      · rw [hrows]
        exact List.mem_append_left _ hr
    · -- a row of this run
      obtain ⟨r, hr', rfl⟩ := List.mem_map.mp hr
      refine hrun.inTrip hin (fun r hr => ?_) (fun r hr => ?_) hr'
      · rw [RowOf, hcolumns]
        exact rowOf_storedRow obdcaps hcols (hrun.dated.values r hr)
      · rw [hrows]
        exact List.mem_append_right _ (List.mem_map_of_mem hr)

/-- **What holds of every log**, after any number of runs. -/
theorem logged_inv (h : Logged ts log) : LogInv ts log := by
  induction h with
  | empty =>
    refine ⟨List.Pairwise.nil, ?_, ?_, List.Pairwise.nil, List.Sublist.slnil, ?_, ?_⟩
    · intro c hc
      cases hc
    · intro t _ c hc
      cases hc
    · intro t ht
      cases ht
    · intro t ht
      cases ht
  | run hlog hcount hrun hclock hl ih =>
    rename_i ts log obdcaps cfg gpsdata samplecount qs s ended l
    obtain ⟨t, heq, -, hcols, -⟩ := runTable ih obdcaps
    -- the number of commands is that of the columns
    rw [heq, createobdinsertstmt_eq obdcaps ⟨t, Database.set_self log.db obdTable t, hcols⟩]
      at hcount
    have hn : cfg.numCommands = (columnNames obdcaps).length := (Nat.succ.inj hcount).symm
    have hclock' : (clock qs).Pairwise (· ≤ ·) :=
      (List.pairwise_append.mp hclock).2.1.imp Int.le_of_lt
    obtain ⟨hpass, hexit⟩ := runLog_run hclock' hrun
    rw [hn] at hpass hexit
    rcases hl with rfl | rfl
    · exact logInv_afterRun ih hclock hpass
    · exact logInv_afterRun ih hclock hexit

end Runs

end ObdGpsLogger.Logger

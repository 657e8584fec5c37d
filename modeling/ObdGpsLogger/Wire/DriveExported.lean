import ObdGpsLogger.Csv.Exported
import ObdGpsLogger.Logger.Positions
import ObdGpsLogger.Wire.Rerecord

/-!
# From a drive to the exported file

All of the way: the sensors of a car and its positions, the wire, the loop of the
logger, the tables, the `SELECT` and the text of the export, and the table that
`opencsv` makes of that. `drive_exported` is about a run behind any number of
earlier ones: the file ends with a row for each pass, and in it are the time of
the pass, the value of every sensor when it was asked, and the position that gpsd
had, or 0 without a fix.

Mirroring notes:
- The capabilities may be any list; the commands are those that `main` picks for
  it, in its order.
-/

namespace ObdGpsLogger.Wire

open CLib Machine Obdcomm Obdinfo Sim Logger Sql Csv Analysis

/-! ## The commands -/

/-- `cmdlist`, as rows of `obdcmds_mode1`. -/
def pickedCmds (obdcaps : List Nat) : List ObdServiceCmd :=
  (picked obdcaps).filterMap fun i => obdcmdsMode1[i]?

theorem picked_matched (obdcaps : List Nat) :
    List.Forall₂ (fun cmd c => cmd.dbColumn.map String.toList = some c) (pickedCmds obdcaps)
      (columnNames obdcaps) := by
  rw [columnNames_of_picked]
  refine rows_matched _ fun i hi => ?_
  obtain ⟨c, hc⟩ := Option.isSome_iff_exists.mp (List.mem_filter.mp hi).2
  exact ⟨c, dbColumn_of_picked hc⟩

/-! ## A pass and its row -/

/-- A row of the file has what a pass met. -/
structure ShowsPass (real : RealColumn) (columns : List Name) (gpsdata : Bool)
    (round : List Sensor) (p : Pass) (row : List (Option (List Char))) : Prop where
  time : ∃ t : Int, p.starttime = some t ∧
    Holds real (t / 10 ^ 6) (cell (columnnames columns) row obdTimeColumn)
  sensors : ∀ x ∈ round, ∃ (column : String) (s : List Char) (w : Rat),
    x.cmd.dbColumn = some column ∧
    cell (columnnames columns) row ("obd.".toList ++ column.toList) = some s ∧ readF s = some w ∧
    |w - x.v| < x.c.step + 1 / 2 / 10 ^ 6 ∧
    |real.keep w - x.v| < x.c.step + 1 / 2 / 10 ^ 6 + (|x.v| + x.c.step + 1) / 2 ^ 51
  position : gpsdata = true →
    Holds real (if 0 ≤ p.gpsstatus then p.position.lon else 0)
      (cell (columnnames columns) row "gps.lon".toList) ∧
    Holds real (if 0 ≤ p.gpsstatus then p.position.lat else 0)
      (cell (columnnames columns) row "gps.lat".toList) ∧
    Holds real (if 1 ≤ p.gpsstatus then p.position.alt else 0)
      (cell (columnnames columns) row "gps.alt".toList)

section Passes

variable {ps : List Pass}

/-- On a clock that strictly goes up there is one pass at a time only, so two
passes of one time are the same pass. -/
theorem pass_of_time (h : (clock ps).Pairwise (· < ·)) {p q : Pass} (hp : p ∈ ps) (hq : q ∈ ps)
    {t : Int} (hpt : p.starttime = some t) (hqt : q.starttime = some t) : p = q := by
  have hpair : ps.Pairwise fun a b => ∀ u, a.starttime = some u → ∀ v, b.starttime = some v →
      u ≠ v := (List.pairwise_filterMap.mp h).imp fun hlt u hu v hv =>
    Int.ne_of_lt (hlt u hu v hv)
  by_contra hne
  have hsymm : Std.Symm fun a b : Pass => ∀ u, a.starttime = some u →
      ∀ v, b.starttime = some v → u ≠ v := ⟨fun a b hab u hu v hv => (hab v hv u hu).symm⟩
  exact hpair.forall hp hq hne t hpt t hqt rfl

/-- If the rows of a run have the times of its passes, each row is at the time
of its pass. -/
theorem forall₂_of_times : ∀ {ps : List Pass} {rows : List ObdRow},
    (∀ p ∈ ps, p.starttime.isSome) → rows.map ObdRow.time = clock ps →
    List.Forall₂ (fun p row => p.starttime = some row.time) ps rows
  | [], rows, _, htimes => by
    obtain rfl : rows = [] := List.map_eq_nil_iff.mp htimes
    exact .nil
  | p :: ps, rows, hsome, htimes => by
    obtain ⟨t, ht⟩ := Option.isSome_iff_exists.mp (hsome p (List.mem_cons_self ..))
    have hclock : clock (p :: ps) = t :: clock ps := List.filterMap_cons_some ht
    rw [hclock] at htimes
    cases rows with
    | nil => cases htimes
    | cons row rows =>
      obtain ⟨htime, hrest⟩ := List.cons.inj htimes
      exact .cons (ht.trans (congrArg some htime.symm))
        (forall₂_of_times (fun q hq => hsome q (List.mem_cons_of_mem _ hq)) hrest)

variable {ts : List Int} {log : Log}

/-- The position at the time of a pass is that of the pass. -/
theorem positionAt_pass (h : LogInv (ts ++ clock ps) log) {old rows : List GpsRow}
    (hgps : log.gps = old ++ rows) (hold : ∀ g ∈ old, g.time ∈ ts)
    (hsound : ∀ g ∈ rows, ∃ p ∈ ps, PositionOf p g)
    (hcomplete : ∀ p ∈ ps, p.starttime.isSome → 0 ≤ p.gpsstatus → ∃ g ∈ rows, PositionOf p g)
    {p : Pass} (hp : p ∈ ps) {t : Int} (ht : p.starttime = some t) :
    (positionAt log t).map GpsRow.lon =
        (if 0 ≤ p.gpsstatus then some p.position.lon else none) ∧
      (positionAt log t).map GpsRow.lat =
        (if 0 ≤ p.gpsstatus then some p.position.lat else none) ∧
      (positionAt log t).bind GpsRow.alt =
        (if 1 ≤ p.gpsstatus then some p.position.alt else none) := by
  obtain ⟨-, hclock, hapart⟩ := List.pairwise_append.mp h.clock
  -- a position of that time is one of the pass
  have hown : ∀ g ∈ log.gps, g.time = t → PositionOf p g := by
    intro g hg htime
    rw [hgps] at hg
    rcases List.mem_append.mp hg with hg | hg
    · have hmem : t ∈ clock ps := List.mem_filterMap.mpr ⟨p, hp, ht⟩
      exact absurd htime (Int.ne_of_lt (hapart g.time (hold g hg) t hmem))
    · obtain ⟨q, hq, hpos⟩ := hsound g hg
      obtain rfl := pass_of_time hclock hp hq ht (htime ▸ hpos.time)
      exact hpos
  cases hfound : positionAt log t with
  | none =>
    have hnot := List.find?_eq_none.mp hfound
    have hneg : ¬ 0 ≤ p.gpsstatus := by
      intro hfix
      obtain ⟨g, hg, hpos⟩ := hcomplete p hp (by rw [ht]; rfl) hfix
      have htime : g.time = t := Option.some.inj (hpos.time.symm.trans ht)
      exact hnot g (hgps ▸ List.mem_append_right _ hg) (by simpa using htime)
    rw [if_neg hneg, if_neg hneg, if_neg (by omega)]
    exact ⟨rfl, rfl, rfl⟩
  | some g =>
    have hpos := hown g (List.mem_of_find?_eq_some hfound)
      (by simpa using List.find?_some hfound)
    rw [if_pos hpos.fix, if_pos hpos.fix, Option.map_some, Option.map_some, Option.bind_some,
      hpos.lon, hpos.lat, hpos.alt]
    exact ⟨rfl, rfl, rfl⟩

end Passes

section Rows

variable {real : RealColumn} {log : Log} {obdcaps : List Nat} {t : Table Rat}

/-- What is exported of the row of a pass shows that pass: its time, its
position, and the values of its sensors. -/
theorem showsPass_of_exported (hcols : ∀ c ∈ columnNames obdcaps ++ timeAndTrip, c ∈ t.columns)
    {enableOptimisations : Bool} {round : List Sensor} {r : ObdRow} {p : Pass} {gpsdata : Bool}
    {row : List (Option (List Char))}
    (hasks : Asks enableOptimisations (pickedCmds obdcaps) round) (hshows : Shows round r)
    (htime : p.starttime = some r.time)
    (hposition : gpsdata = true → (positionAt log r.time).map GpsRow.lon =
        (if 0 ≤ p.gpsstatus then some p.position.lon else none) ∧
      (positionAt log r.time).map GpsRow.lat =
        (if 0 ≤ p.gpsstatus then some p.position.lat else none) ∧
      (positionAt log r.time).bind GpsRow.alt =
        (if 1 ≤ p.gpsstatus then some p.position.alt else none))
    (h : Exported real log t (storedRow obdcaps t.columns r) row) :
    ShowsPass real t.columns gpsdata round p row := by
  have hmatched := picked_matched obdcaps
  have hrecorded := recorded_storedRow hcols hmatched hasks hshows
  have hvalues : r.values.length = (columnNames obdcaps).length :=
    hshows.length_eq.symm.trans hrecorded.length_eq
  obtain ⟨time, hrow, htimeHeld, hlonHeld, hlatHeld, haltHeld, -⟩ := h.placed
  -- the time that the export was placed at is the time of the row
  obtain rfl : time = r.time := by
    have hsame := hrow.symm.trans (rowOf_storedRow obdcaps hcols hvalues).1
    exact Int.cast_inj.mp (Option.some.inj hsame)
  refine ⟨⟨_, htime, htimeHeld⟩, fun x hx => ?_, fun hgps => ?_⟩
  · -- a sensor: its column is that of the command at the same place of the list
    obtain ⟨k, hk, rfl⟩ := List.mem_iff_getElem.mp hx
    have hk' : k < (columnNames obdcaps).length := hrecorded.length_eq ▸ hk
    obtain ⟨hcolumn, v, hv, hnear⟩ := hrecorded.get hk hk'
    obtain ⟨column, hcolumn, hname⟩ := Option.map_eq_some_iff.mp hcolumn
    have hmem : (columnNames obdcaps)[k] ∈ columnNames obdcaps := List.getElem_mem hk'
    have hne : (columnNames obdcaps)[k] ≠ "time".toList :=
      (List.nodup_append.mp (columnNames_nodup obdcaps)).2.2 _ hmem _ (by decide)
    obtain ⟨s, w, hcell, hread, hle, hkept⟩ := h.obd _ (hcols _ (List.mem_append_left _ hmem)) hne
    have hget : cell t.columns (storedRow obdcaps t.columns r) (columnNames obdcaps)[k] =
        some v := hv
    have hnear : |v - round[k].v| < round[k].c.step := hnear
    rw [hget, Option.getD_some] at hle hkept
    refine ⟨column, s, w, hcolumn, ?_, hread, ?_, ?_⟩
    · -- the cell of the export under the name of the column
      rw [hname]
      exact hcell
    · -- the printed value: half a millionth from the logged one, that a code step from the sensor
      calc |w - round[k].v| ≤ |w - v| + |v - round[k].v| := abs_sub_le ..
        _ < 1 / 2 / 10 ^ 6 + round[k].c.step := add_lt_add_of_le_of_lt hle hnear
        _ = round[k].c.step + 1 / 2 / 10 ^ 6 := add_comm ..
    · have hv : |v| ≤ |round[k].v| + round[k].c.step := by
        have h := abs_sub_abs_le_abs_sub v round[k].v
        linarith
      -- the rounding of a `REAL` is bounded by the value itself, which is near the sensor's
      have hround : (|v| + 1) / 2 ^ 51 ≤ (|round[k].v| + round[k].c.step + 1) / 2 ^ 51 :=
        div_le_div_of_nonneg_right (by linarith) (by positivity)
      calc |real.keep w - round[k].v| ≤ |real.keep w - v| + |v - round[k].v| := abs_sub_le ..
        _ < 1 / 2 / 10 ^ 6 + (|v| + 1) / 2 ^ 51 + round[k].c.step :=
            add_lt_add_of_le_of_lt hkept hnear
        _ ≤ _ := by linarith
  · -- the position: what the fix has left out is read as 0
    obtain ⟨hlon, hlat, halt⟩ := hposition hgps
    have hgetD : ∀ (b : Prop) [Decidable b] (v : Rat),
        (if b then some v else none).getD 0 = if b then v else 0 := by
      intro b _ v
      split <;> rfl
    rw [hlon, hgetD] at hlonHeld
    rw [hlat, hgetD] at hlatHeld
    rw [halt, hgetD] at haltHeld
    exact ⟨hlonHeld, hlatHeld, haltHeld⟩

end Rows

/-! ## The whole way -/

/-- The file that is exported behind a run shows its passes, line by line,
behind the lines of the runs before. -/
theorem afterRun_exported (real : RealColumn) {ts : List Int} {log : Log} (hlog : Logged ts log)
    {obdcaps : List Nat} {enableOptimisations : Bool} {rounds : List (List Sensor)} {gpsdata : Bool}
    {samplecount : Int} {ps : List Pass} {l : LoopState} {ended : List (List Int)}
    (hasks : ∀ round ∈ rounds, Asks enableOptimisations (pickedCmds obdcaps) round)
    (hsome : ∀ p ∈ ps, p.starttime.isSome) (hclock : (ts ++ clock ps).Pairwise (· < ·))
    (hrun : run (iteration ⟨true, (pickedCmds obdcaps).length⟩)
      (LoopState.init ⟨true, (pickedCmds obdcaps).length⟩ log.trips gpsdata samplecount) ps =
        some (l, ended))
    (hshows : List.Forall₂ Shows rounds l.obd) (htimes : l.obd.map ObdRow.time = clock ps) :
    ∃ t, (log.afterRun obdcaps l.toTripLog).obd = some t ∧
      (Printable (log.afterRun obdcaps l.toTripLog) t →
        ∃ text before after, obd2csv (log.afterRun obdcaps l.toTripLog).db = some text ∧
          opencsv text = some ⟨0, some (columnnames t.columns), before ++ after⟩ ∧
          List.Forall₂ (fun rp row => ShowsPass real t.columns gpsdata rp.1 rp.2 row) (rounds.zip ps)
            after) := by
  have hinv := logged_inv hlog
  obtain ⟨-, hpsClock, -⟩ := List.pairwise_append.mp hclock
  -- the log behind the run
  have hcount : (pickedCmds obdcaps).length = (columnNames obdcaps).length :=
    (picked_matched obdcaps).length_eq
  have hrunLog := (runLog_run (hpsClock.imp Int.le_of_lt) hrun).1
  have hinv' : LogInv (ts ++ clock ps) (log.afterRun obdcaps l.toTripLog) :=
    logInv_afterRun hinv hclock (hcount ▸ hrunLog)
  obtain ⟨t₀, t, ht, hcolumns, hrows, -, hcols, -⟩ := afterRun_obd obdcaps hinv l.toTripLog
  rw [← hcolumns] at hcols hrows
  refine ⟨t, ht, fun hprint => ?_⟩
  obtain ⟨text, rows, htext, hopen, hexported⟩ := obd2csv_opencsv real hinv' ht hprint
  refine ⟨text, rows.take t₀.rows.length, rows.drop t₀.rows.length, htext, ?_, ?_⟩
  · rw [List.take_append_drop]
    exact hopen
  -- the rows of the run
  have hown := List.forall₂_drop t₀.rows.length hexported
  rw [hrows, List.drop_left, List.forall₂_map_left_iff] at hown
  have hmatched := forall₂_of_times hsome htimes
  have hlen : rounds.length = ps.length := hshows.length_eq.trans hmatched.length_eq.symm
  refine List.forall₂_iff_get.mpr ⟨?_, fun k hk hk' => ?_⟩
  · rw [List.length_zip, ← hlen, min_self]
    exact hshows.length_eq.trans hown.length_eq
  · have hkr : k < rounds.length := by
      rw [List.length_zip, ← hlen, min_self] at hk
      exact hk
    have hkp : k < ps.length := hlen ▸ hkr
    have hko : k < l.obd.length := hshows.length_eq ▸ hkr
    have htime : (ps[k]).starttime = some (l.obd[k]).time := hmatched.get hkp hko
    rw [List.get_eq_getElem, List.getElem_zip]
    refine showsPass_of_exported hcols (hasks _ (List.getElem_mem hkr)) (hshows.get hkr hko) htime
      (fun hgps => ?_) (hown.get hko hk')
    obtain ⟨positions, hfiled, hsound, hcomplete⟩ := run_positions hrun hgps
    have hboth : (log.afterRun obdcaps l.toTripLog).gps = log.gps ++ positions := by
      show log.gps ++ l.gps = _
      rw [hfiled]
      rfl
    exact positionAt_pass hinv' hboth (fun g hg => hinv.gps.subset (List.mem_map_of_mem hg)) hsound
      hcomplete (List.getElem_mem hkp) htime

end ObdGpsLogger.Wire

import ObdGpsLogger.Analysis.TripDist
import ObdGpsLogger.Csv.ReadBack

/-!
# The trips compared

`main` of `src/analysis/tripcompare.c`: `fillAnalysisTables` puts the length and
the middle of each trip into `gpsanalysis`, and `exportGpsCSV` prints the table.

A trip without a length has no middle, and is left out. Every other trip is
there once, in the order of the ids (`fillAnalysisTables_eq`), so that
`tripcompare_readBack` can say what a program that reads the output finds in it.

Mirroring notes:
- The table is a list of rows; `trip` is `UNIQUE`, and an insert is `OR REPLACE`.
- `tripids` are the ids in the table `trip`, in any order. They are 64 bits wide
  there, and `int` in the program.
- `meanMedianDistances` comes between the two, and fills a table that is not
  printed.
- The output is what goes to `stdout`. A `double` that is computed is exact, and
  `haversine_dist` any `Distance`.
-/

namespace ObdGpsLogger.Analysis

open CLib Csv Stat

section Tables

variable {K : Type}

/-- A row of `gpsanalysis`: a trip, its length, its mean and its median
position. -/
structure AnalysisRow (K : Type) where
  trip : Int
  length : K
  middle : Middle K

/-- `insertTripAnalysis`: the row of a trip takes the place of the one it had,
if any. -/
def insertTripAnalysis (gpsanalysis : List (AnalysisRow K)) (row : AnalysisRow K) :
    List (AnalysisRow K) :=
  gpsanalysis.filter (fun r => r.trip ≠ row.trip) ++ [row]

/-- `SELECT DISTINCT tripid FROM trip ORDER BY tripid`. -/
def selectTripids (tripids : List Int) : List Int := tripids.dedup.mergeSort fun a b => a ≤ b

variable [Field K] [LinearOrder K] [IsStrictOrderedRing K]

/-- The body of the loop over the trips. -/
def fillTrip (d : Distance K) (gps : List (GpsFix K)) (gpsanalysis : List (AnalysisRow K))
    (tripid : Int) : List (AnalysisRow K) :=
  let trip := toInt tripid
  let length := tripdist d gps trip
  let status := tripmeanmedian d gps trip ⟨0, 0, 0, 0⟩
  if status.1 = 0 then insertTripAnalysis gpsanalysis ⟨trip, length, status.2⟩ else gpsanalysis

/-- `fillAnalysisTables`: a row for each trip that the query finds. -/
def fillAnalysisTables (d : Distance K) (gps : List (GpsFix K)) (tripids : List Int)
    (gpsanalysis : List (AnalysisRow K)) : List (AnalysisRow K) :=
  (selectTripids tripids).foldl (fillTrip d gps) gpsanalysis

end Tables

/-- The columns of `gpsanalysis`, in the order of the output. -/
def gpsColumns : List (List Char) :=
  ["trip".toList, "length".toList, "meanlat".toList, "meanlon".toList, "medianlat".toList,
    "medianlon".toList]

/-- The values of a row, in the order of the columns. -/
def AnalysisRow.values (r : AnalysisRow Rat) : List Rat :=
  [r.trip, r.length, r.middle.meanlat, r.middle.meanlon, r.middle.medianlat, r.middle.medianlon]

/-- A comma behind each item, and the end of the line. -/
def printLine (items : List (List Char)) : List Char := items.flatMap (· ++ [',']) ++ ['\n']

/-- `exportGpsCSV`: what it returns, and what it prints. -/
def exportGpsCSV (gpsanalysis : List (AnalysisRow Rat)) : Int × List Char :=
  let rows := gpsanalysis.mergeSort fun a b => a.trip ≤ b.trip
  if rows.isEmpty then (-1, [])
  else (0, printLine gpsColumns ++ rows.flatMap fun r => printLine (r.values.map fmtF))

/-- `main`, from the tables of a log to what it prints. -/
def tripcompare (d : Distance Rat) (gps : List (GpsFix Rat)) (tripids : List Int) : List Char :=
  (exportGpsCSV (fillAnalysisTables d gps tripids [])).2

/-! ## The table -/

theorem mem_selectTripids {tripids : List Int} {c : Int} :
    c ∈ selectTripids tripids ↔ c ∈ tripids := by
  rw [selectTripids, List.mem_mergeSort, List.mem_dedup]

/-- Each trip once, the smallest id first. -/
theorem selectTripids_sorted (tripids : List Int) :
    (selectTripids tripids).Pairwise (· < ·) := by
  have hle : (selectTripids tripids).Pairwise fun a b => decide (a ≤ b) = true :=
    List.pairwise_mergeSort (fun a b c => by simpa using Int.le_trans)
      (fun a b => by simpa using Int.le_total a b) _
  have hne : (selectTripids tripids).Nodup :=
    (List.mergeSort_perm _ _).nodup_iff.mpr tripids.nodup_dedup
  refine (hle.and hne).imp fun {a b} hab => ?_
  have := of_decide_eq_true hab.1
  omega

section Filled

variable {K : Type} [Field K] [LinearOrder K] [IsStrictOrderedRing K]

/-- The ids of the trips that have a length: trips that stayed in one place have
no row. -/
def moved (d : Distance K) (gps : List (GpsFix K)) (tripids : List Int) : List Int :=
  tripids.filter fun c => 0 < tripdist d gps c

/-- The row says where a trip was, and how long it was. -/
structure Analysed (d : Distance K) (gps : List (GpsFix K)) (c : Int) (r : AnalysisRow K) :
    Prop where
  trip : r.trip = c
  length : r.length = tripdist d gps c
  middle : IsMiddle d (consecutive gps c) r.middle

/-- **One trip**: its row is inserted if it has a length. -/
theorem fillTrip_cases (d : Distance K) (gps : List (GpsFix K))
    {gpsanalysis : List (AnalysisRow K)} {c : Int} (hc : 0 ≤ c) (hlt : c < 2 ^ 31)
    (hnew : ∀ r ∈ gpsanalysis, r.trip < c) :
    (0 < tripdist d gps c → ∃ r, Analysed d gps c r ∧
        fillTrip d gps gpsanalysis c = gpsanalysis ++ [r]) ∧
      (¬ 0 < tripdist d gps c → fillTrip d gps gpsanalysis c = gpsanalysis) := by
  have hnonneg : ∀ s : Segment K, 0 ≤ d.delta s := fun s => d.nonneg _ _ _ _
  unfold fillTrip tripmeanmedian
  rw [toInt_of_lt hc hlt, tripdist_eq]
  constructor
  · intro hpos
    obtain ⟨m, heq, hm⟩ := middleOf_pos d ⟨0, 0, 0, 0⟩ hpos
    refine ⟨⟨c, tripdist d gps c, m⟩, ⟨rfl, rfl, hm⟩, ?_⟩
    have hkeep : gpsanalysis.filter (fun r => r.trip ≠ c) = gpsanalysis :=
      List.filter_eq_self.mpr fun r hr => by simpa using (hnew r hr).ne
    dsimp only
    rw [heq, if_pos rfl, insertTripAnalysis, hkeep]
  · intro hnot
    have hzero := le_antisymm (not_lt.mp hnot) (total_nonneg hnonneg (consecutive gps c))
    dsimp only
    rw [middleOf_zero d _ hzero, if_neg (show ¬ (-1 : Int) = 0 by decide)]

/-- **The loop** appends the rows of the trips that have a length. -/
theorem foldl_fillTrip (d : Distance K) (gps : List (GpsFix K)) : ∀ (ids : List Int)
    (gpsanalysis : List (AnalysisRow K)), ids.Pairwise (· < ·) →
    (∀ c ∈ ids, 0 ≤ c ∧ c < 2 ^ 31) → (∀ r ∈ gpsanalysis, ∀ c ∈ ids, r.trip < c) →
    ∃ rows, ids.foldl (fillTrip d gps) gpsanalysis = gpsanalysis ++ rows ∧
      List.Forall₂ (Analysed d gps) (moved d gps ids) rows
  | [], gpsanalysis, _, _, _ => ⟨[], (List.append_nil _).symm, .nil⟩
  | c :: ids, gpsanalysis, hsorted, hrange, hnew => by
    obtain ⟨hfirst, hsorted⟩ := List.pairwise_cons.mp hsorted
    obtain ⟨hc, hlt⟩ := hrange c (List.mem_cons_self ..)
    have hrest : ∀ b ∈ ids, 0 ≤ b ∧ b < 2 ^ 31 := fun b hb => hrange b (List.mem_cons_of_mem _ hb)
    have hcases := fillTrip_cases d gps hc hlt fun r hr => hnew r hr c (List.mem_cons_self ..)
    have hold : ∀ r ∈ gpsanalysis, ∀ b ∈ ids, r.trip < b :=
      fun r hr b hb => hnew r hr b (List.mem_cons_of_mem _ hb)
    rw [List.foldl_cons]
    by_cases hpos : 0 < tripdist d gps c
    · obtain ⟨r, hr, hfill⟩ := hcases.1 hpos
      rw [hfill]
      obtain ⟨rows, heq, hrows⟩ := foldl_fillTrip d gps ids (gpsanalysis ++ [r]) hsorted hrest
        fun r' hr' b hb => by
          rcases List.mem_append.mp hr' with hr' | hr'
          · exact hold r' hr' b hb
          · rw [List.mem_singleton.mp hr', hr.trip]
            exact hfirst b hb
      refine ⟨r :: rows, by rw [heq, List.append_assoc]; rfl, ?_⟩
      rw [moved, List.filter_cons_of_pos (by simpa using hpos)]
      exact .cons hr hrows
    · rw [hcases.2 hpos]
      obtain ⟨rows, heq, hrows⟩ := foldl_fillTrip d gps ids gpsanalysis hsorted hrest hold
      refine ⟨rows, heq, ?_⟩
      rw [moved, List.filter_cons_of_neg (by simpa using hpos)]
      exact hrows

/-- **`fillAnalysisTables`** on an empty table. -/
theorem fillAnalysisTables_eq (d : Distance K) (gps : List (GpsFix K)) {tripids : List Int}
    (hrange : ∀ c ∈ tripids, 0 ≤ c ∧ c < 2 ^ 31) :
    List.Forall₂ (Analysed d gps) (moved d gps (selectTripids tripids))
      (fillAnalysisTables d gps tripids []) := by
  obtain ⟨rows, heq, hrows⟩ := foldl_fillTrip d gps (selectTripids tripids) []
    (selectTripids_sorted tripids) (fun c hc => hrange c (mem_selectTripids.mp hc)) nofun
  rw [fillAnalysisTables, heq]
  exact hrows

end Filled

/-! ## The output -/

section Related

variable {α β γ : Type} {R : α → β → Prop} {S : β → γ → Prop}

theorem exists_of_forall₂_right {b : β} : ∀ {as : List α} {bs : List β},
    List.Forall₂ R as bs → b ∈ bs → ∃ a ∈ as, R a b
  | _, _, .nil, hb => absurd hb List.not_mem_nil
  | a :: as, c :: bs, .cons hac h, hb => by
    rcases List.mem_cons.mp hb with rfl | hb
    · exact ⟨a, List.mem_cons_self .., hac⟩
    · obtain ⟨d, hd, hdb⟩ := exists_of_forall₂_right h hb
      exact ⟨d, List.mem_cons_of_mem _ hd, hdb⟩

theorem forall₂_comp : ∀ {as : List α} {bs : List β} {cs : List γ}, List.Forall₂ R as bs →
    List.Forall₂ S bs cs → List.Forall₂ (fun a c => ∃ b, R a b ∧ S b c) as cs
  | _, _, _, .nil, .nil => .nil
  | _, _, _, .cons hr hrs, .cons hs hss => .cons ⟨_, hr, hs⟩ (forall₂_comp hrs hss)

end Related

theorem mem_consecutive {K : Type} [Field K] {gps : List (GpsFix K)} {trip : Int} {s : Segment K}
    (h : s ∈ consecutive gps trip) :
    ∃ a ∈ gps, s.latA = a.lat.getD 0 ∧ s.lonA = a.lon.getD 0 := by
  obtain ⟨a, ha, hs⟩ := List.mem_flatMap.mp h
  obtain ⟨b, -, rfl⟩ := List.mem_map.mp hs
  exact ⟨a, ha, rfl, rfl⟩

/-- Ids that are an `int`, and no position and no trip too far for its column. -/
structure Printable (d : Distance Rat) (gps : List (GpsFix Rat)) (tripids : List Int) : Prop where
  ids : ∀ c ∈ tripids, 0 ≤ c ∧ c < 2 ^ 31
  positions : ∀ f ∈ gps, |f.lat.getD 0| ≤ 10 ^ 29 ∧ |f.lon.getD 0| ≤ 10 ^ 29
  lengths : ∀ c ∈ tripids, tripdist d gps c ≤ 10 ^ 29

section Output

variable {real : RealColumn} {d : Distance Rat} {gps : List (GpsFix Rat)} {tripids : List Int}

/-- The middle of a trip is not far from its positions. -/
theorem middle_bounds (h : Printable d gps tripids) {c : Int} {m : Middle Rat}
    (hm : IsMiddle d (consecutive gps c) m) :
    (|m.meanlat| ≤ 10 ^ 29 ∧ |m.meanlon| ≤ 10 ^ 29) ∧
      |m.medianlat| ≤ 10 ^ 29 ∧ |m.medianlon| ≤ 10 ^ 29 := by
  have hstarts : ∀ s ∈ consecutive gps c, |s.latA| ≤ 10 ^ 29 ∧ |s.lonA| ≤ 10 ^ 29 := by
    intro s hs
    obtain ⟨a, ha, hlat, hlon⟩ := mem_consecutive hs
    rw [hlat, hlon]
    exact h.positions a ha
  obtain ⟨pre, s, hcross, hlat, hlon⟩ := hm.median
  have hs : s ∈ consecutive gps c := hcross.mem.subset (by simp)
  refine ⟨⟨?_, ?_⟩, ?_⟩
  · exact abs_le.mpr (hm.meanlat_bounds _ _ fun s hs => abs_le.mp (hstarts s hs).1)
  · exact abs_le.mpr (hm.meanlon_bounds _ _ fun s hs => abs_le.mp (hstarts s hs).2)
  · rw [hlat, hlon]
    exact hstarts s hs

theorem values_bounds (h : Printable d gps tripids) {c : Int} (hc : c ∈ tripids)
    {r : AnalysisRow Rat} (hr : Analysed d gps c r) : ∀ v ∈ r.values, |v| < 10 ^ 30 := by
  obtain ⟨hid, hlt⟩ := h.ids c hc
  obtain ⟨⟨hmeanlat, hmeanlon⟩, hmedianlat, hmedianlon⟩ := middle_bounds h hr.middle
  have hnonneg : 0 ≤ tripdist d gps c := by
    rw [tripdist_eq]
    exact total_nonneg (fun s : Segment Rat => d.nonneg s.latA s.lonA s.latB s.lonB) _
  have hlength : |r.length| ≤ 10 ^ 29 := by
    rw [hr.length, abs_of_nonneg hnonneg]
    exact h.lengths c hc
  have htrip : |(r.trip : Rat)| ≤ 10 ^ 29 := by
    have hle : (c : Rat) ≤ 2 ^ 31 := by exact_mod_cast hlt.le
    rw [hr.trip, abs_of_nonneg (by exact_mod_cast hid)]
    exact hle.trans (by norm_num)
  have hall : ∀ v ∈ r.values, |v| ≤ 10 ^ 29 := by
    simp only [AnalysisRow.values, List.forall_mem_cons]
    exact ⟨htrip, hlength, hmeanlat, hmeanlon, hmedianlat, hmedianlon, nofun⟩
  exact fun v hv => (hall v hv).trans_lt (by norm_num)

/-- What the output says of trip `c`: its id, its length, its mean and its
median position, each as a text of the number stored. -/
def Reported (real : RealColumn) (d : Distance Rat) (gps : List (GpsFix Rat)) (c : Int)
    (row : List (Option (List Char))) : Prop :=
  ∃ m, IsMiddle d (consecutive gps c) m ∧
    List.Forall₂ (Holds real)
      [(c : Rat), tripdist d gps c, m.meanlat, m.meanlon, m.medianlat, m.medianlon] row

theorem reported_of_values {c : Int} {r : AnalysisRow Rat} (hr : Analysed d gps c r)
    {row : List (Option (List Char))} (hrow : List.Forall₂ (Holds real) r.values row) :
    Reported real d gps c row := by
  refine ⟨r.middle, hr.middle, ?_⟩
  rw [AnalysisRow.values, hr.trip, hr.length] at hrow
  exact hrow

theorem printLine_eq {items : List (List Char)} (h : Exportable items) :
    printLine items = outLine items := (outLine_eq h).symm

theorem gpsColumns_exportable : Exportable gpsColumns where
  ne_nil := by decide
  few := by decide
  texts := by decide
  short := by decide

theorem gpsColumns_plain : PlainHeader gpsColumns where
  nonempty := by decide
  plain := by
    have h : ∀ s ∈ gpsColumns, '"' ∉ s ∧ s.length ≤ 61 := by decide
    exact fun s hs => ⟨(h s hs).1, (h s hs).2⟩
  distinct := by decide
  fits := by decide

/-- **The output, read back.** For any table of positions and any trips: `opencsv`
finds one row for each trip that has a length, in the order of the ids, with the
length of the trip and its middle, each up to half a millionth and the rounding of
a `REAL`. Where no trip has a length nothing is printed. -/
theorem tripcompare_readBack (real : RealColumn) (h : Printable d gps tripids) :
    (moved d gps (selectTripids tripids) = [] → tripcompare d gps tripids = []) ∧
      (moved d gps (selectTripids tripids) ≠ [] → ∃ rows,
        opencsv (tripcompare d gps tripids) = some ⟨0, some gpsColumns, rows⟩ ∧
        List.Forall₂ (Reported real d gps) (moved d gps (selectTripids tripids)) rows) := by
  have hfilled := fillAnalysisTables_eq d gps h.ids
  generalize hrows : fillAnalysisTables d gps tripids [] = rows at hfilled
  have hids : ∀ c ∈ moved d gps (selectTripids tripids), c ∈ tripids := fun c hc =>
    mem_selectTripids.mp (List.mem_filter.mp hc).1
  -- the rows are filled in by trip id, so the sort of the export leaves them as they are
  have hsorted : rows.Pairwise fun a b => decide (a.trip ≤ b.trip) = true := by
    have htrips : moved d gps (selectTripids tripids) = rows.map AnalysisRow.trip := by
      rw [← List.forall₂_eq_eq_eq, List.forall₂_map_right_iff]
      exact hfilled.imp fun _ _ hr => hr.trip.symm
    have hlt : (rows.map AnalysisRow.trip).Pairwise (· < ·) := by
      rw [← htrips]
      exact (selectTripids_sorted tripids).filter _
    exact (List.pairwise_map.mp hlt).imp fun hab => decide_eq_true (Int.le_of_lt hab)
  have hprint : tripcompare d gps tripids = (exportGpsCSV rows).2 := by rw [tripcompare, hrows]
  rw [hprint, exportGpsCSV, List.mergeSort_of_pairwise hsorted]
  constructor
  · intro hnone
    rw [hnone] at hfilled
    rw [List.forall₂_nil_left_iff.mp hfilled]
    rfl
  · intro hsome
    have hne : rows ≠ [] := by
      rintro rfl
      exact hsome (List.forall₂_nil_right_iff.mp hfilled)
    have hvalues : ∀ line ∈ rows.map AnalysisRow.values,
        line.length = gpsColumns.length ∧ ∀ v ∈ line, |v| < 10 ^ 30 := by
      intro line hline
      obtain ⟨r, hr, rfl⟩ := List.mem_map.mp hline
      obtain ⟨c, hc, hrow⟩ := exists_of_forall₂_right hfilled hr
      exact ⟨rfl, values_bounds h (hids c hc) hrow⟩
    -- the text that is printed is one of a CSV file with the same fields
    have htext : printLine gpsColumns ++ rows.flatMap (fun r => printLine (r.values.map fmtF)) =
        outLine gpsColumns ++
          (rows.map AnalysisRow.values).flatMap fun line => outLine (line.map fmtF) := by
      rw [printLine_eq gpsColumns_exportable, List.flatMap_map]
      congr 1
      refine List.flatMap_congr fun r hr => ?_
      obtain ⟨hwidth, hlt⟩ := hvalues _ (List.mem_map_of_mem hr)
      exact printLine_eq (values_exportable (by decide) (by decide) hwidth hlt)
    rw [if_neg (by simpa using hne), htext]
    obtain ⟨cells, hopen, hcells⟩ := opencsv_outLines real gpsColumns_exportable
      gpsColumns_plain
      (fun line hline => (hvalues line hline).1) fun line hline => (hvalues line hline).2
    refine ⟨cells, hopen, ?_⟩
    rw [List.forall₂_map_left_iff] at hcells
    refine (forall₂_comp hfilled hcells).imp fun c row hrow => ?_
    obtain ⟨r, hr, hholds⟩ := hrow
    exact reported_of_values hr hholds

end Output

/-- One trip that moves, and one that does not. -/
theorem tripcompare_readBack_threeFixes : ∃ rows,
    opencsv (tripcompare alongLon threeFixes [4, 5]) = some ⟨0, some gpsColumns, rows⟩ ∧
      List.Forall₂ (Reported doubleColumn alongLon threeFixes) [4] rows := by
  have hprintable : Printable alongLon threeFixes [4, 5] :=
    ⟨by decide, by decide +kernel, by decide +kernel⟩
  have hsorted : selectTripids [4, 5] = [4, 5] := List.mergeSort_of_pairwise (by decide)
  have hmoved : moved alongLon threeFixes (selectTripids [4, 5]) = [4] := by
    rw [hsorted]
    decide +kernel
  have hread := (tripcompare_readBack doubleColumn hprintable).2
  rw [hmoved] at hread
  exact hread (List.cons_ne_nil _ _)

end ObdGpsLogger.Analysis

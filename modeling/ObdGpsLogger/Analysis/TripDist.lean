import ObdGpsLogger.Analysis.ExamineTrips
import ObdGpsLogger.Logger.Samples
import ObdGpsLogger.Sphere.GreatCircle

/-!
# The length of a trip

`haversine_dist` and `tripdist` of `src/analysis/examinetrips.c`. The first is
how far it is from one position to another over the surface of the earth
(`haversineDist_along`); the second adds it up over the positions of a trip,
each with the one behind it.

So a trip is never shorter than the way from any of its positions to any other
(`le_tripdist`): the positions in between are detours. This needs the rows of
the trip to be consecutive, which is what a run of the logger leaves behind
(`run_le_tripdist`), since the trips of its rows only go up.

Mirroring notes:
- `double` is `ℝ`, and `atan2` the argument of a complex number.
- That the statement cannot be prepared is left out.
-/

namespace ObdGpsLogger.Analysis

open Logger Machine Real Sphere Stat

/-- `atan2` of the C library, over the real numbers: the angle of a point. -/
noncomputable def atan2 (y x : ℝ) : ℝ := Complex.arg ⟨x, y⟩

/-- `haversine_dist`: kilometres between two positions in degrees, on a globe of
radius 6371. -/
noncomputable def haversineDist (latA lonA latB lonB : ℝ) : ℝ :=
  let R : ℝ := (6371 : ℤ)
  let dlat := latB - latA
  let dlon := lonB - lonA
  let sinlat := sin (dlat / (2 : ℤ) * (π / (180 : ℤ)))
  let sinlon := sin (dlon / (2 : ℤ) * (π / (180 : ℤ)))
  let a := sinlat * sinlat +
    sinlon * sinlon * cos (latA * (π / (180 : ℤ))) * cos (latB * (π / (180 : ℤ)))
  let c := (2 : ℤ) * atan2 (√a) (√(1 - a))
  R * c

/-- An angle in degrees, written in radians. -/
noncomputable def rad (degrees : ℝ) : ℝ := degrees * (π / (180 : ℤ))

/-- A function of two positions in degrees is how far it is between them, over
a sphere of radius `R`. -/
structure Along (R : ℝ) (dist : ℝ → ℝ → ℝ → ℝ → ℝ) : Prop where
  arc : ∀ latA lonA latB lonB,
    dist latA lonA latB lonB = R * centralAngle (rad latA) (rad lonA) (rad latB) (rad lonB)
  comm : ∀ latA lonA latB lonB, dist latA lonA latB lonB = dist latB lonB latA lonA
  bounds : ∀ latA lonA latB lonB,
    0 ≤ dist latA lonA latB lonB ∧ dist latA lonA latB lonB ≤ R * π
  same : ∀ latA lonA latB lonB,
    dist latA lonA latB lonB = 0 ↔ place (rad latA) (rad lonA) = place (rad latB) (rad lonB)
  triangle : ∀ latA lonA latB lonB latC lonC,
    dist latA lonA latC lonC ≤ dist latA lonA latB lonB + dist latB lonB latC lonC

theorem along_of_arc {R : ℝ} (hR : 0 < R) {dist : ℝ → ℝ → ℝ → ℝ → ℝ}
    (harc : ∀ latA lonA latB lonB,
      dist latA lonA latB lonB = R * centralAngle (rad latA) (rad lonA) (rad latB) (rad lonB)) :
    Along R dist where
  arc := harc
  comm latA lonA latB lonB := by rw [harc, harc, centralAngle_comm]
  bounds latA lonA latB lonB := by
    rw [harc]
    exact ⟨mul_nonneg hR.le (centralAngle_nonneg ..),
      mul_le_mul_of_nonneg_left (centralAngle_le_pi ..) hR.le⟩
  same latA lonA latB lonB := by
    rw [harc, mul_eq_zero, or_iff_right hR.ne', centralAngle_eq_zero_iff]
  triangle latA lonA latB lonB latC lonC := by
    rw [harc, harc, harc, ← mul_add]
    exact mul_le_mul_of_nonneg_left (centralAngle_triangle ..) hR.le

/-- `haversine_dist` computes, from degrees, 6371 times the angle between the
two positions as seen from the centre of the earth. -/
theorem haversineDist_arc (latA lonA latB lonB : ℝ) : haversineDist latA lonA latB lonB =
    6371 * centralAngle (rad latA) (rad lonA) (rad latB) (rad lonB) := by
  have ha : sin ((latB - latA) / (2 : ℤ) * (π / (180 : ℤ))) *
        sin ((latB - latA) / (2 : ℤ) * (π / (180 : ℤ))) +
      sin ((lonB - lonA) / (2 : ℤ) * (π / (180 : ℤ))) *
          sin ((lonB - lonA) / (2 : ℤ) * (π / (180 : ℤ))) *
        cos (latA * (π / (180 : ℤ))) * cos (latB * (π / (180 : ℤ))) =
      haversine (rad latA) (rad latB) ((rad latB - rad latA) / 2) ((rad lonB - rad lonA) / 2) := by
    rw [haversine, rad, rad, rad, rad, ← sub_mul, ← sub_mul, mul_div_right_comm,
      mul_div_right_comm, sq, sq, Int.cast_ofNat]
  rw [haversineDist]
  rw [ha, centralAngle_eq, Int.cast_ofNat, Int.cast_ofNat]
  rfl

/-- **`haversine_dist`** is how far it is over the surface of the earth. -/
theorem haversineDist_along : Along 6371 haversineDist :=
  along_of_arc (by norm_num) haversineDist_arc

/-! ## The sum over a trip -/

section Sum

variable {K : Type} [Field K] [LinearOrder K] [IsStrictOrderedRing K]

/-- `tripdist`: the sum of the lengths of the segments of a trip. -/
def tripdist (d : Distance K) (gps : List (GpsFix K)) (trip : Int) : K :=
  (consecutive gps trip).foldl (fun totalDst s => totalDst + d.delta s) 0

/-- The distance from one row of `gps` to another, NULL read as 0. -/
def Distance.between (d : Distance K) (a b : GpsFix K) : K :=
  d.dist (a.lat.getD 0) (a.lon.getD 0) (b.lat.getD 0) (b.lon.getD 0)

/-- A distance of which no detour is shorter than the way itself. -/
def Distance.Triangle (d : Distance K) : Prop :=
  ∀ a b c : GpsFix K, d.between a c ≤ d.between a b + d.between b c

omit [IsStrictOrderedRing K] in
theorem foldl_delta (d : Distance K) : ∀ (rows : List (Segment K)) (totalDst : K),
    rows.foldl (fun totalDst s => totalDst + d.delta s) totalDst = totalDst + total d.delta rows
  | [], totalDst => by simp
  | s :: rows, totalDst => by
    rw [List.foldl_cons, foldl_delta d rows, total_cons, add_assoc]

omit [IsStrictOrderedRing K] in
theorem tripdist_eq (d : Distance K) (gps : List (GpsFix K)) (trip : Int) :
    tripdist d gps trip = total d.delta (consecutive gps trip) := by
  rw [tripdist, foldl_delta, zero_add]

/-! ## Positions of a trip -/

/-- The segments of `consecutive` that begin at a row. -/
def segmentsAt (gps : List (GpsFix K)) (trip : Int) (a : GpsFix K) : List (Segment K) :=
  (gps.filter fun b => b.rowid = a.rowid + 1 ∧ a.trip = some trip ∧ b.trip = a.trip).map fun b =>
    ⟨a.lat.getD 0, a.lon.getD 0, b.lat.getD 0, b.lon.getD 0⟩

theorem between_le_segmentsAt (d : Distance K) {gps : List (GpsFix K)} {trip : Int}
    {a b : GpsFix K} (hb : b ∈ gps) (hrowid : b.rowid = a.rowid + 1) (ha : a.trip = some trip)
    (hbtrip : b.trip = some trip) : d.between a b ≤ total d.delta (segmentsAt gps trip a) := by
  have hnonneg : ∀ x ∈ (segmentsAt gps trip a).map d.delta, 0 ≤ x := by
    intro x hx
    obtain ⟨s, -, rfl⟩ := List.mem_map.mp hx
    exact d.nonneg ..
  refine List.single_le_sum hnonneg _ (List.mem_map.mpr ⟨_, List.mem_map.mpr ⟨b, ?_, rfl⟩, rfl⟩)
  rw [List.mem_filter]
  exact ⟨hb, by simp [hrowid, ha, hbtrip]⟩

/-- From the first row of a leg to its last, the segments in between are a
detour. -/
theorem between_le_leg (d : Distance K) (htriangle : d.Triangle) {gps : List (GpsFix K)}
    {trip : Int} {b : GpsFix K} : ∀ {a : GpsFix K} {rows : List (GpsFix K)},
    (∀ r ∈ a :: (rows ++ [b]), r ∈ gps ∧ r.trip = some trip) →
    (a :: (rows ++ [b])).IsChain (fun a b => b.rowid = a.rowid + 1) →
    d.between a b ≤ total d.delta ((a :: rows).flatMap (segmentsAt gps trip))
  | a, [], hmem, hchain => by
    have ha := hmem a (List.mem_cons_self ..)
    have hb := hmem b (by simp)
    rw [List.flatMap_cons, List.flatMap_nil, List.append_nil]
    exact between_le_segmentsAt d hb.1 (List.isChain_cons_cons.mp hchain).1 ha.2 hb.2
  | a, c :: rows, hmem, hchain => by
    obtain ⟨hrowid, hchain⟩ := List.isChain_cons_cons.mp hchain
    have ha := hmem a (List.mem_cons_self ..)
    have hc := hmem c (List.mem_cons_of_mem _ (List.mem_cons_self ..))
    have hfirst := between_le_segmentsAt d hc.1 hrowid ha.2 hc.2
    have hrest := between_le_leg d htriangle
      (fun r hr => hmem r (List.mem_cons_of_mem _ hr)) hchain
    calc d.between a b
        ≤ d.between a c + d.between c b := htriangle a c b
      _ ≤ total d.delta (segmentsAt gps trip a) +
            total d.delta ((c :: rows).flatMap (segmentsAt gps trip)) := add_le_add hfirst hrest
      _ = total d.delta ((a :: c :: rows).flatMap (segmentsAt gps trip)) := by
          rw [List.flatMap_cons (x := a), total_append]

/-- **A trip is no shorter than the way between two of its positions**, if the
rows between them are of the trip. -/
theorem le_tripdist (d : Distance K) (htriangle : d.Triangle) {gps : List (GpsFix K)} {trip : Int}
    {a b : GpsFix K} {rows : List (GpsFix K)} (hrows : (a :: (rows ++ [b])).Sublist gps)
    (htrip : ∀ r ∈ a :: (rows ++ [b]), r.trip = some trip)
    (hchain : (a :: (rows ++ [b])).IsChain fun a b => b.rowid = a.rowid + 1) :
    d.between a b ≤ tripdist d gps trip := by
  have hleg := between_le_leg d htriangle (fun r hr => ⟨hrows.subset hr, htrip r hr⟩) hchain
  have hsub : (a :: rows).Sublist gps :=
    ((List.sublist_append_left rows [b]).cons_cons a).trans hrows
  have hnonneg : ∀ x ∈ (consecutive gps trip).map d.delta, 0 ≤ x := by
    intro x hx
    obtain ⟨s, -, rfl⟩ := List.mem_map.mp hx
    exact d.nonneg ..
  have hle := ((hsub.flatMap (segmentsAt gps trip)).map d.delta).sum_le_sum hnonneg
  rw [tripdist_eq]
  exact hleg.trans hle

end Sum

/-! ## The trips of a log -/

/-- The distance of two positions on the globe, as `haversine_dist` computes it. -/
noncomputable def earth : Distance ℝ where
  dist := haversineDist
  nonneg latA lonA latB lonB :=
    ((along_of_arc (by norm_num) haversineDist_arc).bounds latA lonA latB lonB).1

theorem earth_triangle : earth.Triangle :=
  fun _ _ _ => (along_of_arc (by norm_num) haversineDist_arc).triangle ..

theorem earth_between (i j : Int) (t u : Option Int) (latA lonA latB lonB : ℝ) :
    earth.between ⟨i, t, some latA, some lonA⟩ ⟨j, u, some latB, some lonB⟩ =
      haversineDist latA lonA latB lonB := by
  simp only [Distance.between, earth, Option.getD_some]

/-- Rows of `gps`, as they stand in the table from a row id on. -/
noncomputable def fixesFrom : Int → List GpsRow → List (GpsFix ℝ)
  | _, [] => []
  | rowid, r :: rows =>
    ⟨rowid, some r.trip, some (r.lat : ℝ), some (r.lon : ℝ)⟩ :: fixesFrom (rowid + 1) rows

theorem fixesFrom_append : ∀ (rowid : Int) (rows more : List GpsRow),
    fixesFrom rowid (rows ++ more) =
      fixesFrom rowid rows ++ fixesFrom (rowid + rows.length) more
  | rowid, [], more => by simp [fixesFrom]
  | rowid, r :: rows, more => by
    rw [List.cons_append, fixesFrom, fixesFrom_append (rowid + 1) rows more, fixesFrom,
      List.cons_append, List.length_cons]
    congr 3
    push_cast
    ring

theorem fixesFrom_chain : ∀ (rowid : Int) (rows : List GpsRow),
    (fixesFrom rowid rows).IsChain fun a b => b.rowid = a.rowid + 1
  | _, [] => .nil
  | _, [_] => .singleton _
  | rowid, _ :: r :: rows =>
    List.isChain_cons_cons.mpr ⟨rfl, fixesFrom_chain (rowid + 1) (r :: rows)⟩

theorem fixesFrom_trip {trip : Int} : ∀ (rowid : Int) {rows : List GpsRow},
    (∀ r ∈ rows, r.trip = trip) → ∀ f ∈ fixesFrom rowid rows, f.trip = some trip
  | _, [], _, f, hf => absurd hf List.not_mem_nil
  | rowid, r :: rows, h, f, hf => by
    rcases List.mem_cons.mp hf with rfl | hf
    · exact congrArg some (h r (List.mem_cons_self ..))
    · exact fixesFrom_trip (rowid + 1) (fun s hs => h s (List.mem_cons_of_mem _ hs)) f hf

/-- Where trip ids only go up along a list, every row between two rows of one
trip is a row of that trip, too. -/
theorem between_trip {trip : Int} {a b : GpsRow} {pre rows post : List GpsRow}
    (hsorted : (pre ++ a :: (rows ++ b :: post)).Pairwise fun a b => a.trip ≤ b.trip)
    (ha : a.trip = trip) (hb : b.trip = trip) : ∀ r ∈ a :: (rows ++ [b]), r.trip = trip := by
  have hrows := List.pairwise_cons.mp (List.pairwise_append.mp hsorted).2.1
  have hlast := (List.pairwise_append.mp hrows.2).2.2
  intro r hr
  rcases List.mem_cons.mp hr with rfl | hr
  · exact ha
  · rcases List.mem_append.mp hr with hr | hr
    · have hle := hrows.1 r (List.mem_append_left _ hr)
      have hge := hlast r hr b (List.mem_cons_self ..)
      omega
    · rw [List.mem_singleton.mp hr]
      exact hb

/-- **A trip that was logged** is no shorter than the way from any of its
positions to any later one, whatever else is in the table. -/
theorem run_le_tripdist {cfg : Setup} {db : TripTable} {gpsdata : Bool} {samplecount : Int}
    {qs : List Pass} {s : LoopState} {ended : List (List Int)}
    (hrun : run (iteration cfg) (LoopState.init cfg db gpsdata samplecount) qs = some (s, ended))
    {pre rows post : List GpsRow} {a b : GpsRow} (hgps : s.gps = pre ++ a :: (rows ++ b :: post))
    (htrip : a.trip = b.trip) (before after : List (GpsFix ℝ)) (rowid : Int) :
    haversineDist a.lat a.lon b.lat b.lon ≤
      tripdist earth (before ++ fixesFrom rowid s.gps ++ after) a.trip := by
  have hsorted := gps_trips_ascending hrun
  rw [hgps] at hsorted
  have htrips := between_trip hsorted rfl htrip.symm
  have hsplit : fixesFrom rowid s.gps =
      fixesFrom rowid pre ++ (fixesFrom (rowid + pre.length) (a :: (rows ++ [b])) ++
        fixesFrom (rowid + pre.length + (a :: (rows ++ [b])).length) post) := by
    rw [hgps, ← fixesFrom_append, ← fixesFrom_append]
    simp
  have hleg : fixesFrom (rowid + pre.length) (a :: (rows ++ [b])) =
      ⟨rowid + pre.length, some a.trip, some (a.lat : ℝ), some (a.lon : ℝ)⟩ ::
        (fixesFrom (rowid + pre.length + 1) rows ++
          [⟨rowid + pre.length + 1 + rows.length, some b.trip, some (b.lat : ℝ),
            some (b.lon : ℝ)⟩]) := by
    rw [fixesFrom, fixesFrom_append, fixesFrom, fixesFrom]
  have hsub : (fixesFrom (rowid + pre.length) (a :: (rows ++ [b]))).Sublist
      (before ++ fixesFrom rowid s.gps ++ after) := by
    rw [hsplit]
    exact ((List.sublist_append_left _ _).trans (List.sublist_append_right _ _)).trans
      ((List.sublist_append_right _ _).trans (List.sublist_append_left _ _))
  have hchain := fixesFrom_chain (rowid + pre.length) (a :: (rows ++ [b]))
  have hids := fixesFrom_trip (rowid + pre.length) htrips
  rw [hleg] at hsub hchain hids
  have hle := le_tripdist earth earth_triangle hsub hids hchain
  rwa [earth_between] at hle

/-- A pass at a position of the equator. -/
def eastPass (time : Int) (lon : Rat) : Pass :=
  { drivePass time .success with gpsstatus := 1, position := ⟨0, lon, 0, 0, 0, 0⟩ }

/-- The row of a position of the equator. -/
def eastRow (time : Int) (lon : Rat) : GpsRow := ⟨0, lon, some 0, 0, 0, 0, time, 1⟩

/-- A run of the logger: the loop over a drive to the east, of three passes. -/
def eastRun : Option (LoopState × List (List Int)) :=
  run (iteration ⟨true, 1⟩) (LoopState.init ⟨true, 1⟩ emptyDb true (-1))
    [eastPass 1000000 0, eastPass 2000000 1, eastPass 3000000 2]

theorem eastRun_gps : eastRun.map (fun p => p.1.gps) =
    some [eastRow 1000000 0, eastRow 2000000 1, eastRow 3000000 2] := by
  decide +kernel

/-- A drive of two degrees to the east along the equator: its trip is at least
as long as the arc between its ends. -/
theorem run_le_tripdist_east : ∃ s ended, eastRun = some (s, ended) ∧
    haversineDist 0 0 0 2 ≤ tripdist earth (fixesFrom 1 s.gps) 1 := by
  obtain ⟨⟨s, ended⟩, hrun, hgps⟩ := Option.map_eq_some_iff.mp eastRun_gps
  have hsplit : s.gps = [] ++ eastRow 1000000 0 :: ([eastRow 2000000 1] ++
      eastRow 3000000 2 :: []) := hgps
  have hle := run_le_tripdist hrun hsplit rfl [] [] 1
  refine ⟨s, ended, hrun, ?_⟩
  simpa [eastRow] using hle

end ObdGpsLogger.Analysis

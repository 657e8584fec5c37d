import Mathlib.Algebra.Ring.Int.Defs
import Mathlib.Data.List.Perm.Basic
import Mathlib.Logic.Function.Basic
import ObdGpsLogger.CLib.ScanInt

/-!
# Distances between trips

`meanMedianDistances` of `src/analysis/analysistables.c`: two cursors over the
trips, and a row of `clusterdistance` for each pair. The statement that inserts
is prepared once, and its parameters keep what was bound to them until
something else is.

Both distances are bound to parameter 3. So the second one takes the place of
the first, and parameter 4 is never bound (`meanMedianDistances_eq`):
`isPairTable_iff` says that the table is right only where there are no pairs.

Mirroring notes:
- `WHERE trip>?` gives the trips in the order they are stored in.
- Trips are 64 bits wide in the table, and `int` in the program.
- `haversine_dist` is any function. A column that is NULL is read as 0.
- That a statement cannot be prepared is left out.
-/

namespace ObdGpsLogger.Analysis

open CLib

variable {K : Type}

/-- A row of `gpsanalysis`; `none` is NULL. -/
structure TripRow (K : Type) where
  trip : Int
  meanlat : Option K
  meanlon : Option K
  medianlat : Option K
  medianlon : Option K

/-- `gpsanalysis`: `trip` is `UNIQUE`, and trips count from 0. -/
structure GpsAnalysis (K : Type) where
  rows : List (TripRow K)
  unique : (rows.map TripRow.trip).Nodup
  nonneg : ∀ a ∈ rows, 0 ≤ a.trip

/-- A value bound to a parameter of a prepared statement, with the type of the
`sqlite3_bind_…` call that bound it. -/
inductive SqlValue (K : Type) where
  | int (value : Int)
  | double (value : K)
  deriving DecidableEq, Repr

/-- The parameters of a statement, by their numbers; `none` is NULL. -/
abbrev Bindings (K : Type) := Nat → Option (SqlValue K)

/-- `sqlite3_bind_int`. -/
def Bindings.bindInt (b : Bindings K) (i : Nat) (value : Int) : Bindings K :=
  Function.update b i (some (.int value))

/-- `sqlite3_bind_double`. -/
def Bindings.bindDouble (b : Bindings K) (i : Nat) (value : K) : Bindings K :=
  Function.update b i (some (.double value))

/-- A row of `clusterdistance`: two trips and the distances of their means and
medians, where `none` is NULL. -/
structure ClusterRow (K : Type) where
  tripA : Option (SqlValue K)
  tripB : Option (SqlValue K)
  meandist : Option (SqlValue K)
  mediandist : Option (SqlValue K)
  deriving DecidableEq, Repr

/-- The row that `VALUES (?,?,?,?)` makes of the parameters bound at present. -/
def Bindings.values (b : Bindings K) : ClusterRow K := ⟨b 1, b 2, b 3, b 4⟩

section Distances

variable [Zero K] (haversine_dist : K → K → K → K → K)

/-- `meanCluster`: the distance of the mean positions of two trips, NULL read as
0. -/
def meanCluster (a b : TripRow K) : K :=
  haversine_dist (a.meanlat.getD 0) (a.meanlon.getD 0) (b.meanlat.getD 0) (b.meanlon.getD 0)

/-- `medianCluster`: the distance of the median positions of two trips, NULL
read as 0. -/
def medianCluster (a b : TripRow K) : K :=
  haversine_dist (a.medianlat.getD 0) (a.medianlon.getD 0) (b.medianlat.getD 0)
    (b.medianlon.getD 0)

/-- The statement `insertcluster`, and the table it inserts into. -/
structure Cluster (K : Type) where
  insertcluster : Bindings K
  clusterdistance : List (ClusterRow K)

/-- The body of the inner loop: the four parameters are bound, the last one at
the place of the third, and the row is inserted. -/
def Cluster.insertPair (a : TripRow K) (c : Cluster K) (b : TripRow K) : Cluster K :=
  let tripA := toInt a.trip
  let tripB := toInt b.trip
  let insertcluster := (((c.insertcluster.bindInt 1 tripA).bindInt 2 tripB).bindDouble 3
    (meanCluster haversine_dist a b)).bindDouble 3 (medianCluster haversine_dist a b)
  ⟨insertcluster, c.clusterdistance ++ [insertcluster.values]⟩

/-- `SELECT … WHERE trip>?`: the rows of the trips with a larger id than the one
bound. -/
def tripselect (gps : GpsAnalysis K) (trip : Int) : List (TripRow K) :=
  gps.rows.filter fun a => trip < a.trip

/-- The body of the outer loop: trip `a` is paired with each of the trips of a
larger id. -/
def Cluster.insertTrip (gps : GpsAnalysis K) (c : Cluster K) (a : TripRow K) : Cluster K :=
  (tripselect gps (toInt a.trip)).foldl (Cluster.insertPair haversine_dist a) c

/-- `meanMedianDistances`: the table afterwards. -/
def meanMedianDistances (gps : GpsAnalysis K) (clusterdistance : List (ClusterRow K)) :
    List (ClusterRow K) :=
  ((tripselect gps (-1)).foldl (Cluster.insertTrip haversine_dist gps)
    ⟨fun _ => none, clusterdistance⟩).clusterdistance

/-! ## What is inserted -/

/-- The row that is inserted for a pair: the median distance is where the mean
distance should be. -/
def insertedRow (a b : TripRow K) : ClusterRow K :=
  ⟨some (.int (toInt a.trip)), some (.int (toInt b.trip)),
    some (.double (medianCluster haversine_dist a b)), none⟩

/-- **One row**: parameter 4 is as unbound as before. -/
theorem insertPair_eq (a b : TripRow K) {c : Cluster K} (h : c.insertcluster 4 = none) :
    (c.insertPair haversine_dist a b).insertcluster 4 = none ∧
      (c.insertPair haversine_dist a b).clusterdistance =
        c.clusterdistance ++ [insertedRow haversine_dist a b] := by
  simp [Cluster.insertPair, Bindings.values, Bindings.bindInt, Bindings.bindDouble, insertedRow, h]

theorem foldl_insertPair (a : TripRow K) : ∀ (bs : List (TripRow K)) {c : Cluster K},
    c.insertcluster 4 = none →
    (bs.foldl (Cluster.insertPair haversine_dist a) c).insertcluster 4 = none ∧
      (bs.foldl (Cluster.insertPair haversine_dist a) c).clusterdistance =
        c.clusterdistance ++ bs.map (insertedRow haversine_dist a)
  | [], c, h => ⟨h, (List.append_nil _).symm⟩
  | b :: bs, c, h => by
    obtain ⟨hunbound, hrow⟩ := insertPair_eq haversine_dist a b h
    obtain ⟨hlast, hrows⟩ := foldl_insertPair a bs hunbound
    refine ⟨hlast, ?_⟩
    rw [List.foldl_cons, hrows, hrow, List.append_assoc]
    rfl

theorem foldl_insertTrip (gps : GpsAnalysis K) : ∀ (as : List (TripRow K)) {c : Cluster K},
    c.insertcluster 4 = none →
    (as.foldl (Cluster.insertTrip haversine_dist gps) c).clusterdistance =
      c.clusterdistance ++ as.flatMap fun a =>
        (tripselect gps (toInt a.trip)).map (insertedRow haversine_dist a)
  | [], c, _ => (List.append_nil _).symm
  | a :: as, c, h => by
    obtain ⟨hunbound, hrows⟩ := foldl_insertPair haversine_dist a (tripselect gps (toInt a.trip)) h
    have hunbound' : (c.insertTrip haversine_dist gps a).insertcluster 4 = none := hunbound
    have hrows' : (c.insertTrip haversine_dist gps a).clusterdistance = _ := hrows
    rw [List.foldl_cons, foldl_insertTrip gps as hunbound', hrows', List.flatMap_cons,
      List.append_assoc]

/-- **The table**: a row for each trip and each trip above the number it is
read as. -/
theorem meanMedianDistances_eq (gps : GpsAnalysis K) (clusterdistance : List (ClusterRow K)) :
    meanMedianDistances haversine_dist gps clusterdistance =
      clusterdistance ++ gps.rows.flatMap fun a =>
        (tripselect gps (toInt a.trip)).map (insertedRow haversine_dist a) := by
  have hall : tripselect gps (-1) = gps.rows := by
    refine List.filter_eq_self.mpr fun a ha => ?_
    have hnonneg := gps.nonneg a ha
    simp only [decide_eq_true_eq]
    omega
  rw [meanMedianDistances, foldl_insertTrip haversine_dist gps _ rfl, hall]

/-! ## The table of pairs -/

/-- The row that a pair of trips should have, each distance in the column of its
name. -/
def pairRow (a b : TripRow K) : ClusterRow K :=
  ⟨some (.int a.trip), some (.int b.trip), some (.double (meanCluster haversine_dist a b)),
    some (.double (medianCluster haversine_dist a b))⟩

/-- One row for each pair of trips, the smaller one first. -/
def pairTable (gps : GpsAnalysis K) : List (ClusterRow K) :=
  gps.rows.flatMap fun a =>
    (gps.rows.filter fun b => a.trip < b.trip).map (pairRow haversine_dist a)

/-- Exactly these rows are in an empty table afterwards, in some order. -/
def IsPairTable (gps : GpsAnalysis K) : Prop :=
  (meanMedianDistances haversine_dist gps []).Perm (pairTable haversine_dist gps)

/-- No row has a median distance, and a pair should. -/
theorem IsPairTable.no_pairs {gps : GpsAnalysis K} (h : IsPairTable haversine_dist gps)
    {a b : TripRow K} (ha : a ∈ gps.rows) (hb : b ∈ gps.rows) : ¬ a.trip < b.trip := by
  intro hlt
  have hpair : pairRow haversine_dist a b ∈ pairTable haversine_dist gps :=
    List.mem_flatMap.mpr ⟨a, ha, List.mem_map_of_mem (List.mem_filter.mpr ⟨hb, by simpa using hlt⟩)⟩
  have hrow := h.mem_iff.mpr hpair
  rw [meanMedianDistances_eq, List.nil_append] at hrow
  obtain ⟨a', -, hrow⟩ := List.mem_flatMap.mp hrow
  obtain ⟨b', -, hrow⟩ := List.mem_map.mp hrow
  cases congrArg ClusterRow.mediandist hrow

theorem pairTable_eq_nil {gps : GpsAnalysis K}
    (h : ∀ a ∈ gps.rows, ∀ b ∈ gps.rows, ¬ a.trip < b.trip) :
    pairTable haversine_dist gps = [] := by
  refine List.flatMap_eq_nil_iff.mpr fun a ha => ?_
  rw [List.map_eq_nil_iff, List.filter_eq_nil_iff]
  exact fun b hb => by simpa using h a ha b hb

omit [Zero K] in
/-- The `gps` table of the analysis has one row at most exactly if no trip in it
comes before another. -/
theorem length_le_one_iff (gps : GpsAnalysis K) :
    gps.rows.length ≤ 1 ↔ ∀ a ∈ gps.rows, ∀ b ∈ gps.rows, ¬ a.trip < b.trip := by
  obtain ⟨rows, hunique, -⟩ := gps
  dsimp only
  rcases rows with _ | ⟨a, _ | ⟨b, rows⟩⟩
  · simp
  · simp
  · have hne : a.trip ≠ b.trip := by
      intro he
      simp [he] at hunique
    refine iff_of_false (by simp) fun h => ?_
    have hab := h a (by simp) b (by simp)
    have hba := h b (by simp) a (by simp)
    omega

/-- **Distances between trips**: the table is right if and only if there is one
trip at most, and `int` is wide enough for it. -/
theorem isPairTable_iff (gps : GpsAnalysis K) :
    IsPairTable haversine_dist gps ↔
      gps.rows.length ≤ 1 ∧ ∀ a ∈ gps.rows, a.trip < 2 ^ 31 := by
  constructor
  · intro h
    have hpairs : ∀ a ∈ gps.rows, ∀ b ∈ gps.rows, ¬ a.trip < b.trip :=
      fun a ha b hb => h.no_pairs haversine_dist ha hb
    refine ⟨(length_le_one_iff gps).mpr hpairs, fun a ha => ?_⟩
    unfold IsPairTable at h
    rw [pairTable_eq_nil haversine_dist hpairs, List.perm_nil, meanMedianDistances_eq,
      List.nil_append] at h
    -- the inner cursor is past the trip itself
    have hpast := List.map_eq_nil_iff.mp (List.flatMap_eq_nil_iff.mp h a ha)
    have hself := List.filter_eq_nil_iff.mp hpast a ha
    rw [decide_eq_true_eq, toInt_lt_iff (gps.nonneg a ha)] at hself
    exact Int.not_le.mp hself
  · rintro ⟨hone, hint⟩
    have hpairs := (length_le_one_iff gps).mp hone
    have hsame : ∀ a ∈ gps.rows, tripselect gps (toInt a.trip) = [] := by
      intro a ha
      have hwidth := (toInt_lt_iff (gps.nonneg a ha)).not.mpr (Int.not_le.mpr (hint a ha))
      rw [tripselect, List.filter_eq_nil_iff]
      intro b hb
      have hab := hpairs a ha b hb
      rw [decide_eq_true_eq]
      omega
    have hinserted : meanMedianDistances haversine_dist gps [] = [] := by
      rw [meanMedianDistances_eq, List.nil_append, List.flatMap_eq_nil_iff]
      exact fun a ha => by rw [hsame a ha, List.map_nil]
    rw [IsPairTable, hinserted, pairTable_eq_nil haversine_dist hpairs]

end Distances

/-- Two trips along a road: three between their means, eight between their
medians. -/
def twoTrips : GpsAnalysis Int where
  rows := [⟨0, some 0, some 2, some 0, some 1⟩, ⟨1, some 0, some 5, some 0, some 9⟩]
  unique := by decide
  nonneg := by decide

/-- The median distance is stored as the mean distance. -/
theorem twoTrips_misplaced :
    meanMedianDistances (fun _ lonA _ lonB => (lonB - lonA).natAbs) twoTrips [] =
      [⟨some (.int 0), some (.int 1), some (.double 8), none⟩] ∧
      ¬ IsPairTable (fun _ lonA _ lonB => (lonB - lonA).natAbs) twoTrips := by
  have htable : meanMedianDistances (fun _ lonA _ lonB => (lonB - lonA).natAbs) twoTrips [] =
      [⟨some (.int 0), some (.int 1), some (.double 8), none⟩] := by decide
  exact ⟨htable, fun h => h.no_pairs _ (List.mem_cons_self ..)
    (List.mem_cons_of_mem _ (List.mem_cons_self ..)) (by decide)⟩

end ObdGpsLogger.Analysis

import Mathlib.Tactic.Linarith
import ObdGpsLogger.Logger.LogDb

/-!
# `obdrepair.c` — the ends of trips that were left open

`checktripends` of `src/repair/obdrepair.c` gives an end to the trips that have
none:

    UPDATE trip SET end=
      (SELECT (t2.start-0.01) AS newstart from trip t2 WHERE trip.tripid=t2.tripid+1)
    WHERE trip.end = -1

It is meant to end a trip just before the next one starts, but the trip `t2`
with `trip.tripid=t2.tripid+1` is the one *before* (`checktripends_trips`). So
the trip ends before it starts, and the first trip gets a `NULL`:
`checktripends_iff` says that the ends are right only where no open trip has a
next one.

Mirroring notes:
- Times are exact numbers of seconds.
- The printed texts are left out.
-/

namespace ObdGpsLogger.Repair

open Sql
open Logger (tripTable)

/-- The columns of the table `trip`. -/
def tripColumns : List Name := ["tripid".toList, "start".toList, "end".toList]

/-- The end that the update computes for an open trip, as its subselect does. -/
def newEnd (trip : Table Rat) (row : List (Option Rat)) : Option Rat :=
  trip.scalar
    (fun t2 => sqlEq (cell trip.columns row "tripid".toList)
      ((cell trip.columns t2 "tripid".toList).map (· + 1)))
    fun t2 => (cell trip.columns t2 "start".toList).map (· - 1 / 100)

/-- `checktripends`: what it returns, and the database. -/
def checktripends (db : Database Rat) : Int × Database Rat :=
  match db tripTable with
  | none => (-1, db)
  | some trip =>
    if tripColumns ⊆ trip.columns then
      (0, db.set tripTable (trip.updateEach "end".toList (newEnd trip) fun row =>
        sqlEq (cell trip.columns row "end".toList) (some (-1))))
    else (-1, db)

/-! ## Trips -/

/-- The start and the end of a trip; the end may be `NULL`. -/
structure TripTimes where
  start : Rat
  fin : Option Rat
  deriving DecidableEq

/-- A trip that was left open: `end REAL DEFAULT -1`. -/
def TripTimes.Open (t : TripTimes) : Prop := t.fin = some (-1)

instance (t : TripTimes) : Decidable t.Open := inferInstanceAs (Decidable (_ = _))

/-- The row of the `i`-th trip, whose id is `i + 1`. -/
def tripTimesRow (i : Nat) (t : TripTimes) : List (Option Rat) :=
  [some ((i + 1 : Nat) : Rat), some t.start, t.fin]

/-- The table `trip` with these trips, whose ids are 1, 2 and so on. -/
def tripsTable (trips : List TripTimes) : Table Rat where
  columns := tripColumns
  rows := trips.mapIdx tripTimesRow
  width := by
    intro r hr
    obtain ⟨i, hi, rfl⟩ := List.mem_mapIdx.mp hr
    rfl

/-- The start of each trip is more than 0.01 s behind the one before. -/
def StartsApart (trips : List TripTimes) : Prop :=
  trips.IsChain fun a b => a.start + 1 / 100 < b.start

instance (trips : List TripTimes) : Decidable (StartsApart trips) :=
  inferInstanceAs (Decidable (List.IsChain _ _))

theorem StartsApart.lt {trips : List TripTimes} (h : StartsApart trips) {i : Nat}
    {a b : TripTimes} (ha : trips[i]? = some a) (hb : trips[i + 1]? = some b) :
    a.start + 1 / 100 < b.start := by
  obtain ⟨hi, rfl⟩ := List.getElem?_eq_some_iff.mp ha
  obtain ⟨hi', rfl⟩ := List.getElem?_eq_some_iff.mp hb
  exact List.isChain_iff_getElem.mp h i hi'

/-- **The open trips are closed**: an open trip with a next one ends between its
own start and the next one's, and the others are as they were. -/
structure Closed (trips trips' : List TripTimes) : Prop where
  length : trips'.length = trips.length
  closed : ∀ (i : Nat) (t t' next' : TripTimes), trips[i]? = some t → t.Open →
    trips'[i]? = some t' → trips'[i + 1]? = some next' →
    ∃ e, t'.fin = some e ∧ t'.start ≤ e ∧ e ≤ next'.start
  kept : ∀ (i : Nat) (t t' : TripTimes), trips[i]? = some t → ¬ t.Open →
    trips'[i]? = some t' → t' = t

/-- Two lists of trips that make the same table are the same list. -/
theorem tripsTable_inj {trips trips' : List TripTimes} (h : tripsTable trips = tripsTable trips') :
    trips = trips' := by
  have hrows : trips.mapIdx tripTimesRow = trips'.mapIdx tripTimesRow := congrArg Table.rows h
  refine List.ext_getElem? fun i => ?_
  have hi := congrArg (·[i]?) hrows
  rw [List.getElem?_mapIdx, List.getElem?_mapIdx] at hi
  refine Option.map_injective ?_ hi
  intro t t' hrow
  obtain ⟨start, fin⟩ := t
  simp only [tripTimesRow, List.cons.injEq, Option.some.injEq, true_and, and_true] at hrow
  rw [hrow.1, hrow.2]

/-! ## The update -/

/-- The trip in front of the `i`-th, if there is one. -/
def previous (trips : List TripTimes) : Nat → Option TripTimes
  | 0 => none
  | i + 1 => trips[i]?

/-- What the update makes of the `i`-th trip. -/
def endedTrip (trips : List TripTimes) (i : Nat) (t : TripTimes) : TripTimes :=
  if t.Open then { t with fin := (previous trips i).map fun p => p.start - 1 / 100 } else t

/-- The test of the subquery, on the row of a trip. -/
theorem sqlEq_next (i j : Nat) :
    sqlEq (some ((i + 1 : Nat) : Rat)) (some (((j + 1 : Nat) : Rat) + 1)) = true ↔ i = j + 1 := by
  show decide (((i + 1 : Nat) : Rat) = ((j + 1 : Nat) : Rat) + 1) = true ↔ _
  rw [decide_eq_true_eq]
  norm_cast
  omega

/-- **The trip that the subselect finds** for an open trip is the one before it,
and the end is a hundredth of a second before the start of that. -/
theorem newEnd_trips (trips : List TripTimes) (i : Nat) (t : TripTimes) :
    newEnd (tripsTable trips) (tripTimesRow i t) =
      (previous trips i).map fun p => p.start - 1 / 100 := by
  have hrow : ∀ k, (tripsTable trips).rows[k]? = trips[k]?.map (tripTimesRow k) := fun k =>
    List.getElem?_mapIdx
  have hid : ∀ j (hj : j < (tripsTable trips).rows.length),
      sqlEq (cell tripColumns (tripTimesRow i t) "tripid".toList)
        ((cell tripColumns (tripsTable trips).rows[j] "tripid".toList).map (· + 1)) = true ↔
      i = j + 1 := by
    intro j hj
    have hget := hrow j
    rw [List.getElem?_eq_getElem hj] at hget
    obtain ⟨u, -, hu⟩ := Option.map_eq_some_iff.mp hget.symm
    rw [← hu]
    exact sqlEq_next i j
  unfold newEnd Table.scalar
  cases i with
  | zero =>
    -- no trip comes before the first
    have hnone : (tripsTable trips).rows.find? (fun t2 =>
        sqlEq (cell tripColumns (tripTimesRow 0 t) "tripid".toList)
          ((cell tripColumns t2 "tripid".toList).map (· + 1))) = none := by
      rw [List.find?_eq_none]
      intro r hr h
      obtain ⟨j, hj, rfl⟩ := List.getElem_of_mem hr
      exact absurd ((hid j hj).mp h) (by omega)
    show (List.find? _ _).bind _ = none
    rw [show (tripsTable trips).columns = tripColumns from rfl, hnone]
    rfl
  | succ i =>
    rw [show (tripsTable trips).columns = tripColumns from rfl,
      find?_eq_getElem? (k := i) fun j hj => (hid j hj).trans (by omega), hrow]
    show (trips[i]?.map (tripTimesRow i)).bind _ = trips[i]?.map _
    cases trips[i]? <;> rfl

/-- **What `checktripends` does**: each open trip gets an end from the one
before it, and no other table changes. -/
theorem checktripends_trips {db : Database Rat} {trips : List TripTimes}
    (h : db tripTable = some (tripsTable trips)) :
    checktripends db =
      (0, db.set tripTable (tripsTable (trips.mapIdx (endedTrip trips)))) := by
  have hcolumns : tripColumns ⊆ (tripsTable trips).columns := List.Subset.refl _
  unfold checktripends
  rw [h]
  dsimp only
  rw [if_pos hcolumns]
  congr 2
  ext1
  · rfl
  · show (trips.mapIdx tripTimesRow).map _ = (trips.mapIdx (endedTrip trips)).mapIdx tripTimesRow
    -- row by row: what is set in the table is what the trip is given
    refine List.ext_getElem? fun i => ?_
    rw [List.getElem?_map, List.getElem?_mapIdx, List.getElem?_mapIdx, List.getElem?_mapIdx,
      Option.map_map, Option.map_map]
    congr 1
    funext t
    have hopen : sqlEq (cell tripColumns (tripTimesRow i t) "end".toList) (some (-1)) = true ↔
        t.Open := by
      show sqlEq t.fin (some (-1)) = true ↔ t.fin = some (-1)
      cases t.fin with
      | none => exact iff_of_false Bool.false_ne_true (fun h => by cases h)
      | some e =>
        show decide (e = -1) = true ↔ _
        rw [decide_eq_true_eq, Option.some.injEq]
    show (if sqlEq (cell tripColumns (tripTimesRow i t) "end".toList) (some (-1)) = true
      then (tripTimesRow i t).set 2 (newEnd (tripsTable trips) (tripTimesRow i t))
      else tripTimesRow i t) = tripTimesRow i (endedTrip trips i t)
    unfold endedTrip
    by_cases ht : t.Open
    · rw [if_pos (hopen.mpr ht), if_pos ht, newEnd_trips]
      rfl
    · rw [if_neg (mt hopen.mp ht), if_neg ht]

/-! ## When the ends are right -/

/-- An open trip with a next one gets an end before its start, or none. -/
theorem endedTrip_wrong {trips : List TripTimes} (hstarts : StartsApart trips) {i : Nat}
    {t : TripTimes} (ht : trips[i]? = some t) (hopen : t.Open) :
    ¬ ∃ e, (endedTrip trips i t).fin = some e ∧ (endedTrip trips i t).start ≤ e := by
  rintro ⟨e, he, hle⟩
  unfold endedTrip at he hle
  rw [if_pos hopen] at he hle
  obtain ⟨p, hp, rfl⟩ := Option.map_eq_some_iff.mp he
  cases i with
  | zero => cases hp
  | succ i =>
    have hlt := hstarts.lt hp ht
    dsimp only at hle
    linarith

/-- **Open trips are closed right** exactly when none of them has a next one. -/
theorem checktripends_iff {db : Database Rat} {trips : List TripTimes}
    (h : db tripTable = some (tripsTable trips)) (hstarts : StartsApart trips) :
    (∃ trips', (checktripends db).2 tripTable = some (tripsTable trips') ∧ Closed trips trips') ↔
      ∀ (i : Nat) (t : TripTimes), trips[i]? = some t → t.Open → trips[i + 1]? = none := by
  rw [checktripends_trips h]
  dsimp only
  rw [Database.set_self]
  constructor
  · rintro ⟨trips', htrips', hclosed⟩ i t ht hopen
    obtain rfl := tripsTable_inj (Option.some.inj htrips')
    cases hnext : trips[i + 1]? with
    | none => rfl
    | some next =>
      obtain ⟨e, he, hle, -⟩ := hclosed.closed i t (endedTrip trips i t)
        (endedTrip trips (i + 1) next) ht hopen (by rw [List.getElem?_mapIdx, ht]; rfl)
        (by rw [List.getElem?_mapIdx, hnext]; rfl)
      exact absurd ⟨e, he, hle⟩ (endedTrip_wrong hstarts ht hopen)
  · intro hlast
    refine ⟨_, rfl, List.length_mapIdx, fun i t t' next' ht hopen ht' hnext' => ?_,
      fun i t t' ht hopen ht' => ?_⟩
    · have hnone := hlast i t ht hopen
      rw [List.getElem?_mapIdx, hnone] at hnext'
      cases hnext'
    · rw [List.getElem?_mapIdx, ht, Option.map_some, endedTrip, if_neg hopen] at ht'
      exact (Option.some.inj ht').symm

/-- Three trips, the second of which was left open. -/
def secondOpen : List TripTimes := [⟨10, some 20⟩, ⟨30, some (-1)⟩, ⟨40, some 50⟩]

/-- A log whose second trip is open: it gets an end of 9.99, which is before the
start of the first trip. -/
theorem secondOpen_wrong : ¬ ∀ (db : Database Rat) (trips : List TripTimes),
    db tripTable = some (tripsTable trips) → StartsApart trips →
    ∃ trips', (checktripends db).2 tripTable = some (tripsTable trips') ∧
      Closed trips trips' := by
  intro h
  have hdb : Database.set (fun _ => none) tripTable (tripsTable secondOpen) tripTable =
      some (tripsTable secondOpen) := Database.set_self ..
  have hstarts : StartsApart secondOpen := by decide +kernel
  obtain ⟨trips', htrips', hclosed⟩ := h _ secondOpen hdb hstarts
  rw [checktripends_trips hdb] at htrips'
  dsimp only at htrips'
  rw [Database.set_self] at htrips'
  obtain rfl := tripsTable_inj (Option.some.inj htrips')
  obtain ⟨e, he, hle, -⟩ := hclosed.closed 1 _ _ _ rfl rfl rfl rfl
  exact endedTrip_wrong (i := 1) hstarts rfl rfl ⟨e, he, hle⟩

/-- Two trips, the last of which was left open. -/
theorem checktripends_lastOpen : ∃ trips',
    (checktripends (Database.set (fun _ => none) tripTable
      (tripsTable [⟨10, some 20⟩, ⟨30, some (-1)⟩]))).2 tripTable = some (tripsTable trips') ∧
    Closed [⟨10, some 20⟩, ⟨30, some (-1)⟩] trips' := by
  refine (checktripends_iff (Database.set_self ..) (by decide +kernel)).mpr fun i t ht hopen => ?_
  match i with
  | 0 =>
    obtain rfl := Option.some.inj ht
    exact absurd hopen (by decide)
  | 1 => rfl
  | i + 2 => rfl

end ObdGpsLogger.Repair

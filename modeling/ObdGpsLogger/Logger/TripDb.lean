import Mathlib.Data.List.Basic

/-!
# `tripdb.c` — the trip table

`starttrip` inserts a row with a start time and no end, and returns its id;
`updatetrip` sets the end of the row with a given id.

Mirroring notes:
- Every statement is taken to succeed. The id of a new row is the one SQLite
  gives to an `INTEGER PRIMARY KEY`: one more than the largest, from 1 on. So
  the rows stand in the order of their ids (`TripTable`).
- Times are in microseconds. The source stores them as seconds in a `double`;
  the conversion keeps their order.
-/

namespace ObdGpsLogger.Logger

/-- A row of the table `trip`. Its times are in microseconds. -/
structure Trip where
  tripid : Int
  start : Int
  endTime : Int
  deriving DecidableEq, Repr

/-- The end of a trip whose `end` has its default, `end REAL DEFAULT -1`. -/
def noEnd : Int := -1000000

/-- The table `trip`, in the order of its primary key. -/
structure TripTable where
  rows : List Trip
  sorted : rows.Pairwise fun a b => a.tripid < b.tripid
  positive : ∀ t ∈ rows, 1 ≤ t.tripid

namespace TripTable

/-- The id that SQLite gives to the next row: one more than the last. -/
def nextId (db : TripTable) : Int :=
  match db.rows.getLast? with
  | none => 1
  | some t => t.tripid + 1

theorem nextId_pos (db : TripTable) : 1 ≤ db.nextId := by
  unfold nextId
  cases h : db.rows.getLast? with
  | none => exact Int.le_refl _
  | some t =>
    have := db.positive t (List.mem_of_getLast? h)
    show 1 ≤ t.tripid + 1
    omega

/-- The id that the next trip gets is larger than those of all trips in the
table. -/
theorem lt_nextId {db : TripTable} {t : Trip} (ht : t ∈ db.rows) : t.tripid < db.nextId := by
  have hsorted := db.sorted
  unfold nextId
  cases h : db.rows.getLast? with
  | none =>
    rw [List.getLast?_eq_none_iff] at h
    rw [h] at ht
    cases ht
  | some l =>
    show t.tripid < l.tripid + 1
    obtain ⟨pre, hpre⟩ := List.getLast?_eq_some_iff.mp h
    rw [hpre] at ht hsorted
    rcases List.mem_append.mp ht with ht | ht
    · have := (List.pairwise_append.mp hsorted).2.2 t ht l (List.mem_singleton_self l)
      omega
    · obtain rfl := List.mem_singleton.mp ht
      omega

/-- The row of the table that has a given id, if there is one. -/
def row (db : TripTable) (id : Int) : Option Trip := db.rows.find? fun t => t.tripid == id

end TripTable

/-- `starttrip`: the id, and the table with the new row. -/
def starttrip (db : TripTable) (starttime : Int) : Int × TripTable :=
  (db.nextId,
    { rows := db.rows ++ [⟨db.nextId, starttime, noEnd⟩]
      sorted := by
        refine List.pairwise_append.mpr ⟨db.sorted, List.pairwise_singleton .., ?_⟩
        intro a ha b hb
        obtain rfl := List.mem_singleton.mp hb
        exact TripTable.lt_nextId ha
      positive := by
        intro t ht
        rcases List.mem_append.mp ht with ht | ht
        · exact db.positive t ht
        · obtain rfl := List.mem_singleton.mp ht
          exact db.nextId_pos })

/-- The row after `UPDATE trip SET end=? WHERE tripid=?`. -/
def Trip.update (obdtripid endtime : Int) (t : Trip) : Trip :=
  if t.tripid = obdtripid then { t with endTime := endtime } else t

@[simp] theorem Trip.update_tripid (obdtripid endtime : Int) (t : Trip) :
    (t.update obdtripid endtime).tripid = t.tripid := by
  unfold Trip.update
  split <;> rfl

/-- `updatetrip`: the row of the trip gets its end, unless the id is -1. -/
def updatetrip (db : TripTable) (obdtripid endtime : Int) : TripTable :=
  if obdtripid = -1 then db
  else
    { rows := db.rows.map (Trip.update obdtripid endtime)
      sorted := by
        rw [List.pairwise_map]
        simpa using db.sorted
      positive := by
        intro t ht
        obtain ⟨u, hu, rfl⟩ := List.mem_map.mp ht
        rw [Trip.update_tripid]
        exact db.positive u hu }

/-! ## What the calls do to the rows -/

theorem nextId_starttrip (db : TripTable) (t : Int) :
    (starttrip db t).2.nextId = db.nextId + 1 := by
  simp [TripTable.nextId, starttrip]

@[simp] theorem starttrip_rows (db : TripTable) (t : Int) :
    (starttrip db t).2.rows = db.rows ++ [⟨(starttrip db t).1, t, noEnd⟩] := rfl

/-- Updating the trip of an id that no row has changes none of the rows. -/
theorem map_update_absent {rows : List Trip} {id : Int} (h : ∀ t ∈ rows, t.tripid ≠ id) (e : Int) :
    rows.map (Trip.update id e) = rows :=
  (List.map_congr_left fun t ht => if_neg (h t ht)).trans (List.map_id _)

/-- The guard against `-1` only skips an update that would find no row. -/
theorem updatetrip_rows (db : TripTable) (id e : Int) :
    (updatetrip db id e).rows = db.rows.map (Trip.update id e) := by
  unfold updatetrip
  split
  · next h =>
    subst h
    refine (map_update_absent (fun t ht => ?_) e).symm
    have := db.positive t ht
    omega
  · rfl

theorem nextId_updatetrip (db : TripTable) (id e : Int) :
    (updatetrip db id e).nextId = db.nextId := by
  unfold TripTable.nextId
  rw [updatetrip_rows, List.getLast?_map]
  cases db.rows.getLast? <;> simp

/-- An update of the newest trip leaves the others alone. -/
theorem updatetrip_newest {db : TripTable} {pre : List Trip} {c : Trip}
    (h : db.rows = pre ++ [c]) (e : Int) :
    (updatetrip db c.tripid e).rows = pre ++ [{ c with endTime := e }] := by
  have hsorted := db.sorted
  rw [h, List.pairwise_append] at hsorted
  have hpre : ∀ t ∈ pre, t.tripid ≠ c.tripid := fun t ht =>
    Int.ne_of_lt (hsorted.2.2 t ht c (List.mem_singleton_self c))
  rw [updatetrip_rows, h, List.map_append, map_update_absent hpre]
  simp [Trip.update]

/-- Updating a trip does not change the row of any other trip. -/
theorem row_updatetrip_of_ne (db : TripTable) {id c : Int} (h : c ≠ id) (e : Int) :
    (updatetrip db id e).row c = db.row c := by
  unfold TripTable.row
  rw [updatetrip_rows]
  induction db.rows with
  | nil => rfl
  | cons t ts ih =>
    rw [List.map_cons, List.find?_cons, List.find?_cons, Trip.update_tripid, ih]
    cases ht : t.tripid == c with
    | false => rfl
    | true =>
      have htc : t.tripid ≠ id := by
        rw [beq_iff_eq] at ht
        omega
      simp only [Trip.update, if_neg htc]

/-- Updating a trip sets the end in its row, if it has a row, and nothing else. -/
theorem row_updatetrip (db : TripTable) (id e : Int) :
    (updatetrip db id e).row id = (db.row id).map fun t => { t with endTime := e } := by
  unfold TripTable.row
  rw [updatetrip_rows]
  induction db.rows with
  | nil => rfl
  | cons t ts ih =>
    rw [List.map_cons, List.find?_cons, List.find?_cons, Trip.update_tripid, ih]
    cases ht : t.tripid == id with
    | false => rfl
    | true => simp only [Trip.update, if_pos (beq_iff_eq.mp ht), Option.map_some]

/-- Starting a trip does not change the row of any other trip. -/
theorem row_starttrip_of_ne (db : TripTable) {c : Int} (h : c ≠ db.nextId) (t : Int) :
    (starttrip db t).2.row c = db.row c := by
  unfold TripTable.row
  rw [starttrip_rows, List.find?_append]
  have hne : ((starttrip db t).1 == c) = false := beq_eq_false_iff_ne.mpr (Ne.symm h)
  simp [hne]

end ObdGpsLogger.Logger

import Mathlib.Data.List.Nodup
import ObdGpsLogger.CLib.ScanInt
import ObdGpsLogger.Logger.Samples
import ObdGpsLogger.Xml.Forest

/-!
# `obd2gpx.c` — the export of the positions

`obd2gpx` writes the rows of the table `gps` as tracks: one `trk` for each
trip, one `trkpt` for each row. When a `trk` is opened and closed is decided by
the trip of the row before (`currtrip`), and the last one is closed behind the
loop.

What the export is for is said by a list of tracks (`Track`), of which the
document is to be made (`gpxDoc`), and which is to have what the logger has
stored (`Faithful`). `wellFormed_iff` says when that is so: the last `trk` is
closed even if there is none, and a row without an altitude, which the logger
stores as `NULL` and SQLite reads as 0, passes for one at sea level.

Mirroring notes:
- What is printed is kept as a list of tags and texts; the white space between
  them is left out, and so is what is inside the `author` of the header. A
  conversion of `fprintf` is kept as its argument (`Piece`).
- The logger stores no row without a trip, so `trip IS NOT NULL` passes all.
- Times are in microseconds; the column is read as whole seconds. `strftime`
  stands for `localtime` and `strftime`, and gives nothing when that returns 0.
-/

namespace ObdGpsLogger.Gpx

open CLib Logger Xml

/-- What `fprintf` puts into a text: letters of the format or of a string, a
`%f`, a `%i`. -/
inductive Piece where
  | lit (s : String)
  | f (x : Rat)
  | i (n : Int)
  deriving DecidableEq, Repr

abbrev Tag := Markup (List Piece)

/-- An element that is written on one line, as `<name>…</name>`. -/
def oneLine (name : String) (t : List Piece) : List Tag :=
  [.start name [], .text t, .stop name]

/-! ## The writer -/

/-- The attributes of the outermost element. -/
def gpxAttributes : List (String × List Piece) :=
  [("version", [.lit "1.1"]),
    ("creator", [.lit "obdgpslogger"]),
    ("xmlns:xsi", [.lit "http://www.w3.org/2001/XMLSchema-instance"]),
    ("xmlns", [.lit "http://www.topografix.com/GPX/1.1"]),
    ("xsi:schemaLocation",
      [.lit "http://www.topografix.com/GPS/1/1 http://www.topografix.com/GPX/1/1/gpx.xsd"])]

/-- `gpx_writeheader`: the start of the document and its metadata. -/
def gpxWriteheader (filename : String) : List Tag :=
  .start "gpx" gpxAttributes :: .start "metadata" [] ::
    (oneLine "name" [.lit "obd2gpx ", .lit filename] ++
      oneLine "desc" [.lit "OBDGPSLogger obd2gpx convert from ", .lit filename] ++
      oneLine "keywords" [.lit "obdgpslogger,obd2gpx"] ++
      [.start "author" [], .stop "author", .stop "metadata"])

/-- `gpx_writetail`: the end of the document. -/
def gpxWritetail : List Tag := [.stop "gpx"]

/-- `gpx_starttrip`: a track with the number of the trip, and its segment are
opened. -/
def gpxStarttrip (tripnum : Int) : List Tag :=
  .start "trk" [] :: (oneLine "name" [.lit "Trip ", .i tripnum] ++ [.start "trkseg" []])

/-- `gpx_endtrip`: the segment and the track are closed. -/
def gpxEndtrip : List Tag := [.stop "trkseg", .stop "trk"]

/-- The order of the rows of the query, `ORDER BY trip,time`. -/
def orderBy (a b : GpsRow) : Bool :=
  decide (a.trip < b.trip) || (decide (a.trip = b.trip) && decide (a.time ≤ b.time))

/-- The rows that the `SELECT` delivers, in its order. -/
def selectGps (gps : List GpsRow) : List GpsRow := gps.mergeSort orderBy

section Writer

variable (strftime : Int → Option String)

/-- The tags that are written for a row, apart from those that end a track and
begin another one: a track point with its position. -/
def writeTrkpt (r : GpsRow) : List Tag :=
  let alt := r.alt.getD 0
  let datatime := Int.tdiv r.time 1000000
  .start "trkpt" [("lat", [.f r.lat]), ("lon", [.f r.lon])] ::
    ((if -900 < alt then oneLine "ele" [.f alt] ++ oneLine "fix" [.lit "3d"]
      else oneLine "fix" [.lit "2d"]) ++
    (match strftime datatime with
      | some timestring => oneLine "time" [.lit timestring]
      | none => []) ++
    [.stop "trkpt"])

/-- The loop over the rows: the tags it writes while the trip is `currtrip`. -/
def exportLoop : Int → List GpsRow → List Tag
  | _, [] => []
  | currtrip, r :: rows =>
    let trip := toInt r.trip
    (if currtrip ≠ trip then
      (if -1 < currtrip then gpxEndtrip else []) ++ gpxStarttrip trip
    else []) ++ writeTrkpt strftime r ++ exportLoop trip rows

/-- The whole document that is written for the table `gps`, as a list of tags. -/
def obd2gpx (filename : String) (gps : List GpsRow) : List Tag :=
  gpxWriteheader filename ++ exportLoop strftime (-1) (selectGps gps) ++ gpxEndtrip ++
    gpxWritetail

end Writer

/-! ## What the export is for -/

/-- A position: with an elevation it is 3d. -/
structure Point where
  lat : Rat
  lon : Rat
  ele : Option Rat
  time : Option String
  deriving DecidableEq, Repr

/-- A track of the document: a trip, and its positions in order. -/
structure Track where
  trip : Int
  points : List Point
  deriving DecidableEq, Repr

abbrev Elements := Forest (List Piece)

/-- The element `trkpt` of a position, in front of the elements that follow it. -/
def Point.element (p : Point) (rest : Elements) : Elements :=
  let time := match p.time with
    | some timestring => Forest.leaf "time" [.lit timestring] .empty
    | none => .empty
  .element "trkpt" [("lat", [.f p.lat]), ("lon", [.f p.lon])]
    (match p.ele with
      | some ele => .leaf "ele" [.f ele] (.leaf "fix" [.lit "3d"] time)
      | none => .leaf "fix" [.lit "2d"] time) rest

/-- The element `trk` of a trip, which holds one `trkseg`, in front of the
elements that follow it. -/
def Track.element (tr : Track) (rest : Elements) : Elements :=
  .element "trk" [] (.leaf "name" [.lit "Trip ", .i tr.trip]
    (.element "trkseg" [] (tr.points.foldr Point.element .empty) .empty)) rest

/-- The document that the tags should be: a tree of elements, with a track for
each trip. -/
def gpxDoc (filename : String) (tracks : List Track) : Elements :=
  .element "gpx" gpxAttributes
    (.element "metadata" []
      (.leaf "name" [.lit "obd2gpx ", .lit filename]
        (.leaf "desc" [.lit "OBDGPSLogger obd2gpx convert from ", .lit filename]
          (.leaf "keywords" [.lit "obdgpslogger,obd2gpx"] (.element "author" [] .empty .empty))))
      (tracks.foldr Track.element .empty)) .empty

/-- The position the logger has stored. -/
def stored (strftime : Int → Option String) (r : GpsRow) : Point :=
  ⟨r.lat, r.lon, r.alt, strftime (Int.tdiv r.time 1000000)⟩

/-- **The tracks of a table**: one for each trip, with the positions of its
rows and no others. -/
structure Faithful (point : GpsRow → Point) (rows : List GpsRow) (tracks : List Track) : Prop where
  once : (tracks.map Track.trip).Nodup
  covered : ∀ r ∈ rows, ∃ tr ∈ tracks, tr.trip = r.trip
  points : ∀ tr ∈ tracks, tr.points = (rows.filter fun r => r.trip = tr.trip).map point
  used : ∀ tr ∈ tracks, tr.points ≠ []

/-- **A well-formed export** is that of tracks with what has been stored, in
the order of trip and time. -/
def WellFormed (strftime : Int → Option String) (filename : String) (gps : List GpsRow) : Prop :=
  ∃ tracks, obd2gpx strftime filename gps = (gpxDoc filename tracks).write ∧
    Faithful (stored strftime) (selectGps gps) tracks

/-! ## Tags of elements -/

/-- The point that a reader of the file finds for a row: its position, with a
height where the row has one. -/
def shown (strftime : Int → Option String) (r : GpsRow) : Point :=
  ⟨r.lat, r.lon, if -900 < r.alt.getD 0 then some (r.alt.getD 0) else none,
    strftime (Int.tdiv r.time 1000000)⟩

theorem write_point (strftime : Int → Option String) (r : GpsRow) (rest : Elements) :
    ((shown strftime r).element rest).write = writeTrkpt strftime r ++ rest.write := by
  unfold shown writeTrkpt Point.element
  by_cases halt : -900 < r.alt.getD 0
  · cases htime : strftime (Int.tdiv r.time 1000000) <;>
      simp [halt, htime, Forest.write, Forest.leaf, oneLine]
  · cases htime : strftime (Int.tdiv r.time 1000000) <;>
      simp [halt, htime, Forest.write, Forest.leaf, oneLine]

theorem write_points (strftime : Int → Option String) :
    ∀ rows : List GpsRow,
      ((rows.map (shown strftime)).foldr Point.element .empty).write =
        rows.flatMap (writeTrkpt strftime)
  | [] => rfl
  | r :: rows => by
    rw [List.map_cons, List.foldr_cons, write_point, write_points strftime rows]
    rfl

/-- What is written of a track whose points are rows: the tags that start it,
those of its rows, and the tags that end it. -/
theorem write_track (strftime : Int → Option String) (trip : Int) (rows : List GpsRow)
    (rest : Elements) :
    ((Track.mk trip (rows.map (shown strftime))).element rest).write =
      gpxStarttrip trip ++ rows.flatMap (writeTrkpt strftime) ++ gpxEndtrip ++ rest.write := by
  simp [Track.element, Forest.write, Forest.leaf, write_points, gpxStarttrip, gpxEndtrip, oneLine]

theorem write_gpxDoc (filename : String) (tracks : List Track) :
    (gpxDoc filename tracks).write =
      gpxWriteheader filename ++ (tracks.foldr Track.element .empty).write ++ gpxWritetail := by
  simp [gpxDoc, Forest.write, Forest.leaf, gpxWriteheader, gpxWritetail, oneLine]

theorem point_element_injective {p q : Point} {f g : Elements} (h : p.element f = q.element g) :
    p = q ∧ f = g := by
  obtain ⟨plat, plon, pele, ptime⟩ := p
  obtain ⟨qlat, qlon, qele, qtime⟩ := q
  cases pele <;> cases qele <;> cases ptime <;> cases qtime <;>
    simp_all [Point.element, Forest.leaf]

theorem points_injective : ∀ {ps qs : List Point},
    ps.foldr Point.element .empty = qs.foldr Point.element (.empty : Elements) → ps = qs
  | [], [], _ => rfl
  | [], q :: qs, h => by cases h
  | p :: ps, [], h => by cases h
  | p :: ps, q :: qs, h => by
    obtain ⟨rfl, hrest⟩ := point_element_injective h
    rw [points_injective hrest]

theorem tracks_injective : ∀ {ts us : List Track},
    ts.foldr Track.element .empty = us.foldr Track.element (.empty : Elements) → ts = us
  | [], [], _ => rfl
  | [], u :: us, h => by cases h
  | t :: ts, [], h => by cases h
  | t :: ts, u :: us, h => by
    obtain ⟨ttrip, tpoints⟩ := t
    obtain ⟨utrip, upoints⟩ := u
    simp only [List.foldr_cons, Track.element, Forest.leaf, Forest.element.injEq,
      Forest.text.injEq, List.cons.injEq, Piece.i.injEq, true_and, and_true] at h
    obtain ⟨⟨rfl, hpoints⟩, hrest⟩ := h
    rw [points_injective hpoints, tracks_injective hrest]

/-! ## Tracks of rows -/

/-- The tracks of some rows, behind a track that has been begun. -/
def tracksFrom (point : GpsRow → Point) (trip : Int) : List GpsRow → List GpsRow → List Track
  | begun, [] => [⟨trip, begun.map point⟩]
  | begun, r :: rows =>
    if r.trip = trip then tracksFrom point trip (begun ++ [r]) rows
    else ⟨trip, begun.map point⟩ :: tracksFrom point r.trip [r] rows

/-- **What the loop writes** behind the beginning of a track. -/
theorem write_tracksFrom (strftime : Int → Option String) :
    ∀ {rows : List GpsRow} {trip : Int} {begun : List GpsRow}, 0 ≤ trip →
      (∀ r ∈ rows, 0 ≤ r.trip ∧ r.trip < 2 ^ 31) →
      ((tracksFrom (shown strftime) trip begun rows).foldr Track.element .empty).write =
        gpxStarttrip trip ++ begun.flatMap (writeTrkpt strftime) ++
          exportLoop strftime trip rows ++ gpxEndtrip := by
  intro rows
  induction rows with
  | nil =>
    intro trip begun _ _
    show ((Track.mk trip (begun.map (shown strftime))).element .empty).write = _
    rw [write_track, exportLoop, List.append_nil]
    exact List.append_nil _
  | cons r rows ih =>
    intro trip begun htrip hrows
    obtain ⟨hpos, hlt⟩ := hrows r (List.mem_cons_self ..)
    have hrest := fun r' hr' => hrows r' (List.mem_cons_of_mem _ hr')
    have hint : toInt r.trip = r.trip := Int.bmod_eq_of_le_mul_two (by omega) (by omega)
    -- the track goes on, or is closed and another opened
    rw [tracksFrom, exportLoop, hint]
    by_cases hsame : r.trip = trip
    · rw [if_pos hsame, ih htrip hrest, if_neg (not_not_intro hsame.symm), hsame]
      simp
    · rw [if_neg hsame, if_pos (fun h => hsame h.symm), if_pos (by omega)]
      show ((Track.mk trip (begun.map (shown strftime))).element _).write = _
      rw [write_track, ih hpos hrest]
      simp

/-- Tracks for the rows behind a first trip, with a track of that trip put in
front, are tracks for all of the rows. -/
theorem Faithful.cons {point : GpsRow → Point} {trip : Int} {begun rows : List GpsRow}
    {tracks : List Track} (hf : Faithful point rows tracks) (hbegun : ∀ r ∈ begun, r.trip = trip)
    (hne : begun ≠ []) (hrows : ∀ r ∈ rows, trip < r.trip)
    (htracks : ∀ tr ∈ tracks, trip < tr.trip) :
    Faithful point (begun ++ rows) (⟨trip, begun.map point⟩ :: tracks) := by
  refine ⟨?_, fun r hr => ?_, fun tr htr => ?_, fun tr htr => ?_⟩
  · refine List.nodup_cons.mpr ⟨fun hmem => ?_, hf.once⟩
    obtain ⟨tr, htr, htrip⟩ := List.mem_map.mp hmem
    exact absurd htrip (Int.ne_of_gt (htracks tr htr))
  · rcases List.mem_append.mp hr with hr | hr
    · exact ⟨_, List.mem_cons_self .., (hbegun r hr).symm⟩
    · obtain ⟨tr, htr, htrip⟩ := hf.covered r hr
      exact ⟨tr, List.mem_cons_of_mem _ htr, htrip⟩
  · rw [List.filter_append, List.map_append]
    rcases List.mem_cons.mp htr with rfl | htr
    · -- nothing of the later trips
      rw [List.filter_eq_self.mpr fun r hr => by simpa using hbegun r hr,
        List.filter_eq_nil_iff.mpr fun r hr => by simpa using Int.ne_of_gt (hrows r hr)]
      exact (List.append_nil _).symm
    · -- nothing of the trip that has been begun
      rw [List.filter_eq_nil_iff.mpr fun r hr => by
        simpa [hbegun r hr] using Int.ne_of_lt (htracks tr htr)]
      exact hf.points tr htr
  · rcases List.mem_cons.mp htr with rfl | htr
    · exact fun h => hne (List.map_eq_nil_iff.mp h)
    · exact hf.used tr htr

/-- Rows in the order of their trips give one track for each. -/
theorem faithful_tracksFrom (point : GpsRow → Point) :
    ∀ {rows : List GpsRow} (trip : Int) (begun : List GpsRow),
      rows.Pairwise (fun a b => a.trip ≤ b.trip) → (∀ r ∈ rows, trip ≤ r.trip) →
      (∀ r ∈ begun, r.trip = trip) → begun ≠ [] →
      Faithful point (begun ++ rows) (tracksFrom point trip begun rows) ∧
        ∀ tr ∈ tracksFrom point trip begun rows, trip ≤ tr.trip := by
  intro rows
  induction rows with
  | nil =>
    intro trip begun _ _ hbegun hne
    have hnone : Faithful point [] [] := ⟨List.nodup_nil, nofun, nofun, nofun⟩
    refine ⟨hnone.cons hbegun hne nofun nofun, fun tr htr => ?_⟩
    obtain rfl := List.mem_singleton.mp htr
    exact Int.le_refl trip
  | cons r rows ih =>
    intro trip begun hsorted hle hbegun hne
    obtain ⟨hfirst, hsorted⟩ := List.pairwise_cons.mp hsorted
    rw [tracksFrom]
    -- the row goes on with the track that has begun, or begins the next one
    by_cases hsame : r.trip = trip
    · rw [if_pos hsame]
      have h := ih trip (begun ++ [r]) hsorted
        (fun r' hr' => hle r' (List.mem_cons_of_mem _ hr')) (fun r' hr' => ?_) (by simp)
      · rwa [List.append_assoc] at h
      · rcases List.mem_append.mp hr' with hr' | hr'
        · exact hbegun r' hr'
        · rw [List.mem_singleton.mp hr', hsame]
    · rw [if_neg hsame]
      have hlt : trip < r.trip := by
        have := hle r (List.mem_cons_self ..)
        omega
      obtain ⟨hf, hge⟩ := ih r.trip [r] hsorted hfirst
        (fun r' hr' => by rw [List.mem_singleton.mp hr']) (List.cons_ne_nil r [])
      have hrows : ∀ r' ∈ r :: rows, trip < r'.trip :=
        List.forall_mem_cons.mpr ⟨hlt, fun r' hr' => Int.lt_of_lt_of_le hlt (hfirst r' hr')⟩
      have htracks : ∀ tr ∈ tracksFrom point r.trip [r] rows, trip < tr.trip :=
        fun tr htr => Int.lt_of_lt_of_le hlt (hge tr htr)
      exact ⟨hf.cons hbegun hne hrows htracks, List.forall_mem_cons.mpr
        ⟨Int.le_refl trip, fun tr htr => Int.le_of_lt (htracks tr htr)⟩⟩

/-! ## The document -/

section Document

variable (strftime : Int → Option String) (filename : String) {gps : List GpsRow}

theorem mem_selectGps {r : GpsRow} : r ∈ selectGps gps ↔ r ∈ gps :=
  (List.mergeSort_perm gps orderBy).mem_iff

theorem selectGps_sorted (gps : List GpsRow) :
    (selectGps gps).Pairwise fun a b => a.trip ≤ b.trip := by
  have h : (selectGps gps).Pairwise fun a b => orderBy a b = true := List.pairwise_mergeSort
    (fun a b c => by simp only [orderBy, Bool.or_eq_true, Bool.and_eq_true, decide_eq_true_eq]; omega)
    (fun a b => by simp only [orderBy, Bool.or_eq_true, Bool.and_eq_true, decide_eq_true_eq]; omega)
    gps
  refine h.imp fun {a b} hab => ?_
  simp only [orderBy, Bool.or_eq_true, Bool.and_eq_true, decide_eq_true_eq] at hab
  omega

/-- The tracks that are written for some rows whose trips fit an `int`. -/
theorem obd2gpx_eq (hpos : ∀ r ∈ gps, 0 ≤ r.trip) (hlt : ∀ r ∈ gps, r.trip < 2 ^ 31)
    (hne : gps ≠ []) :
    ∃ tracks, obd2gpx strftime filename gps = (gpxDoc filename tracks).write ∧
      Faithful (shown strftime) (selectGps gps) tracks := by
  have hrange : ∀ r ∈ selectGps gps, 0 ≤ r.trip ∧ r.trip < 2 ^ 31 := fun r hr =>
    ⟨hpos r (mem_selectGps.mp hr), hlt r (mem_selectGps.mp hr)⟩
  have hsorted := selectGps_sorted gps
  unfold obd2gpx
  cases hsel : selectGps gps with
  | nil =>
    have hperm := List.mergeSort_perm gps orderBy
    rw [show gps.mergeSort orderBy = [] from hsel] at hperm
    exact absurd hperm.nil_eq.symm hne
  | cons r rows =>
    rw [hsel] at hsorted hrange
    obtain ⟨hfirst, hsorted⟩ := List.pairwise_cons.mp hsorted
    obtain ⟨hr, hr'⟩ := hrange r (List.mem_cons_self ..)
    have hint : toInt r.trip = r.trip := Int.bmod_eq_of_le_mul_two (by omega) (by omega)
    refine ⟨tracksFrom (shown strftime) r.trip [r] rows, ?_,
      (faithful_tracksFrom _ r.trip [r] hsorted hfirst (fun r' hr' => by rw [List.mem_singleton.mp hr'])
        (List.cons_ne_nil r [])).1⟩
    rw [write_gpxDoc, write_tracksFrom strftime hr fun r' hr' =>
      hrange r' (List.mem_cons_of_mem _ hr'), exportLoop, hint, if_pos (by omega), if_neg (by omega)]
    simp

/-- A log without positions: the program closes a `trkseg` that it has not
opened. -/
theorem nesting_nil : nesting [] (obd2gpx strftime filename []) = none := by
  simp [obd2gpx, selectGps, exportLoop, gpxWriteheader, gpxEndtrip, oneLine, nesting]

/-- The number of a trip is printed as an `int`. -/
theorem trip_lt_of_mem {n : Int} :
    ∀ {currtrip : Int} {rows : List GpsRow},
      .text [.lit "Trip ", .i n] ∈ exportLoop strftime currtrip rows → n < 2 ^ 31 := by
  intro currtrip rows
  induction rows generalizing currtrip with
  | nil => exact fun h => absurd h List.not_mem_nil
  | cons r rows ih =>
    intro h
    have hint : toInt r.trip < 2 ^ 31 := Int.bmod_lt (by decide)
    rw [exportLoop] at h
    -- at the start of a track, in its points, or in what follows
    rcases List.mem_append.mp h with h | h
    · rcases List.mem_append.mp h with h | h
      · revert h
        split <;> (try split) <;> simp [gpxEndtrip, gpxStarttrip, oneLine] <;> omega
      · revert h
        unfold writeTrkpt
        dsimp only
        split <;> split <;> simp [oneLine]
    · exact ih h

/-- The number of a track stands in the document. -/
theorem mem_write_tracks {tr : Track} : ∀ {tracks : List Track}, tr ∈ tracks →
    .text [.lit "Trip ", .i tr.trip] ∈ (tracks.foldr Track.element .empty).write
  | u :: tracks, h => by
    show _ ∈ (u.element (tracks.foldr Track.element .empty)).write
    simp only [Track.element, Forest.leaf, Forest.write, List.mem_cons, List.mem_append]
    rcases List.mem_cons.mp h with rfl | h
    · simp
    · have := mem_write_tracks h
      tauto

theorem gpxDoc_injective {tracks tracks' : List Track}
    (h : (gpxDoc filename tracks).write = (gpxDoc filename tracks').write) : tracks = tracks' := by
  obtain ⟨-, -, hinside, -⟩ := Forest.element.inj (write_injective h)
  obtain ⟨-, -, -, htracks⟩ := Forest.element.inj hinside
  exact tracks_injective htracks

/-- A row is shown as it is stored, if it has an altitude that does not pass
for a missing one. -/
theorem stored_eq_shown {r : GpsRow} :
    stored strftime r = shown strftime r ↔ ∃ alt, r.alt = some alt ∧ -900 < alt := by
  unfold stored shown
  cases halt : r.alt with
  | none =>
    have hsea : (-900 : Rat) < 0 := by decide
    simp [hsea]
  | some alt => simp

/-- The export is well formed if every row of it has an altitude. -/
theorem wellFormed_of_altitudes (hpos : ∀ r ∈ gps, 0 ≤ r.trip) (hne : gps ≠ [])
    (hall : ∀ r ∈ gps, r.trip < 2 ^ 31 ∧ ∃ alt, r.alt = some alt ∧ -900 < alt) :
    WellFormed strftime filename gps := by
  obtain ⟨tracks, hdoc, hf⟩ := obd2gpx_eq strftime filename hpos (fun r hr => (hall r hr).1) hne
  refine ⟨tracks, hdoc, { hf with points := fun tr htr => ?_ }⟩
  rw [hf.points tr htr]
  refine List.map_inj_left.mpr fun r hr => ?_
  exact ((stored_eq_shown strftime).mpr (hall r (mem_selectGps.mp (List.mem_filter.mp hr).1)).2).symm

/-- **The export is well formed** exactly if there is a row, every trip fits an
`int`, and every row has an altitude that does not pass for a missing one. -/
theorem wellFormed_iff (hpos : ∀ r ∈ gps, 0 ≤ r.trip) :
    WellFormed strftime filename gps ↔
      gps ≠ [] ∧ ∀ r ∈ gps, r.trip < 2 ^ 31 ∧ ∃ alt, r.alt = some alt ∧ -900 < alt := by
  constructor
  · rintro ⟨tracks, hdoc, hf⟩
    have hne : gps ≠ [] := by
      rintro rfl
      have h := nesting_nil strftime filename
      rw [hdoc, nesting_write] at h
      cases h
    have hlt : ∀ r ∈ gps, r.trip < 2 ^ 31 := by
      -- each has a track, whose number is printed as an `int`
      intro r hr
      obtain ⟨tr, htr, htrip⟩ := hf.covered r (mem_selectGps.mpr hr)
      have hmem := mem_write_tracks htr
      rw [← htrip]
      have hdocmem : .text [.lit "Trip ", .i tr.trip] ∈ obd2gpx strftime filename gps := by
        rw [hdoc, write_gpxDoc]
        exact List.mem_append_left _ (List.mem_append_right _ hmem)
      have hloop : .text [.lit "Trip ", .i tr.trip] ∈ exportLoop strftime (-1) (selectGps gps) := by
        simpa [obd2gpx, gpxWriteheader, gpxEndtrip, gpxWritetail, oneLine] using hdocmem
      exact trip_lt_of_mem strftime hloop
    -- the document tells its tracks, and these have the rows as they are shown
    obtain ⟨tracks', hdoc', hf'⟩ := obd2gpx_eq strftime filename hpos hlt hne
    obtain rfl := gpxDoc_injective filename (hdoc.symm.trans hdoc')
    refine ⟨hne, fun r hr => ⟨hlt r hr, ?_⟩⟩
    obtain ⟨tr, htr, htrip⟩ := hf.covered r (mem_selectGps.mpr hr)
    have hsame := List.map_inj_left.mp ((hf.points tr htr).symm.trans (hf'.points tr htr))
    exact (stored_eq_shown strftime).mp
      (hsame r (List.mem_filter.mpr ⟨mem_selectGps.mpr hr, by simpa using htrip.symm⟩))
  · rintro ⟨hne, hall⟩
    exact wellFormed_of_altitudes strftime filename hpos hne hall

end Document

/-- The positions a run of the logger files make a well-formed file, if there
are any and each of them has an altitude. -/
theorem wellFormed_run {cfg : Setup} {db : TripTable} {gpsdata : Bool} {samplecount : Int}
    {qs : List Pass} {s : LoopState} {ended : List (List Int)}
    (hrun : Machine.run (iteration cfg) (LoopState.init cfg db gpsdata samplecount) qs =
      some (s, ended)) (strftime : Int → Option String) (filename : String) (hne : s.gps ≠ [])
    (hall : ∀ r ∈ s.gps, r.trip < 2 ^ 31 ∧ ∃ alt, r.alt = some alt ∧ -900 < alt) :
    WellFormed strftime filename s.gps :=
  wellFormed_of_altitudes strftime filename (gps_trip_nonneg hrun) hne hall

/-- A row as the logger inserts it: the altitude is NULL without a 3d fix. -/
def gpsRow (gpsstatus trip : Int) : GpsRow :=
  { lat := 0, lon := 0, alt := if 1 ≤ gpsstatus then some 100 else none, speed := 0, course := 0
    gpstime := 0, time := 1000000, trip := trip }

/-- A drive of three positions with altitudes, in two trips, makes a well-formed
file. -/
theorem wellFormed_drive :
    (∀ r ∈ [gpsRow 1 1, gpsRow 2 1, gpsRow 1 2], 0 ≤ r.trip) ∧
      WellFormed (fun _ => none) "drive.gpx" [gpsRow 1 1, gpsRow 2 1, gpsRow 1 2] := by
  have hpos : ∀ r ∈ [gpsRow 1 1, gpsRow 2 1, gpsRow 1 2], 0 ≤ r.trip := by decide
  have hhigh : (-900 : Rat) < 100 := by decide
  refine ⟨hpos, (wellFormed_iff _ _ hpos).mpr ⟨List.cons_ne_nil _ _, ?_⟩⟩
  simp [gpsRow, hhigh]

/-- **A table without rows** closes what it has not opened. -/
theorem not_wellFormed :
    ¬ ∀ (strftime : Int → Option String) (filename : String) (gps : List GpsRow),
      (∀ r ∈ gps, 0 ≤ r.trip) → WellFormed strftime filename gps := by
  intro h
  obtain ⟨tracks, hdoc, -⟩ := h (fun _ => none) "drive.gpx" [] (fun r hr => nomatch hr)
  have hnest := nesting_write (gpxDoc "drive.gpx" tracks)
  rw [← hdoc, nesting_nil] at hnest
  cases hnest

end ObdGpsLogger.Gpx

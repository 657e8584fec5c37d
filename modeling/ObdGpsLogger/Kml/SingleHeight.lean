import Mathlib.Analysis.Complex.Norm
import ObdGpsLogger.Kml.HeightAndColor

/-!
# A track with the rows of a standstill left out

`kmlvalueheight` of `src/kml/singleheight.c`: the rows of a trip as one
`LineString`. A row is left out while the car stands, which is to say that no
row since has been farther than `EPSILONDIST` from the one before it.

Each row is compared with the row before, drawn or not. So a row that is left
out is near that row (`keepsTrack`), but a slow drift can lead away from the
line that is drawn: by `EPSILONDIST` for each row left out, and no more.

Mirroring notes:
- Distances are exact: `delta` is a real number, and is compared by its square
  (`lt_delta_iff`, `delta_lt_iff`).
- The document is a list of tags, as for `kmlvalueheightcolor`. `normalfactor`
  is the value of the first query.
- `totalheight` is not used, and left out.
-/

namespace ObdGpsLogger.Kml

open Xml

/-! ## The code -/

/-- `EPSILONDIST`: the distance, in degrees, below which a vehicle stands still. -/
def epsilondist : Rat := 1 / 1000000

/-- A row of the statement; `none` is NULL. -/
structure HeightRow where
  height : Option Rat
  lat : Option Rat
  lon : Option Rat
  deriving DecidableEq, Repr

/-- `currpos` at a row, where a NULL is read as 0. -/
def HeightRow.position (r : HeightRow) : Position :=
  ⟨r.lon.getD 0, r.lat.getD 0, r.height.getD 0⟩

/-- The square of `delta`, the distance in the plane of two positions in
degrees. -/
def deltaSquared (lastpos currpos : Position) : Rat :=
  (currpos.lon - lastpos.lon) * (currpos.lon - lastpos.lon) +
    (currpos.lat - lastpos.lat) * (currpos.lat - lastpos.lat)

/-- The variables of the loop over the rows. -/
structure HeightLoop where
  ismoving : Bool
  haveFirstpos : Bool
  firstpos : Position
  lastpos : Position
  rowcount : Nat
  outputcount : Nat
  deriving DecidableEq, Repr

/-- The variables in front of the loop over the rows: the vehicle is taken to
move. -/
def HeightLoop.init : HeightLoop := ⟨true, false, ⟨0, 0, 0⟩, ⟨0, 0, 0⟩, 0, 0⟩

/-- `ismoving` where a row is drawn or not. -/
def HeightLoop.draws (s : HeightLoop) (r : HeightRow) : Bool :=
  s.ismoving || decide (epsilondist * epsilondist < deltaSquared s.lastpos r.position)

/-- The variables behind a row, whether it was drawn or not. -/
def HeightLoop.next (s : HeightLoop) (r : HeightRow) : HeightLoop where
  ismoving :=
    if deltaSquared s.lastpos r.position < epsilondist * epsilondist then false else s.draws r
  haveFirstpos := true
  firstpos := if s.haveFirstpos then s.firstpos else r.position
  lastpos := r.position
  rowcount := s.rowcount + 1
  outputcount := if s.draws r then s.outputcount + 1 else s.outputcount

/-- The text that is written for a row that is drawn: its position, and its
height times the factor that normalises all of them. -/
def heightCoordinate (normalfactor : Rat) (r : HeightRow) : Tag :=
  .text (coordinate { r.position with height := normalfactor * r.position.height })

/-- The loop over the rows: what is printed, and the variables behind it. -/
def heightLoop (normalfactor : Rat) : HeightLoop → List HeightRow → List Tag × HeightLoop
  | s, [] => ([], s)
  | s, r :: rows =>
    let rest := heightLoop normalfactor (s.next r) rows
    ((if s.draws r then [heightCoordinate normalfactor r] else []) ++ rest.1, rest.2)

/-- The start of the document: its name and its description. -/
def heightHead (g : Graph) : List Tag :=
  [.start "Document" [], .start "Style" [], .start "ListStyle" [], .start "listItemType" [],
    .text [.lit "checkHideChildren"], .stop "listItemType", .stop "ListStyle", .stop "Style",
    .start "visibility" [], .text [.i g.defaultvis], .stop "visibility",
    .start "name" [], .text [.lit g.name], .stop "name",
    .start "description" [], .text [.lit g.desc], .stop "description"]

/-- The start of the one `Placemark` with a `LineString`. -/
def chartHead : List Tag :=
  [.start "Placemark" [], .start "name" [], .text [.lit "chart"], .stop "name",
    .start "LineString" [], .start "extrude" [], .text [.lit "1"], .stop "extrude",
    .start "tessellate" [], .text [.lit "1"], .stop "tessellate",
    .start "altitudeMode" [], .text [.lit "relativeToGround"], .stop "altitudeMode",
    .start "coordinates" []]

/-- `kmlvalueheight`: the document, and the numbers of rows that are printed. -/
def kmlvalueheight (ctime : Int → String) (g : Graph) (normalfactor : Rat)
    (rows : List HeightRow) : List Tag × Nat × Nat :=
  let (tags, s) := heightLoop normalfactor HeightLoop.init rows
  (heightHead g ++ chartHead ++ tags ++ placetail ++
    beacon ctime "Start " g.trip g.start s.firstpos ++
    beacon ctime "End " g.trip g.finish s.lastpos ++ [.stop "Document"],
    s.rowcount, s.outputcount)

/-! ## Distances -/

/-- The point of a plane that has longitude and latitude as its coordinates. -/
noncomputable def planePoint (p : Position) : ℂ := ⟨p.lon, p.lat⟩

/-- `delta`, the distance in the plane of two positions in degrees. -/
noncomputable def delta (lastpos currpos : Position) : ℝ := √(deltaSquared lastpos currpos : ℝ)

theorem delta_eq_norm (p q : Position) : delta p q = ‖planePoint q - planePoint p‖ := by
  rw [Complex.norm_eq_sqrt_sq_add_sq, delta, deltaSquared]
  push_cast
  congr 1
  simp only [planePoint, Complex.sub_re, Complex.sub_im]
  ring

/-- A distance is larger than `EPSILONDIST` exactly if its square is larger than
the square of `EPSILONDIST`, which can be computed. -/
theorem lt_delta_iff (p q : Position) :
    (epsilondist : ℝ) < delta p q ↔ epsilondist * epsilondist < deltaSquared p q := by
  have hpos : (0 : ℝ) ≤ epsilondist := by
    rw [epsilondist]
    norm_num
  rw [delta, Real.lt_sqrt hpos, sq]
  exact_mod_cast Iff.rfl

theorem delta_lt_iff (p q : Position) :
    delta p q < epsilondist ↔ deltaSquared p q < epsilondist * epsilondist := by
  have hpos : (0 : ℝ) < epsilondist := by
    rw [epsilondist]
    norm_num
  rw [delta, Real.sqrt_lt' hpos, sq]
  exact_mod_cast Iff.rfl

theorem delta_triangle (p q r : Position) : delta p r ≤ delta p q + delta q r := by
  rw [delta_eq_norm, delta_eq_norm, delta_eq_norm, add_comm]
  exact norm_sub_le_norm_sub_add_norm_sub _ _ _

/-! ## Which rows are drawn -/

/-- The rows, each with whether it is drawn. -/
def drawnMarks : HeightLoop → List HeightRow → List (HeightRow × Bool)
  | _, [] => []
  | s, r :: rows => (r, s.draws r) :: drawnMarks (s.next r) rows

theorem drawnMarks_rows (s : HeightLoop) (rows : List HeightRow) :
    (drawnMarks s rows).map Prod.fst = rows := by
  induction rows generalizing s with
  | nil => rfl
  | cons r rows ih => rw [drawnMarks, List.map_cons, ih]

/-- The coordinates are those of the rows drawn, in order. -/
theorem heightLoop_tags (normalfactor : Rat) (s : HeightLoop) (rows : List HeightRow) :
    (heightLoop normalfactor s rows).1 = ((drawnMarks s rows).filter Prod.snd).map fun m =>
      heightCoordinate normalfactor m.1 := by
  induction rows generalizing s with
  | nil => rfl
  | cons r rows ih =>
    rw [heightLoop, drawnMarks]
    dsimp only
    rw [ih]
    cases hdraws : s.draws r with
    | true => rw [List.filter_cons_of_pos rfl, List.map_cons]; rfl
    | false => rw [List.filter_cons_of_neg Bool.false_ne_true]; rfl

/-- All rows are counted, and those that are drawn. -/
theorem heightLoop_counts (normalfactor : Rat) (s : HeightLoop) (rows : List HeightRow) :
    (heightLoop normalfactor s rows).2.rowcount = s.rowcount + rows.length ∧
      (heightLoop normalfactor s rows).2.outputcount =
        s.outputcount + ((drawnMarks s rows).filter Prod.snd).length := by
  induction rows generalizing s with
  | nil => exact ⟨rfl, rfl⟩
  | cons r rows ih =>
    obtain ⟨hrows, houtput⟩ := ih (s.next r)
    rw [heightLoop, drawnMarks]
    dsimp only
    rw [hrows, houtput, HeightLoop.next]
    dsimp only
    refine ⟨by rw [List.length_cons]; omega, ?_⟩
    cases hdraws : s.draws r with
    | true =>
      rw [if_pos rfl, List.filter_cons_of_pos rfl, List.length_cons]
      omega
    | false => rw [if_neg Bool.false_ne_true, List.filter_cons_of_neg Bool.false_ne_true]

/-- The marks from some row on are those of the loop from there. -/
theorem drawnMarks_split : ∀ (pre : List (HeightRow × Bool)) {s : HeightLoop}
    {rows : List HeightRow} {rest : List (HeightRow × Bool)}, drawnMarks s rows = pre ++ rest →
    ∃ s' rows', drawnMarks s' rows' = rest := by
  intro pre
  induction pre with
  | nil =>
    intro s rows rest h
    exact ⟨s, rows, h⟩
  | cons m pre ih =>
    intro s rows rest h
    cases rows with
    | nil => cases h
    | cons r rows => exact ih (List.cons.inj h).2

/-- **A row left out** is near the row before it. -/
theorem near_of_leftOut {s : HeightLoop} {rows : List HeightRow}
    {pre post : List (HeightRow × Bool)} {a b : HeightRow × Bool}
    (h : drawnMarks s rows = pre ++ a :: b :: post) (hout : b.2 = false) :
    delta a.1.position b.1.position ≤ epsilondist := by
  obtain ⟨s', rows', hrest⟩ := drawnMarks_split pre h
  rcases rows' with _ | ⟨r, _ | ⟨r', rows'⟩⟩
  · cases hrest
  · cases (List.cons.inj hrest).2
  · obtain ⟨rfl, htail⟩ := List.cons.inj hrest
    obtain ⟨rfl, -⟩ := List.cons.inj htail
    have hnot : ¬ epsilondist * epsilondist < deltaSquared r.position r'.position := by
      have hboth := (Bool.or_eq_false_iff.mp hout).2
      exact of_decide_eq_false hboth
    exact not_lt.mp fun hlt => hnot ((lt_delta_iff _ _).mp hlt)

/-- **A drift** over rows left out: `EPSILONDIST` for each of them. -/
theorem drift_of_leftOut {s : HeightLoop} {rows : List HeightRow}
    {post : List (HeightRow × Bool)} {b : HeightRow × Bool} (hout : b.2 = false) :
    ∀ (left pre : List (HeightRow × Bool)) (a : HeightRow × Bool),
      drawnMarks s rows = pre ++ a :: (left ++ b :: post) → (∀ m ∈ left, m.2 = false) →
      delta a.1.position b.1.position ≤ (left.length + 1 : ℕ) * epsilondist := by
  intro left
  induction left with
  | nil =>
    intro pre a h _
    have hnear := near_of_leftOut h hout
    rw [List.length_nil, Nat.zero_add, Nat.cast_one, one_mul]
    exact hnear
  | cons c left ih =>
    intro pre a h hleft
    have hnear := near_of_leftOut h (hleft c (List.mem_cons_self ..))
    have hrest := ih (pre ++ [a]) c (by rw [List.append_assoc]; exact h) fun m hm =>
      hleft m (List.mem_cons_of_mem c hm)
    calc delta a.1.position b.1.position
        ≤ delta a.1.position c.1.position + delta c.1.position b.1.position :=
          delta_triangle _ _ _
      _ ≤ epsilondist + (left.length + 1 : ℕ) * epsilondist := add_le_add hnear hrest
      _ = ((c :: left).length + 1 : ℕ) * epsilondist := by
          rw [List.length_cons]
          push_cast
          ring

/-- What the marks of a track should say. -/
structure KeepsTrack (marks : List (HeightRow × Bool)) : Prop where
  /-- The first row is drawn. -/
  first : ∀ m ∈ marks.head?, m.2 = true
  /-- A row away from the one before it is drawn. -/
  moved : ∀ pre a b post, marks = pre ++ a :: b :: post →
    epsilondist < delta a.1.position b.1.position → b.2 = true
  /-- A row left out is near the one before it. -/
  near : ∀ pre a b post, marks = pre ++ a :: b :: post → b.2 = false →
    delta a.1.position b.1.position ≤ epsilondist
  /-- A row that is left out is as near to the last row drawn before it as the
  rows left out since allow, each of them a step of `EPSILONDIST` at most. -/
  drift : ∀ pre a left b post, marks = pre ++ a :: (left ++ b :: post) → a.2 = true →
    (∀ m ∈ left, m.2 = false) → b.2 = false →
    delta a.1.position b.1.position ≤ (left.length + 1 : ℕ) * epsilondist

/-- The beacons stand at the first row and at the last. -/
theorem heightLoop_ends (normalfactor : Rat) (s : HeightLoop) (rows : List HeightRow) :
    (heightLoop normalfactor s rows).2.firstpos =
        (if s.haveFirstpos then s.firstpos
          else (rows.head?.map HeightRow.position).getD s.firstpos) ∧
      (heightLoop normalfactor s rows).2.lastpos =
        (rows.getLast?.map HeightRow.position).getD s.lastpos := by
  induction rows generalizing s with
  | nil => exact ⟨by rw [heightLoop]; split <;> rfl, rfl⟩
  | cons r rows ih =>
    obtain ⟨hfirst, hlast⟩ := ih (s.next r)
    rw [heightLoop]
    refine ⟨hfirst.trans (if_pos rfl), ?_⟩
    dsimp only
    rw [hlast, List.getLast?_cons]
    cases rows.getLast? <;> rfl

/-- **The marks of a trip**, which say of each row whether it is drawn, keep its
track: the first row is drawn, and so is each that is away from the one before
it. -/
theorem keepsTrack (rows : List HeightRow) : KeepsTrack (drawnMarks HeightLoop.init rows) := by
  refine ⟨?_, ?_, ?_, ?_⟩
  · intro m hm
    cases rows with
    | nil => cases hm
    | cons r rows =>
      obtain rfl := Option.some.inj hm
      rfl
  · intro pre a b post h hfar
    by_contra hout
    exact absurd hfar (not_lt.mpr (near_of_leftOut h (Bool.eq_false_iff.mpr hout)))
  · intro pre a b post h hout
    exact near_of_leftOut h hout
  · intro pre a left b post h _ hleft hout
    exact drift_of_leftOut hout left pre a h hleft

/-- **The line that is drawn**: some of the rows, in order. The first row and
all rows after a movement are among them, and a row left out is near the row
before it. -/
theorem kmlvalueheight_keepsTrack (ctime : Int → String) (g : Graph) (normalfactor : Rat)
    (rows : List HeightRow) :
    (drawnMarks HeightLoop.init rows).map Prod.fst = rows ∧
      KeepsTrack (drawnMarks HeightLoop.init rows) ∧
      kmlvalueheight ctime g normalfactor rows =
        (heightHead g ++ chartHead ++
          ((drawnMarks HeightLoop.init rows).filter Prod.snd).map
            (fun m => heightCoordinate normalfactor m.1) ++
          placetail ++
          beacon ctime "Start " g.trip g.start
            ((rows.head?.map HeightRow.position).getD ⟨0, 0, 0⟩) ++
          beacon ctime "End " g.trip g.finish
            ((rows.getLast?.map HeightRow.position).getD ⟨0, 0, 0⟩) ++ [.stop "Document"],
          rows.length, ((drawnMarks HeightLoop.init rows).filter Prod.snd).length) := by
  obtain ⟨hfirst, hlast⟩ := heightLoop_ends normalfactor HeightLoop.init rows
  obtain ⟨hrows, houtput⟩ := heightLoop_counts normalfactor HeightLoop.init rows
  refine ⟨drawnMarks_rows _ rows, keepsTrack rows, ?_⟩
  unfold kmlvalueheight
  dsimp only
  rw [heightLoop_tags, hfirst, hlast, hrows, houtput]
  simp only [HeightLoop.init, Nat.zero_add, Bool.false_eq_true, if_false]

/-- Rows that are six tenths of `EPSILONDIST` apart. -/
def driftingRows : List HeightRow :=
  [⟨some 10, some 0, some 0⟩, ⟨some 10, some 0, some (6 / 10000000)⟩,
    ⟨some 10, some 0, some (12 / 10000000)⟩]

/-- The last of them is left out, and is not near the one that is drawn. -/
theorem driftingRows_apart :
    (drawnMarks HeightLoop.init driftingRows).map Prod.snd = [true, false, false] ∧
      ∀ a ∈ driftingRows.head?, ∀ b ∈ driftingRows.getLast?,
        epsilondist < delta a.position b.position := by
  refine ⟨by decide +kernel, fun a ha b hb => (lt_delta_iff _ _).mpr ?_⟩
  obtain rfl := Option.some.inj ha
  obtain rfl := Option.some.inj hb
  decide +kernel

end ObdGpsLogger.Kml

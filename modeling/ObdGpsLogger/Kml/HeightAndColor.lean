import Mathlib.Algebra.Order.Field.Rat
import Mathlib.Data.Rat.Floor
import ObdGpsLogger.Xml.Forest

/-!
# A track in colours

`kmlvalueheightcolor` of `src/kml/heightandcolor.c`: the rows of a trip as
`LineString`s, one for each run of rows of one class. The class of a row is the
first of the bounds that its value is below, and is the number of the style of
its `LineString`.

What the document is to say is a list of runs (`Run`), from which the
`LineString`s are made: each goes on where the one before it ended
(`lineStrings`). The first `Placemark` is written before there is a row, with
style 0, and it is not closed for the first row: `coloured_iff` says that the
colours are right if and only if that row is of class 0.

Mirroring notes:
- What is printed is kept as a list of tags and texts; the white space between
  them is left out. A conversion of `fprintf` is kept as its argument.
- `bounds` are the values of the percentile queries, so that `numcols` is their
  number. An array of a position is read from its end: longitude, latitude,
  height.
- A document is `none` where the division in the loop over the styles is by 0.
-/

namespace ObdGpsLogger.Kml

open Xml

/-- What `fprintf` puts into a text: letters of the format or of a string, a
`%f`, a `%i`, a `%02x`. -/
inductive Piece where
  | lit (s : String)
  | f (x : Rat)
  | i (n : Int)
  | x (n : Int)
  deriving DecidableEq, Repr

abbrev Tag := Markup (List Piece)

/-- A row of the statement; `none` is NULL. -/
structure Row where
  height : Option Rat
  lat : Option Rat
  lon : Option Rat
  col : Option Rat
  deriving DecidableEq, Repr

/-- A position with a height, as the variables `lastpos` and `firstpos` hold it. -/
structure Position where
  lon : Rat
  lat : Rat
  height : Rat
  deriving DecidableEq, Repr

/-- The position of a row, NULL read as 0. -/
def Row.position (r : Row) : Position := ⟨r.lon.getD 0, r.lat.getD 0, r.height.getD 0⟩

/-- The arguments that are only printed. -/
structure Graph where
  name : String
  desc : String
  defaultvis : Int
  start : Rat
  finish : Rat
  trip : Int

/-! ## The writer -/

/-- `styleprefix`: what the names of the styles begin with. -/
def styleprefix : String := "obdgpsStyle"

/-- `percentileposition`: a thousandth, in front of the limits of the classes. -/
def percentileposition (bounds : List Rat) : List Rat := (1 / 1000) :: bounds

/-- The loop that leaves the class of a row in `i`. -/
def percentile (bounds : List Rat) (r : Row) : Nat :=
  ((percentileposition bounds).take bounds.length).findIdx fun bound => r.col.getD 0 < bound

/-- The shade `(i-1)*0xFF/(numcols-1)` of style `i`, divided as integers are. -/
def shade (numcols i : Nat) : Int := Int.tdiv ((i - 1) * 0xFF) (numcols - 1)

/-- The start of the document: its name, its description, and the style of
number 0. -/
def documentHead (g : Graph) : List Tag :=
  [.start "Document" [], .start "Style" [], .start "ListStyle" [], .start "listItemType" [],
    .text [.lit "checkHideChildren"], .stop "listItemType", .stop "ListStyle", .stop "Style",
    .start "visibility" [], .text [.i g.defaultvis], .stop "visibility",
    .start "name" [], .text [.lit g.name], .stop "name",
    .start "description" [], .text [.lit g.desc], .stop "description",
    .start "Style" [("id", [.lit styleprefix, .lit "0"])], .start "LineStyle" [],
    .start "color" [], .text [.lit "00000000"], .stop "color", .stop "LineStyle", .stop "Style"]

/-- The tags of style `i`, for each class from the second style on. -/
def style (i : Nat) (shade : Int) : List Tag :=
  let color := [.start "color" [], .text [.lit "ff00", .x shade, .x (0xFF - shade)], .stop "color"]
  .start "Style" [("id", [.lit styleprefix, .i i])] :: .start "PolyStyle" [] ::
    (color ++ .stop "PolyStyle" :: .start "LineStyle" [] ::
      (color ++ [.stop "LineStyle", .stop "Style"]))

/-- The loop over the styles. `none`: a class alone makes it divide by 0. -/
def styles (numcols : Nat) : Option (List Tag) :=
  ((List.range' 1 numcols).mapM fun i =>
    if (numcols : Int) - 1 = 0 then none else some (style i (shade numcols i))).map List.flatten

/-- `placehead`: a `Placemark` with style `i`, up to its coordinates. -/
def placehead (i : Nat) : List Tag :=
  [.start "Placemark" [], .start "name" [], .text [.lit "chart"], .stop "name",
    .start "styleUrl" [], .text [.lit "#", .lit styleprefix, .i i], .stop "styleUrl",
    .start "LineString" [], .start "extrude" [], .text [.lit "1"], .stop "extrude",
    .start "tessellate" [], .text [.lit "1"], .stop "tessellate",
    .start "altitudeMode" [], .text [.lit "relativeToGround"], .stop "altitudeMode",
    .start "coordinates" []]

/-- `placetail`: the end of a `Placemark`. -/
def placetail : List Tag := [.stop "coordinates", .stop "LineString", .stop "Placemark"]

/-- A position, printed with `"%f,%f,%f"`. -/
def coordinate (p : Position) : List Piece :=
  [.f p.lon, .lit ",", .f p.lat, .lit ",", .f p.height]

/-- The variables of the loop over the rows. -/
structure Loop where
  lastpercentile : Int
  lastpos : Position
  haveFirstpos : Bool
  firstpos : Position

/-- The variables in front of the loop over the rows. -/
def Loop.init : Loop := ⟨-1, ⟨0, 0, 0⟩, false, ⟨0, 0, 0⟩⟩

/-- The variables behind a row: its class, its position, and whether it was the
first. -/
def Loop.next (bounds : List Rat) (s : Loop) (r : Row) : Loop where
  lastpercentile := percentile bounds r
  lastpos := r.position
  haveFirstpos := true
  firstpos := if s.haveFirstpos then s.firstpos else r.position

/-- The tags the loop prints for a row: the end of a line string and the start
of the next one where the class changes, and the coordinates of the row. -/
def Loop.print (bounds : List Rat) (s : Loop) (r : Row) : List Tag :=
  let i := percentile bounds r
  (if s.lastpercentile ≠ i then
    (if 0 ≤ s.lastpercentile then
      placetail ++ placehead i ++ [.text (coordinate s.lastpos)]
    else [])
  else []) ++ [.text (coordinate r.position)]

/-- The loop over the rows: what is printed, and the variables behind it. -/
def rowLoop (bounds : List Rat) : Loop → List Row → List Tag × Loop
  | s, [] => ([], s)
  | s, r :: rows =>
    let rest := rowLoop bounds (s.next bounds r) rows
    (s.print bounds r ++ rest.1, rest.2)

/-- The `Placemark` at an end of the trip: a label, the time there, and the
position. -/
def beacon (ctime : Int → String) (label : String) (trip : Int) (time : Rat) (p : Position) :
    List Tag :=
  [.start "Placemark" [], .start "name" [],
    .text [.lit label, .i trip, .lit " (", .lit (ctime ⌊time⌋), .lit ")"], .stop "name",
    .start "Point" [], .start "coordinates" [], .text (coordinate p), .stop "coordinates",
    .stop "Point", .stop "Placemark"]

/-- `kmlvalueheightcolor`: all that is written for a trip. `none`: the loop over
the styles divides by 0. -/
def kmlvalueheightcolor (ctime : Int → String) (g : Graph) (bounds : List Rat)
    (rows : List Row) : Option (List Tag) :=
  (styles bounds.length).map fun styleTags =>
    let (tags, s) := rowLoop bounds Loop.init rows
    documentHead g ++ styleTags ++ placehead 0 ++ tags ++ placetail ++
      beacon ctime "Start " g.trip g.start s.firstpos ++
      beacon ctime "End " g.trip g.finish s.lastpos ++ [.stop "Document"]

/-! ## What the document is to say -/

/-- Rows of one class, one behind the other. -/
structure Run where
  style : Nat
  rows : List Row
  deriving DecidableEq, Repr

/-- A `LineString` of the document, with the style it refers to. -/
structure LineString where
  style : Nat
  positions : List Position
  deriving DecidableEq, Repr

/-- The `LineString`s of some runs: each starts with the last position of the
one before it. -/
def lineStrings : Option Position → List Run → List LineString
  | _, [] => []
  | before, run :: runs =>
    let positions := before.toList ++ run.rows.map Row.position
    ⟨run.style, positions⟩ :: lineStrings positions.getLast? runs

abbrev Elements := Forest (List Piece)

/-- A `Placemark` with a `LineString`, before other elements. -/
def LineString.element (l : LineString) (rest : Elements) : Elements :=
  .element "Placemark" []
    (.leaf "name" [.lit "chart"] (.leaf "styleUrl" [.lit "#", .lit styleprefix, .i l.style]
      (.element "LineString" [] (.leaf "extrude" [.lit "1"] (.leaf "tessellate" [.lit "1"]
        (.leaf "altitudeMode" [.lit "relativeToGround"]
          (.element "coordinates" []
            (l.positions.foldr (fun p rest => .text (coordinate p) rest) .empty) .empty))))
        .empty))) rest

/-- A `Placemark` with a `Point`, before other elements. -/
def beaconElement (ctime : Int → String) (label : String) (trip : Int) (time : Rat)
    (p : Position) (rest : Elements) : Elements :=
  .element "Placemark" []
    (.leaf "name" [.lit label, .i trip, .lit " (", .lit (ctime ⌊time⌋), .lit ")"]
      (.element "Point" [] (.leaf "coordinates" (coordinate p) .empty) .empty)) rest

/-- The start of the document, before other elements. -/
def headElements (g : Graph) (rest : Elements) : Elements :=
  .element "Style" [] (.element "ListStyle" []
      (.leaf "listItemType" [.lit "checkHideChildren"] .empty) .empty)
    (.leaf "visibility" [.i g.defaultvis] (.leaf "name" [.lit g.name]
      (.leaf "description" [.lit g.desc]
        (.element "Style" [("id", [.lit styleprefix, .lit "0"])]
          (.element "LineStyle" [] (.leaf "color" [.lit "00000000"] .empty) .empty) rest))))

/-- The element `Style` of number `i`, in front of the elements that follow it. -/
def styleElement (i : Nat) (shade : Int) (rest : Elements) : Elements :=
  let color := Forest.leaf "color" [.lit "ff00", .x shade, .x (0xFF - shade)] .empty
  .element "Style" [("id", [.lit styleprefix, .i i])]
    (.element "PolyStyle" [] color (.element "LineStyle" [] color .empty)) rest

/-- The whole document, with the `LineString`s in it. -/
def kmlDoc (ctime : Int → String) (g : Graph) (numcols : Nat) (rows : List Row)
    (lines : List LineString) : Elements :=
  let firstpos := (rows.head?.map Row.position).getD ⟨0, 0, 0⟩
  let lastpos := (rows.getLast?.map Row.position).getD ⟨0, 0, 0⟩
  .element "Document" []
    (headElements g
      ((List.range' 1 numcols).foldr (fun i => styleElement i (shade numcols i))
        (lines.foldr LineString.element
          (beaconElement ctime "Start " g.trip g.start firstpos
            (beaconElement ctime "End " g.trip g.finish lastpos .empty))))) .empty

/-- **A track in the right colours**: the document is that of runs which are
all the rows, in their order, each with the class of its rows for a style. -/
def Coloured (ctime : Int → String) (g : Graph) (bounds : List Rat) (rows : List Row) : Prop :=
  ∃ runs : List Run,
    kmlvalueheightcolor ctime g bounds rows =
      some (kmlDoc ctime g bounds.length rows (lineStrings none runs)).write ∧
    runs.flatMap Run.rows = rows ∧
    ∀ run ∈ runs, ∀ r ∈ run.rows, percentile bounds r = run.style

/-! ## Tags of elements -/

/-- The program writes a style for each class, with a shade of its own, unless
there is only one class: it divides by the number of classes less one. -/
theorem styles_eq {numcols : Nat} (h : numcols ≠ 1) :
    styles numcols =
      some ((List.range' 1 numcols).flatMap fun i => style i (shade numcols i)) := by
  have hne : ¬ (numcols : Int) - 1 = 0 := by omega
  have hall : (List.range' 1 numcols).mapM (fun i => some (style i (shade numcols i))) =
      some ((List.range' 1 numcols).map fun i => style i (shade numcols i)) := List.mapM_pure
  unfold styles
  simp only [if_neg hne]
  rw [hall]
  rfl

theorem write_lineString (l : LineString) (rest : Elements) :
    (l.element rest).write =
      placehead l.style ++ l.positions.map (fun p => .text (coordinate p)) ++ placetail ++
        rest.write := by
  have hpositions : ∀ ps : List Position,
      (ps.foldr (fun p rest => Forest.text (coordinate p) rest) .empty).write =
        ps.map fun p => .text (coordinate p) := by
    intro ps
    induction ps with
    | nil => rfl
    | cons p ps ih => rw [List.foldr_cons, Forest.write, ih, List.map_cons]
  simp [LineString.element, Forest.leaf, Forest.write, hpositions, placehead, placetail]

theorem write_styles (numcols : Nat) (rest : Elements) : ∀ is : List Nat,
    (is.foldr (fun i => styleElement i (shade numcols i)) rest).write =
      is.flatMap (fun i => style i (shade numcols i)) ++ rest.write
  | [] => rfl
  | i :: is => by
    rw [List.foldr_cons, List.flatMap_cons, List.append_assoc, ← write_styles numcols rest is]
    simp [styleElement, style, Forest.leaf, Forest.write]

theorem write_kmlDoc (ctime : Int → String) (g : Graph) (numcols : Nat) (rows : List Row)
    (lines : List LineString) :
    (kmlDoc ctime g numcols rows lines).write =
      documentHead g ++ (List.range' 1 numcols).flatMap (fun i => style i (shade numcols i)) ++
        (lines.foldr LineString.element .empty).write ++
        beacon ctime "Start " g.trip g.start ((rows.head?.map Row.position).getD ⟨0, 0, 0⟩) ++
        beacon ctime "End " g.trip g.finish ((rows.getLast?.map Row.position).getD ⟨0, 0, 0⟩) ++
        [.stop "Document"] := by
  have hlines : ∀ (lines : List LineString) (rest : Elements),
      (lines.foldr LineString.element rest).write =
        (lines.foldr LineString.element .empty).write ++ rest.write := by
    intro lines rest
    induction lines with
    | nil => rfl
    | cons l lines ih => simp [write_lineString, ih]
  have hbeacon : ∀ (label : String) (time : Rat) (p : Position) (rest : Elements),
      (beaconElement ctime label g.trip time p rest).write =
        beacon ctime label g.trip time p ++ rest.write := by
    intro label time p rest
    simp [beaconElement, beacon, Forest.leaf, Forest.write]
  simp only [kmlDoc, headElements, Forest.leaf, Forest.write, write_styles, documentHead]
  rw [hlines, hbeacon, hbeacon]
  simp [Forest.write]

/-! ## One document, one list of `LineString`s -/

theorem positions_injective : ∀ {ps qs : List Position},
    ps.foldr (fun p rest => .text (coordinate p) rest) .empty =
      qs.foldr (fun p rest => .text (coordinate p) rest) (.empty : Elements) → ps = qs
  | [], [], _ => rfl
  | [], q :: qs, h => by cases h
  | p :: ps, [], h => by cases h
  | p :: ps, q :: qs, h => by
    obtain ⟨plon, plat, pheight⟩ := p
    obtain ⟨qlon, qlat, qheight⟩ := q
    obtain ⟨hp, hrest⟩ := Forest.text.inj h
    simp only [coordinate, List.cons.injEq, Piece.f.injEq, true_and, and_true] at hp
    obtain ⟨rfl, rfl, rfl⟩ := hp
    rw [positions_injective hrest]

theorem lineString_injective {l m : LineString} {f g : Elements} (h : l.element f = m.element g) :
    l = m ∧ f = g := by
  obtain ⟨lstyle, lpositions⟩ := l
  obtain ⟨mstyle, mpositions⟩ := m
  simp only [LineString.element, Forest.leaf, Forest.element.injEq, Forest.text.injEq,
    List.cons.injEq, Piece.i.injEq, true_and, and_true, Int.natCast_inj] at h
  obtain ⟨⟨rfl, hpositions⟩, hrest⟩ := h
  exact ⟨by rw [positions_injective hpositions], hrest⟩

/-- The element of a beacon, which has a point and a label, is not the element
of any line string. -/
theorem beacon_ne_lineString {ctime : Int → String} {label : String} {trip : Int} {time : Rat}
    {p : Position} {f g : Elements} {l : LineString} :
    beaconElement ctime label trip time p f ≠ l.element g := by
  intro h
  simp [beaconElement, LineString.element, Forest.leaf] at h

theorem lines_injective {ctime : Int → String} {label : String} {trip : Int} {time : Rat}
    {p : Position} {f : Elements} : ∀ {ls ms : List LineString},
    ls.foldr LineString.element (beaconElement ctime label trip time p f) =
      ms.foldr LineString.element (beaconElement ctime label trip time p f) → ls = ms
  | [], [], _ => rfl
  | [], m :: ms, h => absurd h beacon_ne_lineString
  | l :: ls, [], h => absurd h.symm beacon_ne_lineString
  | l :: ls, m :: ms, h => by
    obtain ⟨rfl, hrest⟩ := lineString_injective h
    rw [lines_injective hrest]

theorem kmlDoc_injective {ctime : Int → String} {g : Graph} {numcols : Nat} {rows : List Row}
    {ls ms : List LineString}
    (h : (kmlDoc ctime g numcols rows ls).write = (kmlDoc ctime g numcols rows ms).write) :
    ls = ms := by
  have hstyles : ∀ (is : List Nat) {a b : Elements},
      is.foldr (fun i => styleElement i (shade numcols i)) a =
        is.foldr (fun i => styleElement i (shade numcols i)) b → a = b := by
    intro is
    induction is with
    | nil => exact fun h => h
    | cons i is ih => exact fun h => ih (Forest.element.inj h).2.2.2
  obtain ⟨-, -, hinside, -⟩ := Forest.element.inj (write_injective h)
  simp only [headElements, Forest.leaf, Forest.element.injEq, true_and] at hinside
  exact lines_injective (hstyles _ hinside)

/-! ## The loop over the rows -/

variable {bounds : List Rat}

/-- What the loop leaves in its variables: the position of the last row in
`lastpos`, and that of the first row it has seen in `firstpos`. -/
theorem rowLoop_state : ∀ (s : Loop) (rows : List Row),
    (rowLoop bounds s rows).2.lastpos = (rows.getLast?.map Row.position).getD s.lastpos ∧
      (rowLoop bounds s rows).2.firstpos =
        if s.haveFirstpos then s.firstpos else (rows.head?.map Row.position).getD s.firstpos
  | s, [] => ⟨rfl, by simp [rowLoop]⟩
  | s, r :: rows => by
    obtain ⟨hlast, hfirst⟩ := rowLoop_state (s.next bounds r) rows
    refine ⟨?_, ?_⟩
    · rw [rowLoop, hlast, List.getLast?_cons]
      cases rows.getLast? <;> rfl
    · rw [rowLoop, hfirst]
      simp [Loop.next]

/-- The `LineString`s of some rows, behind one that has been begun with rows of
class `c`. -/
def linesFrom (bounds : List Rat) (c : Nat) (l : LineString) : List Row → List LineString
  | [] => [l]
  | r :: rows =>
    if percentile bounds r = c then
      linesFrom bounds c ⟨l.style, l.positions ++ [r.position]⟩ rows
    else
      l :: linesFrom bounds (percentile bounds r)
        ⟨percentile bounds r, l.positions.getLast?.toList ++ [r.position]⟩ rows

/-- **What the loop writes** behind the beginning of a `LineString`. -/
theorem write_linesFrom : ∀ (rows : List Row) {l : LineString} {s : Loop} {c : Nat},
    s.lastpercentile = c → l.positions.getLast? = some s.lastpos →
    ((linesFrom bounds c l rows).foldr LineString.element .empty).write =
      placehead l.style ++ l.positions.map (fun p => .text (coordinate p)) ++
        (rowLoop bounds s rows).1 ++ placetail
  | [], l, s, c, _, _ => by
    show (l.element .empty).write = _
    rw [write_lineString]
    simp [rowLoop, Forest.write]
  | r :: rows, l, s, c, hc, hlast => by
    have hlast' : ∀ ps : List Position, (ps ++ [r.position]).getLast? =
        some (s.next bounds r).lastpos := fun ps => List.getLast?_concat
    rw [linesFrom, rowLoop, Loop.print, hc]
    -- the `LineString` goes on, or is closed and another opened
    by_cases hsame : percentile bounds r = c
    · have hnext : (s.next bounds r).lastpercentile = c := by rw [← hsame]; rfl
      rw [if_pos hsame, write_linesFrom rows hnext (hlast' _), if_neg (by simp [hsame])]
      simp
    · have hne : ¬ (c : Int) = percentile bounds r := fun h => hsame (Int.ofNat.inj h).symm
      rw [if_neg hsame, if_pos hne, if_pos (Int.natCast_nonneg c), List.foldr_cons,
        write_lineString, write_linesFrom rows rfl (hlast' _), hlast]
      simp

/-- The first row goes on with the `Placemark` that is there. -/
theorem kmlvalueheightcolor_cons (ctime : Int → String) (g : Graph) (h : bounds.length ≠ 1)
    (r : Row) (rows : List Row) :
    kmlvalueheightcolor ctime g bounds (r :: rows) =
      some (kmlDoc ctime g bounds.length (r :: rows)
        (linesFrom bounds (percentile bounds r) ⟨0, [r.position]⟩ rows)).write := by
  obtain ⟨hlast, hfirst⟩ := @rowLoop_state bounds Loop.init (r :: rows)
  have hprint : Loop.init.print bounds r = [.text (coordinate r.position)] := by
    rw [Loop.print, if_neg (show ¬ (0 : Int) ≤ Loop.init.lastpercentile by decide)]
    simp
  rw [kmlvalueheightcolor, styles_eq h, write_kmlDoc,
    write_linesFrom (s := Loop.init.next bounds r) rows rfl rfl]
  simp only [Option.map_some, Option.some.injEq, hlast, hfirst]
  rw [rowLoop, hprint]
  simp [Loop.init]

/-! ## Runs -/

/-- The runs of some rows, behind one that has been begun. -/
def runsFrom (bounds : List Rat) (c : Nat) (begun : List Row) : List Row → List Run
  | [] => [⟨c, begun⟩]
  | r :: rows =>
    if percentile bounds r = c then runsFrom bounds c (begun ++ [r]) rows
    else ⟨c, begun⟩ :: runsFrom bounds (percentile bounds r) [r] rows

theorem linesFrom_eq : ∀ (rows : List Row) (c : Nat) (before : Option Position) (begun : List Row),
    linesFrom bounds c ⟨c, before.toList ++ begun.map Row.position⟩ rows =
      lineStrings before (runsFrom bounds c begun rows)
  | [], _, _, _ => rfl
  | r :: rows, c, before, begun => by
    rw [linesFrom, runsFrom]
    split
    · rw [← linesFrom_eq rows c before (begun ++ [r]), List.map_append, List.append_assoc]
      rfl
    · rw [lineStrings, ← linesFrom_eq rows (percentile bounds r) _ [r]]
      rfl

/-- The runs into which the rows are cut are all of the rows, in order, and the
rows of each run are of one class, that of its style. -/
theorem runsFrom_spec : ∀ (rows : List Row) (c : Nat) (begun : List Row),
    (∀ r ∈ begun, percentile bounds r = c) →
    (runsFrom bounds c begun rows).flatMap Run.rows = begun ++ rows ∧
      ∀ run ∈ runsFrom bounds c begun rows, ∀ r ∈ run.rows, percentile bounds r = run.style
  | [], c, begun, h => by
    refine ⟨by simp [runsFrom], fun run hrun => ?_⟩
    obtain rfl := List.mem_singleton.mp hrun
    exact h
  | r :: rows, c, begun, h => by
    rw [runsFrom]
    by_cases hsame : percentile bounds r = c
    · rw [if_pos hsame]
      obtain ⟨hall, hclass⟩ := runsFrom_spec rows c (begun ++ [r]) (by
        intro r' hr'
        rcases List.mem_append.mp hr' with hr' | hr'
        · exact h r' hr'
        · rw [List.mem_singleton.mp hr', hsame])
      exact ⟨by rw [hall, List.append_assoc]; rfl, hclass⟩
    · rw [if_neg hsame]
      obtain ⟨hall, hclass⟩ := runsFrom_spec rows (percentile bounds r) [r] (by simp)
      refine ⟨by rw [List.flatMap_cons, hall]; rfl, fun run hrun => ?_⟩
      rcases List.mem_cons.mp hrun with rfl | hrun
      · exact h
      · exact hclass run hrun

/-- The first `LineString` keeps its style and what it was begun with. -/
theorem linesFrom_head : ∀ (rows : List Row) (c : Nat) (l : LineString),
    ∃ more lines, linesFrom bounds c l rows = ⟨l.style, l.positions ++ more⟩ :: lines
  | [], c, l => ⟨[], [], by simp [linesFrom]⟩
  | r :: rows, c, l => by
    rw [linesFrom]
    split
    · obtain ⟨more, lines, h⟩ := linesFrom_head rows c ⟨l.style, l.positions ++ [r.position]⟩
      exact ⟨r.position :: more, lines, by rw [h]; simp⟩
    · exact ⟨[], _, by rw [List.append_nil]⟩

/-! ## The colours -/

/-- The first row of a document in the right colours is of class 0. -/
theorem Coloured.first {ctime : Int → String} {g : Graph} {rows : List Row}
    (h : Coloured ctime g bounds rows) :
    bounds.length ≠ 1 ∧ ∀ r ∈ rows.head?, percentile bounds r = 0 := by
  obtain ⟨runs, hdoc, hrows, hclass⟩ := h
  have hone : bounds.length ≠ 1 := by
    intro hone
    rw [kmlvalueheightcolor, hone] at hdoc
    cases hdoc
  refine ⟨hone, fun r hr => ?_⟩
  obtain ⟨rest, rfl⟩ := List.head?_eq_some_iff.mp hr
  rw [kmlvalueheightcolor_cons ctime g hone] at hdoc
  obtain ⟨more, lines, hhead⟩ := @linesFrom_head bounds rest (percentile bounds r)
    ⟨0, [r.position]⟩
  have hlines := kmlDoc_injective (Option.some.inj hdoc)
  rw [hhead] at hlines
  rcases runs with _ | ⟨run, runs⟩
  · cases hlines
  · obtain ⟨hfirst, -⟩ := List.cons.inj hlines
    obtain ⟨hstyle, hpositions⟩ := LineString.mk.inj hfirst
    -- the run has a row, which is the first of all
    rcases hrun : run.rows with _ | ⟨r', rs⟩
    · rw [hrun] at hpositions
      cases hpositions
    · rw [List.flatMap_cons, hrun] at hrows
      obtain ⟨rfl, -⟩ := List.cons.inj hrows
      rw [hclass run (List.mem_cons_self ..) _ (hrun ▸ List.mem_cons_self ..), ← hstyle]

/-- **Colours of a track**: they are right if and only if the first row, if
there is one, is of class 0, and there is not one colour. -/
theorem coloured_iff (ctime : Int → String) (g : Graph) (bounds : List Rat) (rows : List Row) :
    Coloured ctime g bounds rows ↔
      bounds.length ≠ 1 ∧ ∀ r ∈ rows.head?, percentile bounds r = 0 := by
  refine ⟨Coloured.first, ?_⟩
  rintro ⟨hone, hfirst⟩
  rcases rows with _ | ⟨r, rows⟩
  · refine ⟨[⟨0, []⟩], ?_, rfl, by simp⟩
    rw [kmlvalueheightcolor, styles_eq hone, write_kmlDoc]
    simp [rowLoop, Loop.init, lineStrings, write_lineString, Forest.write]
  · have hzero := hfirst r rfl
    obtain ⟨hall, hclass⟩ := runsFrom_spec rows 0 [r] fun r' hr' => by
      rw [List.mem_singleton.mp hr', hzero]
    refine ⟨runsFrom bounds 0 [r] rows, ?_, hall, hclass⟩
    rw [kmlvalueheightcolor_cons ctime g hone, hzero, ← linesFrom_eq]
    rfl

/-- Five percentiles of the speed of an engine. -/
def rpmBounds : List Rat := [800, 1200, 1600, 2400, 4000]

/-- A row at 1000 turns a minute, drawn at a height of 50. -/
def cruisingRow : Row := ⟨some 50, some 51, some 7, some 1000⟩

/-- A track of one row of class 2 is drawn in style 0, which is invisible. -/
theorem cruisingRow_invisible :
    percentile rpmBounds cruisingRow = 2 ∧
      linesFrom rpmBounds 2 ⟨0, [cruisingRow.position]⟩ [] = [⟨0, [⟨7, 51, 50⟩]⟩] ∧
      ¬ Coloured (fun _ => "") ⟨"Trip #1", "", 1, 0, 60, 1⟩ rpmBounds [cruisingRow] := by
  have hclass : percentile rpmBounds cruisingRow = 2 := by decide +kernel
  refine ⟨hclass, rfl, fun h => ?_⟩
  have hzero := h.first.2 cruisingRow rfl
  rw [hclass] at hzero
  cases hzero

end ObdGpsLogger.Kml

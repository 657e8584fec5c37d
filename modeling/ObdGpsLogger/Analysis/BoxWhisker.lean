import Mathlib.Data.List.GetD
import Mathlib.Data.List.Pairwise
import ObdGpsLogger.CLib.Arith

/-!
# Quartiles for a box plot

The two quartile loops of `src/analysis/boxwhisker.c`: a query is stepped through
twice, first to count its rows, and then to take the values at five of them.
`pos` and `quartiles` have five elements, and are used for two queries per
column.

The inner loop goes on to `j = 5`, so every row is compared with what stands
behind `pos`. If that is the number of a row, an element behind `quartiles` is
written too. All the same, the five values are what they should be
(`columnBox_values`). A query without rows leaves in the array what the one
before has put there (`second_stale`). So a column is treated as it should be
only where the log has no rows at all (`boxWhisker_iff`).

Mirroring notes:
- Values are exact, and the number of rows fits an `int`.
- The second query selects among the rows of the first. Both are sorted.
- `before` is what the array holds when the column is begun: it is not
  initialised. Every column is selected from the same rows, so where the first
  query of a column has none, no query before it had any.
- `behind` is the `int` behind `pos`. A write behind `quartiles` changes none of
  its elements.
- The indices with which the two arrays are accessed in the loops are kept.
-/

namespace ObdGpsLogger.Analysis

open CLib

/-! ## The code -/

/-- The array `pos`: at which rows of a query of `cnt` rows the five numbers are
taken. -/
def quartilePos (cnt : Nat) : List Int :=
  [0, trunc (cnt * 1 / 4), trunc (cnt * 2 / 4), trunc (cnt * 3 / 4), cnt - 1]

/-- What a pass over a query works on: the five numbers, the two extremes that
were seen, and the indices of `pos` and `quartiles` it has used. -/
structure QuartileState where
  quartiles : List Rat
  maxVal : Rat
  minVal : Rat
  posIndices : List Nat
  quartileIndices : List Nat
  deriving DecidableEq, Repr

/-- What `pos[j]` reads: an entry of the array, or the cell `behind` it. -/
def posAt (pos : List Int) (behind : Int) (j : Nat) : Int := pos.getD j behind

/-- The body of the loop over `j`: the value of the current row is taken where
the row is the one that `pos[j]` names. -/
def quartileStep (pos : List Int) (behind : Int) (cnt : Nat) (value : Rat) (s : QuartileState)
    (j : Nat) : QuartileState :=
  if (cnt : Int) = posAt pos behind j then
    { quartiles := s.quartiles.set j value
      maxVal := if s.maxVal < value then value else s.maxVal
      minVal := if value < s.minVal then value else s.minVal
      posIndices := s.posIndices ++ [j]
      quartileIndices := s.quartileIndices ++ [j] }
  else { s with posIndices := s.posIndices ++ [j] }

/-- A row of the second pass, and its number: `j<=5`. -/
def quartileRow (pos : List Int) (behind : Int) (s : QuartileState) (row : Rat × Nat) :
    QuartileState :=
  (List.range 6).foldl (quartileStep pos behind row.2 row.1) s

/-- Both passes over one query: the first counts its rows and sets `pos`, the
second goes over the rows again and fills `quartiles`. -/
def quartileLoop (behind : Int) (samples : List Rat) (s : QuartileState) : QuartileState :=
  samples.zipIdx.foldl (quartileRow (quartilePos samples.length) behind) s

/-- The two queries of a column: over all rows, and over those in which the car
moves; and what the array has in it before them. -/
structure ColumnQueries where
  all : List Rat
  moving : List Rat
  ascending : all.Pairwise (· ≤ ·)
  sub : moving.Sublist all
  before : List Rat
  five : before.length = 5

/-- The variables after the first query of a column, which begins with the five
numbers that an earlier column has left. -/
def ColumnQueries.first (behind : Int) (q : ColumnQueries) : QuartileState :=
  quartileLoop behind q.all ⟨q.before, -10000, 10000, [], []⟩

/-- The second has been run too, on the same array. -/
def ColumnQueries.second (behind : Int) (q : ColumnQueries) : QuartileState :=
  quartileLoop behind q.moving (q.first behind)

/-- The values of the two data lines of a column. -/
def columnBox (behind : Int) (q : ColumnQueries) : List Rat × List Rat :=
  ((q.first behind).quartiles, (q.second behind).quartiles)

/-! ## What is to be reported -/

/-- The five rows of a query with `n` of them. -/
def fivePositions (n : Nat) : List Nat := [0, n / 4, n / 2, 3 * n / 4, n - 1]

/-- The values at these rows, in order, and between the smallest and the largest. -/
structure FiveValues (samples quartiles : List Rat) : Prop where
  values : quartiles = (fivePositions samples.length).map fun p => samples.getD p 0
  ascending : quartiles.Pairwise (· ≤ ·)
  bounds : ∀ x ∈ quartiles, (∀ lo ∈ samples.head?, lo ≤ x) ∧ ∀ hi ∈ samples.getLast?, x ≤ hi

/-- What the loops should do with a column: access the five elements only, report
for each query with rows the values at its five rows, and for the second query, if
it has none, nothing that the first has written. -/
structure BoxWhisker (behind : Int) (q : ColumnQueries) : Prop where
  posInside : ∀ j ∈ (q.second behind).posIndices, j < 5
  quartilesInside : ∀ j ∈ (q.second behind).quartileIndices, j < 5
  allValues : q.all ≠ [] → FiveValues q.all (columnBox behind q).1
  movingValues : q.moving ≠ [] → FiveValues q.moving (columnBox behind q).2
  fresh : q.moving = [] → ∀ j < 5, j ∉ (q.first behind).quartileIndices

/-! ## The positions -/

theorem trunc_quarters (n k : Nat) : trunc ((n : Rat) * k / 4) = ((k * n / 4 : Nat) : Int) := by
  have hnonneg : 0 ≤ (n : Rat) * k / 4 := by positivity
  have hquot : (n : Rat) * k / 4 = ((k * n : Nat) : Rat) / (4 : Nat) := by
    push_cast
    ring
  rw [trunc, if_pos hnonneg, hquot, Rat.floor_natCast_div_natCast]
  norm_cast

theorem quartilePos_eq {n : Nat} (h : 0 < n) :
    quartilePos n = (fivePositions n).map fun p : Nat => (p : Int) := by
  have h1 := trunc_quarters n 1
  have h2 := trunc_quarters n 2
  have h3 := trunc_quarters n 3
  push_cast at h1 h2 h3
  rw [quartilePos, h1, h2, h3, fivePositions]
  simp only [List.map_cons, List.map_nil, List.cons.injEq, and_true]
  refine ⟨rfl, ?_, ?_, ?_, ?_⟩ <;> omega

/-- The five rows are rows of the query, in order. -/
theorem fivePositions_ascending {n : Nat} (h : 0 < n) :
    (fivePositions n).Pairwise (· ≤ ·) ∧ ∀ p ∈ fivePositions n, p < n := by
  refine ⟨?_, fun p hp => ?_⟩
  · simp only [fivePositions, List.pairwise_cons, List.mem_cons, List.not_mem_nil, or_false,
      forall_eq_or_imp, forall_eq, List.Pairwise.nil, and_true, IsEmpty.forall_iff, implies_true]
    omega
  · simp only [fivePositions, List.mem_cons, List.not_mem_nil, or_false] at hp
    omega

/-! ## The loops -/

section Loops

variable {pos : List Int} {behind : Int}

@[simp] theorem quartileStep_quartiles (cnt : Nat) (value : Rat) (s : QuartileState) (j : Nat) :
    (quartileStep pos behind cnt value s j).quartiles =
      if (cnt : Int) = posAt pos behind j then s.quartiles.set j value else s.quartiles := by
  unfold quartileStep
  split <;> rfl

@[simp] theorem quartileStep_posIndices (cnt : Nat) (value : Rat) (s : QuartileState) (j : Nat) :
    (quartileStep pos behind cnt value s j).posIndices = s.posIndices ++ [j] := by
  unfold quartileStep
  split <;> rfl

theorem quartileSteps_length (cnt : Nat) (value : Rat) (js : List Nat) (s : QuartileState) :
    (js.foldl (quartileStep pos behind cnt value) s).quartiles.length = s.quartiles.length := by
  induction js generalizing s with
  | nil => rfl
  | cons j js ih =>
    rw [List.foldl_cons, ih, quartileStep_quartiles]
    split
    · exact List.length_set
    · rfl

/-- An element is set by the `j` of its own position. -/
theorem quartileSteps_getElem? (cnt : Nat) (value : Rat) (i : Nat) :
    ∀ (js : List Nat) (s : QuartileState), i < s.quartiles.length →
      (js.foldl (quartileStep pos behind cnt value) s).quartiles[i]? =
        if i ∈ js ∧ (cnt : Int) = posAt pos behind i then some value else s.quartiles[i]? := by
  intro js
  induction js with
  | nil =>
    intro s _
    rw [List.foldl_nil, if_neg fun h => absurd h.1 List.not_mem_nil]
  | cons j js ih =>
    intro s hi
    have hlen := @quartileSteps_length pos behind cnt value [j] s
    rw [List.foldl_cons, ih _ (hlen.symm ▸ hi), quartileStep_quartiles]
    by_cases hj : j = i
    · subst hj
      by_cases hpos : (cnt : Int) = posAt pos behind j
      · rw [if_pos hpos, List.getElem?_set_self hi, ite_self, if_pos ⟨List.mem_cons_self .., hpos⟩]
      · rw [if_neg fun h => hpos h.2, if_neg hpos, if_neg fun h => hpos h.2]
    · have hset : (if (cnt : Int) = posAt pos behind j then s.quartiles.set j value
          else s.quartiles)[i]? = s.quartiles[i]? := by
        split
        · exact List.getElem?_set_ne hj
        · rfl
      have hmem : i ∈ j :: js ↔ i ∈ js := by
        rw [List.mem_cons, or_iff_right (Ne.symm hj)]
      rw [hset]
      exact if_congr (and_congr hmem.symm Iff.rfl) rfl rfl

/-- **A row** sets the elements whose positions are its number. -/
theorem quartileRow_getElem? (row : Rat × Nat) {i : Nat} (hi : i < 5) {s : QuartileState}
    (hlen : s.quartiles.length = 5) : (quartileRow pos behind s row).quartiles[i]? =
      if (row.2 : Int) = posAt pos behind i then some row.1 else s.quartiles[i]? := by
  have hmem : i ∈ List.range 6 := List.mem_range.mpr (by omega)
  rw [quartileRow, quartileSteps_getElem? row.2 row.1 i _ s (by omega)]
  simp only [hmem, true_and]

/-- **The rows** from a number on: an element gets the value of the row at its
position, if that is among them. -/
theorem quartileRows_getElem? {i : Nat} (hi : i < 5) : ∀ (samples : List Rat) (k : Nat)
    (s : QuartileState), s.quartiles.length = 5 →
    ((samples.zipIdx k).foldl (quartileRow pos behind) s).quartiles.length = 5 ∧
    ((samples.zipIdx k).foldl (quartileRow pos behind) s).quartiles[i]? =
      if (k : Int) ≤ posAt pos behind i ∧ posAt pos behind i < k + samples.length then
        samples[(posAt pos behind i - k).toNat]?
      else s.quartiles[i]? := by
  intro samples
  induction samples with
  | nil =>
    intro k s hlen
    refine ⟨hlen, ?_⟩
    rw [if_neg]
    · rfl
    · rw [List.length_nil]
      omega
  | cons v samples ih =>
    intro k s hlen
    have hrow := @quartileRow_getElem? pos behind (v, k) i hi s hlen
    have hrowLen : (quartileRow pos behind s (v, k)).quartiles.length = 5 :=
      (quartileSteps_length k v (List.range 6) s).trans hlen
    rw [List.zipIdx_cons, List.foldl_cons]
    obtain ⟨hrestLen, hrest⟩ := ih (k + 1) _ hrowLen
    refine ⟨hrestLen, ?_⟩
    rw [hrest, hrow]
    -- the row is before the position, at it, or behind it
    rcases Int.lt_trichotomy (k : Int) (posAt pos behind i) with hlt | heq | hgt
    · have hidx : (posAt pos behind i - k).toNat =
          (posAt pos behind i - (k + 1 : Nat)).toNat + 1 := by
        omega
      rw [if_neg (Int.ne_of_lt hlt), hidx, List.getElem?_cons_succ, List.length_cons]
      refine if_congr ?_ rfl rfl
      omega
    · have hidx : (posAt pos behind i - k).toNat = 0 := by omega
      rw [if_pos heq, hidx, List.getElem?_cons_zero, List.length_cons]
      rw [if_neg (by omega), if_pos (by omega)]
    · rw [if_neg (by omega), if_neg (Int.ne_of_gt hgt), if_neg (by omega)]

/-- The inner loop reads `pos[0]` to `pos[5]` for every row, so each row is
compared with the `int` that stands behind `pos`. -/
theorem quartileRow_posIndices (row : Rat × Nat) (s : QuartileState) :
    (quartileRow pos behind s row).posIndices = s.posIndices ++ List.range 6 := by
  have hsteps : ∀ (js : List Nat) (s : QuartileState),
      (js.foldl (quartileStep pos behind row.2 row.1) s).posIndices = s.posIndices ++ js := by
    intro js
    induction js with
    | nil => exact fun s => (List.append_nil _).symm
    | cons j js ih =>
      intro s
      rw [List.foldl_cons, ih, quartileStep_posIndices, List.append_assoc]
      rfl
  exact hsteps _ s

end Loops

/-! ## Queries -/

/-- An ascending list is ascending in its positions. -/
theorem getD_mono {samples : List Rat} (hasc : samples.Pairwise (· ≤ ·)) {p q : Nat}
    (hle : p ≤ q) (hq : q < samples.length) : samples.getD p 0 ≤ samples.getD q 0 := by
  rw [List.getD_eq_getElem samples 0 (Nat.lt_of_le_of_lt hle hq), List.getD_eq_getElem samples 0 hq]
  rcases Nat.lt_or_eq_of_le hle with hlt | rfl
  · exact List.pairwise_iff_getElem.mp hasc p q _ _ hlt
  · exact le_refl _

theorem posAt_quartilePos (behind : Int) {n i : Nat} (h : 0 < n)
    (hi : i < (fivePositions n).length) :
    posAt (quartilePos n) behind i = ((fivePositions n)[i] : Nat) := by
  rw [posAt, quartilePos_eq h, List.getD_eq_getElem?_getD, List.getElem?_map,
    List.getElem?_eq_getElem hi]
  rfl

/-- **The five values** are right, whatever was in the array before. -/
theorem quartileLoop_values (behind : Int) {samples : List Rat} (hne : samples ≠ [])
    (hasc : samples.Pairwise (· ≤ ·)) {s : QuartileState} (hlen : s.quartiles.length = 5) :
    FiveValues samples (quartileLoop behind samples s).quartiles := by
  have hpos : 0 < samples.length := List.length_pos_of_ne_nil hne
  obtain ⟨hordered, hrows⟩ := fivePositions_ascending hpos
  -- each element of the array is the sample at its position of the five
  have hvalues : (quartileLoop behind samples s).quartiles =
      (fivePositions samples.length).map fun p => samples.getD p 0 := by
    refine List.ext_getElem? fun i => ?_
    by_cases hi : i < (fivePositions samples.length).length
    · have hrow := hrows _ (List.getElem_mem hi)
      have hat := posAt_quartilePos behind hpos hi
      obtain ⟨-, hget⟩ := @quartileRows_getElem? (quartilePos samples.length) behind i hi samples 0
        s hlen
      rw [quartileLoop, hget, hat, if_pos (by omega), List.getElem?_map,
        List.getElem?_eq_getElem hi, Option.map_some, List.getD_eq_getElem samples 0 hrow]
      exact List.getElem?_eq_getElem hrow
    · obtain ⟨hlen', -⟩ := @quartileRows_getElem? (quartilePos samples.length) behind 0
        (by decide) samples 0 s hlen
      rw [quartileLoop,
        List.getElem?_eq_none (Nat.le_trans (Nat.le_of_eq hlen') (Nat.not_lt.mp hi)),
        List.getElem?_eq_none (by rw [List.length_map]; exact Nat.not_lt.mp hi)]
  refine ⟨hvalues, ?_, ?_⟩
  · -- the positions ascend, and so do the samples
    rw [hvalues, List.pairwise_map]
    exact hordered.imp_of_mem fun _ hq hle => getD_mono hasc hle (hrows _ hq)
  · -- each position is that of a row, so the value is between the first and the last
    rw [hvalues, List.forall_mem_map]
    intro p hp
    have hrow := hrows p hp
    refine ⟨fun lo hlo => ?_, fun hi hhi => ?_⟩
    · rw [List.head?_eq_getElem?, List.getElem?_eq_getElem hpos] at hlo
      obtain rfl := Option.some.inj hlo
      rw [← List.getD_eq_getElem samples 0 hpos]
      exact getD_mono hasc (Nat.zero_le p) hrow
    · have hlast : samples.length - 1 < samples.length := Nat.sub_lt hpos Nat.one_pos
      rw [List.getLast?_eq_getElem?, List.getElem?_eq_getElem hlast] at hhi
      obtain rfl := Option.some.inj hhi
      rw [← List.getD_eq_getElem samples 0 hlast]
      exact getD_mono hasc (Nat.le_sub_one_of_lt hrow) hlast

/-- A query changes elements of the array only. -/
theorem quartileLoop_length (behind : Int) (samples : List Rat) {s : QuartileState}
    (hlen : s.quartiles.length = 5) : (quartileLoop behind samples s).quartiles.length = 5 :=
  (@quartileRows_getElem? (quartilePos samples.length) behind 0 (by decide) samples 0 s hlen).1

/-- **Both data lines** of a column have the right five values, each wherever
the query it is made of has rows. -/
theorem columnBox_values (behind : Int) (q : ColumnQueries) :
    (q.all ≠ [] → FiveValues q.all (columnBox behind q).1) ∧
      (q.moving ≠ [] → FiveValues q.moving (columnBox behind q).2) :=
  ⟨fun hne => quartileLoop_values behind hne q.ascending q.five, fun hne =>
    quartileLoop_values behind hne (q.ascending.sublist q.sub)
      (quartileLoop_length behind q.all q.five)⟩

/-- A query without rows leaves the array as it was. -/
theorem quartileLoop_nil (behind : Int) (s : QuartileState) : quartileLoop behind [] s = s := rfl

/-- An index that has been used stays among those used. -/
theorem quartileRows_posIndices {pos : List Int} {behind : Int} {j : Nat}
    (rows : List (Rat × Nat)) {s : QuartileState} (h : j ∈ s.posIndices) :
    j ∈ (rows.foldl (quartileRow pos behind) s).posIndices := by
  induction rows generalizing s with
  | nil => exact h
  | cons row rows ih =>
    rw [List.foldl_cons]
    refine ih ?_
    rw [quartileRow_posIndices]
    exact List.mem_append_left _ h

/-- A query with a row reads what is behind `pos`. -/
theorem quartileLoop_posIndices (behind : Int) {samples : List Rat} (hne : samples ≠ [])
    (s : QuartileState) : 5 ∈ (quartileLoop behind samples s).posIndices := by
  obtain ⟨v, samples, rfl⟩ := List.exists_cons_of_ne_nil hne
  rw [quartileLoop, List.zipIdx_cons, List.foldl_cons]
  refine quartileRows_posIndices _ ?_
  rw [quartileRow_posIndices]
  exact List.mem_append_right _ (List.mem_range.mpr (by decide))

/-- **The second data line** of a column which has no moving row is the first. -/
theorem second_stale (behind : Int) {q : ColumnQueries} (h : q.moving = []) :
    (columnBox behind q).2 = (columnBox behind q).1 := by
  rw [columnBox, ColumnQueries.second, h, quartileLoop_nil]

/-- The rows in which the car moves are among all rows, so where the log has no
row, the second query has none either. -/
theorem ColumnQueries.moving_nil {q : ColumnQueries} (h : q.all = []) : q.moving = [] :=
  List.sublist_nil.mp (h ▸ q.sub)

/-- **A column** is treated as it should be exactly if the log has no rows: any row
is compared with what stands behind `pos`. -/
theorem boxWhisker_iff (behind : Int) (q : ColumnQueries) :
    BoxWhisker behind q ↔ q.all = [] := by
  constructor
  · intro h
    by_contra hne
    -- the second query only adds to the indices of the first
    have hread : 5 ∈ (q.second behind).posIndices :=
      quartileRows_posIndices _ (quartileLoop_posIndices behind hne _)
    exact absurd (h.posInside 5 hread) (by decide)
  · intro hall
    have hfirst : q.first behind = ⟨q.before, -10000, 10000, [], []⟩ := by
      rw [ColumnQueries.first, hall, quartileLoop_nil]
    have hsecond : q.second behind = ⟨q.before, -10000, 10000, [], []⟩ := by
      rw [ColumnQueries.second, q.moving_nil hall, quartileLoop_nil, hfirst]
    refine ⟨?_, ?_, fun h => absurd hall h, fun h => absurd (q.moving_nil hall) h, fun _ j _ => ?_⟩
    · rw [hsecond]
      exact fun _ hj => absurd hj List.not_mem_nil
    · rw [hsecond]
      exact fun _ hj => absurd hj List.not_mem_nil
    · rw [hfirst]
      exact List.not_mem_nil

/-- One row, in which the car stands still. -/
def oneRow : ColumnQueries where
  all := [5 / 2]
  moving := []
  ascending := List.pairwise_singleton ..
  sub := List.nil_sublist _
  before := [0, 0, 0, 0, 0]
  five := rfl

/-- For this row `pos[5]` is read, and its value is reported again as that of the
rows in which the car moves. -/
theorem oneRow_outside : ¬ BoxWhisker 7 oneRow ∧ 5 ∈ (oneRow.first 7).posIndices ∧
    oneRow.moving = [] ∧ 0 ∈ (oneRow.first 7).quartileIndices ∧
    (columnBox 7 oneRow).2 = [5 / 2, 5 / 2, 5 / 2, 5 / 2, 5 / 2] := by
  have hread : 5 ∈ (oneRow.second 7).posIndices := by decide +kernel
  refine ⟨fun h => ?_, hread, rfl, by decide +kernel, by decide +kernel⟩
  exact absurd (h.posInside 5 hread) (by decide)

end ObdGpsLogger.Analysis

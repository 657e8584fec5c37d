import ObdGpsLogger.Stat.Weighted

/-!
# The middle of a trip

`tripmeanmedian` of `src/analysis/examinetrips.c`: where a trip was on average,
and where it was after half of its way. It goes through the pairs of
consecutive positions twice. The first time it adds up lengths, and the starts
weighted with them; the second time it takes the lengths off half of the sum
again, until nothing is left.

Over exact arithmetic and any distance that is not negative, this is the
weighted average and the weighted median of the starts
(`tripmeanmedian_spec`): the second pass stops inside the list if the trip has
a length, and assigns nothing if it has none.

Mirroring notes:
- The numbers are those of any ordered field, and `haversine_dist` is any
  `Distance` over it.
- `consecutive` are the rows of the statement, each a `Segment`; a position that
  is NULL is read as 0, as `sqlite3_column_double` does.
- What the four pointers point at is a `Middle`, before and after the call.
- `count` does not run over. That the statement cannot be prepared is left out.
-/

namespace ObdGpsLogger.Analysis

open Stat

variable {K : Type} [Field K] [LinearOrder K] [IsStrictOrderedRing K]

/-- `haversine_dist`: a function of two positions that is not negative. -/
structure Distance (K : Type) [Zero K] [LE K] where
  dist : K → K → K → K → K
  nonneg : ∀ latA lonA latB lonB, 0 ≤ dist latA lonA latB lonB

/-- Two positions, one behind the other. -/
structure Segment (K : Type) where
  latA : K
  lonA : K
  latB : K
  lonB : K

/-- A row of the table `gps`, as far as the distances need it. `none` is NULL. -/
structure GpsFix (K : Type) where
  rowid : Int
  trip : Option Int
  lat : Option K
  lon : Option K

/-- The rows of `SELECT a.lat,a.lon,b.lat,b.lon FROM gps a LEFT JOIN gps b ON
b.rowid=a.rowid+1 WHERE a.trip=? AND b.trip=a.trip`. -/
def consecutive (gps : List (GpsFix K)) (trip : Int) : List (Segment K) :=
  gps.flatMap fun a =>
    (gps.filter fun b => b.rowid = a.rowid + 1 ∧ a.trip = some trip ∧ b.trip = a.trip).map fun b =>
      ⟨a.lat.getD 0, a.lon.getD 0, b.lat.getD 0, b.lon.getD 0⟩

/-- `*meanlat`, `*meanlon`, `*medianlat`, `*medianlon`. -/
structure Middle (K : Type) where
  meanlat : K
  meanlon : K
  medianlat : K
  medianlon : K

/-- The variables of the first pass of `tripmeanmedian`: sums weighted by the
lengths of the segments. -/
structure Totals (K : Type) where
  totalLat : K
  totalLon : K
  count : Nat
  totalLen : K

/-- `delta`, the length of a segment. -/
def Distance.delta (d : Distance K) (s : Segment K) : K := d.dist s.latA s.lonA s.latB s.lonB

/-- The body of the first loop: one more segment is added to the sums. -/
def Totals.add (d : Distance K) (t : Totals K) (s : Segment K) : Totals K :=
  { totalLen := t.totalLen + d.delta s
    totalLat := t.totalLat + d.delta s * s.latA
    totalLon := t.totalLon + d.delta s * s.lonA
    count := t.count + 1 }

/-- The second loop, from what is left of `half_len`. -/
def medianLoop (d : Distance K) (halfLen : K) (out : Middle K) : List (Segment K) → Middle K
  | [] => out
  | s :: rest =>
    if halfLen - d.delta s < 0 then { out with medianlat := s.latA, medianlon := s.lonA }
    else medianLoop d (halfLen - d.delta s) out rest

/-- `tripmeanmedian` over the rows of its statement: the return value and the
outputs. -/
def middleOf (d : Distance K) (rows : List (Segment K)) (out : Middle K) : Int × Middle K :=
  let t := rows.foldl (Totals.add d) ⟨0, 0, 0, 0⟩
  let out := medianLoop d (t.totalLen / 2) out rows
  if t.count = 0 ∨ t.totalLen = 0 then (-1, out)
  else (0, { out with meanlat := t.totalLat / t.totalLen, meanlon := t.totalLon / t.totalLen })

/-- `tripmeanmedian`: the value returned, and the four numbers behind the
pointers. -/
def tripmeanmedian (d : Distance K) (gps : List (GpsFix K)) (trip : Int) (out : Middle K) :
    Int × Middle K :=
  middleOf d (consecutive gps trip) out

/-! ## The two passes -/

omit [IsStrictOrderedRing K] in
/-- **The first pass** adds to the totals what the segments bring: their
positions, each weighted by the length of the segment, their number, and their
lengths. -/
theorem foldl_add (d : Distance K) : ∀ (rows : List (Segment K)) (t : Totals K),
    rows.foldl (Totals.add d) t =
      { totalLat := t.totalLat + weightedSum d.delta Segment.latA rows
        totalLon := t.totalLon + weightedSum d.delta Segment.lonA rows
        count := t.count + rows.length
        totalLen := t.totalLen + total d.delta rows }
  | [], t => by simp
  | s :: rows, t => by
    rw [List.foldl_cons, foldl_add d rows]
    simp [Totals.add, add_assoc, Nat.add_comm]

/-- **The second pass** assigns the start of the segment where its bound is
passed. -/
theorem medianLoop_crossing (d : Distance K) (out : Middle K) : ∀ {rows pre : List (Segment K)}
    {halfLen : K} {s : Segment K}, Crossing d.delta halfLen rows pre s →
    medianLoop d halfLen out rows = { out with medianlat := s.latA, medianlon := s.lonA }
  | [], pre, _, s, h => absurd (List.prefix_nil.mp h.mem) (by simp)
  | r :: rows, [], halfLen, s, h => by
    obtain ⟨rfl, -⟩ := List.cons_prefix_cons.mp h.mem
    have hover := h.behind
    rw [List.nil_append, total_cons, total_nil, add_zero] at hover
    rw [medianLoop, if_pos (sub_neg.mpr hover)]
  | r :: rows, p :: pre, halfLen, s, h => by
    obtain ⟨rfl, hmem⟩ := List.cons_prefix_cons.mp h.mem
    have hfirst := h.before [p] (by simp)
    rw [total_cons, total_nil, add_zero] at hfirst
    rw [medianLoop, if_neg (by linarith)]
    refine medianLoop_crossing d out ⟨hmem, fun q hq => ?_, ?_⟩
    · have hle := h.before (p :: q) (List.cons_prefix_cons.mpr ⟨rfl, hq⟩)
      rw [total_cons] at hle
      linarith
    · have hover := h.behind
      rw [List.cons_append, total_cons] at hover
      linarith

/-- A bound that is not passed: nothing is assigned. -/
theorem medianLoop_none (d : Distance K) (out : Middle K) : ∀ {rows : List (Segment K)}
    {halfLen : K}, total d.delta rows ≤ halfLen → medianLoop d halfLen out rows = out
  | [], _, _ => rfl
  | s :: rows, halfLen, h => by
    rw [total_cons] at h
    have hrest := total_nonneg (fun s => d.nonneg s.latA s.lonA s.latB s.lonB) rows
    have hle : total d.delta rows ≤ halfLen - d.delta s := by linarith
    rw [medianLoop, if_neg (not_lt.mpr (hrest.trans hle))]
    exact medianLoop_none d out hle

/-! ## The middle -/

/-- The means are the averages of the starts, weighted with the lengths, and
the median is the start of the segment at which half of the length is passed. -/
structure IsMiddle (d : Distance K) (rows : List (Segment K)) (m : Middle K) : Prop where
  meanlat : m.meanlat = weightedSum d.delta Segment.latA rows / total d.delta rows
  meanlon : m.meanlon = weightedSum d.delta Segment.lonA rows / total d.delta rows
  meanlat_bounds : ∀ lo hi, (∀ s ∈ rows, lo ≤ s.latA ∧ s.latA ≤ hi) →
    lo ≤ m.meanlat ∧ m.meanlat ≤ hi
  meanlon_bounds : ∀ lo hi, (∀ s ∈ rows, lo ≤ s.lonA ∧ s.lonA ≤ hi) →
    lo ≤ m.meanlon ∧ m.meanlon ≤ hi
  median : ∃ pre s, Crossing d.delta (total d.delta rows / 2) rows pre s ∧
    m.medianlat = s.latA ∧ m.medianlon = s.lonA

/-- A list with a length has a middle, and that is what is returned. -/
theorem middleOf_pos (d : Distance K) {rows : List (Segment K)} (out : Middle K)
    (hpos : 0 < total d.delta rows) :
    ∃ m, middleOf d rows out = (0, m) ∧ IsMiddle d rows m := by
  have hnonneg : ∀ s : Segment K, 0 ≤ d.delta s := fun s => d.nonneg _ _ _ _
  have hrows : rows.length ≠ 0 := by
    rintro h
    rw [List.length_eq_zero_iff.mp h] at hpos
    exact lt_irrefl _ hpos
  obtain ⟨pre, s, hcross⟩ := exists_crossing hnonneg (half_pos hpos).le (half_lt_self hpos)
  unfold middleOf
  rw [foldl_add]
  simp only [zero_add]
  rw [if_neg (not_or.mpr ⟨hrows, hpos.ne'⟩), medianLoop_crossing d out hcross]
  exact ⟨_, rfl, rfl, rfl, fun _ _ h => average_bounds hnonneg hpos h,
    fun _ _ h => average_bounds hnonneg hpos h, pre, s, hcross, rfl, rfl⟩

/-- A list without a length is refused, and the outputs stay. -/
theorem middleOf_zero (d : Distance K) {rows : List (Segment K)} (out : Middle K)
    (hzero : total d.delta rows = 0) : middleOf d rows out = (-1, out) := by
  unfold middleOf
  rw [foldl_add]
  simp only [zero_add]
  rw [if_pos (.inr hzero), medianLoop_none d out (by rw [hzero, zero_div])]

/-- **Mean and median of a trip**: of a trip with a length it is the middle
that is returned, and of any other trip nothing is. -/
theorem tripmeanmedian_spec (d : Distance K) (gps : List (GpsFix K)) (trip : Int)
    (out : Middle K) :
    (0 < total d.delta (consecutive gps trip) →
      ∃ m, tripmeanmedian d gps trip out = (0, m) ∧ IsMiddle d (consecutive gps trip) m) ∧
      (¬ 0 < total d.delta (consecutive gps trip) →
        tripmeanmedian d gps trip out = (-1, out)) := by
  refine ⟨middleOf_pos d out, fun hnot => middleOf_zero d out ?_⟩
  exact le_antisymm (not_lt.mp hnot) (total_nonneg (fun s => d.nonneg _ _ _ _) _)

/-- Along the equator, one degree one unit. -/
def alongLon : Distance ℚ where
  dist _ lonA _ lonB := |lonB - lonA|
  nonneg _ _ _ _ := abs_nonneg _

/-- A trip of three positions and a position of another trip. -/
def threeFixes : List (GpsFix ℚ) :=
  [⟨1, some 4, some 0, some 1⟩, ⟨2, some 4, some 0, some 2⟩, ⟨3, some 4, some 0, some 5⟩,
    ⟨4, some 5, some 0, some 9⟩]

/-- Three units out of four are gone from the second position on. -/
theorem tripmeanmedian_threeFixes :
    ∃ m, tripmeanmedian alongLon threeFixes 4 ⟨0, 0, 0, 0⟩ = (0, m) ∧
      IsMiddle alongLon (consecutive threeFixes 4) m :=
  (tripmeanmedian_spec alongLon threeFixes 4 ⟨0, 0, 0, 0⟩).1 (by decide +kernel)

end ObdGpsLogger.Analysis

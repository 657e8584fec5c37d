import Mathlib.Algebra.Order.BigOperators.Group.List
import Mathlib.Algebra.Order.Field.Basic
import Mathlib.Tactic.Linarith
import Mathlib.Tactic.Ring

/-!
# Weighted averages and medians of a list

Each element of a list has a weight. `total` is the weight of the list and
`weightedSum` adds up what a function says of its elements, each as often as it
weighs. Where no weight is negative and some weight is positive, the average
lies between any two bounds of the function (`average_bounds`), and half of the
weight is passed at some element (`exists_crossing`), which is the weighted
median.
-/

namespace ObdGpsLogger.Stat

variable {α K : Type} [Field K] [LinearOrder K] [IsStrictOrderedRing K]

section Sums

variable (weight : α → K)

/-- The weight of a whole list. -/
def total (l : List α) : K := (l.map weight).sum

/-- What a function says of the elements, each as often as it weighs. -/
def weightedSum (value : α → K) (l : List α) : K := (l.map fun x => weight x * value x).sum

omit [LinearOrder K] [IsStrictOrderedRing K] in
@[simp] theorem total_nil : total weight [] = 0 := rfl

omit [LinearOrder K] [IsStrictOrderedRing K] in
@[simp] theorem total_cons (x : α) (l : List α) :
    total weight (x :: l) = weight x + total weight l := List.sum_cons

omit [LinearOrder K] [IsStrictOrderedRing K] in
@[simp] theorem total_append (l m : List α) :
    total weight (l ++ m) = total weight l + total weight m := by
  simp [total]

omit [LinearOrder K] [IsStrictOrderedRing K] in
@[simp] theorem weightedSum_nil (value : α → K) : weightedSum weight value [] = 0 := rfl

omit [LinearOrder K] [IsStrictOrderedRing K] in
@[simp] theorem weightedSum_cons (value : α → K) (x : α) (l : List α) :
    weightedSum weight value (x :: l) = weight x * value x + weightedSum weight value l :=
  List.sum_cons

variable {weight}

theorem total_nonneg (h : ∀ x, 0 ≤ weight x) (l : List α) : 0 ≤ total weight l :=
  List.sum_nonneg fun y hy => by
    obtain ⟨x, -, rfl⟩ := List.mem_map.mp hy
    exact h x

theorem weightedSum_le (h : ∀ x, 0 ≤ weight x) {value : α → K} {hi : K} : ∀ {l : List α},
    (∀ x ∈ l, value x ≤ hi) → weightedSum weight value l ≤ hi * total weight l
  | [], _ => by simp
  | x :: l, hall => by
    have ih := weightedSum_le h fun y hy => hall y (List.mem_cons_of_mem _ hy)
    have hx := mul_le_mul_of_nonneg_left (hall x (List.mem_cons_self ..)) (h x)
    rw [weightedSum_cons, total_cons, mul_add, mul_comm hi (weight x)]
    linarith

theorem le_weightedSum (h : ∀ x, 0 ≤ weight x) {value : α → K} {lo : K} : ∀ {l : List α},
    (∀ x ∈ l, lo ≤ value x) → lo * total weight l ≤ weightedSum weight value l
  | [], _ => by simp
  | x :: l, hall => by
    have ih := le_weightedSum h fun y hy => hall y (List.mem_cons_of_mem _ hy)
    have hx := mul_le_mul_of_nonneg_left (hall x (List.mem_cons_self ..)) (h x)
    rw [weightedSum_cons, total_cons, mul_add, mul_comm lo (weight x)]
    linarith

/-- **The average** lies between any two bounds of the values. -/
theorem average_bounds (h : ∀ x, 0 ≤ weight x) {value : α → K} {l : List α} {lo hi : K}
    (hpos : 0 < total weight l) (hall : ∀ x ∈ l, lo ≤ value x ∧ value x ≤ hi) :
    lo ≤ weightedSum weight value l / total weight l ∧
      weightedSum weight value l / total weight l ≤ hi :=
  ⟨(le_div_iff₀ hpos).mpr (le_weightedSum h fun x hx => (hall x hx).1),
    (div_le_iff₀ hpos).mpr (weightedSum_le h fun x hx => (hall x hx).2)⟩

end Sums

/-- `x`, behind `pre`, is where the weight passes `bound`. -/
structure Crossing (weight : α → K) (bound : K) (l pre : List α) (x : α) : Prop where
  mem : pre ++ [x] <+: l
  before : ∀ p, p <+: pre → total weight p ≤ bound
  behind : bound < total weight (pre ++ [x])

/-- **The median exists**: a bound below the weight of the list is passed at
some element. -/
theorem exists_crossing {weight : α → K} (h : ∀ x, 0 ≤ weight x) : ∀ {l : List α} {bound : K},
    0 ≤ bound → bound < total weight l → ∃ pre x, Crossing weight bound l pre x
  | [], bound, hpos, hlt => absurd hlt (not_lt.mpr hpos)
  | x :: l, bound, hpos, hlt => by
    by_cases hx : bound < weight x
    · refine ⟨[], x, ⟨l, rfl⟩, fun p hp => ?_, by simpa using hx⟩
      rw [List.prefix_nil.mp hp]
      exact hpos
    · have hrest : bound - weight x < total weight l := by
        rw [total_cons] at hlt
        linarith
      obtain ⟨pre, y, hmem, hbefore, hbehind⟩ :=
        exists_crossing h (sub_nonneg.mpr (not_lt.mp hx)) hrest
      refine ⟨x :: pre, y, List.prefix_cons_inj x |>.mpr hmem, fun p hp => ?_, ?_⟩
      · rcases p with _ | ⟨z, p⟩
        · exact hpos
        · obtain ⟨rfl, htail⟩ := List.cons_prefix_cons.mp hp
          rw [total_cons]
          linarith [hbefore p htail]
      · rw [List.cons_append, total_cons]
        linarith

end ObdGpsLogger.Stat

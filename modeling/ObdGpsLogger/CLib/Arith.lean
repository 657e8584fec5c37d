import Mathlib.Algebra.Order.Archimedean.Basic
import Mathlib.Algebra.Order.Field.Rat
import Mathlib.Data.Rat.Floor
import Mathlib.Tactic.Linarith
import Mathlib.Tactic.Ring

/-!
# C's conversions on exact numbers

Where a program computes with `float` and `double`, the numbers here are exact
rationals; only the conversions to integer types round. `trunc` drops the
fraction, towards zero on both sides, and `toUnsigned` reduces an integer to
32 bits.

A number and what is left of it are less than one apart on both sides
(`abs_trunc_sub_lt`), and what is left is not negative from just above `-1` on
(`trunc_nonneg_iff`), where `trunc` rounds up.

`wrapDown` is the loop `while(x > bound) x -= step`.
-/

namespace ObdGpsLogger.CLib

/-- A floating-point number converted to a signed integer. -/
def trunc (x : Rat) : Int := if 0 ≤ x then ⌊x⌋ else ⌈x⌉

/-- An integer converted to `unsigned int`. -/
def toUnsigned (z : Int) : Nat := (z % 2 ^ 32).toNat

theorem toUnsigned_of_nonneg {z : Int} (h : 0 ≤ z) (hlt : z < 2 ^ 32) :
    (toUnsigned z : Int) = z := by
  unfold toUnsigned
  omega

@[simp] theorem trunc_intCast (z : Int) : trunc (z : Rat) = z := by
  unfold trunc
  split
  · exact Int.floor_intCast z
  · exact Int.ceil_intCast z

/-- A number that is not negative after truncation is above `-1`. -/
theorem trunc_nonneg_iff {x : Rat} : 0 ≤ trunc x ↔ -1 < x := by
  unfold trunc
  split
  · next h =>
    exact iff_of_true (Int.floor_nonneg.mpr h) (by linarith)
  · next h =>
    have hceil : ⌈x⌉ ≤ 0 := Int.ceil_le.mpr (by push_cast; linarith)
    constructor
    · intro h0
      have : (⌈x⌉ : Rat) < x + 1 := Int.ceil_lt_add_one x
      have hz : ((0 : Int) : Rat) ≤ ⌈x⌉ := by exact_mod_cast h0
      push_cast at hz
      linarith
    · intro h1
      have : (-1 : Int) < ⌈x⌉ := Int.lt_ceil.mpr (by push_cast; linarith)
      omega

/-- Truncation does not reach a bound that the number does not reach. -/
theorem trunc_lt_iff {x : Rat} {n : Int} (hn : 0 < n) : trunc x < n ↔ x < n := by
  unfold trunc
  split
  · exact Int.floor_lt
  · next h =>
    have hneg : x < 0 := by linarith
    have hceil : ⌈x⌉ ≤ 0 := Int.ceil_le.mpr (by push_cast; linarith)
    have hpos : (0 : Rat) < n := by exact_mod_cast hn
    exact iff_of_true (by omega) (by linarith)

/-- Truncation moves a number by less than one. -/
theorem abs_trunc_sub_lt (x : Rat) : |(trunc x : Rat) - x| < 1 := by
  unfold trunc
  rw [abs_lt]
  split
  · have h1 := Int.floor_le x
    have h2 := Int.lt_floor_add_one x
    constructor <;> linarith
  · have h1 := Int.le_ceil x
    have h2 := Int.ceil_lt_add_one x
    constructor <;> linarith

/-! ## Wrapping around -/

/-- `while(x > bound) x -= step`, with fuel. -/
def wrapDown (bound step : Rat) : Nat → Rat → Option Rat
  | 0, _ => none
  | fuel + 1, x => if bound < x then wrapDown bound step fuel (x - step) else some x

/-- A run of the loop ends at or below `bound`, a whole number of steps down,
and not below a point that a step from `bound` does not pass. -/
theorem wrapDown_spec {bound step : Rat} : ∀ {fuel : Nat} {x y : Rat},
    wrapDown bound step fuel x = some y →
      y ≤ bound ∧ (∀ low, low ≤ bound - step → low ≤ x → low ≤ y) ∧ ∃ k : Nat, y = x - k * step
  | 0, _, _, h => by cases h
  | fuel + 1, x, y, h => by
    rw [wrapDown] at h
    split at h
    · next hlt =>
      obtain ⟨hle, hlow, k, hk⟩ := wrapDown_spec h
      refine ⟨hle, fun low hstep _ => hlow low hstep (by linarith), k + 1, ?_⟩
      rw [hk]
      push_cast
      ring
    · next hge =>
      obtain rfl := Option.some.inj h
      exact ⟨not_lt.mp hge, fun _ _ hx => hx, 0, by simp⟩

/-- **The loop ends** once it has taken off enough. -/
theorem wrapDown_isSome {bound step : Rat} : ∀ {fuel : Nat} {x : Rat},
    x ≤ bound + fuel * step → (wrapDown bound step (fuel + 1) x).isSome
  | 0, x, h => by
    rw [wrapDown, if_neg (by push_cast at h; linarith)]
    rfl
  | fuel + 1, x, h => by
    rw [wrapDown]
    split
    · refine wrapDown_isSome ?_
      push_cast at h
      linarith
    · rfl

/-- More fuel changes nothing: a loop that has ended within `fuel` rounds gives
the same value with any larger number. -/
theorem wrapDown_mono {bound step : Rat} : ∀ {fuel more : Nat} {x y : Rat}, fuel ≤ more →
    wrapDown bound step fuel x = some y → wrapDown bound step more x = some y
  | 0, _, _, _, _, h => nomatch h
  | fuel + 1, 0, _, _, hle, _ => absurd hle (Nat.not_succ_le_zero fuel)
  | fuel + 1, more + 1, x, y, hle, h => by
    rw [wrapDown] at h ⊢
    split
    · next hlt =>
      rw [if_pos hlt] at h
      exact wrapDown_mono (Nat.le_of_succ_le_succ hle) h
    · next hge => rwa [if_neg hge] at h

/-- **The loop does not end** if it has to take something off, and takes off
nothing. -/
theorem wrapDown_zero {bound x : Rat} (h : bound < x) : ∀ fuel : Nat,
    wrapDown bound 0 fuel x = none
  | 0 => rfl
  | fuel + 1 => by
    rw [wrapDown, if_pos h, sub_zero]
    exact wrapDown_zero h fuel

/-- With a positive step the loop ends: a number of steps that is large enough
brings any value down to the bound. -/
theorem wrapDown_ends {bound step : Rat} (hstep : 0 < step) (x : Rat) :
    ∃ fuel y, wrapDown bound step fuel x = some y := by
  obtain ⟨n, hn⟩ := exists_nat_gt ((x - bound) / step)
  have hx : x ≤ bound + n * step := by
    rw [div_lt_iff₀ hstep] at hn
    linarith
  obtain ⟨y, hy⟩ := Option.isSome_iff_exists.mp (wrapDown_isSome hx)
  exact ⟨n + 1, y, hy⟩

end ObdGpsLogger.CLib

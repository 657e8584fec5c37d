import Mathlib.Analysis.InnerProductSpace.PiL2
import Mathlib.Analysis.SpecialFunctions.Complex.Arg
import Mathlib.Geometry.Euclidean.Angle.Unoriented.TriangleInequality

/-!
# Great circles

A place on a sphere has a latitude and a longitude, in radians, and `place` is
the unit vector that points there. The way from one place to another along the
surface is the angle between their vectors, the `centralAngle`. So it has what
angles have: it is symmetric, at most `π`, 0 only between a place and itself, and
no detour is shorter (`centralAngle_triangle`).

The haversine formula gets the angle from its half, without a vector:
`centralAngle_eq` says that it does.
-/

namespace ObdGpsLogger.Sphere

open Real InnerProductGeometry

/-- The unit vector to the latitude `φ` and the longitude `lam`. -/
noncomputable def place (φ lam : ℝ) : EuclideanSpace ℝ (Fin 3) :=
  WithLp.toLp _ ![cos φ * cos lam, cos φ * sin lam, sin φ]

/-- The angle between two places, seen from the centre. -/
noncomputable def centralAngle (φ lam ψ mu : ℝ) : ℝ := angle (place φ lam) (place ψ mu)

variable (φ lam ψ mu : ℝ)

theorem inner_place :
    inner ℝ (place φ lam) (place ψ mu) = cos φ * cos ψ * cos (mu - lam) + sin φ * sin ψ := by
  rw [EuclideanSpace.inner_eq_star_dotProduct]
  simp [place, dotProduct, Fin.sum_univ_three, cos_sub]
  ring

@[simp] theorem norm_place : ‖place φ lam‖ = 1 := by
  have h : ‖place φ lam‖ ^ 2 = 1 := by
    rw [← real_inner_self_eq_norm_sq, inner_place, sub_self, cos_zero]
    linarith [sin_sq_add_cos_sq φ]
  exact (pow_eq_one_iff_of_nonneg (norm_nonneg _) two_ne_zero).mp h

theorem centralAngle_comm : centralAngle φ lam ψ mu = centralAngle ψ mu φ lam :=
  angle_comm _ _

theorem centralAngle_nonneg : 0 ≤ centralAngle φ lam ψ mu := angle_nonneg _ _

theorem centralAngle_le_pi : centralAngle φ lam ψ mu ≤ π := angle_le_pi _ _

/-- **No detour is shorter**: the angle between two positions is at most the sum
of the angles from each of them to a third. -/
theorem centralAngle_triangle (χ nu : ℝ) :
    centralAngle φ lam χ nu ≤ centralAngle φ lam ψ mu + centralAngle ψ mu χ nu :=
  angle_le_angle_add_angle _ _ _

theorem centralAngle_eq_zero_iff : centralAngle φ lam ψ mu = 0 ↔ place φ lam = place ψ mu := by
  unfold centralAngle
  rw [angle, norm_place, norm_place, mul_one, div_one, arccos_eq_zero]
  constructor
  · intro h
    exact (inner_eq_one_iff_of_norm_eq_one (norm_place φ lam) (norm_place ψ mu)).mp
      (le_antisymm ((real_inner_le_norm _ _).trans (by simp)) h)
  · intro h
    rw [h, real_inner_self_eq_norm_sq, norm_place, one_pow]

/-! ## Half an angle -/

/-- The square of the sine of half the angle, from the latitudes and half the
differences of the coordinates. -/
noncomputable def haversine (φ ψ halfLat halfLon : ℝ) : ℝ :=
  sin halfLat ^ 2 + sin halfLon ^ 2 * cos φ * cos ψ

theorem two_sin_half_sq (x : ℝ) : 2 * sin (x / 2) ^ 2 = 1 - cos x := by
  have h := cos_two_mul (x / 2)
  rw [mul_div_cancel₀ x two_ne_zero] at h
  linarith [sin_sq_add_cos_sq (x / 2)]

theorem inner_eq_haversine :
    inner ℝ (place φ lam) (place ψ mu) = 1 - 2 * haversine φ ψ ((ψ - φ) / 2) ((mu - lam) / 2) := by
  have hlat := two_sin_half_sq (ψ - φ)
  have hlon := two_sin_half_sq (mu - lam)
  rw [cos_sub ψ φ] at hlat
  calc inner ℝ (place φ lam) (place ψ mu)
      = cos φ * cos ψ * cos (mu - lam) + sin φ * sin ψ := inner_place φ lam ψ mu
    _ = 1 - (1 - (cos ψ * cos φ + sin ψ * sin φ)) -
          (1 - cos (mu - lam)) * cos φ * cos ψ := by ring
    _ = 1 - 2 * haversine φ ψ ((ψ - φ) / 2) ((mu - lam) / 2) := by
        rw [← hlat, ← hlon, haversine]
        ring

theorem haversine_nonneg : 0 ≤ haversine φ ψ ((ψ - φ) / 2) ((mu - lam) / 2) := by
  have h := real_inner_le_norm (place φ lam) (place ψ mu)
  rw [inner_eq_haversine, norm_place, norm_place] at h
  linarith

theorem haversine_le_one : haversine φ ψ ((ψ - φ) / 2) ((mu - lam) / 2) ≤ 1 := by
  have h := neg_le_of_abs_le (abs_real_inner_le_norm (place φ lam) (place ψ mu))
  rw [inner_eq_haversine, norm_place, norm_place] at h
  linarith

/-- The argument of the point on the unit circle over `√a` is half the angle. -/
theorem two_mul_arg_sqrt {a : ℝ} (h0 : 0 ≤ a) (h1 : a ≤ 1) :
    2 * Complex.arg ⟨√(1 - a), √a⟩ = arccos (1 - 2 * a) := by
  have hcos : cos (arccos (1 - 2 * a)) = 1 - 2 * a := cos_arccos (by linarith) (by linarith)
  have hnonneg := arccos_nonneg (1 - 2 * a)
  have hpi := arccos_le_pi (1 - 2 * a)
  generalize arccos (1 - 2 * a) = θ at hcos hnonneg hpi ⊢
  have hsin : √a = sin (θ / 2) := by
    have h := two_sin_half_sq θ
    rw [show a = sin (θ / 2) ^ 2 by linarith]
    exact sqrt_sq (sin_nonneg_of_nonneg_of_le_pi (by linarith) (by linarith))
  have hhalf : √(1 - a) = cos (θ / 2) := by
    have h := two_sin_half_sq θ
    rw [show 1 - a = cos (θ / 2) ^ 2 by linarith [sin_sq_add_cos_sq (θ / 2)]]
    exact sqrt_sq (cos_nonneg_of_neg_pi_div_two_le_of_le (by linarith) (by linarith))
  have hpoint : (⟨√(1 - a), √a⟩ : ℂ) =
      Complex.cos ((θ / 2 : ℝ) : ℂ) + Complex.sin ((θ / 2 : ℝ) : ℂ) * Complex.I := by
    rw [← Complex.ofReal_cos, ← Complex.ofReal_sin, hhalf, hsin, ← Complex.mk_eq_add_mul_I]
  have hrange : θ / 2 ∈ Set.Ioc (-π) π := ⟨by linarith [pi_pos], by linarith⟩
  rw [hpoint, Complex.arg_cos_add_sin_mul_I hrange]
  linarith

/-- **The haversine formula** for the angle between two positions, as `atan2`
computes it from the roots of the haversine and of what it leaves of 1. -/
theorem centralAngle_eq : centralAngle φ lam ψ mu =
    2 * Complex.arg ⟨√(1 - haversine φ ψ ((ψ - φ) / 2) ((mu - lam) / 2)),
      √(haversine φ ψ ((ψ - φ) / 2) ((mu - lam) / 2))⟩ := by
  rw [two_mul_arg_sqrt (haversine_nonneg ..) (haversine_le_one ..), centralAngle, angle,
    norm_place, norm_place, mul_one, div_one, inner_eq_haversine]

end ObdGpsLogger.Sphere

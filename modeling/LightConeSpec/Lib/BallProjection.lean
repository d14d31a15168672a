import Mathlib.Analysis.Convex.StrictConvexBetween
import Mathlib.Analysis.Convex.Combination
import Mathlib.Analysis.InnerProductSpace.Basic

/-!
# Radial projection onto a ball

`project ε r c x` moves `x` towards the centre `c` by the factor `min (r / max d ε) 1`,
where `d` is the distance from the centre. The bound `ε` keeps the quotient defined at the
centre. The result lies in the ball for every radius (`norm_project_sub_le`); from `ε` on it is
the point of the ball nearest to `x`, and the only one (`project_nearest`, `project_unique`).
A convex mixture of points of a ball lies in the ball (`norm_mixture_sub_le`).
-/

namespace BallProjection

/-- The factor by which a vector of length `d` is shortened. -/
noncomputable def factor (ε r d : ℝ) : ℝ := min (r / max d ε) 1

variable {ε r d : ℝ}

theorem factor_nonneg (hε : 0 < ε) (hr : 0 < r) : 0 ≤ factor ε r d := by
  have hmax : 0 < max d ε := lt_max_of_lt_right hε
  exact le_min (div_pos hr hmax).le zero_le_one

theorem factor_mul_le (hε : 0 < ε) (hr : 0 < r) (hd : 0 ≤ d) : factor ε r d * d ≤ r := by
  have hmax : 0 < max d ε := lt_max_of_lt_right hε
  calc factor ε r d * d ≤ r / max d ε * d := by
        exact mul_le_mul_of_nonneg_right (min_le_left _ _) hd
    _ ≤ r / max d ε * max d ε := by
        exact mul_le_mul_of_nonneg_left (le_max_left _ _) (div_pos hr hmax).le
    _ = r := div_mul_cancel₀ r hmax.ne'

/-- A vector that fits keeps its length. -/
theorem factor_of_le (hε : 0 < ε) (hεr : ε ≤ r) (hd : d ≤ r) : factor ε r d = 1 := by
  have hmax : 0 < max d ε := lt_max_of_lt_right hε
  apply min_eq_right
  rw [le_div_iff₀ hmax, one_mul]
  exact max_le hd hεr

theorem factor_of_lt (hε : 0 < ε) (hεr : ε ≤ r) (hd : r < d) : factor ε r d = r / d := by
  have hmax : max d ε = d := max_eq_left (hεr.trans hd.le)
  have hpos : 0 < d := hε.trans_le (hεr.trans hd.le)
  unfold factor
  rw [hmax]
  apply min_eq_left
  rw [div_le_one hpos]
  exact hd.le

section

variable {E : Type*} [NormedAddCommGroup E] [NormedSpace ℝ E]

/-- The point moved towards the centre. -/
noncomputable def project (ε r : ℝ) (c x : E) : E := c + factor ε r ‖x - c‖ • (x - c)

variable {c x y : E}

theorem norm_project_sub_le (hε : 0 < ε) (hr : 0 < r) : ‖project ε r c x - c‖ ≤ r := by
  rw [project, add_sub_cancel_left, norm_smul, Real.norm_of_nonneg (factor_nonneg hε hr)]
  exact factor_mul_le hε hr (norm_nonneg _)

theorem project_of_norm_le (hε : 0 < ε) (hεr : ε ≤ r) (hx : ‖x - c‖ ≤ r) : project ε r c x = x := by
  rw [project, factor_of_le hε hεr hx, one_smul, add_sub_cancel]

/-- The length that is cut off. -/
theorem norm_sub_project (hε : 0 < ε) (hεr : ε ≤ r) (hx : r < ‖x - c‖) :
    ‖x - project ε r c x‖ = ‖x - c‖ - r := by
  have hpos : 0 < ‖x - c‖ := hε.trans_le (hεr.trans hx.le)
  have hle : 0 ≤ 1 - r / ‖x - c‖ := by
    rw [sub_nonneg, div_le_one hpos]
    exact hx.le
  have hcut : x - project ε r c x = (1 - r / ‖x - c‖) • (x - c) := by
    rw [project, factor_of_lt hε hεr hx, sub_smul, one_smul]
    abel
  rw [hcut, norm_smul, Real.norm_of_nonneg hle, sub_mul, one_mul, div_mul_cancel₀ _ hpos.ne']

/-- No point of the ball is nearer. -/
theorem project_nearest (hε : 0 < ε) (hεr : ε ≤ r) (hy : ‖y - c‖ ≤ r) :
    ‖x - project ε r c x‖ ≤ ‖x - y‖ := by
  rcases le_or_gt ‖x - c‖ r with hx | hx
  · rw [project_of_norm_le hε hεr hx, sub_self, norm_zero]
    exact norm_nonneg _
  · have htriangle : ‖x - c‖ ≤ ‖x - y‖ + ‖y - c‖ := norm_sub_le_norm_sub_add_norm_sub x y c
    rw [norm_sub_project hε hεr hx]
    linarith

/-- A point of the ball that is as near is the projection: it lies between the centre and `x`,
at the distance `r` from the centre. -/
theorem project_unique [StrictConvexSpace ℝ E] (hε : 0 < ε) (hεr : ε ≤ r) (hy : ‖y - c‖ ≤ r)
    (hnear : ‖x - y‖ ≤ ‖x - project ε r c x‖) : y = project ε r c x := by
  rcases le_or_gt ‖x - c‖ r with hx | hx
  · rw [project_of_norm_le hε hεr hx] at hnear ⊢
    rw [sub_self, norm_zero] at hnear
    exact (sub_eq_zero.mp (norm_le_zero_iff.mp hnear)).symm
  · rw [norm_sub_project hε hεr hx] at hnear
    have hpos : 0 < ‖x - c‖ := hε.trans_le (hεr.trans hx.le)
    have htriangle : ‖x - c‖ ≤ ‖x - y‖ + ‖y - c‖ := norm_sub_le_norm_sub_add_norm_sub x y c
    have hbetween : Wbtw ℝ c y x := by
      rw [← dist_add_dist_eq_iff, dist_comm c y, dist_comm y x, dist_comm c x, dist_eq_norm,
        dist_eq_norm, dist_eq_norm]
      linarith
    rcases hbetween with ⟨t, ⟨ht, -⟩, rfl⟩
    have hline : AffineMap.lineMap c x t - c = t • (x - c) := by
      rw [AffineMap.lineMap_apply, vsub_eq_sub, vadd_eq_add, add_sub_cancel_right]
    have hlength : ‖AffineMap.lineMap c x t - c‖ = r := by linarith
    rw [hline, norm_smul, Real.norm_of_nonneg ht] at hlength
    have ht' : t = r / ‖x - c‖ := by
      rw [eq_div_iff hpos.ne']
      exact hlength
    rw [project, factor_of_lt hε hεr hx, ← ht', ← hline, add_sub_cancel]

/-! ## Mixtures -/

noncomputable def mixture (weights : List ℝ) (points : List E) : E :=
  (List.zipWith (· • ·) weights points).sum

theorem norm_mixture_sub_smul_le {weights : List ℝ} {points : List E}
    (hlength : weights.length = points.length) (hweights : ∀ w ∈ weights, 0 ≤ w)
    (hpoints : ∀ p ∈ points, ‖p - c‖ ≤ r) :
    ‖mixture weights points - weights.sum • c‖ ≤ weights.sum * r := by
  induction weights generalizing points with
  | nil =>
    cases points with
    | nil => simp [mixture]
    | cons p points => cases hlength
  | cons w weights ih =>
    cases points with
    | nil => cases hlength
    | cons p points =>
      rw [List.forall_mem_cons] at hweights hpoints
      have hrest := ih (Nat.succ.inj hlength) hweights.2 hpoints.2
      have hhead : ‖w • (p - c)‖ ≤ w * r := by
        rw [norm_smul, Real.norm_of_nonneg hweights.1]
        exact mul_le_mul_of_nonneg_left hpoints.1 hweights.1
      have hsplit : mixture (w :: weights) (p :: points) - (w :: weights).sum • c =
          w • (p - c) + (mixture weights points - weights.sum • c) := by
        rw [mixture, mixture, List.zipWith_cons_cons, List.sum_cons, List.sum_cons, smul_sub,
          add_smul]
        abel
      rw [hsplit, List.sum_cons, add_mul]
      exact (norm_add_le _ _).trans (add_le_add hhead hrest)

/-- A mixture of points of a ball with weights that sum to one lies in the ball. -/
theorem norm_mixture_sub_le {weights : List ℝ} {points : List E}
    (hlength : weights.length = points.length) (hweights : ∀ w ∈ weights, 0 ≤ w)
    (hsum : weights.sum = 1) (hpoints : ∀ p ∈ points, ‖p - c‖ ≤ r) :
    ‖mixture weights points - c‖ ≤ r := by
  have h := norm_mixture_sub_smul_le hlength hweights hpoints
  rwa [hsum, one_smul, one_mul] at h

end

/-! ## Projected steps -/

open scoped RealInnerProductSpace

section

variable {η : ℝ} {E : Type*} [NormedAddCommGroup E] [InnerProductSpace ℝ E] {c x y g : E}

/-- Every point of the ball is on the far side of the projection. -/
theorem inner_sub_project_nonpos (hε : 0 < ε) (hεr : ε ≤ r) (hy : ‖y - c‖ ≤ r) :
    ⟪x - project ε r c x, y - project ε r c x⟫ ≤ 0 := by
  rcases le_or_gt ‖x - c‖ r with hx | hx
  · rw [project_of_norm_le hε hεr hx, sub_self, inner_zero_left]
  · have hpos : 0 < ‖x - c‖ := hε.trans_le (hεr.trans hx.le)
    have hcut : x - project ε r c x = (1 - r / ‖x - c‖) • (x - c) := by
      rw [project, factor_of_lt hε hεr hx, sub_smul, one_smul]
      abel
    have hside : y - project ε r c x = (y - c) - (r / ‖x - c‖) • (x - c) := by
      rw [project, factor_of_lt hε hεr hx]
      abel
    have hle : 0 ≤ 1 - r / ‖x - c‖ := by
      rw [sub_nonneg, div_le_one hpos]
      exact hx.le
    have hinner : ⟪x - c, y - c⟫ ≤ ‖x - c‖ * r :=
      (real_inner_le_norm _ _).trans (mul_le_mul_of_nonneg_left hy hpos.le)
    rw [hcut, hside, real_inner_smul_left, inner_sub_right, real_inner_smul_right,
      real_inner_self_eq_norm_sq]
    apply mul_nonpos_of_nonneg_of_nonpos hle
    have hradius : r / ‖x - c‖ * ‖x - c‖ ^ 2 = ‖x - c‖ * r := by field_simp
    linarith

/-- A projected step against `g` is nearer to every point of the ball on which `g` says so. -/
theorem norm_step_sub_sq_le (hε : 0 < ε) (hεr : ε ≤ r) (hy : ‖y - c‖ ≤ r) :
    ‖project ε r c (x - η • g) - y‖ ^ 2 ≤ ‖x - y‖ ^ 2 - 2 * η * ⟪g, x - y⟫ + η ^ 2 * ‖g‖ ^ 2 := by
  have hside := inner_sub_project_nonpos hε hεr hy (x := x - η • g)
  have hsplit := norm_sub_sq_real (x - η • g - project ε r c (x - η • g))
    (y - project ε r c (x - η • g))
  have hstep := norm_sub_sq_real (x - y) (η • g)
  rw [sub_sub_sub_cancel_right] at hsplit
  rw [sub_right_comm, hsplit, inner_smul_right, norm_smul, mul_pow, real_inner_comm g (x - y),
    Real.norm_eq_abs, sq_abs, norm_sub_rev y] at hstep
  have hnonneg := sq_nonneg ‖x - η • g - project ε r c (x - η • g)‖
  linarith

end

end BallProjection

import Mathlib.MeasureTheory.Measure.Lebesgue.Basic
import Mathlib.MeasureTheory.Measure.Real

/-!
# Rejection sampling from a proposal

A token `x` is drawn from a proposal `q`, a number `u` uniformly from `[0, 1)` and a token `y`
from weights `w`, independently. The token `x` is returned when `u` is below the threshold
`a x`, and `y` otherwise.

`prob_accept` and `prob_return` are the laws for any thresholds and weights. With the weights
of `replacement` the target `p` is returned exactly as soon as `q x * a x = min (p x) (q x)`
(`return_of_exact`), and one threshold that is smaller already makes acceptance too rare
(`accept_lt`).
-/

namespace RejectionSampling

open MeasureTheory Set

variable {T : Type*} [Fintype T]

/-- The probability of an event about the three draws. -/
noncomputable def prob (q w : T → ℝ) (E : T → ℝ → T → Prop) : ℝ :=
  ∑ x, ∑ y, q x * w y * volume.real (Ico 0 1 ∩ {u | E x u y})

variable {p q w a : T → ℝ}

/-- Events that agree on the draws that can occur. -/
theorem prob_congr {E F : T → ℝ → T → Prop} (hq : ∀ x, 0 ≤ q x)
    (h : ∀ x u y, 0 < q x → u ∈ Ico (0 : ℝ) 1 → (E x u y ↔ F x u y)) : prob q w E = prob q w F := by
  unfold prob
  apply Finset.sum_congr rfl
  intro x _
  apply Finset.sum_congr rfl
  intro y _
  rcases (hq x).eq_or_lt with hzero | hpos
  · rw [← hzero, zero_mul, zero_mul, zero_mul]
  · have hsets : Ico (0 : ℝ) 1 ∩ {u | E x u y} = Ico 0 1 ∩ {u | F x u y} := by
      ext u
      constructor
      · rintro ⟨hu, hE⟩
        exact ⟨hu, (h x u y hpos hu).mp hE⟩
      · rintro ⟨hu, hF⟩
        exact ⟨hu, (h x u y hpos hu).mpr hF⟩
    rw [hsets]

theorem volume_below {b : ℝ} (h0 : 0 ≤ b) (h1 : b ≤ 1) :
    volume.real (Ico 0 1 ∩ {u | u < b}) = b := by
  have hset : Ico (0 : ℝ) 1 ∩ {u | u < b} = Ico 0 b := by
    ext u
    constructor
    · rintro ⟨⟨hu, -⟩, hub⟩
      exact ⟨hu, hub⟩
    · rintro ⟨hu, hub⟩
      exact ⟨⟨hu, hub.trans_le h1⟩, hub⟩
  rw [hset, Real.volume_real_Ico_of_le h0, sub_zero]

theorem volume_above {b : ℝ} (h0 : 0 ≤ b) (h1 : b ≤ 1) :
    volume.real (Ico 0 1 ∩ {u | ¬ u < b}) = 1 - b := by
  have hset : Ico (0 : ℝ) 1 ∩ {u | ¬ u < b} = Ico b 1 := by
    ext u
    constructor
    · rintro ⟨⟨-, hu⟩, hub⟩
      exact ⟨not_lt.mp hub, hu⟩
    · rintro ⟨hub, hu⟩
      exact ⟨⟨h0.trans hub, hu⟩, not_lt.mpr hub⟩
  rw [hset, Real.volume_real_Ico_of_le h1]

/-- The probability of acceptance. -/
theorem prob_accept (hw : ∑ y, w y = 1) (ha : ∀ x, 0 ≤ a x ∧ a x ≤ 1) :
    prob q w (fun x u _ => u < a x) = ∑ x, q x * a x := by
  unfold prob
  apply Finset.sum_congr rfl
  intro x _
  rw [← Finset.sum_mul, ← Finset.mul_sum, hw, mul_one, volume_below (ha x).1 (ha x).2]

section

variable [DecidableEq T]

/-- The law of the token that is returned. -/
theorem prob_return (hq : ∑ x, q x = 1) (hw : ∑ y, w y = 1) (ha : ∀ x, 0 ≤ a x ∧ a x ≤ 1) (t : T) :
    prob q w (fun x u y => (if u < a x then x else y) = t) =
      q t * a t + (1 - ∑ x, q x * a x) * w t := by
  -- the returned token is `t` as the accepted one, or as the resampled one
  have hvolume : ∀ x y, volume.real (Ico 0 1 ∩ {u | (if u < a x then x else y) = t}) =
      (if x = t then a x else 0) + if y = t then 1 - a x else 0 := by
    intro x y
    have hbelow := volume_below (ha x).1 (ha x).2
    have habove := volume_above (ha x).1 (ha x).2
    by_cases hx : x = t
    · by_cases hy : y = t
      · have hall : Ico (0 : ℝ) 1 ∩ {u | (if u < a x then x else y) = t} = Ico 0 1 := by
          ext u
          simp [hx, hy]
        rw [hall, Real.volume_real_Ico_of_le zero_le_one, if_pos hx, if_pos hy]
        ring
      · have hset : {u | (if u < a x then x else y) = t} = {u | u < a x} := by
          ext u
          simp [hx, hy]
        rw [hset, hbelow, if_pos hx, if_neg hy, add_zero]
    · by_cases hy : y = t
      · have hset : {u | (if u < a x then x else y) = t} = {u | ¬ u < a x} := by
          ext u
          simp [hx, hy]
        rw [hset, habove, if_neg hx, if_pos hy, zero_add]
      · have hnone : {u | (if u < a x then x else y) = t} = ∅ := by
          ext u
          by_cases hu : u < a x <;> simp [hu, hx, hy]
        rw [hnone, if_neg hx, if_neg hy, inter_empty, measureReal_empty, add_zero]
  have hrow : ∀ x, ∑ y, q x * w y * ((if x = t then a x else 0) + if y = t then 1 - a x else 0) =
      (if x = t then q x * a x else 0) + q x * (1 - a x) * w t := by
    intro x
    have hsplit : ∀ y, q x * w y * ((if x = t then a x else 0) + if y = t then 1 - a x else 0) =
        (if x = t then q x * a x else 0) * w y + if y = t then q x * (1 - a x) * w y else 0 := by
      intro y
      split <;> split <;> ring
    simp only [hsplit]
    rw [Finset.sum_add_distrib, ← Finset.mul_sum, hw, mul_one, Finset.sum_ite_eq' Finset.univ t,
      if_pos (Finset.mem_univ t)]
  unfold prob
  simp only [hvolume, hrow]
  have hrest : ∑ x, q x * (1 - a x) = 1 - ∑ x, q x * a x := by
    simp only [mul_sub, mul_one]
    rw [Finset.sum_sub_distrib, hq]
  rw [Finset.sum_add_distrib, Finset.sum_ite_eq' Finset.univ t, if_pos (Finset.mem_univ t),
    ← Finset.sum_mul, hrest]

end

/-! ## Exact thresholds -/

/-- The part of the target that the proposal does not cover. -/
def residual (p q : T → ℝ) (t : T) : ℝ := max (p t - q t) 0

/-- The weights of the replacement: the residual, normalised, or the target when there is no
residual. -/
noncomputable def replacement (p q : T → ℝ) (t : T) : ℝ :=
  if 0 < ∑ x, residual p q x then residual p q t / ∑ x, residual p q x else p t

omit [Fintype T] in
theorem residual_nonneg (p q : T → ℝ) (t : T) : 0 ≤ residual p q t := le_max_right _ _

theorem sum_replacement (hp : ∑ t, p t = 1) : ∑ t, replacement p q t = 1 := by
  unfold replacement
  split
  · rename_i hpos
    rw [← Finset.sum_div, div_self hpos.ne']
  · exact hp

omit [Fintype T] in
/-- The target is what the proposal covers and the residual. -/
theorem min_add_residual (p q : T → ℝ) (t : T) : min (p t) (q t) + residual p q t = p t := by
  unfold residual
  rcases le_total (p t) (q t) with h | h
  · rw [min_eq_left h, max_eq_right (sub_nonpos.mpr h), add_zero]
  · rw [min_eq_right h, max_eq_left (sub_nonneg.mpr h), add_sub_cancel]

theorem sum_residual (hp : ∑ t, p t = 1) : ∑ t, residual p q t = 1 - ∑ t, min (p t) (q t) := by
  rw [eq_sub_iff_add_eq, ← Finset.sum_add_distrib, ← hp]
  apply Finset.sum_congr rfl
  intro t _
  rw [add_comm, min_add_residual]

variable [DecidableEq T]

/-- A token is returned too rarely by what its own threshold leaves out, and too often by its
share of what all thresholds leave out. -/
theorem prob_return_replacement (hp : ∑ t, p t = 1) (hq : ∑ t, q t = 1)
    (ha : ∀ x, 0 ≤ a x ∧ a x ≤ 1) (t : T) :
    prob q (replacement p q) (fun x u y => (if u < a x then x else y) = t) =
      p t - (min (p t) (q t) - q t * a t) +
        (∑ x, (min (p x) (q x) - q x * a x)) * replacement p q t := by
  have hcover := min_add_residual p q t
  have hrest : 1 - ∑ x, q x * a x =
      ∑ x, residual p q x + ∑ x, (min (p x) (q x) - q x * a x) := by
    rw [sum_residual hp, Finset.sum_sub_distrib]
    ring
  have hreplaced : (∑ x, residual p q x) * replacement p q t = residual p q t := by
    unfold replacement
    split
    · rename_i hpos
      exact mul_div_cancel₀ _ hpos.ne'
    · rename_i hnone
      -- without a residual the target is covered
      have hzero : ∑ x, residual p q x = 0 :=
        le_antisymm (not_lt.mp hnone) (Finset.sum_nonneg fun x _ => residual_nonneg p q x)
      rw [hzero, zero_mul]
      exact ((Finset.sum_eq_zero_iff_of_nonneg fun x _ => residual_nonneg p q x).mp hzero t
        (Finset.mem_univ t)).symm
  rw [prob_return hq (sum_replacement hp) ha, hrest, add_mul, hreplaced]
  linarith

/-- Thresholds that accept what both distributions share return the target. -/
theorem return_of_exact (hp : ∑ t, p t = 1) (hq : ∑ t, q t = 1) (ha : ∀ x, 0 ≤ a x ∧ a x ≤ 1)
    (hexact : ∀ x, q x * a x = min (p x) (q x)) (t : T) :
    prob q (replacement p q) (fun x u y => (if u < a x then x else y) = t) = p t := by
  rw [prob_return_replacement hp hq ha]
  simp only [hexact, sub_self, Finset.sum_const_zero, sub_zero, zero_mul, add_zero]

/-- Whatever the thresholds leave out moves the law of the returned token by at most that much. -/
theorem return_near (hp0 : ∀ t, 0 ≤ p t) (hp : ∑ t, p t = 1) (hq : ∑ t, q t = 1)
    (ha : ∀ x, 0 ≤ a x ∧ a x ≤ 1) (hle : ∀ x, q x * a x ≤ min (p x) (q x)) :
    ∑ t, |prob q (replacement p q) (fun x u y => (if u < a x then x else y) = t) - p t| ≤
      2 * ∑ x, (min (p x) (q x) - q x * a x) := by
  have hleft : 0 ≤ ∑ x, (min (p x) (q x) - q x * a x) :=
    Finset.sum_nonneg fun x _ => sub_nonneg.mpr (hle x)
  have hweight : ∀ t, 0 ≤ replacement p q t := by
    intro t
    unfold replacement
    split
    · exact div_nonneg (residual_nonneg p q t) (Finset.sum_nonneg fun x _ => residual_nonneg p q x)
    · exact hp0 t
  calc ∑ t, |prob q (replacement p q) (fun x u y => (if u < a x then x else y) = t) - p t|
      ≤ ∑ t, ((∑ x, (min (p x) (q x) - q x * a x)) * replacement p q t +
          (min (p t) (q t) - q t * a t)) := by
        apply Finset.sum_le_sum
        intro t _
        rw [prob_return_replacement hp hq ha, abs_le]
        have hshare := mul_nonneg hleft (hweight t)
        have ht := hle t
        constructor <;> linarith
    _ = 2 * ∑ x, (min (p x) (q x) - q x * a x) := by
        rw [Finset.sum_add_distrib, ← Finset.mul_sum, sum_replacement hp]
        ring

omit [DecidableEq T] in
/-- One threshold that is too small makes acceptance too rare. -/
theorem accept_lt (hw : ∑ y, w y = 1) (ha : ∀ x, 0 ≤ a x ∧ a x ≤ 1)
    (hle : ∀ x, q x * a x ≤ min (p x) (q x)) {t : T} (ht : q t * a t < min (p t) (q t)) :
    prob q w (fun x u _ => u < a x) < ∑ x, min (p x) (q x) := by
  rw [prob_accept hw ha]
  exact Finset.sum_lt_sum (fun x _ => hle x) ⟨t, Finset.mem_univ t, ht⟩

end RejectionSampling

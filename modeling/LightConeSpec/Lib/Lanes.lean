import Mathlib.Algebra.BigOperators.Intervals
import Mathlib.Algebra.Order.BigOperators.Group.Finset
import Mathlib.Tactic.Common

/-!
# Lanes

A list dealt out to `k` lanes in turn, as the slices `xs[i::k]` of Python do. Every
element is in one lane, so what is counted in the list is counted lane by lane
(`sum_lanes`); a property that at most one element of a lane has, at most `k` elements of
the list have (`length_filter_le_lanes`).
-/

namespace Lanes

open Finset

variable {α : Type*}

/-- `xs[i::k]`. -/
def lane (k : ℕ) : ℕ → List α → List α
  | _, [] => []
  | 0, x :: xs => x :: lane k (k - 1) xs
  | i + 1, _ :: xs => lane k i xs

theorem lane_sublist (k i : ℕ) (xs : List α) : (lane k i xs).Sublist xs := by
  induction xs generalizing i with
  | nil => exact List.Sublist.refl _
  | cons x xs ih =>
    cases i with
    | zero => exact (ih (k - 1)).cons_cons x
    | succ i => exact (ih i).cons x

/-- The lanes count what the list counts. One element more turns the lanes by one: what was
the last of them gets it and becomes the first. -/
theorem sum_lanes {k : ℕ} (hk : 0 < k) (p : α → Bool) (xs : List α) :
    ∑ i ∈ range k, ((lane k i xs).filter p).length = (xs.filter p).length := by
  cases k with
  | zero => cases hk
  | succ k =>
    induction xs with
    | nil => simp [lane]
    | cons x xs ih =>
      rw [sum_range_succ] at ih
      have hfirst : ((lane (k + 1) 0 (x :: xs)).filter p).length =
          ([x].filter p).length + ((lane (k + 1) k xs).filter p).length := by
        rw [lane, Nat.add_sub_cancel, ← List.singleton_append, List.filter_append,
          List.length_append]
      have hlist : ((x :: xs).filter p).length =
          ([x].filter p).length + (xs.filter p).length := by
        rw [← List.singleton_append, List.filter_append, List.length_append]
      rw [sum_range_succ', hfirst, hlist, ← ih]
      simp only [lane]
      omega

/-- One element of each lane makes at most as many as there are lanes. -/
theorem length_filter_le_lanes {k : ℕ} (hk : 0 < k) {p : α → Bool} {xs : List α}
    (h : ∀ i < k, ((lane k i xs).filter p).length ≤ 1) : (xs.filter p).length ≤ k := by
  rw [← sum_lanes hk]
  calc ∑ i ∈ range k, ((lane k i xs).filter p).length
      ≤ ∑ _i ∈ range k, 1 := by
        apply sum_le_sum
        intro i hi
        exact h i (mem_range.mp hi)
    _ = k := by rw [← card_eq_sum_ones, card_range]

example : lane 2 1 [10, 11, 12, 13, 14] = [11, 13] := rfl

end Lanes

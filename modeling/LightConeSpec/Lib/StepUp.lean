import Mathlib.Algebra.Order.Field.Basic
import Mathlib.Data.List.GetD
import Mathlib.Data.List.Sort
import Mathlib.Order.Bounds.Basic
import Mathlib.Order.Lattice.Nat
import Mathlib.Tactic.Linarith

/-!
# The step-up procedure

Ascending values `p 1 ≤ ⋯ ≤ p m` of a family of `m` hypotheses are tested at a
level `q`. A rank `k` is admitted when `p k * m ≤ k * q`, and the procedure
rejects every value that is at most the one at the largest admitted rank.

The adjusted value of a rank is the least of `p j * m / j` over the ranks from it
on, cut off at one. The rules below connect the two: a rank is rejected exactly
when its adjusted value is at most the level, adjusted values ascend, and ranks
with the same value have the same adjusted value.
-/

namespace StepUp

open List

variable {K : Type*} [Field K] [LinearOrder K]

/-- The value of a rank, counted from one, among some values. -/
def orderStatistic (values : List K) (k : ℕ) : K :=
  (values.insertionSort (· ≤ ·)).getD (k - 1) 1

/-- The rank is one of the family and its value is below the line of slope `q / m`. -/
def Admitted (p : ℕ → K) (m : ℕ) (q : K) (k : ℕ) : Prop :=
  (1 ≤ k ∧ k ≤ m) ∧ p k * m ≤ k * q

/-- A value is rejected if it is at most the one at the largest admitted rank. -/
def Rejected (p : ℕ → K) (m : ℕ) (q x : K) : Prop :=
  ∃ k, IsGreatest {k | Admitted p m q k} k ∧ x ≤ p k

/-- The value of a rank scaled by the family, cut off at one. -/
def scaled (p : ℕ → K) (m k : ℕ) : K := min 1 (p k * m / k)

/-- The adjusted value of a rank: the least scaled value from that rank on. -/
def Adjusted (p : ℕ → K) (m k : ℕ) (a : K) : Prop :=
  IsLeast (insert 1 (scaled p m '' Set.Icc k m)) a

section

variable {p : ℕ → K} {m j k : ℕ} {q a b : K}

/-! ## The running minimum -/

/-- Past the last rank the minimum is the cut-off. -/
theorem adjusted_above : Adjusted p m (m + 1) 1 := by
  have hempty : Set.Icc (m + 1) m = ∅ := Set.Icc_eq_empty (by omega)
  rw [Adjusted, hempty, Set.image_empty, insert_empty_eq]
  exact isLeast_singleton

/-- One rank further down the minimum takes in the scaled value of that rank. -/
theorem Adjusted.cons (h : Adjusted p m (k + 1) a) (hk : k ≤ m) :
    Adjusted p m k (min a (scaled p m k)) := by
  have hranks : Set.Icc k m = insert k (Set.Icc (k + 1) m) := by
    ext j
    simp only [Set.mem_Icc, Set.mem_insert_iff]
    omega
  rw [Adjusted, hranks, Set.image_insert_eq, Set.insert_comm, min_comm]
  exact IsLeast.insert _ h

/-! ## Bounds -/

theorem Adjusted.le_one (h : Adjusted p m k a) : a ≤ 1 :=
  h.2 (Set.mem_insert 1 _)

theorem Adjusted.le_scaled (h : Adjusted p m k a) (hkj : k ≤ j) (hj : j ≤ m) : a ≤ scaled p m j :=
  h.2 (Set.mem_insert_of_mem _ ⟨j, ⟨hkj, hj⟩, rfl⟩)

theorem Adjusted.eq_or (h : Adjusted p m k a) : a = 1 ∨ ∃ j, k ≤ j ∧ j ≤ m ∧ scaled p m j = a := by
  rcases h.1 with hone | ⟨j, ⟨hkj, hj⟩, rfl⟩
  · exact .inl hone
  · exact .inr ⟨j, hkj, hj, rfl⟩

/-- Anything below the cut-off and below every scaled value from the rank on is
below the adjusted value. -/
theorem Adjusted.le_of (h : Adjusted p m k a) {x : K} (hone : x ≤ 1)
    (hscaled : ∀ j, k ≤ j → j ≤ m → x ≤ scaled p m j) : x ≤ a := by
  rcases h.eq_or with rfl | ⟨j, hkj, hj, rfl⟩
  · exact hone
  · exact hscaled j hkj hj

/-- Adjusted values ascend with the rank. -/
theorem Adjusted.mono (h : Adjusted p m j a) (h' : Adjusted p m k b) (hjk : j ≤ k) : a ≤ b :=
  h'.le_of h.le_one fun _ hkl hl => h.le_scaled (hjk.trans hkl) hl

variable [IsStrictOrderedRing K]

/-- A probability is at most its scaled value. -/
theorem raw_le_scaled (hnonneg : 0 ≤ p k) (hone : p k ≤ 1) (hk : 1 ≤ k) (hkm : k ≤ m) :
    p k ≤ scaled p m k := by
  have hpos : (0 : K) < k := by exact_mod_cast hk
  have hm : (k : K) ≤ m := by exact_mod_cast hkm
  refine le_min hone ?_
  rw [le_div_iff₀ hpos]
  exact mul_le_mul_of_nonneg_left hm hnonneg

variable (hmono : MonotoneOn p (Set.Icc 1 m)) (hprob : ∀ k, 1 ≤ k → k ≤ m → 0 ≤ p k ∧ p k ≤ 1)
include hmono hprob

/-- An adjusted value is at least the value of its rank. -/
theorem Adjusted.raw_le (h : Adjusted p m k a) (hk : 1 ≤ k) (hkm : k ≤ m) : p k ≤ a := by
  refine h.le_of (hprob k hk hkm).2 ?_
  intro j hkj hj
  have hle : p k ≤ p j := hmono ⟨hk, hkm⟩ ⟨hk.trans hkj, hj⟩ hkj
  have hpj := hprob j (hk.trans hkj) hj
  exact hle.trans (raw_le_scaled hpj.1 hpj.2 (hk.trans hkj) hj)

/-! ## Ties -/

/-- Of two ranks with one value the later has the smaller scaled value, so the
ranks between them do not lower the minimum. -/
theorem Adjusted.eq_of_tie (h : Adjusted p m j a) (h' : Adjusted p m k b) (hj : 1 ≤ j)
    (hjk : j ≤ k) (hk : k ≤ m) (htie : p j = p k) : a = b := by
  refine le_antisymm (h.mono h' hjk) ?_
  refine h.le_of h'.le_one ?_
  intro l hjl hl
  rcases le_total k l with hkl | hlk
  · exact h'.le_scaled hkl hl
  · -- between the ranks the value is the same and the divisor is smaller
    have hle : p j ≤ p l := hmono ⟨hj, hjk.trans hk⟩ ⟨hj.trans hjl, hl⟩ hjl
    have hge : p l ≤ p k := hmono ⟨hj.trans hjl, hl⟩ ⟨hj.trans hjk, hk⟩ hlk
    have hvalue : p l = p k := le_antisymm hge (htie ▸ hle)
    have hpos : (0 : K) < l := by exact_mod_cast hj.trans hjl
    have hcast : (l : K) ≤ k := by exact_mod_cast hlk
    have hnonneg : 0 ≤ p k * m :=
      mul_nonneg (hprob k (hj.trans hjk) hk).1 (Nat.cast_nonneg m)
    have hquot : p k * m / k ≤ p l * m / l := by
      rw [hvalue]
      exact div_le_div_of_nonneg_left hnonneg hpos hcast
    exact (h'.le_scaled le_rfl hk).trans (min_le_min_left 1 hquot)

/-! ## The decision -/

omit hmono hprob in
/-- Below the cut-off a level bounds the adjusted value exactly when it admits a
rank from there on. -/
theorem Adjusted.le_iff (h : Adjusted p m k a) (hk : 1 ≤ k) (hq : q < 1) :
    a ≤ q ↔ ∃ j, k ≤ j ∧ Admitted p m q j := by
  have hadmitted : ∀ j, 1 ≤ j → (scaled p m j ≤ q ↔ p j * m ≤ j * q) := by
    intro j hj
    have hpos : (0 : K) < j := by exact_mod_cast hj
    rw [scaled, min_le_iff, div_le_iff₀ hpos, mul_comm q]
    exact ⟨fun hor => hor.resolve_left (not_le.mpr hq), Or.inr⟩
  constructor
  · intro hle
    rcases h.eq_or with rfl | ⟨j, hkj, hj, rfl⟩
    · exact absurd hle (not_le.mpr hq)
    · exact ⟨j, hkj, ⟨hk.trans hkj, hj⟩, (hadmitted j (hk.trans hkj)).mp hle⟩
  · rintro ⟨j, hkj, ⟨hj1, hjm⟩, hline⟩
    exact (h.le_scaled hkj hjm).trans ((hadmitted j hj1).mpr hline)

omit [IsStrictOrderedRing K] hmono hprob in
/-- If some rank is admitted there is a largest one, and it is no smaller. -/
theorem exists_greatest (h : Admitted p m q j) :
    ∃ k, IsGreatest {k | Admitted p m q k} k ∧ j ≤ k := by
  have hbound : ∀ k ∈ {k | Admitted p m q k}, k ≤ m := fun k hk => hk.1.2
  have hgreatest : IsGreatest {k | Admitted p m q k} (sSup {k | Admitted p m q k}) :=
    ⟨Nat.sSup_mem ⟨j, h⟩ ⟨m, hbound⟩, fun k hk => le_csSup ⟨m, hbound⟩ hk⟩
  exact ⟨_, hgreatest, hgreatest.2 h⟩

omit hprob in
/-- The adjusted value of a rank is at most the level exactly when the step-up
definition rejects the value of that rank. -/
theorem Adjusted.le_iff_rejected (h : Adjusted p m k a) (hk : 1 ≤ k) (hkm : k ≤ m) (hq : 0 < q)
    (hq1 : q < 1) : a ≤ q ↔ Rejected p m q (p k) := by
  rw [h.le_iff hk hq1]
  constructor
  · rintro ⟨j, hkj, hj⟩
    rcases exists_greatest hj with ⟨l, hl, hjl⟩
    exact ⟨l, hl, hmono ⟨hk, hkm⟩ ⟨hl.1.1.1, hl.1.1.2⟩ (hkj.trans hjl)⟩
  · rintro ⟨l, hl, hle⟩
    rcases le_total k l with hkl | hlk
    · exact ⟨l, hkl, hl.1⟩
    · -- a later rank with the value of the largest one is admitted as well
      have hvalue : p k = p l := le_antisymm hle (hmono ⟨hl.1.1.1, hl.1.1.2⟩ ⟨hk, hkm⟩ hlk)
      have hcast : (l : K) * q ≤ k * q :=
        mul_le_mul_of_nonneg_right (by exact_mod_cast hlk) hq.le
      exact ⟨k, le_rfl, ⟨hk, hkm⟩, by rw [hvalue]; exact hl.1.2.trans hcast⟩

end

/-! ## Order statistics -/

/-- An ascending arrangement of some values lists their order statistics. -/
theorem orderStatistic_of_sorted {values sorted : List K} (hperm : sorted.Perm values)
    (hsorted : sorted.Pairwise (· ≤ ·)) (k : ℕ) :
    orderStatistic values k = sorted.getD (k - 1) 1 := by
  have hsort : (values.insertionSort (· ≤ ·)).Perm sorted :=
    (perm_insertionSort _ _).trans hperm.symm
  have hle : (values.insertionSort (· ≤ ·)).Pairwise (· ≤ ·) := pairwise_insertionSort _ _
  have heq : values.insertionSort (· ≤ ·) = sorted :=
    hsort.eq_of_pairwise (fun _ _ _ _ hab hba => le_antisymm hab hba) hle hsorted
  rw [orderStatistic, heq]

/-- Order statistics ascend. -/
theorem monotoneOn_orderStatistic (values : List K) :
    MonotoneOn (orderStatistic values) (Set.Icc 1 values.length) := by
  rintro j ⟨hj, hjm⟩ k ⟨hk, hkm⟩ hjk
  have hlen : (values.insertionSort (· ≤ ·)).length = values.length := length_insertionSort _ _
  have hsorted : (values.insertionSort (· ≤ ·)).Pairwise (· ≤ ·) := pairwise_insertionSort _ _
  have hj' : j - 1 < (values.insertionSort (· ≤ ·)).length := by omega
  have hk' : k - 1 < (values.insertionSort (· ≤ ·)).length := by omega
  rw [orderStatistic, orderStatistic, getD_eq_getElem _ _ hj', getD_eq_getElem _ _ hk']
  rcases Nat.lt_or_ge (j - 1) (k - 1) with hlt | hge
  · exact pairwise_iff_getElem.mp hsorted _ _ hj' hk' hlt
  · have heq : j - 1 = k - 1 := by omega
    simp only [heq, le_refl]

/-- An order statistic is one of the values. -/
theorem orderStatistic_mem {values : List K} {k : ℕ} (hk : 1 ≤ k) (hkm : k ≤ values.length) :
    orderStatistic values k ∈ values := by
  have hlen : (values.insertionSort (· ≤ ·)).length = values.length := length_insertionSort _ _
  have hk' : k - 1 < (values.insertionSort (· ≤ ·)).length := by omega
  rw [orderStatistic, getD_eq_getElem _ _ hk']
  exact (perm_insertionSort _ _).mem_iff.mp (getElem_mem hk')

end StepUp

import LightConeSpec.Lib.Python
import LightConeSpec.Lib.RejectionSampling
import LightConeSpec.Lib.Tensors

/-!
# Exact speculative rejection sampling

`rejection_sample` on batches of positions, over any ordered field, and the law of what it
returns for one position when its three draws are independent. Probabilities are exact
numbers; `torch.finfo` gives the same constants as for floats, and `clamp_min` compares with
them.
-/

namespace Sampling

open Python Tensors

/-! ## `rejection_sample` -/

/-- A tensor of distributions: the last dimension is the vocabulary, the others make the
rows. -/
structure Probabilities (K : Type) where
  shape : List ℕ
  device : Device
  dtype : Dtype
  isfinite : Bool
  entry : ℕ → ℕ → K

structure TokenTensor where
  shape : List ℕ
  device : Device
  dtype : Dtype
  value : ℕ → ℤ

/-- One uniform number for each row. -/
structure UniformTensor (K : Type) where
  shape : List ℕ
  device : Device
  dtype : Dtype
  isfinite : Bool
  value : ℕ → K

section

variable {K : Type} [Field K] [LinearOrder K]

namespace Probabilities

variable (value : Probabilities K)

def rows : ℕ := value.shape.dropLast.prod

def vocabulary : ℕ := value.shape.getLast?.getD 0

/-- `value.sum(dim=-1)`. -/
def mass (row : ℕ) : K := ∑ token ∈ Finset.range value.vocabulary, value.entry row token

/-- `value.gather(-1, token.unsqueeze(-1)).squeeze(-1)`. -/
def gather (token : ℕ → ℤ) (row : ℕ) : K := value.entry row (token row).toNat

end Probabilities

def validateProbability (name : String) (value : Probabilities K) : Except Error Unit := do
  require (value.dtype.isFloatingPoint ∧ value.shape ≠ [] ∧ 1 ≤ value.vocabulary)
    (valueError s!"{name} must be a non-empty floating distribution")
  require value.isfinite (valueError s!"{name} contains a non-finite probability")
  require (∀ row < value.rows, ∀ token < value.vocabulary, 0 ≤ value.entry row token)
    (valueError s!"{name} contains a negative probability")
  let tolerance : K := 32 * (value.dtype.eps : K)
  require (∀ row < value.rows, |value.mass row - 1| ≤ tolerance + tolerance * |1|)
    (valueError s!"{name} rows must sum to one")

def threshold (target proposal : Probabilities K) (token : ℕ → ℤ) (row : ℕ) : K :=
  min 1 (target.gather token row / max (proposal.gather token row) (proposal.dtype.tiny : K))

def residual (target proposal : Probabilities K) (row token : ℕ) : K :=
  max (target.entry row token - proposal.entry row token) 0

def rejectionProbability (target proposal : Probabilities K) (row token : ℕ) : K :=
  let residualMass := ∑ token ∈ Finset.range target.vocabulary, residual target proposal row token
  if 0 < residualMass then
    residual target proposal row token
      / max residualMass ((target.dtype.promote proposal.dtype).tiny : K)
  else target.entry row token

/-- The tokens and acceptance flags of the rows; `multinomial` draws a token for each row of the
weights that it is given. -/
def rejectionSample (target proposal : Probabilities K) (proposalToken : TokenTensor)
    (uniform : UniformTensor K) (multinomial : (ℕ → ℕ → K) → ℕ → ℤ) :
    Except Error ((ℕ → ℤ) × (ℕ → Bool)) := do
  require (target.shape = proposal.shape)
    (valueError "target and proposal distributions must match")
  require (target.device = proposal.device)
    (valueError "target and proposal distributions must share a device")
  validateProbability "target_probability" target
  validateProbability "proposal_probability" proposal
  require (proposalToken.shape = target.shape.dropLast)
    (valueError "proposal_token has an incompatible shape")
  require (proposalToken.device = target.device)
    (valueError "proposal_token must share the distribution device")
  require (proposalToken.dtype ∈ [Dtype.int8, .int16, .int32, .int64, .uint8])
    (valueError "proposal_token must use an integer dtype")
  require (∀ row < target.rows,
      0 ≤ proposalToken.value row ∧ proposalToken.value row < target.vocabulary)
    (valueError "proposal_token is outside the vocabulary")
  require (uniform.shape = proposalToken.shape)
    (valueError "one coupled uniform is required per token")
  require (uniform.device = target.device ∧ uniform.dtype.isFloatingPoint)
    (valueError "uniforms must be floating values on the distribution device")
  require (uniform.isfinite ∧ ∀ row < target.rows, 0 ≤ uniform.value row ∧ uniform.value row < 1)
    (valueError "uniforms must be finite values in [0, 1)")
  require (∀ row < target.rows, 0 < proposal.gather proposalToken.value row)
    (valueError "proposal token must have positive mass under the recorded proposal")
  let accepted := fun row =>
    decide (uniform.value row < threshold target proposal proposalToken.value row)
  let replacement := multinomial (rejectionProbability target proposal)
  pure (fun row => if accepted row then proposalToken.value row else replacement row, accepted)

end

/-! ## One position -/

/-- A distribution over a vocabulary. -/
structure ProbabilityVector (n : ℕ) where
  mass : Fin n → ℝ
  mass_nonneg : ∀ t, 0 ≤ mass t
  sum_mass : ∑ t, mass t = 1

abbrev FloatDtype := { dtype : Dtype // dtype.isFloatingPoint = true }

namespace ProbabilityVector

variable {n : ℕ}

def tensor (p : ProbabilityVector n) (dtype : FloatDtype) : Probabilities ℝ where
  shape := [n]
  device := .cpu
  dtype := dtype
  isfinite := true
  entry _ token := if h : token < n then p.mass ⟨token, h⟩ else 0

end ProbabilityVector

section

variable {n : ℕ} (p q : ProbabilityVector n) (targetType proposalType : FloatDtype)

/-- The call for one position with its three draws. -/
noncomputable def call (x : Fin n) (u : ℝ) (y : Fin n) : Except Error ((ℕ → ℤ) × (ℕ → Bool)) :=
  rejectionSample (p.tensor targetType) (q.tensor proposalType) ⟨[], .cpu, .int64, fun _ => x⟩
    ⟨[], .cpu, .float32, true, fun _ => u⟩ fun _ _ => y

/-- The token that the call returns. -/
def Returns (t : Fin n) (x : Fin n) (u : ℝ) (y : Fin n) : Prop :=
  ∃ result, call p q targetType proposalType x u y = .ok result ∧ result.1 0 = t

def Accepts (x : Fin n) (u : ℝ) (y : Fin n) : Prop :=
  ∃ result, call p q targetType proposalType x u y = .ok result ∧ result.2 0 = true

/-- The law of `torch.multinomial`, which normalises its weights. -/
noncomputable def drawn (t : Fin n) : ℝ :=
  let weights := rejectionProbability (p.tensor targetType) (q.tensor proposalType) 0
  weights t / ∑ token : Fin n, weights token

/-- The returned token has the law of the target, and a proposal is accepted with the
probability that both share. -/
structure PreservesTarget : Prop where
  returned : ∀ t, RejectionSampling.prob q.mass (drawn p q targetType proposalType)
    (Returns p q targetType proposalType t) = p.mass t
  accepted : RejectionSampling.prob q.mass (drawn p q targetType proposalType)
    (Accepts p q targetType proposalType) = ∑ t, min (p.mass t) (q.mass t)

end

/-! ## The law of a call -/

namespace ProbabilityVector

variable {n : ℕ} (p : ProbabilityVector n) (dtype : FloatDtype)

@[simp] theorem tensor_entry (row : ℕ) (t : Fin n) : (p.tensor dtype).entry row t = p.mass t := by
  simp only [tensor, t.isLt, dif_pos]

@[simp] theorem tensor_gather (t : Fin n) (row : ℕ) :
    (p.tensor dtype).gather (fun _ => (t : ℤ)) row = p.mass t := by
  unfold Probabilities.gather
  rw [Int.toNat_natCast, tensor_entry]

@[simp] theorem tensor_mass (row : ℕ) : (p.tensor dtype).mass row = 1 := by
  unfold Probabilities.mass
  rw [← p.sum_mass]
  change ∑ token ∈ Finset.range n, _ = _
  rw [Finset.sum_range]
  exact Finset.sum_congr rfl fun t _ => p.tensor_entry dtype row t

include p in
/-- A distribution is over some token. -/
theorem one_le : 1 ≤ n := by
  by_contra hnone
  have hn : n = 0 := by omega
  subst hn
  have hsum := p.sum_mass
  rw [Finset.univ_eq_empty, Finset.sum_empty] at hsum
  exact zero_ne_one hsum

theorem validated (name : String) : validateProbability name (p.tensor dtype) = .ok () := by
  unfold validateProbability
  simp only [bind_eq_ok, require_eq_ok]
  refine ⟨(), ⟨dtype.2, by simp [tensor], p.one_le⟩, (), rfl, (), ?_, ?_⟩
  · intro row _ token htoken
    change token < n at htoken
    rw [p.tensor_entry dtype row ⟨token, htoken⟩]
    exact p.mass_nonneg _
  · intro row _
    have heps : (0 : ℝ) ≤ (dtype.1.eps : ℝ) := by exact_mod_cast dtype.1.eps_pos.le
    rw [tensor_mass, sub_self, abs_zero, abs_one]
    positivity

end ProbabilityVector

section

variable {n : ℕ} (p q : ProbabilityVector n) (targetType proposalType : FloatDtype)

/-- The threshold of a token. -/
noncomputable def acceptance (x : Fin n) : ℝ :=
  min 1 (p.mass x / max (q.mass x) (proposalType.1.tiny : ℝ))

/-- A call on draws that can occur returns. -/
theorem call_eq_ok {x : Fin n} {u : ℝ} (y : Fin n) (hq : 0 < q.mass x)
    (hu : u ∈ Set.Ico (0 : ℝ) 1) : call p q targetType proposalType x u y =
      .ok (fun _ => if u < acceptance p q proposalType x then (x : ℤ) else y,
        fun _ => decide (u < acceptance p q proposalType x)) := by
  have hthreshold : ∀ row, threshold (p.tensor targetType) (q.tensor proposalType)
      (fun _ => (x : ℤ)) row = acceptance p q proposalType x := by
    intro row
    unfold threshold acceptance
    rw [ProbabilityVector.tensor_gather, ProbabilityVector.tensor_gather]
    rfl
  unfold call rejectionSample
  simp only [bind_eq_ok, require_eq_ok, pure_eq_ok]
  refine ⟨(), rfl, (), rfl, (), p.validated targetType _, (), q.validated proposalType _, (), rfl,
    (), rfl, (), by decide, (), ?_, (), trivial, (), ⟨rfl, rfl⟩, (), ⟨trivial, ?_⟩, (), ?_, ?_⟩
  · intro row _
    exact ⟨Int.natCast_nonneg _, Int.ofNat_lt.mpr x.isLt⟩
  · intro row _
    exact hu
  · intro row _
    rw [ProbabilityVector.tensor_gather]
    exact hq
  · simp only [hthreshold, decide_eq_true_eq]

/-- The replacement is drawn from the normalised residual. -/
theorem drawn_eq :
    drawn p q targetType proposalType = RejectionSampling.replacement p.mass q.mass := by
  have hresidual : ∀ token : Fin n, residual (p.tensor targetType) (q.tensor proposalType) 0 token =
      RejectionSampling.residual p.mass q.mass token := by
    intro token
    unfold residual RejectionSampling.residual
    rw [ProbabilityVector.tensor_entry, ProbabilityVector.tensor_entry]
  have hmass : ∑ token ∈ Finset.range (p.tensor targetType).vocabulary,
      residual (p.tensor targetType) (q.tensor proposalType) 0 token =
        ∑ token, RejectionSampling.residual p.mass q.mass token := by
    change ∑ token ∈ Finset.range n, _ = _
    rw [Finset.sum_range]
    exact Finset.sum_congr rfl fun token _ => hresidual token
  ext t
  unfold drawn rejectionProbability RejectionSampling.replacement
  simp only [hmass, hresidual, ProbabilityVector.tensor_entry]
  split
  · rename_i hpos
    -- the clamp scales all weights alike
    have hclamp : max (∑ token, RejectionSampling.residual p.mass q.mass token)
        (((p.tensor targetType).dtype.promote (q.tensor proposalType).dtype).tiny : ℝ) ≠ 0 :=
      (lt_max_of_lt_left hpos).ne'
    rw [← Finset.sum_div, div_div_div_cancel_right₀ hclamp]
  · rw [p.sum_mass, div_one]

theorem acceptance_mem (x : Fin n) :
    0 ≤ acceptance p q proposalType x ∧ acceptance p q proposalType x ≤ 1 := by
  constructor
  · exact le_min zero_le_one (div_nonneg (p.mass_nonneg x) (le_max_of_le_left (q.mass_nonneg x)))
  · exact min_le_left _ _

/-- A threshold accepts at most what both distributions share. -/
theorem mass_mul_acceptance_le (x : Fin n) :
    q.mass x * acceptance p q proposalType x ≤ min (p.mass x) (q.mass x) := by
  have hq := q.mass_nonneg x
  rcases hq.eq_or_lt with hzero | hpos
  · rw [← hzero, zero_mul]
    exact le_min (p.mass_nonneg x) le_rfl
  · apply le_min
    · calc q.mass x * acceptance p q proposalType x
          ≤ q.mass x * (p.mass x / q.mass x) := by
            apply mul_le_mul_of_nonneg_left _ hq
            exact (min_le_right _ _).trans
              (div_le_div_of_nonneg_left (p.mass_nonneg x) hpos (le_max_left _ _))
        _ = p.mass x := mul_div_cancel₀ _ hpos.ne'
    · exact mul_le_of_le_one_right hq (acceptance_mem p q proposalType x).2

/-- A threshold accepts all of it unless both probabilities are below the clamp. -/
theorem mass_mul_acceptance_eq_iff (x : Fin n) :
    q.mass x * acceptance p q proposalType x = min (p.mass x) (q.mass x) ↔
      ¬ (0 < q.mass x ∧ q.mass x < proposalType.1.tiny ∧ 0 < p.mass x ∧
        p.mass x < proposalType.1.tiny) := by
  have htiny : (0 : ℝ) < (proposalType.1.tiny : ℝ) := by exact_mod_cast proposalType.1.tiny_pos
  have hp := p.mass_nonneg x
  unfold acceptance
  generalize hc : (proposalType.1.tiny : ℝ) = c at *
  rcases (q.mass_nonneg x).eq_or_lt with hzero | hpos
  · rw [← hzero, zero_mul, min_eq_right hp]
    simp
  rw [mul_min_of_nonneg _ _ hpos.le, mul_one, min_comm]
  rcases le_total c (q.mass x) with hle | hge
  · -- the clamp does not bind
    rw [max_eq_left hle, mul_div_cancel₀ _ hpos.ne']
    simp only [not_and, not_lt, true_iff]
    intro _ hlt
    exact absurd hle (not_le.mpr hlt)
  rw [max_eq_right hge]
  have hshare : q.mass x * (p.mass x / c) = p.mass x * (q.mass x / c) := by ring
  constructor
  · rintro heq ⟨_, hqc, hpp, hpc⟩
    -- both below the clamp: strictly less than either
    have hlow : q.mass x * (p.mass x / c) < q.mass x :=
      mul_lt_of_lt_one_right hpos ((div_lt_one htiny).mpr hpc)
    have hlow' : q.mass x * (p.mass x / c) < p.mass x := by
      rw [hshare]
      exact mul_lt_of_lt_one_right hpp ((div_lt_one htiny).mpr hqc)
    have hmin := lt_min hlow' hlow
    rw [min_eq_left hlow.le] at heq
    exact hmin.ne heq
  · intro hnot
    by_cases hqc : q.mass x < c
    · rcases hp.eq_or_lt with hpz | hpp
      · rw [← hpz, zero_div, mul_zero]
      · have hpc : c ≤ p.mass x := not_lt.mp fun hlt => hnot ⟨hpos, hqc, hpp, hlt⟩
        have hover : q.mass x ≤ q.mass x * (p.mass x / c) :=
          le_mul_of_one_le_right hpos.le ((one_le_div htiny).mpr hpc)
        rw [min_eq_right hover, min_eq_right (hge.trans hpc)]
    · have hqeq : q.mass x = c := le_antisymm hge (not_lt.mp hqc)
      rw [hqeq, mul_div_cancel₀ _ htiny.ne']

/-- The law of the returned token. -/
theorem prob_returns (t : Fin n) : RejectionSampling.prob q.mass (drawn p q targetType proposalType)
        (Returns p q targetType proposalType t) =
      RejectionSampling.prob q.mass (RejectionSampling.replacement p.mass q.mass)
        (fun x u y => (if u < acceptance p q proposalType x then x else y) = t) := by
  rw [drawn_eq]
  apply RejectionSampling.prob_congr q.mass_nonneg
  intro x u y hq hu
  have hcast : (if u < acceptance p q proposalType x then (x : ℤ) else y) =
      ((if u < acceptance p q proposalType x then x else y : Fin n) : ℤ) := by
    split <;> rfl
  unfold Returns
  rw [call_eq_ok p q targetType proposalType y hq hu]
  constructor
  · rintro ⟨result, hok, hreturned⟩
    rw [← Except.ok.inj hok] at hreturned
    exact Fin.ext (Int.ofNat_inj.mp (hcast.symm.trans hreturned))
  · intro ht
    refine ⟨_, rfl, ?_⟩
    rw [hcast, ht]

/-- The law of acceptance. -/
theorem prob_accepts : RejectionSampling.prob q.mass (drawn p q targetType proposalType)
        (Accepts p q targetType proposalType) =
      RejectionSampling.prob q.mass (RejectionSampling.replacement p.mass q.mass)
        (fun x u _ => u < acceptance p q proposalType x) := by
  rw [drawn_eq]
  apply RejectionSampling.prob_congr q.mass_nonneg
  intro x u y hq hu
  unfold Accepts
  rw [call_eq_ok p q targetType proposalType y hq hu]
  constructor
  · rintro ⟨result, hok, haccepted⟩
    rw [← Except.ok.inj hok] at haccepted
    exact of_decide_eq_true haccepted
  · intro hlt
    exact ⟨_, rfl, decide_eq_true hlt⟩

/-- A token that the clamp makes too rare. -/
def Clamped (t : Fin n) : Prop :=
  0 < q.mass t ∧ q.mass t < proposalType.1.tiny ∧ 0 < p.mass t ∧ p.mass t < proposalType.1.tiny

/-- One clamped token makes acceptance too rare. -/
theorem accepts_lt_of_clamped {t : Fin n} (ht : Clamped p q proposalType t) :
    RejectionSampling.prob q.mass (drawn p q targetType proposalType)
      (Accepts p q targetType proposalType) < ∑ t, min (p.mass t) (q.mass t) := by
  rw [prob_accepts]
  apply RejectionSampling.accept_lt (RejectionSampling.sum_replacement p.sum_mass)
    (acceptance_mem p q proposalType) (mass_mul_acceptance_le p q proposalType)
  refine lt_of_le_of_ne (mass_mul_acceptance_le p q proposalType t) fun heq => ?_
  exact (mass_mul_acceptance_eq_iff p q proposalType t).mp heq ht

/-- The target is preserved exactly when no token that both distributions contain is below the
clamp in both. -/
theorem rejectionSample_exact_iff :
    PreservesTarget p q targetType proposalType ↔ ∀ t, ¬ Clamped p q proposalType t := by
  constructor
  · intro hpreserves t ht
    exact (accepts_lt_of_clamped p q targetType proposalType ht).ne hpreserves.accepted
  · intro hnone
    have hexact := fun x => (mass_mul_acceptance_eq_iff p q proposalType x).mpr (hnone x)
    constructor
    · intro t
      rw [prob_returns]
      exact RejectionSampling.return_of_exact p.sum_mass q.sum_mass
        (acceptance_mem p q proposalType) hexact t
    · rw [prob_accepts, RejectionSampling.prob_accept (RejectionSampling.sum_replacement p.sum_mass)
        (acceptance_mem p q proposalType)]
      exact Finset.sum_congr rfl fun x _ => hexact x

open Classical in
/-- The clamp moves the law of the returned token by at most twice what both distributions share
on the clamped tokens, and acceptance by at most that much. -/
theorem rejectionSample_near :
    ∑ t, |RejectionSampling.prob q.mass (drawn p q targetType proposalType)
          (Returns p q targetType proposalType t) - p.mass t| ≤
        2 * ∑ t with Clamped p q proposalType t, min (p.mass t) (q.mass t) ∧
      ∑ t, min (p.mass t) (q.mass t) - ∑ t with Clamped p q proposalType t,
          min (p.mass t) (q.mass t) ≤
        RejectionSampling.prob q.mass (drawn p q targetType proposalType)
          (Accepts p q targetType proposalType) := by
  have hlost : ∑ t, (min (p.mass t) (q.mass t) - q.mass t * acceptance p q proposalType t) ≤
      ∑ t with Clamped p q proposalType t, min (p.mass t) (q.mass t) := by
    rw [Finset.sum_filter]
    apply Finset.sum_le_sum
    intro t _
    split
    · exact sub_le_self _ (mul_nonneg (q.mass_nonneg t) (acceptance_mem p q proposalType t).1)
    · rename_i hkept
      rw [(mass_mul_acceptance_eq_iff p q proposalType t).mpr hkept, sub_self]
  constructor
  · simp only [prob_returns]
    have hnear := RejectionSampling.return_near p.mass_nonneg p.sum_mass q.sum_mass
      (acceptance_mem p q proposalType) (mass_mul_acceptance_le p q proposalType)
    linarith
  · rw [prob_accepts, RejectionSampling.prob_accept (RejectionSampling.sum_replacement p.sum_mass)
      (acceptance_mem p q proposalType)]
    rw [Finset.sum_sub_distrib] at hlost
    linarith

end

/-- A distribution with a token below the smallest normal number of half precision. -/
noncomputable def smallTail : ProbabilityVector 3 where
  mass
    | 0 => 2047 / 2048
    | 1 => 15 / 32768
    | 2 => 1 / 32768
  mass_nonneg t := by
    fin_cases t <;> norm_num
  sum_mass := by
    rw [Fin.sum_univ_three]
    norm_num

/-- The two distributions are equal, but the rare token is not always accepted. -/
theorem rejectionSample_clamped :
    ¬ PreservesTarget smallTail smallTail ⟨.float16, rfl⟩ ⟨.float16, rfl⟩ := by
  intro hpreserves
  have hclamped : Clamped smallTail smallTail ⟨.float16, rfl⟩ 2 := by
    norm_num [Clamped, smallTail, Dtype.tiny]
  exact (accepts_lt_of_clamped _ _ _ _ hclamped).ne hpreserves.accepted

end Sampling

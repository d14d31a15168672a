import LightConeSpec.OnlineSpec.Learners

/-!
# The regret of projected gradient descent

Rounds of `OnlineSpecOGD`, each a proposal that is committed at once. Whatever the gradients are,
the published parameters lose little against any fixed tuple of the trust region: with `T` rounds
at the rate `η` at most `r ^ 2 / (2 η) + η T clip ^ 2 / 2` to first order, `regret_le`.
-/

namespace OnlineSpec

open Python Tensors BallProjection

noncomputable section

namespace OnlineSpecOGD

/-- The gradients that a step goes along. -/
def clipped (self : OnlineSpecOGD) (gradients : Parameters) : Except Error Parameters := do
  let gradients ← validateGradients self.parameters gradients
  clipGlobalNorm gradients (some self.gradClip)

/-- A proposal that is committed at once. -/
def round (self : OnlineSpecOGD) (gradients : Parameters) : Except Error Unit × OnlineSpecOGD :=
  match propose gradients self with
  | (.error error, next) => (.error error, next)
  | (.ok proposal, next) => commit proposal next

/-- What the parameters lose to a fixed tuple along the gradients. -/
def excess (self : OnlineSpecOGD) (gradients fixed : Parameters) : ℝ :=
  match self.clipped gradients with
  | .error _ => 0
  | .ok grads => lost self.initial grads self.parameters fixed

/-- The loss of all rounds. A round that raises leaves the learner as it is. -/
def regret (fixed : Parameters) : OnlineSpecOGD → List Parameters → ℝ
  | _, [] => 0
  | self, gradients :: rest =>
    match self.round gradients with
    | (.error _, next) => regret fixed next rest
    | (.ok _, next) => self.excess gradients fixed + regret fixed next rest

variable {self next : OnlineSpecOGD} {gradients grads fixed : Parameters} {r : ℝ}

/-- A proposal is a projected step along the clipped gradients. -/
theorem propose_steps (gradients : Parameters) (hradius : self.projectionRadius = some (some r)) :
    Method.PerformsAt (propose gradients) self fun proposal self' => self' = self ∧
      ∃ grads, self.clipped gradients = .ok grads ∧
        Projects (descend self.learningRate (self.parameters.map (·.float32)) grads) self.initial r
          proposal.parameters := by
  unfold propose
  refine Method.performsAt_read (Method.performsAt_check ?_)
  intro candidate hcandidate
  refine Method.performsAt_pure ⟨rfl, ?_⟩
  unfold ogdUpdate at hcandidate
  simp only [id_eq, hradius, bind_eq_ok, positiveFinite_eq_ok] at hcandidate
  rcases hcandidate with ⟨_, -, _, ⟨hrate, -⟩, valid, hvalid, grads, hgrads, _, -, hprojects⟩
  rw [← Option.some.inj hrate] at hprojects
  exact ⟨grads, bind_eq_ok.mpr ⟨valid, hvalid, hgrads⟩, projectL2Ball_eq_ok.mp hprojects⟩

/-- The clipped gradients are laid out as the parameters, and no longer than the limit. -/
theorem norm_clipped_le (hshapes : SameShapes self.parameters self.initial)
    (h : self.clipped gradients = .ok grads) :
    SameShapes grads self.initial ∧ ‖vec self.initial grads‖ ≤ self.gradClip := by
  unfold clipped validateGradients clipGlobalNorm at h
  simp only [bind_eq_ok, require_eq_ok, pure_eq_ok, positiveFinite_eq_ok] at h
  rcases h with ⟨_, ⟨_, ⟨hlayout, -⟩, _, -, rfl⟩, limit, ⟨hlimit, hpos⟩, _, -, rfl⟩
  obtain rfl := Option.some.inj hlimit
  have hvalid : SameShapes (gradients.map (·.float32)) self.initial :=
    sameShapes_map (fun _ => rfl) ((sameShapes_of_layout hlayout).trans hshapes)
  refine ⟨sameShapes_map (fun _ => rfl) hvalid, ?_⟩
  rw [vec_scaleBy hvalid, norm_vec hvalid, norm_smul]
  refine (mul_le_mul_of_nonneg_right ?_ (norm_nonneg _)).trans
    (factor_mul_le clampMin_pos hpos (norm_nonneg _))
  exact (Real.norm_of_nonneg (factor_nonneg clampMin_pos hpos)).le

/-- How far the parameters are from a fixed tuple. -/
def gap (self : OnlineSpecOGD) (fixed : Parameters) : ℝ :=
  ‖vec self.initial self.parameters - vec self.initial fixed‖

/-- A round pays for what it loses to a tuple of the trust region by coming nearer to it, or
changes nothing. -/
theorem round_cases (gradients : Parameters) (hradius : self.projectionRadius = some (some r))
    (hr : clampMin ≤ r) (hshapes : SameShapes self.parameters self.initial)
    (hfixed : Within self.initial r fixed) :
    (∃ error, self.round gradients = (.error error, self)) ∨
      ∃ parameters step, self.round gradients = (.ok (), { self with parameters, step }) ∧
        SameShapes parameters self.initial ∧ 2 * self.learningRate * self.excess gradients fixed +
            gap { self with parameters, step } fixed ^ 2 ≤
          self.gap fixed ^ 2 + (self.learningRate * self.gradClip) ^ 2 := by
  have hpropose := propose_steps gradients hradius
  unfold round
  cases hproposed : propose gradients self with
  | mk result learner =>
    cases result with
    | error error => exact .inl ⟨error, by rw [hpropose.of_error hproposed]⟩
    | ok proposal =>
      rcases hpropose.of_ok hproposed with ⟨rfl, grads, hgrads, hprojects⟩
      have hcommit := commit_performs proposal learner
      cases hcommitted : commit proposal learner with
      | mk result next =>
        cases result with
        | error error => exact .inl ⟨error, hcommit.of_error hcommitted ▸ hcommitted⟩
        | ok _ =>
          refine .inr ⟨_, _, hcommit.of_ok hcommitted ▸ hcommitted, hprojects.sameShapes, ?_⟩
          rcases norm_clipped_le hshapes hgrads with ⟨hgshapes, hnorm⟩
          have hstep : vec learner.initial (descend learner.learningRate
              (learner.parameters.map (·.float32)) grads) = vec learner.initial learner.parameters -
                learner.learningRate • vec learner.initial grads := by
            ext p
            rw [descend, vec_zipWith (sameShapes_map (g := Tensor.float32) (fun _ => rfl) hshapes)
              hgshapes (fun _ _ _ _ hi => Tensor.entry_map₂ hi),
              vec_map hshapes (g := Tensor.float32) (f := id) fun _ _ _ => rfl]
            rfl
          have hnear := norm_step_sub_sq_le clampMin_pos hr (within_iff.mp hfixed).2
            (x := vec learner.initial learner.parameters) (η := learner.learningRate)
            (g := vec learner.initial grads)
          rw [← hstep, ← hprojects.vec_eq] at hnear
          have hsquare := mul_le_mul_of_nonneg_left
            (pow_le_pow_left₀ (norm_nonneg _) hnorm 2) (sq_nonneg learner.learningRate)
          rw [excess, hgrads, mul_pow]
          unfold gap lost
          dsimp only
          linarith

/-- The induction is on the rounds; the gap to the fixed tuple pays for them. -/
theorem regret_add_le (hradius : self.projectionRadius = some (some r)) (hr : clampMin ≤ r)
    (hshapes : SameShapes self.parameters self.initial) (hfixed : Within self.initial r fixed)
    (rounds : List Parameters) : 2 * self.learningRate * regret fixed self rounds ≤
      self.gap fixed ^ 2 + rounds.length * (self.learningRate * self.gradClip) ^ 2 := by
  induction rounds generalizing self with
  | nil =>
    rw [regret, mul_zero]
    positivity
  | cons gradients rest ih =>
    rw [List.length_cons, Nat.cast_succ, add_mul, one_mul, regret]
    rcases round_cases gradients hradius hr hshapes hfixed with
      ⟨error, hround⟩ | ⟨parameters, step, hround, hnext, hnearer⟩
    · have hrest := ih hradius hshapes hfixed
      have hsquare := sq_nonneg (self.learningRate * self.gradClip)
      rw [hround]
      dsimp only
      linarith
    · have hrest := @ih { self with parameters, step } hradius hnext hfixed
      rw [hround]
      dsimp only at hrest ⊢
      linarith

/-- The regret against every tuple of the trust region, over any rounds. -/
theorem regret_le {parameters : Parameters} {learningRate gradClip : FloatArgument}
    {learner : OnlineSpecOGD} (hr : clampMin ≤ r)
    (hnew : new parameters learningRate (some (some r)) gradClip = .ok learner)
    (hfixed : Within learner.initial r fixed) (rounds : List Parameters) :
    2 * learner.learningRate * regret fixed learner rounds ≤
      r ^ 2 + rounds.length * (learner.learningRate * learner.gradClip) ^ 2 := by
  rcases new_eq_ok hnew with ⟨-, hradius, hparameters⟩
  have hsum := regret_add_le hradius hr (hparameters ▸ rfl) hfixed rounds
  have hstart : learner.gap fixed ≤ r := by
    rw [gap, hparameters, norm_sub_rev]
    exact (within_iff.mp hfixed).2
  have hsquare : learner.gap fixed ^ 2 ≤ r ^ 2 := pow_le_pow_left₀ (norm_nonneg _) hstart 2
  linarith

/-- Two rounds of a learner of one number. -/
theorem scalar_regret_le :
    2 * 2 * regret [scalar 0] ⟨[scalar 0], [scalar 0], 2, some (some 1), 1, 0⟩
      [[scalar 1], [scalar 3]] ≤ 1 ^ 2 + (2 : ℕ) * (2 * 1) ^ 2 := by
  have hnew : new [scalar 0] (some 2) (some (some 1)) (some 1) =
      .ok ⟨[scalar 0], [scalar 0], 2, some (some 1), 1, 0⟩ := by
    unfold new
    rw [asParameters_scalar, positiveFinite_eq_ok.mpr ⟨rfl, two_pos⟩,
      positiveFinite_eq_ok.mpr ⟨rfl, one_pos⟩]
    rfl
  have hmin : clampMin ≤ 1 := by
    unfold clampMin
    norm_num
  exact regret_le hmin hnew (within_self one_pos) _

end OnlineSpecOGD

end

end OnlineSpec

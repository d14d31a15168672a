import Mathlib.Analysis.SpecialFunctions.Exp
import LightConeSpec.Lib.Chunks
import LightConeSpec.Lib.Machine
import LightConeSpec.Lib.Method
import LightConeSpec.OnlineSpec.Projection

/-!
# Online learners

The three learners of `onlinespec`. `propose` computes a proposal and leaves the learner as
it is, `commit` installs one. A run calls them in any order; what is committed was returned
by `propose` of the same learner, perhaps long ago.
-/

namespace OnlineSpec

open Python Machine Chunks BallProjection Tensors List Method

structure OnlineSpecProposal where
  parameters : Parameters
  auxiliary : List Tensor
  step : ℤ

/-- What a learner offers; `G` is what `propose` is called with. -/
structure Methods (L G : Type) where
  propose : G → Method L OnlineSpecProposal
  commit : OnlineSpecProposal → Method L Unit

noncomputable section

/-! ## `OnlineSpecOGD` -/

/-- Projected OGD with transactional proposal/commit semantics. -/
structure OnlineSpecOGD where
  initial : Parameters
  parameters : Parameters
  learningRate : ℝ
  projectionRadius : Option FloatArgument
  gradClip : ℝ
  step : ℤ

namespace OnlineSpecOGD

/-- `__init__`. -/
def new (parameters : Parameters) (learningRate : FloatArgument)
    (projectionRadius : Option FloatArgument) (gradClip : FloatArgument) :
    Except Error OnlineSpecOGD := do
  asParameters parameters "parameters"
  let learningRate ← positiveFinite learningRate "learning_rate must be positive and finite"
  let gradClip ← positiveFinite gradClip "grad_clip must be positive and finite"
  pure
    { initial := parameters.map (·.float32)
      parameters := parameters.map (·.float32)
      learningRate := learningRate
      projectionRadius := projectionRadius
      gradClip := gradClip
      step := 0 }

def propose (gradients : Parameters) : Method OnlineSpecOGD OnlineSpecProposal := do
  let self ← Method.read id
  let candidate ← Method.check (ogdUpdate self.parameters gradients (some self.learningRate)
    (some self.initial) self.projectionRadius (some self.gradClip))
  pure ⟨candidate, [], self.step + 1⟩

def commit (proposal : OnlineSpecProposal) : Method OnlineSpecOGD Unit := do
  let self ← Method.read id
  Method.check (require (proposal.step = self.step + 1 ∧ proposal.auxiliary.length = 0)
    (valueError "OGD proposal does not extend the active state"))
  Method.check (validateState self.parameters proposal.parameters "OGD proposal parameters")
  Method.assign fun self => { self with parameters := proposal.parameters }
  Method.assign fun self => { self with step := proposal.step }

def methods : Methods OnlineSpecOGD Parameters := ⟨propose, commit⟩

end OnlineSpecOGD

/-! ## `OnlineSpecOptimistic` -/

/-- The paper's two-state optimistic update, not a momentum shortcut. -/
structure OnlineSpecOptimistic where
  initial : Parameters
  anchor : Parameters
  hint : Parameters
  parameters : Parameters
  learningRate : ℝ
  projectionRadius : Option FloatArgument
  gradClip : ℝ
  step : ℤ

namespace OnlineSpecOptimistic

/-- `__init__`. -/
def new (parameters : Parameters) (learningRate : FloatArgument)
    (projectionRadius : Option FloatArgument) (gradClip : FloatArgument) :
    Except Error OnlineSpecOptimistic := do
  asParameters parameters "parameters"
  let learningRate ← positiveFinite learningRate "learning_rate must be positive and finite"
  let gradClip ← positiveFinite gradClip "grad_clip must be positive and finite"
  let initial := parameters.map (·.float32)
  pure
    { initial := initial
      anchor := initial
      hint := initial.map (·.zerosLike)
      parameters := initial
      learningRate := learningRate
      projectionRadius := projectionRadius
      gradClip := gradClip
      step := 0 }

def propose (gradients : Parameters) : Method OnlineSpecOptimistic OnlineSpecProposal := do
  let self ← Method.read id
  let gradients ← Method.check (validateGradients self.parameters gradients)
  let grads ← Method.check (clipGlobalNorm gradients (some self.gradClip))
  let nextAnchor ← Method.check (projectL2Ball (descend self.learningRate self.anchor grads)
    self.initial self.projectionRadius)
  let nextDecision ← Method.check (projectL2Ball (descend self.learningRate nextAnchor grads)
    self.initial self.projectionRadius)
  pure ⟨nextDecision, nextAnchor ++ grads, self.step + 1⟩

def commit (proposal : OnlineSpecProposal) : Method OnlineSpecOptimistic Unit := do
  let self ← Method.read id
  let width := self.parameters.length
  Method.check (require (proposal.step = self.step + 1 ∧ proposal.auxiliary.length = 2 * width)
    (valueError "optimistic proposal does not extend the active state"))
  Method.check (validateState self.parameters proposal.parameters
    "optimistic proposal parameters")
  Method.check (validateState self.anchor (proposal.auxiliary.take width)
    "optimistic proposal anchors")
  Method.check (validateState self.hint (proposal.auxiliary.drop width)
    "optimistic proposal hints")
  Method.assign fun self => { self with parameters := proposal.parameters }
  Method.assign fun self => { self with anchor := proposal.auxiliary.take width }
  Method.assign fun self => { self with hint := proposal.auxiliary.drop width }
  Method.assign fun self => { self with step := proposal.step }

def methods : Methods OnlineSpecOptimistic Parameters := ⟨propose, commit⟩

end OnlineSpecOptimistic

/-! ## `OnlineSpecHedge` -/

/-- Independent OGD experts combined by cumulative-loss Hedge. -/
structure OnlineSpecHedge where
  initial : Parameters
  experts : List Parameters
  learningRates : List ℝ
  hedgeLearningRate : ℝ
  projectionRadius : Option FloatArgument
  gradClip : ℝ
  cumulativeLosses : Tensor
  parameters : Parameters
  step : ℤ

/-- `torch.softmax` of a tensor with one dimension. -/
def softmax (values : List ℝ) : List ℝ :=
  values.map fun value => Real.exp value / (values.map Real.exp).sum

/-- `torch.stack(tensors).mul(weights).sum(0)`. -/
def mixTensors (weights : List ℝ) (tensors : List Tensor) : Tensor where
  shape := (tensors.head?.map (·.shape)).getD []
  device := (tensors.head?.map (·.device)).getD .cpu
  dtype := .float32
  isfinite := tensors.all (·.isfinite)
  entries i := (List.zipWith (fun weight tensor => weight * tensor.entry i) weights tensors).sum

namespace OnlineSpecHedge

/-- `__init__`. -/
def new (parameters : Parameters) (learningRates : List FloatArgument)
    (hedgeLearningRate : FloatArgument) (projectionRadius : Option FloatArgument)
    (gradClip : FloatArgument) : Except Error OnlineSpecHedge := do
  asParameters parameters "parameters"
  let rates := learningRates.filterMap id
  require (2 ≤ learningRates.length ∧ rates.length = learningRates.length ∧ ∀ rate ∈ rates, 0 < rate)
    (valueError "Hedge needs at least two positive finite learning rates")
  require (rates.Nodup ∧ rates.Pairwise (· ≤ ·))
    (valueError "Hedge learning rates must be unique and increasing")
  let hedgeLearningRate ← positiveFinite hedgeLearningRate
    "hedge_learning_rate must be positive and finite"
  let gradClip ← positiveFinite gradClip "grad_clip must be positive and finite"
  let initial := parameters.map (·.float32)
  pure
    { initial := initial
      experts := rates.map fun _ => initial
      learningRates := rates
      hedgeLearningRate := hedgeLearningRate
      projectionRadius := projectionRadius
      gradClip := gradClip
      cumulativeLosses :=
        { shape := [rates.length]
          device := (initial.head?.map (·.device)).getD .cpu
          dtype := .float32
          isfinite := true
          entries := fun _ => 0 }
      parameters := initial
      step := 0 }

/-- `torch.softmax(-self.hedge_learning_rate * cumulative, dim=0)`. -/
def probabilities (self : OnlineSpecHedge) (cumulative : Tensor) : List ℝ :=
  softmax ((List.ofFn cumulative.entries).map (-self.hedgeLearningRate * ·))

/-- `updated_experts`, where one of the updates may raise. -/
def updatedExperts (self : OnlineSpecHedge) (gradients : List Parameters) :
    Except Error (List Parameters) :=
  collect (List.zipWith (fun expert (gradient, learningRate) =>
    ogdUpdate expert gradient (some learningRate) (some self.initial) self.projectionRadius
      (some self.gradClip)) self.experts (gradients.zip self.learningRates))

/-- The mixture of the experts, one tensor for each of the initial ones. -/
def decision (self : OnlineSpecHedge) (probabilities : List ℝ) (experts : List Parameters) :
    Parameters :=
  (List.range self.initial.length).map fun index =>
    mixTensors probabilities (experts.filterMap (·[index]?))

def propose (arguments : Tensor × List Parameters) :
    Method OnlineSpecHedge OnlineSpecProposal := do
  let self ← Method.read id
  let losses := arguments.1
  Method.check (require (losses.shape = self.cumulativeLosses.shape
      ∧ losses.device = self.cumulativeLosses.device
      ∧ losses.dtype.isFloatingPoint ∧ losses.isfinite)
    (valueError "one finite loss is required per Hedge expert"))
  Method.check (require (arguments.2.length = self.experts.length)
    (valueError "one gradient tuple is required per Hedge expert"))
  let updated ← Method.check (self.updatedExperts arguments.2)
  let cumulative := self.cumulativeLosses.map₂ (· + ·) losses.float32
  pure ⟨self.decision (self.probabilities cumulative) updated, updated.flatten ++ [cumulative],
    self.step + 1⟩

def validateExperts (self : OnlineSpecHedge) (values : List Tensor) : Except Error Unit :=
  forEach (fun (expert, index) =>
    validateState expert (chunk self.initial.length values index) s!"Hedge expert {index}")
    self.experts.zipIdx

def commit (proposal : OnlineSpecProposal) : Method OnlineSpecHedge Unit := do
  let self ← Method.read id
  let width := self.initial.length
  Method.check (require (proposal.step = self.step + 1
      ∧ proposal.auxiliary.length = self.experts.length * width + 1)
    (valueError "Hedge proposal does not extend the active state"))
  Method.check (validateState self.parameters proposal.parameters "Hedge proposal parameters")
  let values := proposal.auxiliary.dropLast
  Method.check (self.validateExperts values)
  Method.check (validateState [self.cumulativeLosses] proposal.auxiliary.getLast?.toList
    "Hedge cumulative loss")
  Method.assign fun self => { self with
    experts := (List.range self.experts.length).map (chunk width values) }
  Method.assign fun self => { self with
    cumulativeLosses := proposal.auxiliary.getLast?.getD self.cumulativeLosses }
  Method.assign fun self => { self with parameters := proposal.parameters }
  Method.assign fun self => { self with step := proposal.step }

def methods : Methods OnlineSpecHedge (Tensor × List Parameters) := ⟨propose, commit⟩

end OnlineSpecHedge

end

/-! ## Runs -/

/-- A learner and the proposals that it returned. -/
structure Run (L : Type) where
  learner : L
  returned : List OnlineSpecProposal

/-- A call, a commit of the proposal at a position among those returned. -/
inductive Call (G : Type)
  | propose (arguments : G)
  | commit (position : ℕ)

variable {L G : Type}

/-- One call. There is no call to commit a proposal that was not returned. -/
def Methods.step (methods : Methods L G) (run : Run L) : Call G → Except Error Unit × Run L
  | .propose arguments =>
    match methods.propose arguments run.learner with
    | (.ok proposal, learner) => (.ok (), ⟨learner, run.returned ++ [proposal]⟩)
    | (.error error, learner) => (.error error, ⟨learner, run.returned⟩)
  | .commit position =>
    match run.returned[position]? with
    | none => (.ok (), run)
    | some proposal =>
      let (result, learner) := methods.commit proposal run.learner
      (result, ⟨learner, run.returned⟩)

def Methods.after (methods : Methods L G) (learner : L) (calls : List (Call G)) : L :=
  (final methods.step ⟨learner, []⟩ calls).learner

/-- A proposal that is not committed, or not accepted, leaves every field as it was. -/
structure Methods.Transactional (methods : Methods L G) : Prop where
  propose : ∀ arguments learner, (methods.propose arguments learner).2 = learner
  commit : ∀ proposal learner error, (methods.commit proposal learner).1 = .error error →
    (methods.commit proposal learner).2 = learner

/-! ## The rule of runs -/

/-- The learner is safe, and so is to commit what it returned. -/
def Run.Keeps (Safe : L → Prop) (Sound : OnlineSpecProposal → Prop) (run : Run L) : Prop :=
  Safe run.learner ∧ ∀ proposal ∈ run.returned, Sound proposal

section

variable {methods : Methods L G} {Safe : L → Prop} {Sound : OnlineSpecProposal → Prop}

/-- Step lemma: a proposal stays sound until it is committed. -/
theorem Methods.step_keeps
    (hpropose : ∀ arguments learner, Safe learner →
      PerformsAt (methods.propose arguments) learner fun proposal learner' =>
        learner' = learner ∧ Sound proposal)
    (hcommit : ∀ proposal learner, Safe learner → Sound proposal →
      PerformsAt (methods.commit proposal) learner fun _ learner' => Safe learner')
    (run : Run L) (call : Call G) (h : run.Keeps Safe Sound) :
    (methods.step run call).2.Keeps Safe Sound := by
  rcases h with ⟨hsafe, hsound⟩
  cases call with
  | propose arguments =>
    have hperforms := hpropose arguments run.learner hsafe
    cases hcall : methods.propose arguments run.learner with
    | mk result learner' =>
      simp only [Methods.step, hcall]
      cases result with
      | error error =>
        have hsame : learner' = run.learner := hperforms.of_error hcall
        exact ⟨hsame ▸ hsafe, hsound⟩
      | ok proposal =>
        rcases hperforms.of_ok hcall with ⟨rfl, hnew⟩
        refine ⟨hsafe, ?_⟩
        intro p hp
        rcases mem_append.mp hp with hp | hp
        · exact hsound p hp
        · rw [mem_singleton.mp hp]
          exact hnew
  | commit position =>
    cases hat : run.returned[position]? with
    | none =>
      simp only [Methods.step, hat]
      exact ⟨hsafe, hsound⟩
    | some proposal =>
      have hperforms := hcommit proposal run.learner hsafe
        (hsound proposal (mem_of_getElem? hat))
      cases hcall : methods.commit proposal run.learner with
      | mk result learner' =>
        simp only [Methods.step, hat, hcall]
        cases result with
        | error error =>
          have hsame : learner' = run.learner := hperforms.of_error hcall
          exact ⟨hsame ▸ hsafe, hsound⟩
        | ok _ => exact ⟨hperforms.of_ok hcall, hsound⟩

/-- What `propose` returns stays sound, and what is sound may be committed at any time. -/
theorem Methods.after_keeps (Safe : L → Prop) (Sound : OnlineSpecProposal → Prop)
    (hpropose : ∀ arguments learner, Safe learner →
      PerformsAt (methods.propose arguments) learner fun proposal learner' =>
        learner' = learner ∧ Sound proposal)
    (hcommit : ∀ proposal learner, Safe learner → Sound proposal →
      PerformsAt (methods.commit proposal) learner fun _ learner' => Safe learner')
    {learner : L} (hlearner : Safe learner) (calls : List (Call G)) :
    Safe (methods.after learner calls) := by
  have hstart : (⟨learner, []⟩ : Run L).Keeps Safe Sound :=
    ⟨hlearner, fun _ hnone => absurd hnone not_mem_nil⟩
  have hrun := @trace_invariant _ _ _ methods.step (Run.Keeps Safe Sound) (fun _ _ => True)
    (fun run call h _ => Methods.step_keeps hpropose hcommit run call h) _ hstart calls
    fun _ _ => trivial
  exact hrun.2.1

end

/-- A method that changes nothing when it returns changes nothing. -/
theorem unchanged_of_performsAt {α σ : Type} {m : Method σ α} {s : σ} {R : α → σ → Prop}
    (h : PerformsAt m s fun a t => t = s ∧ R a t) : (m s).2 = s := by
  cases hcall : m s with
  | mk result t =>
    cases result with
    | error error => exact h.of_error hcall
    | ok a => exact (h.of_ok hcall).1

theorem unchanged_of_raises {α σ : Type} {m : Method σ α} {s : σ} {R : α → σ → Prop}
    (h : PerformsAt m s R) {error : Error} (herror : (m s).1 = .error error) :
    (m s).2 = s := by
  cases hcall : m s with
  | mk result t =>
    rw [hcall] at herror
    cases herror
    exact h.of_error hcall

/-! ## The trust region -/

/-- The tuple is laid out as the centre, within the radius of it. -/
def Within (centre : Parameters) (r : ℝ) (values : Parameters) : Prop :=
  SameShapes values centre ∧ l2Distance values centre ≤ r

section

variable {centre values result : Parameters} {r : ℝ}

theorem Projects.within (h : Projects values centre r result) : Within centre r result :=
  ⟨h.sameShapes, h.l2Distance_le⟩

theorem within_self (hr : 0 < r) : Within centre r centre := by
  refine ⟨rfl, ?_⟩
  rw [l2Distance_eq rfl rfl, sub_self, norm_zero]
  exact hr.le

theorem within_iff : Within centre r values ↔
    SameShapes values centre ∧ ‖vec centre values - vec centre centre‖ ≤ r := by
  unfold Within
  constructor
  · rintro ⟨hshapes, hle⟩
    rw [l2Distance_eq hshapes rfl] at hle
    exact ⟨hshapes, hle⟩
  · rintro ⟨hshapes, hle⟩
    rw [← l2Distance_eq hshapes rfl] at hle
    exact ⟨hshapes, hle⟩

end

/-! ## `OnlineSpecOGD` in runs -/

namespace OnlineSpecOGD

theorem propose_performs (gradients : Parameters) (self : OnlineSpecOGD) :
    PerformsAt (propose gradients) self fun proposal self' => self' = self ∧
      ∀ r, self.projectionRadius = some (some r) → Within self.initial r proposal.parameters := by
  unfold propose
  refine performsAt_read (performsAt_check ?_)
  intro candidate hcandidate
  refine performsAt_pure ⟨rfl, ?_⟩
  intro r hr
  simp only [id_eq, hr] at hcandidate
  rcases ogdUpdate_projects hcandidate with ⟨_, hprojects⟩
  exact hprojects.within

theorem commit_performs (proposal : OnlineSpecProposal) (self : OnlineSpecOGD) :
    PerformsAt (commit proposal) self fun _ self' =>
      self' = { self with parameters := proposal.parameters, step := proposal.step } := by
  unfold commit
  refine performsAt_read (performsAt_check fun _ _ => performsAt_check ?_)
  intro _ _
  exact performsAt_returns rfl rfl

theorem transactional : methods.Transactional where
  propose arguments learner := unchanged_of_performsAt (propose_performs arguments learner)
  commit proposal learner _ herror := unchanged_of_raises (commit_performs proposal learner) herror

/-- The published parameters stay in the trust region. -/
theorem after_within {learner : OnlineSpecOGD} {r : ℝ}
    (hradius : learner.projectionRadius = some (some r))
    (hparameters : Within learner.initial r learner.parameters) (calls : List (Call Parameters)) :
    (methods.after learner calls).initial = learner.initial ∧
      Within learner.initial r (methods.after learner calls).parameters := by
  have hsafe : (methods.after learner calls).initial = learner.initial ∧
      (methods.after learner calls).projectionRadius = some (some r) ∧
      Within learner.initial r (methods.after learner calls).parameters := by
    refine Methods.after_keeps (fun self : OnlineSpecOGD => self.initial = learner.initial ∧
      self.projectionRadius = some (some r) ∧ Within learner.initial r self.parameters)
      (fun proposal => Within learner.initial r proposal.parameters) ?_ ?_
      ⟨rfl, hradius, hparameters⟩ calls
    · -- a proposal is projected whatever the gradients are
      rintro gradients self ⟨hinitial, hself, -⟩
      refine (propose_performs gradients self).mono ?_
      rintro proposal self' ⟨rfl, hwithin⟩
      exact ⟨rfl, hinitial ▸ hwithin r hself⟩
    · rintro proposal self ⟨hinitial, hself, -⟩ hsound
      refine (commit_performs proposal self).mono ?_
      rintro _ self' rfl
      exact ⟨hinitial, hself, hsound⟩
  exact ⟨hsafe.1, hsafe.2.2⟩

end OnlineSpecOGD

/-! ## `OnlineSpecOptimistic` in runs -/

namespace OnlineSpecOptimistic

theorem propose_performs (gradients : Parameters) (self : OnlineSpecOptimistic) :
    PerformsAt (propose gradients) self fun proposal self' => self' = self ∧
      ∀ r, self.projectionRadius = some (some r) → Within self.initial r proposal.parameters ∧
        Within self.initial r (proposal.auxiliary.take self.initial.length) := by
  unfold propose
  refine performsAt_read (performsAt_check ?_)
  intro gradients _
  refine performsAt_check ?_
  intro grads _
  refine performsAt_check ?_
  intro nextAnchor hanchor
  refine performsAt_check ?_
  intro nextDecision hdecision
  refine performsAt_pure ⟨rfl, ?_⟩
  intro r hr
  simp only [id_eq, hr] at hanchor hdecision
  have hanchor := (projectL2Ball_eq_ok.mp hanchor).within
  have hwidth : nextAnchor.length = self.initial.length := hanchor.1.length
  refine ⟨(projectL2Ball_eq_ok.mp hdecision).within, ?_⟩
  rw [take_left' hwidth]
  exact hanchor

theorem commit_performs (proposal : OnlineSpecProposal) (self : OnlineSpecOptimistic) :
    PerformsAt (commit proposal) self fun _ self' =>
      self' = { self with
        parameters := proposal.parameters
        anchor := proposal.auxiliary.take self.parameters.length
        hint := proposal.auxiliary.drop self.parameters.length
        step := proposal.step } := by
  unfold commit
  refine performsAt_read (performsAt_check fun _ _ => performsAt_check ?_)
  intro _ _
  refine performsAt_check fun _ _ => performsAt_check fun _ _ => ?_
  exact performsAt_returns rfl rfl

theorem transactional : methods.Transactional where
  propose arguments learner := unchanged_of_performsAt (propose_performs arguments learner)
  commit proposal learner _ herror := unchanged_of_raises (commit_performs proposal learner) herror

/-- The published parameters and the anchor stay in the trust region. -/
theorem after_within {learner : OnlineSpecOptimistic} {r : ℝ}
    (hradius : learner.projectionRadius = some (some r))
    (hparameters : Within learner.initial r learner.parameters)
    (hanchor : Within learner.initial r learner.anchor) (calls : List (Call Parameters)) :
    (methods.after learner calls).initial = learner.initial ∧
      Within learner.initial r (methods.after learner calls).parameters ∧
      Within learner.initial r (methods.after learner calls).anchor := by
  have hsafe : (methods.after learner calls).initial = learner.initial ∧
      (methods.after learner calls).projectionRadius = some (some r) ∧
      Within learner.initial r (methods.after learner calls).parameters ∧
      Within learner.initial r (methods.after learner calls).anchor := by
    refine Methods.after_keeps (fun self : OnlineSpecOptimistic =>
      self.initial = learner.initial ∧ self.projectionRadius = some (some r) ∧
        Within learner.initial r self.parameters ∧ Within learner.initial r self.anchor)
      (fun proposal => Within learner.initial r proposal.parameters ∧
        Within learner.initial r (proposal.auxiliary.take learner.initial.length)) ?_ ?_
      ⟨rfl, hradius, hparameters, hanchor⟩ calls
    · rintro gradients self ⟨hinitial, hself, -⟩
      refine (propose_performs gradients self).mono ?_
      rintro proposal self' ⟨rfl, hwithin⟩
      exact ⟨rfl, hinitial ▸ hwithin r hself⟩
    · rintro proposal self ⟨hinitial, hself, hparameters, -⟩ ⟨hnew, hanchor⟩
      refine (commit_performs proposal self).mono ?_
      rintro _ self' rfl
      refine ⟨hinitial, hself, hnew, ?_⟩
      -- the width is read off the published parameters
      show Within learner.initial r (proposal.auxiliary.take self.parameters.length)
      rw [hparameters.1.length]
      exact hanchor
  exact ⟨hsafe.1, hsafe.2.2⟩

end OnlineSpecOptimistic

/-! ## Mixtures of experts -/

variable {experts : List Parameters} {parameters : Parameters} {gradClip : FloatArgument}
  {radius : Option FloatArgument}

section

variable {centre : Parameters} {r : ℝ}

theorem mixture_apply {ι : Type} [Fintype ι] (weights : List ℝ)
    (points : List (EuclideanSpace ℝ ι)) (p : ι) :
    mixture weights points p = (List.zipWith (fun w x => w * x p) weights points).sum := by
  induction weights generalizing points with
  | nil => simp [mixture]
  | cons w weights ih =>
    cases points with
    | nil => simp [mixture]
    | cons x points =>
      have hrest := ih points
      unfold mixture at hrest ⊢
      rw [zipWith_cons_cons, sum_cons, zipWith_cons_cons, sum_cons,
        PiLp.add_apply, PiLp.smul_apply, hrest, smul_eq_mul]

/-- The tensors of the experts at one place. -/
theorem map_entry_filterMap {k : Fin centre.length}
    (hexperts : ∀ expert ∈ experts, SameShapes expert centre) {weights : List ℝ}
    {i : Fin (centre.get k).shape.prod} : List.zipWith (fun w (t : Tensor) => w * t.entry i) weights
        (experts.filterMap (·[(k : ℕ)]?)) =
      List.zipWith (fun w expert => w * vec centre expert ⟨k, i⟩) weights experts := by
  induction experts generalizing weights with
  | nil => simp
  | cons expert experts ih =>
    rw [forall_mem_cons] at hexperts
    have hk : centre[(k : ℕ)]? = some (centre.get k) := getElem?_eq_getElem k.isLt
    rcases hexperts.1.getElem? hk with ⟨t, ht, -⟩
    cases weights with
    | nil => simp
    | cons w weights =>
      have hcons : (expert :: experts).filterMap (·[(k : ℕ)]?) =
          t :: experts.filterMap (·[(k : ℕ)]?) := filterMap_cons_some ht
      rw [hcons, zipWith_cons_cons, zipWith_cons_cons, vec_apply ht, ih hexperts.2]

/-- The decision of experts of the ball lies in the ball. -/
theorem decision_within {self : OnlineSpecHedge} {weights : List ℝ}
    (hlength : weights.length = experts.length) (hweights : ∀ w ∈ weights, 0 ≤ w)
    (hsum : weights.sum = 1) (hexperts : ∀ expert ∈ experts, Within self.initial r expert) :
    Within self.initial r (self.decision weights experts) := by
  have hshapes : ∀ expert ∈ experts, SameShapes expert self.initial :=
    fun expert h => (hexperts expert h).1
  have hat : ∀ k : Fin self.initial.length, (self.decision weights experts)[(k : ℕ)]? =
      some (mixTensors weights (experts.filterMap (·[(k : ℕ)]?))) := by
    intro k
    rw [OnlineSpecHedge.decision, getElem?_map, getElem?_range k.isLt]
    rfl
  -- some expert gives the shapes
  have hne : experts ≠ [] := by
    rintro rfl
    rw [length_eq_zero_iff.mp hlength, sum_nil] at hsum
    exact zero_ne_one hsum
  have hshape : ∀ k : Fin self.initial.length,
      (mixTensors weights (experts.filterMap (·[(k : ℕ)]?))).shape =
        (self.initial.get k).shape := by
    intro k
    have hk : self.initial[(k : ℕ)]? = some (self.initial.get k) :=
      getElem?_eq_getElem k.isLt
    cases experts with
    | nil => exact absurd rfl hne
    | cons expert rest =>
      rcases (hshapes expert mem_cons_self).getElem? hk with ⟨t, ht, htshape⟩
      have hcons : (expert :: rest).filterMap (·[(k : ℕ)]?) =
          t :: rest.filterMap (·[(k : ℕ)]?) := filterMap_cons_some ht
      rw [hcons]
      exact htshape
  have hsame : SameShapes (self.decision weights experts) self.initial := by
    apply ext_getElem?
    intro k
    rw [getElem?_map, getElem?_map]
    rcases Nat.lt_or_ge k self.initial.length with hk | hk
    · rw [hat ⟨k, hk⟩, getElem?_eq_getElem hk]
      exact congrArg some (hshape ⟨k, hk⟩)
    · have hlen : (self.decision weights experts).length = self.initial.length := by
        simp [OnlineSpecHedge.decision]
      rw [getElem?_eq_none hk, getElem?_eq_none (hlen ▸ hk)]
  have hvec : vec self.initial (self.decision weights experts) =
      mixture weights (experts.map (vec self.initial)) := by
    ext ⟨k, i⟩
    have hi : (i : ℕ) < (mixTensors weights (experts.filterMap (·[(k : ℕ)]?))).shape.prod := by
      rw [hshape k]
      exact i.isLt
    rw [vec_apply (hat k), Tensor.entry, dif_pos hi, mixture_apply, zipWith_map_right]
    exact congrArg List.sum (map_entry_filterMap hshapes)
  refine within_iff.mpr ⟨hsame, ?_⟩
  rw [hvec]
  apply norm_mixture_sub_le (by rw [hlength, length_map]) hweights hsum
  intro p hp
  rcases mem_map.mp hp with ⟨expert, hexpert, rfl⟩
  exact (within_iff.mp (hexperts expert hexpert)).2

end

/-- The weights of a softmax. -/
theorem softmax_weights {values : List ℝ} (hne : values ≠ []) :
    (∀ w ∈ softmax values, 0 ≤ w) ∧ (softmax values).sum = 1 := by
  have hpos : 0 < (values.map Real.exp).sum := by
    apply sum_pos
    · intro x hx
      rcases mem_map.mp hx with ⟨value, -, rfl⟩
      exact Real.exp_pos value
    · simpa using hne
  constructor
  · intro w hw
    rcases mem_map.mp hw with ⟨value, -, rfl⟩
    exact (div_pos (Real.exp_pos value) hpos).le
  · have hscaled : softmax values = (values.map Real.exp).map (· * (values.map Real.exp).sum⁻¹) := by
      rw [softmax, map_map]
      exact map_congr_left fun value _ => div_eq_mul_inv _ _
    rw [hscaled, sum_map_mul_right, map_id', mul_inv_cancel₀ hpos.ne']

/-! ## `OnlineSpecHedge` in runs -/

namespace OnlineSpecHedge

/-- The experts that a proposal carries, and their number. -/
def Carries (centre : Parameters) (r : ℝ) (count : ℕ) (auxiliary : List Tensor) : Prop :=
  ∃ (experts : List Parameters) (cumulative : Tensor), auxiliary = experts.flatten ++ [cumulative] ∧ experts.length = count ∧
    ∀ expert ∈ experts, Within centre r expert

/-- One rate and one loss for each expert, of which there is one. -/
structure Aligned (hedge : OnlineSpecHedge) : Prop where
  nonempty : hedge.experts ≠ []
  rates : hedge.learningRates.length = hedge.experts.length
  losses : hedge.cumulativeLosses.shape = [hedge.experts.length]

theorem updatedExperts_within {self : OnlineSpecHedge} {r : ℝ} {gradients updated : List Parameters}
    (hself : self.Aligned) (hradius : self.projectionRadius = some (some r))
    (hgradients : gradients.length = self.experts.length)
    (h : self.updatedExperts gradients = .ok updated) :
    updated.length = self.experts.length ∧ ∀ expert ∈ updated, Within self.initial r expert := by
  have houtcomes := collect_eq_ok.mp h
  constructor
  · have hlength := congrArg List.length houtcomes
    simp only [length_zipWith, length_zip, length_map, hgradients, hself.rates] at hlength
    omega
  · intro expert hexpert
    have hmem : (.ok expert : Except Error Parameters) ∈ updated.map .ok :=
      mem_map_of_mem hexpert
    rw [← houtcomes, ← map_uncurry_zip_eq_zipWith] at hmem
    rcases mem_map.mp hmem with ⟨⟨old, gradient, rate⟩, -, hupdate⟩
    simp only [Function.uncurry_apply_pair, hradius] at hupdate
    rcases ogdUpdate_projects hupdate with ⟨_, hprojects⟩
    exact hprojects.within

/-- A mixture of points of the ball is in it. -/
theorem propose_performs (arguments : Tensor × List Parameters) (self : OnlineSpecHedge) :
    PerformsAt (propose arguments) self fun proposal self' => self' = self ∧
      ∀ r, self.projectionRadius = some (some r) → self.Aligned →
        Within self.initial r proposal.parameters ∧
          Carries self.initial r self.experts.length proposal.auxiliary := by
  unfold propose
  refine performsAt_read (performsAt_check fun _ _ => performsAt_check ?_)
  intro _ hgradients
  refine performsAt_check ?_
  intro updated hupdated
  refine performsAt_pure ⟨rfl, ?_⟩
  intro r hr haligned
  simp only [id_eq, require_eq_ok] at hgradients hupdated
  rcases updatedExperts_within haligned hr hgradients hupdated with ⟨hlength, hwithin⟩
  refine ⟨?_, updated, _, rfl, hlength, hwithin⟩
  have hcount : (List.ofFn (self.cumulativeLosses.map₂ (· + ·)
      arguments.1.float32).entries).length = self.experts.length := by
    rw [length_ofFn]
    show self.cumulativeLosses.shape.prod = _
    rw [haligned.losses, prod_singleton]
  have hne : (List.ofFn (self.cumulativeLosses.map₂ (· + ·) arguments.1.float32).entries).map
      (-self.hedgeLearningRate * ·) ≠ [] := by
    intro hnil
    have hzero := congrArg List.length hnil
    rw [length_map, hcount, length_nil] at hzero
    exact haligned.nonempty (length_eq_zero_iff.mp hzero)
  rcases softmax_weights hne with ⟨hweights, hsum⟩
  refine decision_within ?_ hweights hsum hwithin
  simp only [id_eq, probabilities, softmax, length_map, hcount, hlength]

theorem commit_performs (proposal : OnlineSpecProposal) (self : OnlineSpecHedge) :
    PerformsAt (commit proposal) self fun _ self' =>
      (∀ last ∈ proposal.auxiliary.getLast?, last.shape = self.cumulativeLosses.shape) ∧
      self' = { self with
        experts := (List.range self.experts.length).map
          (chunk self.initial.length proposal.auxiliary.dropLast)
        cumulativeLosses := proposal.auxiliary.getLast?.getD self.cumulativeLosses
        parameters := proposal.parameters
        step := proposal.step } := by
  unfold commit
  refine performsAt_read (performsAt_check fun _ _ => performsAt_check ?_)
  intro _ _
  refine performsAt_check fun _ _ => performsAt_check ?_
  intro _ hlosses
  refine performsAt_returns rfl ⟨?_, rfl⟩
  intro last hlast
  unfold validateState at hlosses
  simp only [bind_eq_ok, require_eq_ok] at hlosses
  rcases hlosses with ⟨⟨⟩, -, hlayout⟩
  rw [Option.mem_def.mp hlast] at hlayout
  simp only [Option.toList_some, map_cons, map_nil, List.cons.injEq, and_true,
    Prod.mk.injEq] at hlayout
  exact hlayout.1

theorem transactional : methods.Transactional where
  propose arguments learner := unchanged_of_performsAt (propose_performs arguments learner)
  commit proposal learner _ herror := unchanged_of_raises (commit_performs proposal learner) herror

/-- The slices of a flattened list of experts are the experts. -/
theorem map_chunk_flatten {centre : Parameters} {r : ℝ}
    (hexperts : ∀ expert ∈ experts, Within centre r expert) :
    (List.range experts.length).map (chunk centre.length experts.flatten) = experts := by
  apply ext_getElem
  · simp
  · intro i hi hi'
    rw [getElem_map, getElem_range]
    exact chunk_flatten (fun expert h => (hexperts expert h).1.length) hi'

/-- The published parameters and all experts stay in the trust region. -/
theorem after_within {learner : OnlineSpecHedge} {r : ℝ} (haligned : learner.Aligned)
    (hradius : learner.projectionRadius = some (some r))
    (hparameters : Within learner.initial r learner.parameters)
    (hexperts : ∀ expert ∈ learner.experts, Within learner.initial r expert)
    (calls : List (Call (Tensor × List Parameters))) :
    (methods.after learner calls).initial = learner.initial ∧
      Within learner.initial r (methods.after learner calls).parameters ∧
      ∀ expert ∈ (methods.after learner calls).experts, Within learner.initial r expert := by
  let Safe : OnlineSpecHedge → Prop := fun self => self.initial = learner.initial ∧
    self.projectionRadius = some (some r) ∧ self.Aligned ∧
    self.experts.length = learner.experts.length ∧ Within learner.initial r self.parameters ∧
    ∀ expert ∈ self.experts, Within learner.initial r expert
  have hsafe : Safe (methods.after learner calls) := by
    refine Methods.after_keeps Safe (fun proposal => Within learner.initial r proposal.parameters ∧
        Carries learner.initial r learner.experts.length proposal.auxiliary) ?_ ?_
      ⟨rfl, hradius, haligned, rfl, hparameters, hexperts⟩ calls
    · rintro arguments self ⟨hinitial, hself, haligned, hcount, -⟩
      refine (propose_performs arguments self).mono ?_
      rintro proposal self' ⟨rfl, hwithin⟩
      have hboth := hwithin r hself haligned
      rw [hinitial, hcount] at hboth
      exact ⟨rfl, hboth⟩
    · rintro proposal self ⟨hinitial, hself, haligned, hcount, -⟩ ⟨hnew, hcarries⟩
      rcases hcarries with ⟨experts, cumulative, hauxiliary, hlength, hwithin⟩
      refine (commit_performs proposal self).mono ?_
      rintro _ self' ⟨hlosses, rfl⟩
      have hlast : proposal.auxiliary.getLast? = some cumulative := by
        rw [hauxiliary, getLast?_append, getLast?_singleton]
        rfl
      have hchunks : (List.range self.experts.length).map
          (chunk self.initial.length proposal.auxiliary.dropLast) = experts := by
        rw [hcount, ← hlength, hinitial, hauxiliary, dropLast_concat]
        exact map_chunk_flatten hwithin
      have hsame : experts.length = self.experts.length := hlength.trans hcount.symm
      rw [hchunks]
      refine ⟨hinitial, hself, ⟨?_, ?_, ?_⟩, hlength, hnew, hwithin⟩
      · rintro rfl
        exact haligned.nonempty (length_eq_zero_iff.mp hsame.symm)
      · exact haligned.rates.trans hsame.symm
      · show (proposal.auxiliary.getLast?.getD self.cumulativeLosses).shape = [experts.length]
        rw [hlast, hsame, ← haligned.losses]
        exact hlosses cumulative hlast
  exact ⟨hsafe.1, hsafe.2.2.2.2⟩

end OnlineSpecHedge

/-! ## Learners that are constructed -/

theorem OnlineSpecOGD.new_eq_ok {learningRate : FloatArgument} {learner : OnlineSpecOGD}
    (h : OnlineSpecOGD.new parameters learningRate radius gradClip = .ok learner) :
    learner.initial = parameters.map (·.float32) ∧ learner.projectionRadius = radius ∧
      learner.parameters = learner.initial := by
  unfold OnlineSpecOGD.new at h
  simp only [bind_eq_ok, pure_eq_ok] at h
  rcases h with ⟨_, -, _, -, _, -, rfl⟩
  exact ⟨rfl, rfl, rfl⟩

theorem OnlineSpecOptimistic.new_eq_ok {learningRate : FloatArgument}
    {learner : OnlineSpecOptimistic}
    (h : OnlineSpecOptimistic.new parameters learningRate radius gradClip = .ok learner) :
    learner.initial = parameters.map (·.float32) ∧ learner.projectionRadius = radius ∧
      learner.parameters = learner.initial ∧ learner.anchor = learner.initial := by
  unfold OnlineSpecOptimistic.new at h
  simp only [bind_eq_ok, pure_eq_ok] at h
  rcases h with ⟨_, -, _, -, _, -, rfl⟩
  exact ⟨rfl, rfl, rfl, rfl⟩

theorem OnlineSpecHedge.new_eq_ok {learningRates : List FloatArgument}
    {hedgeLearningRate : FloatArgument} {learner : OnlineSpecHedge}
    (h : OnlineSpecHedge.new parameters learningRates hedgeLearningRate radius gradClip =
      .ok learner) :
    learner.initial = parameters.map (·.float32) ∧ learner.projectionRadius = radius ∧
      learner.parameters = learner.initial ∧ (∀ expert ∈ learner.experts, expert = learner.initial) ∧
      learner.Aligned := by
  unfold OnlineSpecHedge.new at h
  simp only [bind_eq_ok, check_eq_ok, pure_eq_ok] at h
  rcases h with ⟨_, -, ⟨htwo, hrates, -⟩, -, _, -, _, -, rfl⟩
  refine ⟨rfl, rfl, rfl, ?_, ?_, ?_, ?_⟩
  · intro expert hexpert
    rcases mem_map.mp hexpert with ⟨_, -, rfl⟩
    rfl
  · intro hnil
    have hzero : (learningRates.filterMap id).length = 0 := by
      rw [← length_map, length_eq_zero_iff]
      exact hnil
    omega
  · simp
  · simp

/-- The published parameters, the anchor and the experts never leave the trust region, what is
discarded or rejected changes nothing, and the projection is the nearest point of the ball. -/
theorem learners_in_trust_region (r : ℝ) (hr : 0 < r) :
    (∀ parameters learningRate gradClip learner calls,
      OnlineSpecOGD.new parameters learningRate (some (some r)) gradClip = .ok learner →
        Within (parameters.map (·.float32)) r
          (OnlineSpecOGD.methods.after learner calls).parameters) ∧
    (∀ parameters learningRate gradClip learner calls,
      OnlineSpecOptimistic.new parameters learningRate (some (some r)) gradClip = .ok learner →
        Within (parameters.map (·.float32)) r
            (OnlineSpecOptimistic.methods.after learner calls).parameters ∧
          Within (parameters.map (·.float32)) r
            (OnlineSpecOptimistic.methods.after learner calls).anchor) ∧
    (∀ parameters learningRates hedgeLearningRate gradClip learner calls,
      OnlineSpecHedge.new parameters learningRates hedgeLearningRate (some (some r)) gradClip =
          .ok learner →
        Within (parameters.map (·.float32)) r
            (OnlineSpecHedge.methods.after learner calls).parameters ∧
          ∀ expert ∈ (OnlineSpecHedge.methods.after learner calls).experts,
            Within (parameters.map (·.float32)) r expert) ∧
    OnlineSpecOGD.methods.Transactional ∧ OnlineSpecOptimistic.methods.Transactional ∧
    OnlineSpecHedge.methods.Transactional ∧
    ∀ values origin result, clampMin ≤ r →
      projectL2Ball values origin (some (some r)) = .ok result →
        Within origin r result ∧
          (∀ other, Within origin r other → l2Distance values result ≤ l2Distance values other ∧
            (l2Distance values other ≤ l2Distance values result →
              vec origin other = vec origin result)) ∧
          projectL2Ball result origin (some (some r)) = .ok result := by
  refine ⟨?_, ?_, ?_, OnlineSpecOGD.transactional, OnlineSpecOptimistic.transactional,
    OnlineSpecHedge.transactional, ?_⟩
  · intro parameters learningRate gradClip learner calls h
    rcases OnlineSpecOGD.new_eq_ok h with ⟨hinitial, hradius, hparameters⟩
    rw [← hinitial]
    exact (OnlineSpecOGD.after_within hradius (hparameters ▸ within_self hr) calls).2
  · intro parameters learningRate gradClip learner calls h
    rcases OnlineSpecOptimistic.new_eq_ok h with ⟨hinitial, hradius, hparameters, hanchor⟩
    rw [← hinitial]
    exact (OnlineSpecOptimistic.after_within hradius (hparameters ▸ within_self hr)
      (hanchor ▸ within_self hr) calls).2
  · intro parameters learningRates hedgeLearningRate gradClip learner calls h
    rcases OnlineSpecHedge.new_eq_ok h with
      ⟨hinitial, hradius, hparameters, hexperts, haligned⟩
    rw [← hinitial]
    refine (OnlineSpecHedge.after_within haligned hradius (hparameters ▸ within_self hr) ?_
      calls).2
    intro expert hexpert
    rw [hexperts expert hexpert]
    exact within_self hr
  · intro values origin result hmin h
    have hprojects := projectL2Ball_eq_ok.mp h
    refine ⟨hprojects.within, ?_, projectL2Ball_eq_ok.mpr (hprojects.again hmin)⟩
    rintro other ⟨hshapes, hother⟩
    exact hprojects.nearest hmin hshapes hother

noncomputable def scalar (x : ℝ) : Tensor := ⟨[], .cpu, .float32, true, fun _ => x⟩

theorem asParameters_scalar (x : ℝ) (name : String) : asParameters [scalar x] name = .ok () :=
  asParameters_eq_ok.mpr ⟨cons_ne_nil _ _, by simp [scalar, Dtype.isFloatingPoint],
    by simp [scalar]⟩

/-- One loss for each of two experts. -/
noncomputable def pairLosses (x : ℝ) : Tensor := ⟨[2], .cpu, .float32, true, fun _ => x⟩

/-- Two experts of one number. -/
noncomputable def pairHedge : OnlineSpecHedge :=
  ⟨[scalar 0], [[scalar 0], [scalar 0]], [1, 1 + 1], 1, some (some 1), 1, pairLosses 0, [scalar 0], 0⟩

theorem pairHedge_new :
    OnlineSpecHedge.new [scalar 0] [some 1, some (1 + 1)] (some 1) (some (some 1)) (some 1) =
      .ok pairHedge := by
  have hrates : ∀ rate ∈ [some (1 : ℝ), some (1 + 1)].filterMap id, 0 < rate := by simp
  have hincreasing : ([some (1 : ℝ), some (1 + 1)].filterMap id).Nodup ∧
      ([some (1 : ℝ), some (1 + 1)].filterMap id).Pairwise (· ≤ ·) := by simp
  unfold OnlineSpecHedge.new
  simp only [bind_eq_ok, check_eq_ok]
  exact ⟨(), asParameters_scalar 0 _, ⟨le_refl 2, rfl, hrates⟩, hincreasing, 1,
    positiveFinite_eq_ok.mpr ⟨rfl, one_pos⟩, 1, positiveFinite_eq_ok.mpr ⟨rfl, one_pos⟩, rfl⟩

/-- The first step of each learner of one number, and a projection from outside the ball. -/
theorem scalar_in_trust_region :
    Within [scalar 0] 1 (OnlineSpecOGD.methods.after
      ⟨[scalar 0], [scalar 0], 2, some (some 1), 1, 0⟩
      [.propose [scalar 1], .commit 0]).parameters ∧
    Within [scalar 0] 1 (OnlineSpecOptimistic.methods.after
      ⟨[scalar 0], [scalar 0], [scalar 0], [scalar 0], 2, some (some 1), 1, 0⟩
      [.propose [scalar 1], .commit 0]).anchor ∧
    (∀ expert ∈ (OnlineSpecHedge.methods.after pairHedge
      [.propose (pairLosses 1, [[scalar 1], [scalar 2]]), .commit 0]).experts,
        Within [scalar 0] 1 expert) ∧
    l2Distance [scalar 3] (List.zipWith (moveTowards (factor clampMin 1
      (l2Distance [scalar 3] [scalar 0]))) [scalar 3] [scalar 0]) ≤
        l2Distance [scalar 3] [scalar 0] := by
  have htheorem := learners_in_trust_region 1 one_pos
  have hnew : OnlineSpecOGD.new [scalar 0] (some 2) (some (some 1)) (some 1) =
      .ok ⟨[scalar 0], [scalar 0], 2, some (some 1), 1, 0⟩ := by
    unfold OnlineSpecOGD.new
    rw [asParameters_scalar, positiveFinite_eq_ok.mpr ⟨rfl, two_pos⟩,
      positiveFinite_eq_ok.mpr ⟨rfl, one_pos⟩]
    rfl
  have hoptimistic : OnlineSpecOptimistic.new [scalar 0] (some 2) (some (some 1)) (some 1) =
      .ok ⟨[scalar 0], [scalar 0], [scalar 0], [scalar 0], 2, some (some 1), 1, 0⟩ := by
    unfold OnlineSpecOptimistic.new
    rw [asParameters_scalar, positiveFinite_eq_ok.mpr ⟨rfl, two_pos⟩,
      positiveFinite_eq_ok.mpr ⟨rfl, one_pos⟩]
    rfl
  have hprojects : projectL2Ball [scalar 3] [scalar 0] (some (some 1)) =
      .ok (List.zipWith (moveTowards (factor clampMin 1
        (l2Distance [scalar 3] [scalar 0]))) [scalar 3] [scalar 0]) :=
    projectL2Ball_eq_ok.mpr ⟨one_pos, asParameters_scalar 3 _, asParameters_scalar 0 _, rfl,
      stackable_eq_ok.mpr (by simp), rfl⟩
  have hmin : clampMin ≤ 1 := by
    unfold clampMin
    norm_num
  exact ⟨htheorem.1 [scalar 0] (some 2) (some 1) _ _ hnew,
    (htheorem.2.1 [scalar 0] (some 2) (some 1) _ _ hoptimistic).2,
    (htheorem.2.2.1 [scalar 0] _ (some 1) (some 1) _ _ pairHedge_new).2,
    ((htheorem.2.2.2.2.2.2 _ _ _ hmin hprojects).2.1 [scalar 0] (within_self one_pos)).1⟩

end OnlineSpec

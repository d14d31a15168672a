import Mathlib.Data.Rat.Defs
import Mathlib.Logic.Function.Iterate
import LightConeSpec.Lib.Python

/-!
# Optimizer proposals

`GPUOptimizer` keeps float32 masters, two moments for each of them, a step and,
for ChronoBelief, the version of the safe boundary. `propose` computes the next
tensors from gradients and leaves the optimizer as it is; `commit` installs them.

Floats and tensors are parameters: `PyFloat` is the arithmetic of Python floats,
`Torch` that of tensors on their devices. Every operation of `propose` makes a new
tensor, and a proposal that returns a live moment of its optimizer instead holds
`live` in that place.
-/

namespace Adaptation

open Python

/-! ## Floats and tensors -/

/-- Python floats. -/
class PyFloat (S : Type) extends Add S, Sub S, Mul S, Div S where
  ofRat : ℚ → S
  sqrt : S → S
  cos : S → S
  pi : S
  maximum : S → S → S
  atLeast : S → S → Bool
  /-- `base ** exponent`, which fails on exponents beyond floats. -/
  pow : S → ℕ → Except Error S
  /-- `/` of two integers. -/
  trueDiv : ℕ → ℕ → Except Error S

instance {S : Type} [PyFloat S] : One S := ⟨PyFloat.ofRat 1⟩

inductive Device
  | cpu
  | cuda (index : ℕ)
deriving DecidableEq

/-- Tensors, with scalars `S`. -/
class Torch (S : outParam Type) (T : Type) extends Add T, Sub T, Mul T, Div T, SMul S T where
  shape : T → List ℕ
  device : T → Device
  /-- `torch.isfinite(t).all()`. -/
  isfinite : T → Bool
  /-- `t.detach().to(dtype=torch.float32)`. -/
  float32 : T → T
  bfloat16 : T → T
  zerosLike : T → T
  /-- `torch.empty(0)`. -/
  empty : Device → T
  /-- `t + s`, `t / s` and `s / t`. -/
  addScalar : T → S → T
  divScalar : T → S → T
  scalarDiv : S → T → T
  square : T → T
  sqrt : T → T
  sign : T → T
  sum : T → T
  norm : T → T
  stack : List T → T
  clampMax : T → S → T
  clampMin : T → S → T
  transpose : T → T
  matmul : T → T → T
  /-- `torch.addmm(input, mat1, mat2, beta=.., alpha=..)`. -/
  addmm : T → T → T → S → S → T

open Torch

/-! ## Configuration -/

inductive OptimizerName
  | adam
  | adamw
  | sgd
  | sgdm
  | nag
  | muon
  | lion
  | chronobelief
  | none
deriving DecidableEq

inductive Schedule
  | constant
  | inverseSqrtPublishedUpdate
  | cosineToZero
deriving DecidableEq

structure OptimizerConfig (S : Type) where
  name : OptimizerName
  learningRate : S
  weightDecay : S
  beta1 : S
  beta2 : S
  epsilon : S
  gradClip : Option S
  momentum : Option S
  muonNsSteps : Option ℕ
  muonAuxiliaryLearningRate : Option S
  muonAuxiliaryWeightDecay : Option S
  schedule : Schedule
  scheduleTotalPublishedUpdates : Option ℕ
  horizon : ∀ total, scheduleTotalPublishedUpdates = some total → 2 ≤ total

variable {S T : Type} [PyFloat S] [Torch S T]

def scheduledLearningRate (config : OptimizerConfig S) (baseLearningRate : S) (step : ℕ) :
    Except Error S := do
  require (1 ≤ step) (valueError "published update step must be positive")
  let scale ← match config.schedule with
    | .constant => Except.ok 1
    | .inverseSqrtPublishedUpdate => .ok (1 / PyFloat.sqrt (PyFloat.ofRat step))
    | .cosineToZero =>
      match config.scheduleTotalPublishedUpdates with
      | none => .error ⟨.assertionError, "validated cosine schedule has no horizon"⟩
      | some horizon =>
        if horizon < step then
          .error (valueError "published update exceeds the cosine schedule horizon")
        else
          .ok (PyFloat.ofRat (1 / 2) * (1 + PyFloat.cos
            (PyFloat.pi * PyFloat.ofRat (step - 1) / PyFloat.ofRat (horizon - 1))))
  pure (baseLearningRate * scale)

def zerothPowerNewtonSchulz (matrix : T) (steps : ℕ) (epsilon : S) : Except Error T := do
  require ((shape matrix).length = 2) (valueError "Muon orthogonalization requires a matrix")
  require (1 ≤ steps ∧ steps ≤ 20)
    (valueError "Muon Newton--Schulz steps must be in [1, 20]")
  let transposed : Bool := (shape matrix).getD 1 0 < (shape matrix).getD 0 0
  let turn := fun work : T => if transposed then transpose work else work
  let work := turn (bfloat16 matrix)
  let work := work / clampMin (norm work) epsilon
  let a : S := PyFloat.ofRat (34445 / 10000)
  let b : S := PyFloat.ofRat (-47750 / 10000)
  let c : S := PyFloat.ofRat (20315 / 10000)
  let round := fun work : T =>
    let gram := matmul work (transpose work)
    let polynomial := addmm gram gram gram b c
    addmm work polynomial work a 1
  pure (float32 (turn (round^[steps] work)))

/-! ## Optimizers and proposals -/

/-- A tensor that a proposal holds in the place of one of its optimizer's: a new
tensor, or that very one. -/
inductive Held (T : Type)
  | fresh (value : T)
  | live

/-- What the held tensor contains, where the optimizer's contains `own`. -/
def Held.read (own : T) : Held T → T
  | .fresh value => value
  | .live => own

/-- `OptimizerProposal`; its owner is the index of the optimizer that made it. -/
structure OptimizerProposal (T : Type) where
  parameters : List T
  firstMoments : List (Held T)
  secondMoments : List (Held T)
  step : ℕ
  numericalPredicate : Device × Bool
  safeBoundaryAge : Option ℤ
  sourceVersion : Option ℤ
  safeBoundaryVersion : Option ℤ
  ownerToken : ℕ

/-- `GPUOptimizer`, with the contents of its tensors. -/
structure GPUOptimizer (S T : Type) where
  config : OptimizerConfig S
  master : List T
  firstMoments : List T
  secondMoments : List T
  stepNumber : ℕ
  safeBoundaryVersion : ℤ

/-- `GPUOptimizer.__init__`. -/
def GPUOptimizer.new (parameters : List T) (config : OptimizerConfig S)
    (initialSafeBoundaryVersion : ℤ) : Except Error (GPUOptimizer S T) := do
  require (config.name ≠ .none) (valueError "GPUOptimizer cannot be constructed for none")
  require (0 ≤ initialSafeBoundaryVersion)
    (valueError "initial safe-boundary version must be non-negative")
  require (config.name = .chronobelief ∨ initialSafeBoundaryVersion = 0)
    (valueError "safe-boundary version is only defined for optimizer=chronobelief")
  let master := parameters.map float32
  require (master ≠ []) (valueError "optimizer needs at least one parameter")
  require (∀ parameter ∈ master, isfinite parameter)
    (valueError "optimizer parameters must be finite")
  pure {
    config := config
    master := master
    firstMoments := master.map fun parameter =>
      if config.name ∈ [.adam, .adamw, .chronobelief, .sgdm, .nag, .muon, .lion] then
        zerosLike parameter
      else empty (device parameter)
    secondMoments := master.map fun parameter =>
      if config.name ∈ [.adam, .adamw, .chronobelief] ∨
          (config.name = .muon ∧ (shape parameter).length ≠ 2) then
        zerosLike parameter
      else empty (device parameter)
    stepNumber := 0
    safeBoundaryVersion := initialSafeBoundaryVersion }

/-! ## The update rules -/

/-- What an update rule reads for one parameter. -/
structure Row (T : Type) where
  parameter : T
  gradient : T
  first : T
  second : T

/-- What it computes for it. -/
structure Updated (T : Type) where
  parameter : T
  first : Held T
  second : Held T

/-- The masters with their gradients and moments. -/
def GPUOptimizer.rows (o : GPUOptimizer S T) (gradients : List T) : List (Row T) :=
  (o.master.zip (gradients.zip (o.firstMoments.zip o.secondMoments))).map fun
    (parameter, gradient, first, second) => ⟨parameter, gradient, first, second⟩

section

variable (config : OptimizerConfig S) (learningRate : S)

/-- `sgd`: both moments are the live ones. -/
def sgd (row : Row T) : Updated T :=
  ⟨row.parameter - learningRate • row.gradient, .live, .live⟩

/-- `sgdm` and `nag`: the second moment is the live one. -/
def momentumUpdate (momentum : S) (row : Row T) : Updated T :=
  let effective := row.gradient + config.weightDecay • row.parameter
  let first := momentum • row.first + effective
  let direction := if config.name = .sgdm then first else effective + momentum • first
  ⟨row.parameter - learningRate • direction, .fresh first, .live⟩

/-- `lion`: the second moment is the live one. -/
def lion (row : Row T) : Updated T :=
  let direction := sign (config.beta1 • row.first + (1 - config.beta1) • row.gradient)
  let first := config.beta2 • row.first + (1 - config.beta2) • row.gradient
  let decay := 1 - learningRate * config.weightDecay
  ⟨decay • row.parameter - learningRate • direction, .fresh first, .live⟩

/-- `_adamw_update`, with the learning rate and the weight decay of its caller. -/
def adamwUpdate (baseLearningRate weightDecay : S) (step : ℕ) (row : Row T) :
    Except Error (Updated T) := do
  let first := config.beta1 • row.first + (1 - config.beta1) • row.gradient
  let second := config.beta2 • row.second + (1 - config.beta2) • square row.gradient
  let power1 ← PyFloat.pow config.beta1 step
  let power2 ← PyFloat.pow config.beta2 step
  let direction := divScalar first (1 - power1)
    / addScalar (sqrt (divScalar second (1 - power2))) config.epsilon
  let learningRate ← scheduledLearningRate config baseLearningRate step
  pure ⟨(1 - learningRate * weightDecay) • row.parameter - learningRate • direction,
    .fresh first, .fresh second⟩

/-- A matrix of `muon`: the second moment is the live one. -/
def muonMatrix (momentum : S) (nsSteps : ℕ) (row : Row T) : Except Error (Updated T) := do
  let first := momentum • row.first + (1 - momentum) • row.gradient
  let nesterov := (1 - momentum) • row.gradient + momentum • first
  let direction ← zerothPowerNewtonSchulz nesterov nsSteps
    (PyFloat.maximum config.epsilon (PyFloat.ofRat (1 / 10000000)))
  let aspect ← PyFloat.trueDiv ((shape row.parameter).getD 0 0) ((shape row.parameter).getD 1 0)
  let adjusted := learningRate * PyFloat.sqrt (PyFloat.maximum 1 aspect)
  pure ⟨(1 - learningRate * config.weightDecay) • row.parameter - adjusted • direction,
    .fresh first, .live⟩

/-- One parameter of `muon`: what is no matrix falls back to AdamW. -/
def muon (momentum auxiliaryLr auxiliaryDecay : S) (nsSteps step : ℕ) (row : Row T) :
    Except Error (Updated T) :=
  if (shape row.parameter).length ≠ 2 then
    adamwUpdate config auxiliaryLr auxiliaryDecay step row
  else muonMatrix config learningRate momentum nsSteps row

/-- `chronobelief`: the age of the gradient scales the update. -/
def chronobelief (correction1 correction2 kappa : S) (row : Row T) : Updated T :=
  let first := config.beta1 • row.first + (1 - config.beta1) • row.gradient
  let second := config.beta2 • row.second + (1 - config.beta2) • square (row.gradient - first)
  let decay := 1 - learningRate * config.weightDecay
  let scaled := (learningRate * kappa) • divScalar first correction1
  ⟨decay • row.parameter
      - scaled / addScalar (sqrt (divScalar second correction2)) config.epsilon,
    .fresh first, .fresh second⟩

/-- `kappa` of `chronobelief`. -/
def ageFactor (safeBoundaryAge : ℕ) : Except Error S :=
  let ratio := config.beta1 / PyFloat.sqrt config.beta2
  if PyFloat.atLeast ratio 1 then .ok 1 else PyFloat.pow ratio safeBoundaryAge

/-- `adam` and `adamw`. -/
def adam (correction1 correction2 : S) (row : Row T) : Updated T :=
  let first := config.beta1 • row.first + (1 - config.beta1) • row.gradient
  let second := config.beta2 • row.second + (1 - config.beta2) • square row.gradient
  let plain := divScalar first correction1
    / addScalar (sqrt (divScalar second correction2)) config.epsilon
  let direction :=
    if config.name = .adamw then plain + config.weightDecay • row.parameter else plain
  ⟨row.parameter - learningRate • direction, .fresh first, .fresh second⟩

/-- The update of all parameters: the branches of `propose`. -/
def updateRows (step safeBoundaryAge : ℕ) (rows : List (Row T)) :
    Except Error (List (Updated T)) :=
  match config.name with
  | .sgd => .ok (rows.map (sgd learningRate))
  | .sgdm | .nag =>
    match config.momentum with
    | none => .error ⟨.assertionError, "validated momentum optimizer has no momentum"⟩
    | some momentum => .ok (rows.map (momentumUpdate config learningRate momentum))
  | .lion => .ok (rows.map (lion config learningRate))
  | .muon =>
    match config.momentum, config.muonNsSteps with
    | some momentum, some nsSteps =>
      match config.muonAuxiliaryLearningRate, config.muonAuxiliaryWeightDecay with
      | some auxiliaryLr, some auxiliaryDecay =>
        collect (rows.map (muon config learningRate momentum auxiliaryLr auxiliaryDecay
          nsSteps step))
      | _, _ => .error ⟨.assertionError, "validated Muon fallback is incomplete"⟩
    | _, _ => .error ⟨.assertionError, "validated Muon configuration is incomplete"⟩
  | .chronobelief => do
      let power1 ← PyFloat.pow config.beta1 step
      let power2 ← PyFloat.pow config.beta2 step
      let kappa ← ageFactor config safeBoundaryAge
      pure (rows.map (chronobelief config learningRate (1 - power1) (1 - power2) kappa))
  | .adam | .adamw => do
      let power1 ← PyFloat.pow config.beta1 step
      let power2 ← PyFloat.pow config.beta2 step
      pure (rows.map (adam config learningRate (1 - power1) (1 - power2)))
  | .none => .error (valueError "GPUOptimizer optimizer branch is not implemented")

end

/-! ## Proposing and committing -/

/-- `torch.stack(..).all()` of the predicates of tensors. -/
def allFinite (tensors : List T) : Except Error (Device × Bool) :=
  match tensors with
  | [] => .error (runtimeError "stack expects a non-empty TensorList")
  | tensor :: rest => do
      require (∀ other ∈ rest, device other = device tensor)
        (runtimeError "Expected all tensors to be on the same device")
      pure (device tensor, (tensor :: rest).all isfinite)

/-- A predicate on the CPU is read at once. -/
def checkFinite (predicate : Device × Bool) (error : Error) : Except Error Unit :=
  require (predicate.1 = .cpu → predicate.2 = true) error

/-- The clipping of `propose`. -/
def clipGradients (gradClip : Option S) (gradients : List T) : List T :=
  match gradClip with
  | none => gradients
  | some limit =>
    let totalNorm := sqrt (sum (stack (gradients.map fun gradient => sum (square gradient))))
    let clip := clampMax (scalarDiv limit (addScalar totalNorm
      (PyFloat.ofRat (1 / 1000000000000)))) 1
    gradients.map (· * clip)

namespace GPUOptimizer

variable (o : GPUOptimizer S T)

/-- The versions of a proposal, and its age: the first checks of `propose`. -/
def checkVersions (safeBoundaryAge sourceVersion safeBoundaryVersion : Option ℤ) :
    Except Error (Option ℤ) :=
  if o.config.name = .chronobelief then do
    require (safeBoundaryAge = none)
      (valueError "ChronoBelief safe-boundary age is derived from source versions")
    match sourceVersion, safeBoundaryVersion with
    | some source, some boundary => do
        require (0 ≤ source ∧ source ≤ boundary)
          (valueError "ChronoBelief requires ordered non-negative source versions")
        require (boundary = o.safeBoundaryVersion)
          (valueError "ChronoBelief proposal does not bind the current safe boundary")
        pure (some (boundary - source))
    | _, _ => .error (valueError "ChronoBelief requires ordered non-negative source versions")
  else do
    require (safeBoundaryAge = none ∧ sourceVersion = none ∧ safeBoundaryVersion = none)
      (valueError ("source/safe-boundary versions are only defined for "
        ++ "optimizer=chronobelief"))
    pure none

/-- The gradients that the update reads. -/
def checkGradients (gradients : List T) : Except Error (List T) := do
  require (gradients.length = o.master.length)
    (valueError "one gradient is required per master parameter")
  require (∀ pair ∈ gradients.zip o.master,
      shape pair.1 = shape pair.2 ∧ device pair.1 = device pair.2)
    (valueError "gradient layout does not match optimizer state")
  let grads := gradients.map float32
  let predicate ← allFinite grads
  checkFinite predicate (valueError "optimizer gradients must be finite")
  pure (clipGradients o.config.gradClip grads)

def proposal (ownerToken : ℕ) (updated : List (Updated T)) (step : ℕ) (gradients : List T)
    (safeBoundaryAge sourceVersion safeBoundaryVersion : Option ℤ) :
    Except Error (OptimizerProposal T) := do
  let tensors := gradients ++ updated.map (·.parameter)
    ++ (updated.zip o.firstMoments).map (fun (u, own) => u.first.read own)
    ++ (updated.zip o.secondMoments).map (fun (u, own) => u.second.read own)
  let numerical ← allFinite (tensors.filter fun tensor => 0 < (shape tensor).prod)
  checkFinite numerical (valueError "optimizer proposal is non-finite")
  pure {
    parameters := updated.map (·.parameter)
    firstMoments := updated.map (·.first)
    secondMoments := updated.map (·.second)
    step := step
    numericalPredicate := numerical
    safeBoundaryAge := safeBoundaryAge
    sourceVersion := sourceVersion
    safeBoundaryVersion := safeBoundaryVersion
    ownerToken := ownerToken }

def propose (ownerToken : ℕ) (gradients : List T)
    (safeBoundaryAge sourceVersion safeBoundaryVersion : Option ℤ) :
    Except Error (OptimizerProposal T) := do
  let age ← o.checkVersions safeBoundaryAge sourceVersion safeBoundaryVersion
  let grads ← o.checkGradients gradients
  let step := o.stepNumber + 1
  let learningRate ← scheduledLearningRate o.config o.config.learningRate step
  let updated ← updateRows o.config learningRate step (age.getD 0).toNat (o.rows grads)
  o.proposal ownerToken updated step grads age sourceVersion safeBoundaryVersion

/-- The assignments of `commit`: every tensor is copied over its counterpart. A
live tensor is copied over itself. -/
def install (p : OptimizerProposal T) : GPUOptimizer S T :=
  { o with
    master := p.parameters
    firstMoments := (p.firstMoments.zip o.firstMoments).map fun (held, own) => held.read own
    secondMoments := (p.secondMoments.zip o.secondMoments).map fun (held, own) => held.read own
    stepNumber := p.step
    safeBoundaryVersion :=
      if o.config.name = .chronobelief then o.safeBoundaryVersion + 1
      else o.safeBoundaryVersion }

/-- The version checks of `commit`. -/
def checkBoundary (p : OptimizerProposal T) : Except Error Unit :=
  if o.config.name = .chronobelief then
    match p.safeBoundaryAge, p.sourceVersion, p.safeBoundaryVersion with
    | some age, some source, some boundary =>
      require (boundary = o.safeBoundaryVersion ∧ source + age = boundary)
        (valueError "ChronoBelief proposal lacks the current source boundary")
    | _, _, _ => .error (valueError "ChronoBelief proposal lacks the current source boundary")
  else
    require (p.safeBoundaryAge = none ∧ p.sourceVersion = none ∧ p.safeBoundaryVersion = none)
      (valueError "non-ChronoBelief proposal carries source-boundary state")

/-- What `commit` takes for the numerical predicate: that of the CPU itself, or the
receipt of its caller. -/
def numericalVerdict (p : OptimizerProposal T) (numericalReceipt : Option Bool) :
    Except Error Bool :=
  if p.numericalPredicate.1 = .cpu then .ok p.numericalPredicate.2
  else
    match numericalReceipt with
    | none => .error (runtimeError "CUDA commit requires an event-complete numerical receipt")
    | some receipt => .ok receipt

def commit (token : ℕ) (p : OptimizerProposal T) (numericalReceipt : Option Bool) :
    Except Error (GPUOptimizer S T) := do
  require (p.ownerToken = token)
    (valueError "optimizer proposal belongs to another state owner")
  require (p.step = o.stepNumber + 1) (valueError "optimizer proposal step conflict")
  o.checkBoundary p
  let valid ← numericalVerdict p numericalReceipt
  require (valid = true) (valueError "optimizer proposal is non-finite")
  pure (o.install p)

/-! ## What proposing and committing do -/

variable {o} {o' : GPUOptimizer S T} {p : OptimizerProposal T} {token step : ℕ}
  {gradients : List T} {age source boundary : Option ℤ}

omit [PyFloat S] [Torch S T] in
theorem length_rows (h₁ : o.firstMoments.length = o.master.length)
    (h₂ : o.secondMoments.length = o.master.length) (hg : gradients.length = o.master.length) :
    (o.rows gradients).length = o.master.length := by
  simp [rows, h₁, h₂, hg]

/-- Every update rule keeps one entry for each parameter. -/
theorem length_updateRows {config : OptimizerConfig S} {learningRate : S} {sourceAge : ℕ}
    {rows : List (Row T)} {updated : List (Updated T)}
    (h : updateRows config learningRate step sourceAge rows = .ok updated) :
    updated.length = rows.length := by
  unfold updateRows at h
  split at h
  · obtain rfl := Except.ok.inj h
    simp
  · split at h
    · cases h
    · obtain rfl := Except.ok.inj h
      simp
  · split at h
    · cases h
    · obtain rfl := Except.ok.inj h
      simp
  · obtain rfl := Except.ok.inj h
    simp
  · -- muon
    split at h
    · split at h
      · have hlength := congrArg List.length (collect_eq_ok.mp h)
        simpa using hlength.symm
      · cases h
    · cases h
  · simp only [bind_eq_ok, pure_eq_ok] at h
    obtain ⟨_, -, _, -, _, -, rfl⟩ := h
    simp
  · simp only [bind_eq_ok, pure_eq_ok] at h
    obtain ⟨_, -, _, -, rfl⟩ := h
    simp
  · simp only [bind_eq_ok, pure_eq_ok] at h
    obtain ⟨_, -, _, -, rfl⟩ := h
    simp
  · cases h

theorem length_checkGradients {grads : List T} (h : o.checkGradients gradients = .ok grads) :
    grads.length = o.master.length := by
  simp only [checkGradients, bind_eq_ok, check_eq_ok, pure_eq_ok] at h
  obtain ⟨hlength, -, _, -, _, -, rfl⟩ := h
  rw [← hlength]
  unfold clipGradients
  split <;> simp

/-- The version that `propose` wants to be told. -/
def boundVersion (o : GPUOptimizer S T) : Option ℤ :=
  if o.config.name = .chronobelief then some o.safeBoundaryVersion else none

omit [PyFloat S] [Torch S T] in
theorem checkVersions_eq_ok {derived : Option ℤ}
    (h : o.checkVersions age source boundary = .ok derived) :
    age = none ∧ boundary = o.boundVersion ∧ (o.config.name ≠ .chronobelief → source = none) := by
  unfold checkVersions at h
  unfold boundVersion
  split at h
  · rename_i hname
    rw [if_pos hname]
    cases source <;> cases boundary <;>
      simp only [bind_eq_ok, require_eq_ok, exists_const, pure_eq_ok, reduceCtorEq, and_false]
      at h
    obtain ⟨hage, -, hboundary, -⟩ := h
    exact ⟨hage, congrArg some hboundary, fun hne => absurd hname hne⟩
  · rename_i hname
    rw [if_neg hname]
    simp only [bind_eq_ok, check_eq_ok, pure_eq_ok] at h
    obtain ⟨⟨hage, hsource, hboundary⟩, -⟩ := h
    exact ⟨hage, hboundary, fun _ => hsource⟩

/-- The tensors of a proposal have their counterparts in the optimizer. -/
structure Matches (o : GPUOptimizer S T) (p : OptimizerProposal T) : Prop where
  parameters : p.parameters.length = o.master.length
  first : p.firstMoments.length = o.firstMoments.length
  second : p.secondMoments.length = o.secondMoments.length

/-- There are two moments for each master. -/
structure Shaped (o : GPUOptimizer S T) : Prop where
  first : o.firstMoments.length = o.master.length
  second : o.secondMoments.length = o.master.length

/-- What `propose` returns. -/
theorem propose_eq_ok (hshape : o.Shaped)
    (h : o.propose token gradients age source boundary = .ok p) :
    p.ownerToken = token ∧ p.step = o.stepNumber + 1 ∧ o.Matches p ∧
      (o.config.name ≠ .chronobelief → source = none) ∧
      o.propose token gradients none source o.boundVersion = .ok p := by
  have hrun := h
  simp only [propose, bind_eq_ok] at h
  obtain ⟨derived, hversions, grads, hgrads, learningRate, -, updated, hupdated, hproposal⟩ := h
  obtain ⟨rfl, rfl, hsource⟩ := checkVersions_eq_ok hversions
  simp only [proposal, bind_eq_ok, pure_eq_ok] at hproposal
  obtain ⟨numerical, -, _, -, rfl⟩ := hproposal
  have hlength : updated.length = o.master.length := by
    rw [length_updateRows hupdated,
      length_rows hshape.first hshape.second (length_checkGradients hgrads)]
  refine ⟨rfl, rfl, ⟨?_, ?_, ?_⟩, hsource, hrun⟩
  · rw [List.length_map, hlength]
  · rw [List.length_map, hlength, hshape.first]
  · rw [List.length_map, hlength, hshape.second]

omit [PyFloat S] [Torch S T] in
/-- What `commit` returns. -/
theorem commit_eq_ok {numericalReceipt : Option Bool}
    (h : o.commit token p numericalReceipt = .ok o') :
    p.ownerToken = token ∧ p.step = o.stepNumber + 1 ∧ o' = o.install p := by
  simp only [commit, bind_eq_ok, check_eq_ok, pure_eq_ok] at h
  obtain ⟨howner, hstep, _, -, valid, -, -, rfl⟩ := h
  exact ⟨howner, hstep, rfl⟩

omit [PyFloat S] [Torch S T] in
theorem Shaped.install (h : o.Shaped) (hp : o.Matches p) : (o.install p).Shaped := by
  constructor
  · simp [GPUOptimizer.install, hp.first, h.first, hp.parameters]
  · simp [GPUOptimizer.install, hp.second, h.second, hp.parameters]

omit [PyFloat S] in
theorem shaped_new {parameters : List T} {config : OptimizerConfig S} {version : ℤ}
    (h : new parameters config version = .ok o) : o.Shaped ∧ o.config = config := by
  simp only [new, bind_eq_ok, check_eq_ok, pure_eq_ok] at h
  obtain ⟨-, -, -, -, -, rfl⟩ := h
  exact ⟨⟨List.length_map _, List.length_map _⟩, rfl⟩

end GPUOptimizer

end Adaptation

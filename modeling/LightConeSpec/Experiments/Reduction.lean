import Mathlib.Data.List.ReduceOption
import Mathlib.Data.NNRat.Floor
import LightConeSpec.Experiments.Halving
import LightConeSpec.Lib.Dict

/-!
# Reducing a round from its proofs

`reduce_e2_staged_round_selection_from_proofs`. The functions of other modules that it calls are
the fields of `StageProofs`, and everything below holds whatever they return.

`postInit_roundReceipt` says that the receipt of a round passes its own checks: the selection and
the receipt count alike.
-/

namespace Experiments

open Python List
open Control (Sha256 isSha256)

/-! ## What a round is reduced from -/

/-- A scalar of a dimension or of a counter. -/
inductive Scalar
  | text (value : String)
  | integer (value : ℤ)
  | float (value : ℚ)
deriving DecidableEq

def Scalar.number? : Scalar → Option ℚ
  | .text _ => none
  | .integer value => some value
  | .float value => some value

/-- `==` of two values, `None` among them. -/
def sameValue : Option Scalar → Option Scalar → Bool
  | some a, some b =>
    match a.number?, b.number? with
    | some x, some y => x = y
    | _, _ => a = b
  | a, b => a = b

structure ProtocolLock where
  sha256 : Sha256
  registrySha256 : Sha256

structure MaterializedCell where
  cellId : Sha256
  methodRole : String
  recipeSha256 : Option Sha256
  dimensions : Dict String Scalar

structure StageMaterializationReceipt where
  sha256 : Sha256
  stage : String
  protocolLockSha256 : Sha256
  sourceDecisionSha256 : Sha256
  cells : List MaterializedCell

inductive DispositionStatus
  | complete
  | blocked
  | notApplicable
deriving DecidableEq

structure StageCellDisposition where
  cellId : Sha256
  status : DispositionStatus
  terminalReceiptSha256 : Option Sha256

structure StageCoverageReceipt where
  sha256 : Sha256
  dispositions : List StageCellDisposition

structure E2StagedRoundEvidenceManifest (Evidence : Type) where
  sha256 : Sha256
  protocolLockSha256 : Sha256
  materializationReceiptSha256 : Sha256
  coverageReceiptSha256 : Sha256
  sourceSelectionSha256 : Sha256
  inventorySha256 : Sha256
  roundIndex : ℤ
  cells : List Evidence

structure RequestMetric where
  requestId : String
  inputTokenIds : List ℤ
  outputTokenIds : List ℤ
  latencyNs : ℤ
  p99ItlNs : ℚ≥0

structure ValidatedCell where
  metrics : List RequestMetric
  peakHbmBytes : ℕ
  exposedUpdateUs : ℕ
  publishedUpdates : ℕ
  safetyReasons : List String
  performanceCounters : Dict String (Option Scalar)

/-- The functions of other modules. -/
structure StageProofs (Evidence Binding : Type) where
  materializedCellId : Evidence → Sha256
  validateAgainst : StageCoverageReceipt → StageMaterializationReceipt → Except Error Unit
  requireVerified : Binding → Except Error Binding
  subjectCellId : Binding → Sha256
  validatedCell : MaterializedCell → Evidence → Binding → Option Sha256 → ProtocolLock → Sha256 →
    ℤ → Except Error ValidatedCell
  pairedConfidenceLower : List RequestMetric → List RequestMetric →
    Except Error { ratio : ℚ // 0 < ratio }

/-! ## The helpers of the reducer -/

def roundIndexOf (materialization : StageMaterializationReceipt) : Except Error ℤ := do
  match materialization.cells.map fun cell => cell.dimensions.get? "round" with
  | [] => .error (valueError "E2 materialization must bind one exact round")
  | first :: rest =>
    require (∀ value ∈ rest, sameValue value first = true)
      (valueError "E2 materialization must bind one exact round")
    match first with
    | some (.integer result) =>
      require (0 ≤ result ∧ result < 4) (valueError "E2 round index is outside [0,4)")
      pure result
    | _ => .error (valueError "E2 round index is outside [0,4)")

def integerCounter (performance : Dict String (Option Scalar)) (field : String) : Except Error ℕ :=
  match performance.get? field with
  | none => .error (valueError s!"E1 performance counter {field} is missing")
  | some (some (.integer value)) => do
    require (0 ≤ value) (valueError s!"E1 performance counter {field} is unavailable")
    pure value.toNat
  | some _ => .error (valueError s!"E1 performance counter {field} is unavailable")

def requestIdentity (rows : List RequestMetric) : List (String × List ℤ × List ℤ) :=
  rows.map fun row => (row.requestId, row.inputTokenIds, row.outputTokenIds)

def item {V : Type} (d : Dict Sha256 V) (key : Sha256) : Except Error V :=
  match d.get? key with
  | some value => .ok value
  | none => .error (keyError key.1)

/-- `{key: value, ...}`. -/
def dictOf {V : Type} (entries : List (Sha256 × V)) : Dict Sha256 V :=
  entries.foldl (fun d entry => d.set entry.1 entry.2) Dict.empty

/-- `max(math.ceil(metric.p99_itl_ns / 1_000) for metric in row.metrics)`. -/
def largestP99 : List RequestMetric → Except Error ℕ
  | [] => .error (valueError "max() iterable argument is empty")
  | metric :: rest =>
    .ok (rest.foldl (fun largest other => max largest ⌈other.p99ItlNs / 1000⌉₊)
      ⌈metric.p99ItlNs / 1000⌉₊)

variable (sha256 : RecipeDigest) {Evidence Binding : Type} (proofs : StageProofs Evidence Binding)

/-- The `for row in execution_bindings` loop. -/
def bindCells : List Binding → Dict Sha256 Binding → Except Error (Dict Sha256 Binding)
  | [], bound => .ok bound
  | row :: rest, bound => do
    let verified ← proofs.requireVerified row
    require (bound.get? (proofs.subjectCellId verified) = none)
      (valueError "E2 reuses an execution binding")
    bindCells rest (bound.set (proofs.subjectCellId verified) verified)

def requireAnchor (target : ValidatedCell) (label : String) (row : ValidatedCell) :
    Except Error Unit :=
  require (row.safetyReasons = [] ∧ requestIdentity row.metrics = requestIdentity target.metrics)
    (valueError s!"E2 {label} anchor is unsafe or trajectory-mismatched")

/-- The evaluation of a candidate, unless it is unsafe, served other requests or made no update. -/
def evaluateCandidate (sourceRecipes : List E2CandidateRecipe)
    (validated : Dict Sha256 ValidatedCell) (target static tts : ValidatedCell)
    (cell : MaterializedCell) : Except Error (Option E2StagedCandidateEvaluation) := do
  match cell.recipeSha256 with
  | none => .error ⟨.assertionError, ""⟩
  | some recipeSha256 =>
    let row ← item validated cell.cellId
    if row.safetyReasons ≠ [] ∨ requestIdentity row.metrics ≠ requestIdentity target.metrics then
      pure none
    else
      let launched ← integerCounter row.performanceCounters "updates_launched"
      if launched < 1 ∨ row.publishedUpdates < 1 then pure none
      else
        let recipe ← lookupRecipe sha256 sourceRecipes recipeSha256
        let overStatic ← proofs.pairedConfidenceLower row.metrics static.metrics
        let overTts ← proofs.pairedConfidenceLower row.metrics tts.metrics
        let p99ItlUs ← largestP99 row.metrics
        if hpublished : row.publishedUpdates ≤ launched then
          pure (some
            { recipe := recipe
              cellId := cell.cellId
              confidenceLowerRequestRateRatio := min overStatic.1 overTts.1
              peakHbmBytes := row.peakHbmBytes
              p99ItlUs := p99ItlUs
              exposedUpdateUs := row.exposedUpdateUs
              launchedUpdates := launched
              publishedUpdates := row.publishedUpdates
              confidence_pos := lt_min overStatic.2 overTts.2
              published_le := hpublished })
        else .error (valueError "E2 published updates exceed launched updates")

def roundReceipt (protocolLock : ProtocolLock) (materialization : StageMaterializationReceipt)
    (coverage : StageCoverageReceipt) (sourceSelectionSha256 : String)
    (sourceRecipes : List E2CandidateRecipe) (manifest : E2StagedRoundEvidenceManifest Evidence)
    (roundIndex : ℤ) (evaluations : List E2StagedCandidateEvaluation)
    (survivors : List E2CandidateRecipe) (finalRecipe : Option E2CandidateRecipe) :
    E2StagedRoundSelectionReceipt where
  schemaVersion := 1
  protocolLockSha256 := protocolLock.sha256.1
  registrySha256 := protocolLock.registrySha256.1
  materializationReceiptSha256 := materialization.sha256.1
  coverageReceiptSha256 := coverage.sha256.1
  sourceSelectionSha256 := sourceSelectionSha256
  evidenceManifestSha256 := manifest.sha256.1
  inventorySha256 := manifest.inventorySha256.1
  roundIndex := roundIndex
  sourceCandidateCount := sourceRecipes.length
  evaluations := evaluations
  survivorRecipes := survivors
  finalRecipe := finalRecipe

/-! ## `reduce_e2_staged_round_selection_from_proofs` -/

def validateCells (protocolLock : ProtocolLock) (materialization : StageMaterializationReceipt)
    (coverage : StageCoverageReceipt) (manifest : E2StagedRoundEvidenceManifest Evidence)
    (executionBindings : List Binding) (nowNs : ℤ) : Except Error (Dict Sha256 ValidatedCell) := do
  let evidenceByCell := dictOf (manifest.cells.map fun row => (proofs.materializedCellId row, row))
  let bindingsByCell ← bindCells proofs executionBindings Dict.empty
  let expectedCells := materialization.cells.map MaterializedCell.cellId
  let covers := fun ids : List Sha256 => ids ⊆ expectedCells ∧ expectedCells ⊆ ids
  require (covers (evidenceByCell.entries.map Prod.fst) ∧
      covers (bindingsByCell.entries.map Prod.fst))
    (valueError "E2 proof/binding coverage is not exact")
  let terminalByCell :=
    dictOf (coverage.dispositions.map fun row => (row.cellId, row.terminalReceiptSha256))
  let validated ← collect (materialization.cells.map fun cell => do
    let evidence ← item evidenceByCell cell.cellId
    let binding ← item bindingsByCell cell.cellId
    let terminal ← item terminalByCell cell.cellId
    let row ← proofs.validatedCell cell evidence binding terminal protocolLock
      manifest.inventorySha256 nowNs
    pure (cell.cellId, row))
  pure (dictOf validated)

def evaluateCandidates (sourceRecipes : List E2CandidateRecipe)
    (validated : Dict Sha256 ValidatedCell) (target static tts : ValidatedCell)
    (candidates : List MaterializedCell) : Except Error (List E2StagedCandidateEvaluation) := do
  let evaluations ← collect (candidates.map
    (evaluateCandidate sha256 proofs sourceRecipes validated target static tts))
  pure (sortedBy (evaluationId sha256) evaluations.reduceOption)

/-- Everything before the selection: the round and its canonical evaluations. -/
def openRound (protocolLock : ProtocolLock) (materialization : StageMaterializationReceipt)
    (coverage : StageCoverageReceipt) (sourceSelectionSha256 : String)
    (sourceRecipes : List E2CandidateRecipe) (manifest : E2StagedRoundEvidenceManifest Evidence)
    (executionBindings : List Binding) (nowNs : ℤ) :
    Except Error (ℤ × List E2StagedCandidateEvaluation) := do
  requireSha256 "E2 source selection" sourceSelectionSha256
  let roundIndex ← roundIndexOf materialization
  require (materialization.stage = "E2" ∧
      materialization.protocolLockSha256 = protocolLock.sha256 ∧
      materialization.sourceDecisionSha256.1 = sourceSelectionSha256 ∧
      manifest.protocolLockSha256 = protocolLock.sha256 ∧
      manifest.materializationReceiptSha256 = materialization.sha256 ∧
      manifest.coverageReceiptSha256 = coverage.sha256 ∧
      manifest.sourceSelectionSha256.1 = sourceSelectionSha256 ∧
      manifest.roundIndex = roundIndex)
    (valueError "E2 staged evidence differs from signed lineage")
  proofs.validateAgainst coverage materialization
  require (∀ row ∈ coverage.dispositions, row.status = .complete)
    (valueError "E2 staged reduction requires all-COMPLETE coverage")
  let expectedSourceIds := sourceRecipes.map sha256
  require (expectedSourceIds = sortedSet expectedSourceIds)
    (valueError "E2 source recipes must be exact sorted unique typed rows")
  let role := fun name => materialization.cells.filter fun cell => cell.methodRole = name
  let candidates := role "LightCone-candidate"
  require ((∀ name ∈ ["Target-only", "Static", "TTS", "L0-naive"], (role name).length = 1) ∧
      candidates.length = sourceRecipes.length ∧
      (candidates.filterMap MaterializedCell.recipeSha256).insertionSort (· ≤ ·) = expectedSourceIds)
    (valueError "E2 materialization differs from typed source recipe universe")
  let validated ←
    validateCells proofs protocolLock materialization coverage manifest executionBindings nowNs
  let anchor := fun name =>
    match role name with
    | [] => .error (indexError "list index out of range")
    | cell :: _ => item validated cell.cellId
  let target ← anchor "Target-only"
  let static ← anchor "Static"
  let tts ← anchor "TTS"
  let l0 ← anchor "L0-naive"
  forEach (fun (label, row) => requireAnchor target label row)
    [("Target-only", target), ("Static", static), ("TTS", tts), ("L0-naive", l0)]
  require (1 ≤ tts.publishedUpdates ∧ 1 ≤ l0.publishedUpdates)
    (valueError "E2 TTS/L0 anchors lack a published update")
  let evaluations ←
    evaluateCandidates sha256 proofs sourceRecipes validated target static tts candidates
  pure (roundIndex, evaluations)

def reduceE2StagedRoundSelectionFromProofs (protocolLock : ProtocolLock)
    (materialization : StageMaterializationReceipt) (coverage : StageCoverageReceipt)
    (sourceSelectionSha256 : String) (sourceRecipes : List E2CandidateRecipe)
    (manifest : E2StagedRoundEvidenceManifest Evidence) (executionBindings : List Binding)
    (nowNs : ℤ) : Except Error E2StagedRoundSelectionReceipt := do
  let (roundIndex, evaluations) ← openRound sha256 proofs protocolLock materialization coverage
    sourceSelectionSha256 sourceRecipes manifest executionBindings nowNs
  let (survivors, finalRecipe) ← selectSurvivorRecipes sha256 sourceRecipes evaluations roundIndex
  let receipt ← Python.validated (E2StagedRoundSelectionReceipt.postInit sha256)
    (roundReceipt protocolLock materialization coverage sourceSelectionSha256 sourceRecipes manifest
      roundIndex evaluations survivors finalRecipe)
  receipt.postInit sha256
  pure receipt

/-! ## The evaluations are of source recipes -/

variable {sourceRecipes survivors : List E2CandidateRecipe} {roundIndex : ℤ}
  {protocolLock : ProtocolLock} {materialization : StageMaterializationReceipt}
  {coverage : StageCoverageReceipt} {sourceSelectionSha256 : String}
  {manifest : E2StagedRoundEvidenceManifest Evidence} {rows : List E2StagedCandidateEvaluation}
  {finalRecipe : Option E2CandidateRecipe}

section

variable {sha256} {proofs}

theorem mem_of_lookupRecipe {digest : Sha256} {recipe : E2CandidateRecipe}
    (h : lookupRecipe sha256 sourceRecipes digest = .ok recipe) : recipe ∈ sourceRecipes := by
  unfold lookupRecipe at h
  split at h
  · rename_i found hfind
    cases h
    exact mem_of_find?_eq_some hfind
  · cases h

theorem recipe_mem_of_evaluateCandidate {validated : Dict Sha256 ValidatedCell}
    {target static tts : ValidatedCell} {cell : MaterializedCell}
    {evaluation : E2StagedCandidateEvaluation}
    (h : evaluateCandidate sha256 proofs sourceRecipes validated target static tts cell =
      .ok (some evaluation)) : evaluation.recipe ∈ sourceRecipes := by
  unfold evaluateCandidate at h
  split at h
  · cases h
  rcases bind_eq_ok.mp h with ⟨row, -, h⟩
  split at h
  · cases h
  rcases bind_eq_ok.mp h with ⟨launched, -, h⟩
  split at h
  · cases h
  rcases bind_eq_ok.mp h with ⟨recipe, hrecipe, h⟩
  rcases bind_eq_ok.mp h with ⟨overStatic, -, h⟩
  rcases bind_eq_ok.mp h with ⟨overTts, -, h⟩
  rcases bind_eq_ok.mp h with ⟨p99ItlUs, -, h⟩
  split at h
  · cases h
    exact mem_of_lookupRecipe hrecipe
  · cases h

theorem recipe_mem_of_evaluateCandidates {validated : Dict Sha256 ValidatedCell}
    {target static tts : ValidatedCell} {candidates : List MaterializedCell}
    {evaluations : List E2StagedCandidateEvaluation}
    (h : evaluateCandidates sha256 proofs sourceRecipes validated target static tts candidates =
      .ok evaluations) : ∀ row ∈ evaluations, row.recipe ∈ sourceRecipes := by
  unfold evaluateCandidates at h
  rcases bind_eq_ok.mp h with ⟨outcomes, hcollect, h⟩
  cases h
  intro row hrow
  have hsome : some row ∈ outcomes := reduceOption_mem_iff.mp (mem_sortedBy.mp hrow)
  have hok := mem_map_of_mem (f := @Except.ok Error _) hsome
  rw [← collect_eq_ok.mp hcollect] at hok
  rcases mem_map.mp hok with ⟨cell, -, hcell⟩
  exact recipe_mem_of_evaluateCandidate hcell

theorem openRound_eq_ok {executionBindings : List Binding} {nowNs : ℤ}
    {evaluations : List E2StagedCandidateEvaluation}
    (h : openRound sha256 proofs protocolLock materialization coverage sourceSelectionSha256
      sourceRecipes manifest executionBindings nowNs = .ok (roundIndex, evaluations)) :
    isSha256 sourceSelectionSha256 = true ∧ ∀ row ∈ evaluations, row.recipe ∈ sourceRecipes := by
  unfold openRound at h
  rcases bind_eq_ok.mp h with ⟨_, hsource, h⟩
  rcases bind_eq_ok.mp h with ⟨round, -, h⟩
  rcases bind_eq_ok.mp h with ⟨_, -, h⟩
  rcases bind_eq_ok.mp h with ⟨_, -, h⟩
  rcases bind_eq_ok.mp h with ⟨_, -, h⟩
  rcases bind_eq_ok.mp h with ⟨_, -, h⟩
  rcases bind_eq_ok.mp h with ⟨_, -, h⟩
  rcases bind_eq_ok.mp h with ⟨validated, -, h⟩
  rcases bind_eq_ok.mp h with ⟨target, -, h⟩
  rcases bind_eq_ok.mp h with ⟨static, -, h⟩
  rcases bind_eq_ok.mp h with ⟨tts, -, h⟩
  rcases bind_eq_ok.mp h with ⟨l0, -, h⟩
  rcases bind_eq_ok.mp h with ⟨_, -, h⟩
  rcases bind_eq_ok.mp h with ⟨_, -, h⟩
  rcases bind_eq_ok.mp h with ⟨rows, hrows, h⟩
  cases h
  exact ⟨require_eq_ok.mp hsource, recipe_mem_of_evaluateCandidates hrows⟩

/-- The inputs of a selection that returns are canonical. -/
theorem canonical_of_select {result : List E2CandidateRecipe × Option E2CandidateRecipe}
    (h : selectSurvivorRecipes sha256 sourceRecipes rows roundIndex = .ok result) :
    sourceRecipes.map sha256 = sortedSet (sourceRecipes.map sha256) ∧
      rows.map (evaluationId sha256) = sortedSet (rows.map (evaluationId sha256)) ∧
        0 ≤ roundIndex ∧ roundIndex < 4 := by
  unfold selectSurvivorRecipes at h
  rcases bind_eq_ok.mp h with ⟨_, hsource, h⟩
  rcases bind_eq_ok.mp h with ⟨_, hrows, h⟩
  rcases bind_eq_ok.mp h with ⟨_, hround, -⟩
  exact ⟨require_eq_ok.mp hsource, (require_eq_ok.mp hrows).1, require_eq_ok.mp hround⟩

/-! ## The receipt passes its own checks -/

variable {source : SourceRecipes sha256} {evaluations : Evaluations sha256 source}

/-- The digests of a receipt of a round are digests. -/
theorem isSha256_digests (hsource : isSha256 sourceSelectionSha256 = true) :
    ∀ entry ∈ (roundReceipt protocolLock materialization coverage sourceSelectionSha256 sourceRecipes
      manifest roundIndex rows survivors finalRecipe).digests, isSha256 entry.2.2 = true := by
  intro entry hentry
  simp only [E2StagedRoundSelectionReceipt.digests, roundReceipt, mem_cons, not_mem_nil,
    or_false] at hentry
  rcases hentry with rfl | rfl | rfl | rfl | rfl | rfl | rfl
  · exact protocolLock.sha256.2
  · exact protocolLock.registrySha256.2
  · exact materialization.sha256.2
  · exact coverage.sha256.2
  · exact hsource
  · exact manifest.sha256.2
  · exact manifest.inventorySha256.2

/-- What a round of any index returns, as the receipt reads it. -/
theorem survivors_of_select (hround : 0 ≤ roundIndex ∧ roundIndex < 4)
    (h : selectSurvivorRecipes sha256 source.recipes evaluations.rows roundIndex =
      .ok (survivors, finalRecipe)) : survivors.map sha256 = sortedSet (survivors.map sha256) ∧
      (∀ recipe ∈ survivors, ∃ row ∈ evaluations.rows, row.recipe = recipe) ∧ if roundIndex < 3 then
        survivors.length = retainedCount source.recipes.length ∧
          E2_FAMILIES ⊆ survivors.map E2CandidateRecipe.family ∧ finalRecipe = none
      else survivors.length = 1 ∧ finalRecipe = survivors.head? := by
  by_cases hbelow : roundIndex < 3
  · rcases halved_of_select evaluations ⟨hround.1, hbelow⟩ h with ⟨hhalved, hfinal⟩
    refine ⟨hhalved.canonical, hhalved.evaluated, ?_⟩
    rw [if_pos hbelow]
    refine ⟨hhalved.count, fun family _ => ?_, hfinal⟩
    rcases hhalved.familyBest family with ⟨row, -, rfl, hmem⟩
    exact mem_map_of_mem hmem
  · have hlast : roundIndex = 3 := by omega
    subst hlast
    by_cases hrows : evaluations.rows = []
    · rw [select_empty evaluations (by decide) hrows] at h
      cases h
    · rcases select_last evaluations hrows with ⟨best, hbest, -, hok⟩
      rw [h] at hok
      cases hok
      refine ⟨rfl, fun recipe hrecipe => ⟨best, hbest, ?_⟩, rfl, rfl⟩
      exact (mem_singleton.mp hrecipe).symm

/-- The receipt of a round whose selection returned passes its checks. -/
theorem postInit_roundReceipt {roundIndex : ℤ} (hround : 0 ≤ roundIndex ∧ roundIndex < 4)
    {survivors : List E2CandidateRecipe} {finalRecipe : Option E2CandidateRecipe}
    (h : selectSurvivorRecipes sha256 source.recipes evaluations.rows roundIndex =
      .ok (survivors, finalRecipe)) (protocolLock : ProtocolLock)
    (materialization : StageMaterializationReceipt) (coverage : StageCoverageReceipt)
    {sourceSelectionSha256 : String} (hsource : isSha256 sourceSelectionSha256 = true)
    (manifest : E2StagedRoundEvidenceManifest Evidence) :
    (roundReceipt protocolLock materialization coverage sourceSelectionSha256 source.recipes manifest
      roundIndex evaluations.rows survivors finalRecipe).postInit sha256 = .ok () := by
  rcases survivors_of_select hround h with ⟨hcanonical, hevaluated, hcounts⟩
  have hpositive : 1 ≤ source.recipes.length := by
    rcases hrows : evaluations.rows with _ | ⟨row, rest⟩
    · rw [select_empty evaluations hround hrows] at h
      cases h
    · have hrow : row ∈ evaluations.rows := by
        rw [hrows]
        exact mem_cons_self
      exact length_pos_of_mem (evaluations.evaluated row hrow)
  unfold E2StagedRoundSelectionReceipt.postInit
  simp only [bind_eq_ok, require_eq_ok, forEach_eq_ok]
  refine ⟨(), rfl, (), ?_, (), hround, (), ?_, (), evaluations.canonical, (), hcanonical, (), ?_, (),
    ?_, ?_⟩
  · intro entry hentry
    exact require_of (isSha256_digests hsource entry hentry) _
  · exact Int.ofNat_le.mpr hpositive
  · intro digest hdigest
    rcases mem_map.mp hdigest with ⟨recipe, hrecipe, rfl⟩
    rcases hevaluated recipe hrecipe with ⟨row, hrow, rfl⟩
    exact mem_map_of_mem hrow
  · exact Int.ofNat_le.mpr evaluations.length_le
  · -- every text of the receipt is a digest or a fixed name
    have hbanned : rejectBannedModelIdentity (roundReceipt protocolLock materialization coverage
        sourceSelectionSha256 source.recipes manifest roundIndex evaluations.rows survivors
        finalRecipe).texts = .ok () :=
      rejectBannedModelIdentity_eq_ok
        (E2StagedRoundSelectionReceipt.not_mem_texts (isSha256_digests hsource))
    change (if roundIndex < 3 then _ else _) = _
    split
    · rename_i hbelow
      rw [if_pos hbelow] at hcounts
      refine bind_eq_ok.mpr ⟨(), require_of ⟨hcounts.1, ⟨?_, hcounts.2.1⟩, hcounts.2.2⟩ _, hbanned⟩
      exact fun family _ => mem_E2_FAMILIES family
    · rename_i hbelow
      rw [if_neg hbelow] at hcounts
      exact bind_eq_ok.mpr ⟨(), require_of hcounts _, hbanned⟩

/-- A reduction whose selection returned returns its receipt, and the receipt passes its checks. -/
theorem reduce_of_select {executionBindings : List Binding} {nowNs : ℤ}
    (hopen : openRound sha256 proofs protocolLock materialization coverage sourceSelectionSha256
      sourceRecipes manifest executionBindings nowNs = .ok (roundIndex, rows))
    (hselect : selectSurvivorRecipes sha256 sourceRecipes rows roundIndex =
      .ok (survivors, finalRecipe)) : ∃ receipt, receipt.postInit sha256 = .ok () ∧
      reduceE2StagedRoundSelectionFromProofs sha256 proofs protocolLock materialization coverage
        sourceSelectionSha256 sourceRecipes manifest executionBindings nowNs = .ok receipt := by
  rcases openRound_eq_ok hopen with ⟨hsource, hevaluated⟩
  rcases canonical_of_select hselect with ⟨hrecipes, hrows, hround⟩
  have hinit := @postInit_roundReceipt sha256 Evidence ⟨sourceRecipes, hrecipes⟩
    ⟨rows, hrows, hevaluated⟩ roundIndex hround survivors finalRecipe hselect protocolLock
    materialization coverage sourceSelectionSha256 hsource manifest
  refine ⟨_, hinit, ?_⟩
  unfold reduceE2StagedRoundSelectionFromProofs
  have hmade := validated_eq_ok.mpr ⟨hinit, rfl⟩
  -- the second check of the receipt is that of the constructor
  exact bind_eq_ok.mpr ⟨_, hopen, bind_eq_ok.mpr ⟨_, hselect, bind_eq_ok.mpr ⟨_, hmade, hmade⟩⟩⟩

end

/-- Successive halving over canonical evaluations of canonical recipes. -/
structure SuccessiveHalving (source : SourceRecipes sha256)
    (evaluations : Evaluations sha256 source) : Prop where
  raises_iff : ∀ round : Fin 3,
    (∃ e, selectSurvivorRecipes sha256 source.recipes evaluations.rows round.1 = .error e) ↔
      ¬ CoversFamilies evaluations ∨ evaluations.rows.length < retainedCount source.recipes.length
  halved : ∀ (round : Fin 3) (survivors : List E2CandidateRecipe)
    (finalRecipe : Option E2CandidateRecipe),
      selectSurvivorRecipes sha256 source.recipes evaluations.rows round.1 =
        .ok (survivors, finalRecipe) → Halved evaluations survivors ∧ finalRecipe = none
  last_raises_iff :
    (∃ e, selectSurvivorRecipes sha256 source.recipes evaluations.rows 3 = .error e) ↔
      evaluations.rows = []
  /-- The last round locks the best evaluation. -/
  last : ∀ survivors finalRecipe,
    selectSurvivorRecipes sha256 source.recipes evaluations.rows 3 = .ok (survivors, finalRecipe) →
      ∃ best ∈ evaluations.rows,
        (∀ other ∈ evaluations.rows, ranking sha256 best ≤ ranking sha256 other) ∧
          survivors = [best.recipe] ∧ finalRecipe = some best.recipe

/-- Every receipt of the reducer passes the checks of its constructor, and the constructor never
refuses what was selected. -/
structure ReceiptsAccepted : Prop where
  accepted : ∀ protocolLock materialization coverage sourceSelectionSha256 sourceRecipes manifest
    executionBindings nowNs receipt,
      reduceE2StagedRoundSelectionFromProofs sha256 proofs protocolLock materialization coverage
        sourceSelectionSha256 sourceRecipes manifest executionBindings nowNs = .ok receipt →
      receipt.postInit sha256 = .ok ()
  refused : ∀ protocolLock materialization coverage sourceSelectionSha256 sourceRecipes manifest
    executionBindings nowNs roundIndex rows e,
      openRound sha256 proofs protocolLock materialization coverage sourceSelectionSha256
        sourceRecipes manifest executionBindings nowNs = .ok (roundIndex, rows) →
      reduceE2StagedRoundSelectionFromProofs sha256 proofs protocolLock materialization coverage
        sourceSelectionSha256 sourceRecipes manifest executionBindings nowNs = .error e →
      selectSurvivorRecipes sha256 sourceRecipes rows roundIndex = .error e

theorem receipts_accepted : ReceiptsAccepted sha256 proofs := by
  constructor
  · intro protocolLock materialization coverage sourceSelectionSha256 sourceRecipes manifest
      executionBindings nowNs receipt hreduce
    have hparts := hreduce
    unfold reduceE2StagedRoundSelectionFromProofs at hparts
    rcases bind_eq_ok.mp hparts with ⟨⟨roundIndex, rows⟩, hopen, hparts⟩
    rcases bind_eq_ok.mp hparts with ⟨⟨survivors, finalRecipe⟩, hselect, -⟩
    rcases reduce_of_select hopen hselect with ⟨receipt', hinit, hok⟩
    rw [hreduce] at hok
    cases hok
    exact hinit
  · intro protocolLock materialization coverage sourceSelectionSha256 sourceRecipes manifest
      executionBindings nowNs roundIndex rows e hopen hreduce
    rcases hselect : selectSurvivorRecipes sha256 sourceRecipes rows roundIndex with
      e' | ⟨survivors, finalRecipe⟩
    · unfold reduceE2StagedRoundSelectionFromProofs at hreduce
      rw [hopen] at hreduce
      change (selectSurvivorRecipes sha256 sourceRecipes rows roundIndex >>= _) = _ at hreduce
      rw [hselect] at hreduce
      cases hreduce
      rfl
    · rcases reduce_of_select hopen hselect with ⟨receipt, -, hok⟩
      rw [hreduce] at hok
      cases hok

theorem successive_halving (source : SourceRecipes sha256)
    (evaluations : Evaluations sha256 source) :
    SuccessiveHalving sha256 source evaluations ∧ ReceiptsAccepted sha256 proofs := by
  refine ⟨?_, receipts_accepted sha256 proofs⟩
  have hbelow : ∀ round : Fin 3, 0 ≤ (round.1 : ℤ) ∧ (round.1 : ℤ) < 3 := by
    intro round
    have hround := round.2
    omega
  constructor
  · exact fun round => select_raises_iff evaluations (hbelow round)
  · exact fun round survivors finalRecipe h => halved_of_select evaluations (hbelow round) h
  · constructor
    · rintro ⟨e, he⟩
      by_contra hrows
      rcases select_last evaluations hrows with ⟨best, -, -, hok⟩
      rw [he] at hok
      cases hok
    · exact fun hrows => ⟨_, select_empty evaluations (by decide) hrows⟩
  · intro survivors finalRecipe h
    have hrows : evaluations.rows ≠ [] := by
      intro hnil
      rw [select_empty evaluations (by decide) hnil] at h
      cases h
    rcases select_last evaluations hrows with ⟨best, hbest, hleast, hok⟩
    rw [h] at hok
    cases hok
    exact ⟨best, hbest, hleast, rfl, rfl⟩

namespace Sample

/-- A digest for each number below 64. -/
def digest (n : ℕ) : Sha256 :=
  ⟨String.ofList (replicate (n % 64) '1' ++ replicate (64 - n % 64) '0'), by
    have hcount : n % 64 + (64 - n % 64) = 64 := by omega
    simp [isSha256, hcount]⟩

def recipeDigest (recipe : E2CandidateRecipe) : Sha256 := digest recipe.learningRate.num.natAbs

def recipe (rate : { rate : ℚ // 0 < rate }) : E2CandidateRecipe :=
  ⟨⟨.all, .full⟩, .adam, .constant, rate.1, rate.2, digest 0⟩

/-- A recipe does the better the higher its rate is. -/
def evaluation (recipe : E2CandidateRecipe) (updates : ℕ) : E2StagedCandidateEvaluation :=
  ⟨recipe, digest 0, recipe.learningRate, 0, 0, 0, updates, updates, recipe.learningRate_pos,
    Nat.le_refl updates⟩

end Sample

open Sample in
/-- Two recipes of one family: the last round locks the better one, and no earlier round takes
them. -/
example :
    let recipes := [recipe ⟨1, by decide⟩, recipe ⟨2, by decide⟩]
    selectSurvivorRecipes recipeDigest recipes (recipes.map (evaluation · 0)) 3 =
        .ok ([recipe ⟨2, by decide⟩], some (recipe ⟨2, by decide⟩)) ∧
      selectSurvivorRecipes recipeDigest recipes (recipes.map (evaluation · 0)) 0 = .error
        (valueError "E2 safe evidence does not preserve every optimizer/schedule family") := by
  decide +kernel

end Experiments

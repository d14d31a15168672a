import Mathlib.Algebra.Order.Field.Rat
import Mathlib.Data.List.Infix
import Mathlib.Data.Prod.Lex
import LightConeSpec.Control.ReservationBytes

/-!
# Recipes, evaluations and selection receipts

The records of a successive-halving round. A candidate recipe belongs to one of 21 families, an
optimizer with a schedule. `E2StagedRoundSelectionReceipt.postInit` is what the constructor of a
receipt checks.

The digest of a recipe is a parameter: any function into SHA-256 digests.
-/

namespace Experiments

open Python
open Control (Sha256 isSha256)

/-! ## Texts -/

def requireSha256 (label value : String) : Except Error Unit :=
  require (isSha256 value) (valueError s!"{label} must be a lower-case SHA-256")

def BANNED_MODEL : String := "Qwen/Qwen3.5-35B-A3B"

/-- `reject_banned_model_identity` on a record: its texts, each with the path where it stands. -/
def rejectBannedModelIdentity (texts : List (String × String)) : Except Error Unit :=
  forEach (fun (path, value) =>
    require (¬ BANNED_MODEL.toList <:+: value.toList)
      (valueError s!"banned E6 model appears at {path}")) texts

/-- The texts of a sequence of records. -/
def itemTexts {α : Type} (texts : String → α → List (String × String)) (path : String)
    (items : List α) : List (String × String) :=
  items.zipIdx.flatMap fun (item, index) => texts s!"{path}[{index}]" item

/-- A text without the first letter of the banned model does not contain it. -/
theorem rejectBannedModelIdentity_eq_ok {texts : List (String × String)}
    (h : ∀ text ∈ texts, 'Q' ∉ text.2.toList) : rejectBannedModelIdentity texts = .ok () := by
  unfold rejectBannedModelIdentity
  rw [forEach_eq_ok]
  intro text htext
  rw [require_eq_ok]
  intro hwithin
  exact h text htext (hwithin.subset (by decide))

theorem not_mem_sha256 (digest : Sha256) : 'Q' ∉ digest.1.toList :=
  Sha256.not_mem_chars (by decide)

theorem forall_itemTexts {α : Type} {texts : String → α → List (String × String)} {path : String}
    {items : List α} {P : String × String → Prop}
    (h : ∀ path item, ∀ text ∈ texts path item, P text) :
    ∀ text ∈ itemTexts texts path items, P text := by
  intro text htext
  unfold itemTexts at htext
  rcases List.mem_flatMap.mp htext with ⟨⟨item, index⟩, -, hmem⟩
  exact h _ item text hmem

/-! ## Recipes -/

inductive E1Scope
  | last1
  | last3
  | last5
  | all
deriving DecidableEq

def E1Scope.name : E1Scope → String
  | .last1 => "last1"
  | .last3 => "last3"
  | .last5 => "last5"
  | .all => "all"

theorem E1Scope.not_mem_name (scope : E1Scope) : 'Q' ∉ scope.name.toList := by
  cases scope <;> decide

def LORA_RANKS : List ℕ := [1, 2, 4, 8, 16, 32, 64]

/-- A parameterization with its rank; `alpha_over_rank` of LoRA is 1. -/
inductive Parameterization
  | full
  | lora (rank : { rank : ℕ // rank ∈ LORA_RANKS })
deriving DecidableEq

def Parameterization.name : Parameterization → String
  | .full => "full"
  | .lora _ => "lora"

theorem Parameterization.not_mem_name (parameterization : Parameterization) :
    'Q' ∉ parameterization.name.toList := by
  rcases parameterization with _ | rank
  · decide
  · change 'Q' ∉ "lora".toList
    decide

structure E1Geometry where
  scope : E1Scope
  parameterization : Parameterization
deriving DecidableEq

inductive E2Optimizer
  | adam
  | adamw
  | sgdm
  | nag
  | muon
  | lion
  | chronobelief
deriving DecidableEq

def E2Optimizer.name : E2Optimizer → String
  | .adam => "adam"
  | .adamw => "adamw"
  | .sgdm => "sgdm"
  | .nag => "nag"
  | .muon => "muon"
  | .lion => "lion"
  | .chronobelief => "chronobelief"

theorem E2Optimizer.not_mem_name (optimizer : E2Optimizer) : 'Q' ∉ optimizer.name.toList := by
  cases optimizer <;> decide

inductive E2Schedule
  | constant
  | inverseSqrtPublishedUpdate
  | cosineToZero
deriving DecidableEq

def E2Schedule.name : E2Schedule → String
  | .constant => "constant"
  | .inverseSqrtPublishedUpdate => "inverse_sqrt_published_update"
  | .cosineToZero => "cosine_to_zero"

theorem E2Schedule.not_mem_name (schedule : E2Schedule) : 'Q' ∉ schedule.name.toList := by
  cases schedule <;> decide

def E2_OPTIMIZERS : List E2Optimizer :=
  [.adam, .adamw, .sgdm, .nag, .muon, .lion, .chronobelief]

def E2_SCHEDULES : List E2Schedule :=
  [.constant, .inverseSqrtPublishedUpdate, .cosineToZero]

/-- The families, in the order of the loops. -/
def E2_FAMILIES : List (E2Optimizer × E2Schedule) :=
  E2_OPTIMIZERS.flatMap fun optimizer => E2_SCHEDULES.map fun schedule => (optimizer, schedule)

theorem mem_E2_FAMILIES (family : E2Optimizer × E2Schedule) : family ∈ E2_FAMILIES := by
  rcases family with ⟨optimizer, schedule⟩
  cases optimizer <;> cases schedule <;> decide

structure E2CandidateRecipe where
  geometry : E1Geometry
  optimizer : E2Optimizer
  schedule : E2Schedule
  learningRate : ℚ
  learningRate_pos : 0 < learningRate
  optimizerRecipeAuthoritySha256 : Sha256
deriving DecidableEq

abbrev RecipeDigest := E2CandidateRecipe → Sha256

namespace E2CandidateRecipe

def family (recipe : E2CandidateRecipe) : E2Optimizer × E2Schedule :=
  (recipe.optimizer, recipe.schedule)

def texts (path : String) (recipe : E2CandidateRecipe) : List (String × String) :=
  [(path ++ ".geometry.scope", recipe.geometry.scope.name),
   (path ++ ".geometry.parameterization", recipe.geometry.parameterization.name),
   (path ++ ".optimizer", recipe.optimizer.name),
   (path ++ ".schedule", recipe.schedule.name),
   (path ++ ".optimizer_recipe_authority_sha256", recipe.optimizerRecipeAuthoritySha256.1)]

theorem not_mem_texts (path : String) (recipe : E2CandidateRecipe) :
    ∀ text ∈ recipe.texts path, 'Q' ∉ text.2.toList := by
  intro text htext
  simp only [texts, List.mem_cons, List.not_mem_nil, or_false] at htext
  rcases htext with rfl | rfl | rfl | rfl | rfl
  · exact recipe.geometry.scope.not_mem_name
  · exact recipe.geometry.parameterization.not_mem_name
  · exact recipe.optimizer.not_mem_name
  · exact recipe.schedule.not_mem_name
  · exact not_mem_sha256 recipe.optimizerRecipeAuthoritySha256

end E2CandidateRecipe

/-! ## Evaluations -/

/-- An evaluation of a recipe. The confidence bound is a finite positive float. -/
structure E2StagedCandidateEvaluation where
  recipe : E2CandidateRecipe
  cellId : Sha256
  confidenceLowerRequestRateRatio : ℚ
  peakHbmBytes : ℕ
  p99ItlUs : ℕ
  exposedUpdateUs : ℕ
  launchedUpdates : ℕ
  publishedUpdates : ℕ
  confidence_pos : 0 < confidenceLowerRequestRateRatio
  published_le : publishedUpdates ≤ launchedUpdates

namespace E2StagedCandidateEvaluation

def texts (path : String) (row : E2StagedCandidateEvaluation) : List (String × String) :=
  row.recipe.texts (path ++ ".recipe") ++ [(path ++ ".cell_id", row.cellId.1)]

theorem not_mem_texts (path : String) (row : E2StagedCandidateEvaluation) :
    ∀ text ∈ row.texts path, 'Q' ∉ text.2.toList := by
  intro text htext
  unfold texts at htext
  rcases List.mem_append.mp htext with h | h
  · exact row.recipe.not_mem_texts _ text h
  · rw [List.mem_singleton] at h
    rw [h]
    exact not_mem_sha256 row.cellId

end E2StagedCandidateEvaluation

/-! ## Receipts -/

/-- `max(math.ceil(n / 4), 21)`. -/
def retainedCount (n : ℕ) : ℕ := max ((n + 3) / 4) 21

structure E2StagedRoundSelectionReceipt where
  schemaVersion : ℤ
  protocolLockSha256 : String
  registrySha256 : String
  materializationReceiptSha256 : String
  coverageReceiptSha256 : String
  sourceSelectionSha256 : String
  evidenceManifestSha256 : String
  inventorySha256 : String
  roundIndex : ℤ
  sourceCandidateCount : ℤ
  evaluations : List E2StagedCandidateEvaluation
  survivorRecipes : List E2CandidateRecipe
  finalRecipe : Option E2CandidateRecipe

namespace E2StagedRoundSelectionReceipt

/-- The digests of a receipt, with the labels and the names of their fields. -/
def digests (receipt : E2StagedRoundSelectionReceipt) : List (String × String × String) :=
  [("protocol lock", "protocol_lock_sha256", receipt.protocolLockSha256),
   ("registry", "registry_sha256", receipt.registrySha256),
   ("materialization", "materialization_receipt_sha256", receipt.materializationReceiptSha256),
   ("coverage", "coverage_receipt_sha256", receipt.coverageReceiptSha256),
   ("source selection", "source_selection_sha256", receipt.sourceSelectionSha256),
   ("evidence manifest", "evidence_manifest_sha256", receipt.evidenceManifestSha256),
   ("inventory", "inventory_sha256", receipt.inventorySha256)]

def texts (receipt : E2StagedRoundSelectionReceipt) : List (String × String) :=
  receipt.digests.map (fun (_, field, value) => ("root." ++ field, value))
    ++ itemTexts E2StagedCandidateEvaluation.texts "root.evaluations" receipt.evaluations
    ++ itemTexts E2CandidateRecipe.texts "root.survivor_recipes" receipt.survivorRecipes
    ++ (receipt.finalRecipe.map (E2CandidateRecipe.texts "root.final_recipe")).getD []

/-- The checks of `E2StagedRoundSelectionReceipt.__post_init__`. -/
def postInit (sha256 : RecipeDigest) (receipt : E2StagedRoundSelectionReceipt) :
    Except Error Unit := do
  require (receipt.schemaVersion = 1)
    (valueError "only E2 staged round selection schema 1 is supported")
  forEach (fun (label, _, value) => requireSha256 s!"E2 selection {label}" value) receipt.digests
  require (0 ≤ receipt.roundIndex ∧ receipt.roundIndex < 4)
    (valueError "E2 selection round is outside [0,4)")
  require (1 ≤ receipt.sourceCandidateCount)
    (valueError "E2 source candidate count must be positive")
  let evaluationIds := receipt.evaluations.map fun row => sha256 row.recipe
  let survivorIds := receipt.survivorRecipes.map sha256
  require (evaluationIds = sortedSet evaluationIds)
    (valueError "E2 evaluations are not canonical")
  require (survivorIds = sortedSet survivorIds)
    (valueError "E2 survivors are not canonical")
  require (survivorIds ⊆ evaluationIds)
    (valueError "E2 survivor is foreign to evaluated recipes")
  require ((receipt.evaluations.length : ℤ) ≤ receipt.sourceCandidateCount)
    (valueError "E2 evaluated candidates exceed the source universe")
  if receipt.roundIndex < 3 then
    let expectedCount := retainedCount receipt.sourceCandidateCount.toNat
    let families := receipt.survivorRecipes.map E2CandidateRecipe.family
    require (receipt.survivorRecipes.length = expectedCount ∧
        (families ⊆ E2_FAMILIES ∧ E2_FAMILIES ⊆ families) ∧ receipt.finalRecipe = none)
      (valueError "E2 survivors violate quarter/family-floor protocol")
  else
    require (receipt.survivorRecipes.length = 1 ∧
        receipt.finalRecipe = receipt.survivorRecipes.head?)
      (valueError "E2 round three must lock exactly one final recipe")
  rejectBannedModelIdentity receipt.texts

/-- Nothing in a receipt names the banned model when its digests are digests. -/
theorem not_mem_texts {receipt : E2StagedRoundSelectionReceipt}
    (hdigests : ∀ entry ∈ receipt.digests, isSha256 entry.2.2 = true) :
    ∀ text ∈ receipt.texts, 'Q' ∉ text.2.toList := by
  intro text htext
  unfold texts at htext
  simp only [List.mem_append, List.mem_map] at htext
  rcases htext with ((⟨entry, hentry, rfl⟩ | h) | h) | h
  · exact not_mem_sha256 ⟨entry.2.2, hdigests entry hentry⟩
  · exact forall_itemTexts (fun path row => row.not_mem_texts path) text h
  · exact forall_itemTexts (fun path recipe => recipe.not_mem_texts path) text h
  · cases hfinal : receipt.finalRecipe with
    | none =>
      rw [hfinal] at h
      cases h
    | some recipe =>
      rw [hfinal] at h
      exact recipe.not_mem_texts _ text h

end E2StagedRoundSelectionReceipt

end Experiments

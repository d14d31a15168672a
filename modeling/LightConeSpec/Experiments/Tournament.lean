import Mathlib.Data.List.Iterate
import LightConeSpec.Experiments.Reduction

/-!
# The rounds of E2

`materialize_e2_round` and `materialize_e2_next_round` choose the candidates of a round: round zero
has the whole grid of its geometries, a later round the survivors of the round before. `Rounds` are
the rounds so far, the last one first; `Rounds.sound` is what holds of them in every run.

The next round counts its candidates by the geometries that are left; `Sound.next_eq`. The receipts,
signatures, anchors, widths and loads that the two functions check as well are taken to be in order.
-/

namespace Experiments

open Python List
open Control (Sha256)

/-! ## The grid -/

structure OptimizerRateGrid where
  learningRates : List ℚ
  five : learningRates.length = 5
  increasing : learningRates.Pairwise (· < ·)
  pos : ∀ rate ∈ learningRates, 0 < rate

/-- `E2RecipeGridAuthority`. `optimizerConfig` is that of the numeric recipes. -/
structure E2RecipeGridAuthority where
  full : E2Optimizer → OptimizerRateGrid
  lora : E2Optimizer → OptimizerRateGrid
  optimizerRecipeAuthoritySha256 : Sha256
  optimizerConfig : E2Optimizer → ℚ → E2Schedule → Except Error Unit

namespace E2RecipeGridAuthority

variable (grid : E2RecipeGridAuthority)

def rates (optimizer : E2Optimizer) : Parameterization → OptimizerRateGrid
  | .full => grid.full optimizer
  | .lora _ => grid.lora optimizer

def optimizerConfigFor (candidate : E2CandidateRecipe) : Except Error Unit := do
  let rates := grid.rates candidate.optimizer candidate.geometry.parameterization
  require (candidate.optimizerRecipeAuthoritySha256 = grid.optimizerRecipeAuthoritySha256 ∧
      candidate.learningRate ∈ rates.learningRates)
    (valueError "E2 candidate differs from its numeric/grid authority")
  grid.optimizerConfig candidate.optimizer candidate.learningRate candidate.schedule

def recipes (geometry : E1Geometry) : List E2CandidateRecipe :=
  E2_FAMILIES.flatMap fun family =>
    let rates := grid.rates family.1 geometry.parameterization
    rates.learningRates.attach.map fun rate =>
      { geometry := geometry
        optimizer := family.1
        schedule := family.2
        learningRate := rate.1
        learningRate_pos := rates.pos rate.1 rate.2
        optimizerRecipeAuthoritySha256 := grid.optimizerRecipeAuthoritySha256 }

end E2RecipeGridAuthority

/-! ## The candidates of a round -/

variable (sha256 : RecipeDigest) (geometryId : E1Geometry → Sha256)
  (grid : E2RecipeGridAuthority)

def e2CandidateRecipes (geometries : List E1Geometry) : Except Error (List E2CandidateRecipe) := do
  require (geometries ≠ [] ∧ (geometries.map geometryId).Nodup)
    (valueError "E2 survivor geometries must be non-empty and unique")
  let rows := geometries.flatMap grid.recipes
  require (rows.length = 105 * geometries.length)
    ⟨.assertionError, "E2 round zero must contain 105 recipes per geometry"⟩
  forEach grid.optimizerConfigFor rows
  pure (sortedBy sha256 rows)

def e2RoundCandidateCounts (geometryCount : ℕ) : Except Error (List ℕ) := do
  require (1 ≤ geometryCount ∧ geometryCount ≤ 32)
    (valueError "E2 geometry count must be in [1, 32]")
  pure (List.iterate retainedCount (105 * geometryCount) 4)

/-- What survivors are refused with that are too many, foreign or not of the round before. -/
def wrongSurvivors : Error :=
  valueError "E2 survivor set has wrong count, foreign recipes, or re-entered recipes"

/-- The checks of the survivors that enter a later round. -/
def checkSurvivors (allRecipes : List E2CandidateRecipe) (expectedCount : ℕ)
    (candidateRecipes : List E2CandidateRecipe) (priorCandidates : List (Option Sha256)) :
    Except Error (List E2CandidateRecipe) := do
  require (none ∉ priorCandidates)
    (valueError "prior E2 candidate lacks a concrete recipe identity")
  let selected := sortedBy sha256 candidateRecipes
  forEach grid.optimizerConfigFor selected
  let universeById := allRecipes.foldl (fun d row => d.set (sha256 row) row) Dict.empty
  require (selected.length = expectedCount ∧ (selected.map sha256).Nodup ∧
      (∀ row ∈ selected, universeById.get? (sha256 row) = some row) ∧
      ∀ row ∈ selected, some (sha256 row) ∈ priorCandidates) wrongSurvivors
  let families := selected.map E2CandidateRecipe.family
  require (families ⊆ E2_FAMILIES ∧ E2_FAMILIES ⊆ families)
    (valueError "E2 survivor set must retain every optimizer/schedule family")
  pure selected

/-- `cell.recipe_sha256` of the candidates. -/
def candidateIds (prior : StageMaterializationReceipt) : List (Option Sha256) :=
  (prior.cells.filter fun cell => cell.methodRole = "LightCone-candidate").map
    MaterializedCell.recipeSha256

/-- The candidates that `_materialize_e2_round_from_verified_values` puts into cells. -/
def materializeE2RoundFromVerifiedValues (upstreamReceiptSha256 : Sha256)
    (geometries : List E1Geometry) (roundIndex : ℤ)
    (candidateRecipes : Option (List E2CandidateRecipe))
    (prior : Option StageMaterializationReceipt) : Except Error (List E2CandidateRecipe) := do
  require (0 ≤ roundIndex ∧ roundIndex < 4) (valueError "E2 round index must be in [0, 4)")
  let counts ← e2RoundCandidateCounts geometries.length
  let allRecipes ← e2CandidateRecipes sha256 geometryId grid geometries
  if roundIndex = 0 then
    require (candidateRecipes.isNone ∧ prior.isNone)
      (valueError "E2 round zero candidates are derived without a prior E2 round")
    pure allRecipes
  else
    match candidateRecipes, prior with
    | some recipes, some prior =>
      require (prior.stage = "E2" ∧ prior.sha256 = upstreamReceiptSha256)
        (valueError "later E2 round does not bind its exact prior materialization")
      checkSurvivors sha256 grid allRecipes (counts.getD roundIndex.toNat 0) recipes
        (candidateIds prior)
    | _, _ =>
      .error
        (valueError "later E2 rounds require a concrete prior materialization and survivors")

/-- The candidates of `materialize_e2_round`. -/
def materializeE2Round (e1Materialization : Sha256) (geometries : List E1Geometry) :
    Except Error (List E2CandidateRecipe) :=
  materializeE2RoundFromVerifiedValues sha256 geometryId grid e1Materialization geometries 0
    none none

/-- `{row.geometry for row in source_recipes}`, sorted. -/
def geometriesLeft (sourceRecipes : List E2CandidateRecipe) : List E1Geometry :=
  sortedBy geometryId (sourceRecipes.map E2CandidateRecipe.geometry).dedup

/-- The candidates of `materialize_e2_next_round`. -/
def materializeE2NextRound (prior : StageMaterializationReceipt)
    (sourceRecipes : List E2CandidateRecipe) (selection : E2StagedRoundSelectionReceipt) :
    Except Error (List E2CandidateRecipe) := do
  require (selection.roundIndex < 3 ∧ selection.finalRecipe = none)
    (valueError "E2 round three selection has no downstream round")
  materializeE2RoundFromVerifiedValues sha256 geometryId grid prior.sha256
    (geometriesLeft geometryId sourceRecipes) (selection.roundIndex + 1)
    (some selection.survivorRecipes) (some prior)

/-! ## Every run -/

variable {Evidence Binding : Type} (proofs : StageProofs Evidence Binding)

/-- The reducer returns `receipt` for the round of `source` that `prior` names. -/
def Reduced (source : List E2CandidateRecipe) (prior : StageMaterializationReceipt)
    (receipt : E2StagedRoundSelectionReceipt) : Prop :=
  ∃ protocolLock coverage sourceSelectionSha256 manifest executionBindings nowNs,
    reduceE2StagedRoundSelectionFromProofs sha256 proofs protocolLock prior coverage
      sourceSelectionSha256 source manifest executionBindings nowNs = .ok receipt

/-- The candidates of the rounds so far, the last round first. -/
inductive Rounds (geometries : List E1Geometry) : List (List E2CandidateRecipe) → Prop
  | first {e1Materialization : Sha256} {candidates : List E2CandidateRecipe}
      (hfirst : materializeE2Round sha256 geometryId grid e1Materialization geometries =
        .ok candidates) : Rounds geometries [candidates]
  | next {source candidates : List E2CandidateRecipe} {earlier : List (List E2CandidateRecipe)}
      {prior : StageMaterializationReceipt} {receipt : E2StagedRoundSelectionReceipt}
      (hrounds : Rounds geometries (source :: earlier))
      (hreduced : Reduced sha256 proofs source prior receipt)
      (hround : receipt.roundIndex = earlier.length)
      (hnext : materializeE2NextRound sha256 geometryId grid prior source receipt =
        .ok candidates) : Rounds geometries (candidates :: source :: earlier)

section

variable {sha256 geometryId grid proofs} {geometries : List E1Geometry}
  {source allRecipes : List E2CandidateRecipe} {recipe : E2CandidateRecipe}
  {prior : StageMaterializationReceipt} {receipt : E2StagedRoundSelectionReceipt}

theorem mem_recipes : recipe ∈ geometries.flatMap grid.recipes ↔ recipe.geometry ∈ geometries ∧
    recipe.learningRate ∈
      (grid.rates recipe.optimizer recipe.geometry.parameterization).learningRates ∧
    recipe.optimizerRecipeAuthoritySha256 = grid.optimizerRecipeAuthoritySha256 := by
  simp only [mem_flatMap, E2RecipeGridAuthority.recipes, mem_map, mem_attach,
    true_and, Subtype.exists]
  constructor
  · rintro ⟨geometry, hgeometry, family, -, rate, hrate, rfl⟩
    exact ⟨hgeometry, hrate, rfl⟩
  · rintro ⟨hgeometry, hrate, hauthority⟩
    refine ⟨recipe.geometry, hgeometry, recipe.family, mem_E2_FAMILIES _, _, hrate, ?_⟩
    rw [← hauthority]
    rfl

theorem exists_recipe {geometry : E1Geometry} (hgeometry : geometry ∈ geometries)
    (family : E2Optimizer × E2Schedule) : ∃ recipe ∈ geometries.flatMap grid.recipes,
      recipe.geometry = geometry ∧ recipe.family = family := by
  have hpos : 0 < (grid.rates family.1 geometry.parameterization).learningRates.length := by
    rw [OptimizerRateGrid.five]
    decide
  rcases exists_mem_of_length_pos hpos with ⟨rate, hrate⟩
  exact ⟨⟨geometry, family.1, family.2, rate, OptimizerRateGrid.pos _ rate hrate, _⟩,
    mem_recipes.mpr ⟨hgeometry, hrate, rfl⟩, rfl, rfl⟩

/-- Seven optimizers, three schedules and five rates. -/
theorem length_recipes : (geometries.flatMap grid.recipes).length = 105 * geometries.length := by
  have hgeometry : ∀ geometry, (grid.recipes geometry).length = 105 := by
    intro geometry
    unfold E2RecipeGridAuthority.recipes
    simp [length_flatMap, OptimizerRateGrid.five, show E2_FAMILIES.length = 21 from rfl]
  simp [length_flatMap, hgeometry, mul_comm]

theorem e2CandidateRecipes_eq_ok :
    e2CandidateRecipes sha256 geometryId grid geometries = .ok allRecipes ↔
      (geometries ≠ [] ∧ (geometries.map geometryId).Nodup) ∧
        (∀ row ∈ geometries.flatMap grid.recipes, grid.optimizerConfigFor row = .ok ()) ∧
          sortedBy sha256 (geometries.flatMap grid.recipes) = allRecipes := by
  unfold e2CandidateRecipes
  simp only [bind_eq_ok, require_eq_ok, exists_const, length_recipes, forEach_eq_ok, pure_eq_ok,
    true_and]

/-- The cells of a reduced round are those of its source recipes. -/
theorem Reduced.cells (h : Reduced sha256 proofs source prior receipt) :
    prior.stage = "E2" ∧ none ∉ candidateIds prior ∧
      ∀ row ∈ source, some (sha256 row) ∈ candidateIds prior := by
  rcases h with ⟨lock, coverage, selection, manifest, bindings, nowNs, h⟩
  unfold reduceE2StagedRoundSelectionFromProofs at h
  rcases bind_eq_ok.mp h with ⟨_, h, -⟩
  unfold openRound at h
  rcases bind_eq_ok.mp h with ⟨_, -, h⟩
  rcases bind_eq_ok.mp h with ⟨_, -, h⟩
  rcases bind_eq_ok.mp h with ⟨_, hstage, h⟩
  rcases bind_eq_ok.mp h with ⟨_, -, h⟩
  rcases bind_eq_ok.mp h with ⟨_, -, h⟩
  rcases bind_eq_ok.mp h with ⟨_, -, h⟩
  rcases bind_eq_ok.mp h with ⟨_, hcells, -⟩
  rcases require_eq_ok.mp hcells with ⟨-, hlength, hids⟩
  have hreduce : (candidateIds prior).reduceOption.insertionSort (· ≤ ·) =
      source.map sha256 := by
    rw [← hids]
    unfold candidateIds List.reduceOption
    rw [filterMap_map]
    rfl
  refine ⟨(require_eq_ok.mp hstage).1, ?_, ?_⟩
  · have hall : (candidateIds prior).reduceOption.length =
        (candidateIds prior).length := by
      rw [← length_insertionSort (· ≤ ·), hreduce]
      simp [candidateIds, hlength]
    intro hnone
    exact absurd (reduceOption_length_eq_iff.mp hall none hnone) (by simp)
  · intro row hrow
    rw [← reduceOption_mem_iff, ← mem_insertionSort (· ≤ ·), hreduce]
    exact mem_map_of_mem hrow

/-- What the survivors of a reduced round are. -/
theorem Reduced.survivors (h : Reduced sha256 proofs source prior receipt) :
    (source.map sha256).Nodup ∧ (∀ row ∈ receipt.survivorRecipes, row ∈ source) ∧
      receipt.survivorRecipes.map sha256 = sortedSet (receipt.survivorRecipes.map sha256) ∧
      if receipt.roundIndex < 3 then receipt.survivorRecipes.length = retainedCount source.length ∧
          E2_FAMILIES ⊆ receipt.survivorRecipes.map E2CandidateRecipe.family ∧
            receipt.finalRecipe = none else receipt.survivorRecipes.length = 1 ∧
        receipt.finalRecipe = receipt.survivorRecipes.head? := by
  rcases h with ⟨lock, coverage, selection, manifest, bindings, nowNs, h⟩
  unfold reduceE2StagedRoundSelectionFromProofs at h
  rcases bind_eq_ok.mp h with ⟨⟨roundIndex, rows⟩, hopen, h⟩
  rcases bind_eq_ok.mp h with ⟨⟨survivors, finalRecipe⟩, hselect, h⟩
  rcases bind_eq_ok.mp h with ⟨made, hmade, h⟩
  rcases bind_eq_ok.mp h with ⟨_, -, h⟩
  obtain rfl := (validated_eq_ok.mp hmade).2
  cases h
  rcases canonical_of_select hselect with ⟨hrecipes, hrows, hround⟩
  have hevaluated := (openRound_eq_ok hopen).2
  rcases @survivors_of_select sha256 survivors roundIndex finalRecipe ⟨source, hrecipes⟩
    ⟨rows, hrows, hevaluated⟩ hround hselect with ⟨hcanonical, hrow, hrest⟩
  refine ⟨hrecipes ▸ nodup_sortedSet _, ?_, hcanonical, hrest⟩
  intro recipe hrecipe
  rcases hrow recipe hrecipe with ⟨row, hmem, rfl⟩
  exact hevaluated row hmem

/-- With distinct digests the dictionary has each recipe under its own. -/
theorem get?_byId {rows : List E2CandidateRecipe} (hids : Set.InjOn sha256 {row | row ∈ rows})
    (hmem : recipe ∈ rows) :
    (rows.foldl (fun d row => d.set (sha256 row) row) Dict.empty).get? (sha256 recipe) =
      some recipe := by
  rw [Dict.get?_foldl_set]
  have hne : recipe ∈ rows.filter fun row => sha256 row = sha256 recipe :=
    mem_filter.mpr ⟨hmem, decide_eq_true rfl⟩
  have hlast := getLast_mem (ne_nil_of_mem hne)
  rw [getLast?_eq_getLast_of_ne_nil (ne_nil_of_mem hne), Option.some_or]
  rw [hids (mem_filter.mp hlast).1 hmem (of_decide_eq_true (mem_filter.mp hlast).2)]

theorem mem_geometriesLeft {geometry : E1Geometry} : geometry ∈ geometriesLeft geometryId source ↔
    ∃ row ∈ source, row.geometry = geometry := by
  unfold geometriesLeft
  rw [mem_sortedBy, mem_dedup, mem_map]

theorem nodup_geometriesLeft : (geometriesLeft geometryId source).Nodup :=
  (sortedBy_perm _ _).nodup_iff.mpr (nodup_dedup _)

end

/-- What holds of the candidates of the last round. -/
structure Sound (geometries : List E1Geometry) (source : List E2CandidateRecipe)
    (earlier : List (List E2CandidateRecipe)) : Prop where
  rounds : earlier.length < 4
  allowed : geometries.length ≤ 32
  distinct : (geometries.map geometryId).Nodup
  configured : ∀ row ∈ geometries.flatMap grid.recipes, grid.optimizerConfigFor row = .ok ()
  whole : earlier = [] → source = sortedBy sha256 (geometries.flatMap grid.recipes)
  /-- The digests of round zero are distinct once it is reduced. -/
  ids : earlier ≠ [] → Set.InjOn sha256 {row | row ∈ geometries.flatMap grid.recipes}
  subset : source ⊆ geometries.flatMap grid.recipes
  families : E2_FAMILIES ⊆ source.map E2CandidateRecipe.family
  count : source.length = retainedCount^[earlier.length] (105 * geometries.length)
  nested : ∀ round ∈ earlier, source ⊆ round

section

variable {sha256 geometryId grid proofs} {geometries : List E1Geometry}
  {source : List E2CandidateRecipe} {earlier : List (List E2CandidateRecipe)}
  {prior : StageMaterializationReceipt} {receipt : E2StagedRoundSelectionReceipt}

theorem Sound.injOn (h : Sound sha256 geometryId grid geometries source earlier)
    (hreduced : Reduced sha256 proofs source prior receipt) :
    Set.InjOn sha256 {row | row ∈ geometries.flatMap grid.recipes} := by
  by_cases hempty : earlier = []
  · intro a ha b hb
    have hnodup := hreduced.survivors.1
    rw [h.whole hempty] at hnodup
    exact inj_on_of_nodup_map hnodup (mem_sortedBy.mpr ha) (mem_sortedBy.mpr hb)
  · exact h.ids hempty

theorem Sound.left (h : Sound sha256 geometryId grid geometries source earlier) :
    geometriesLeft geometryId source ≠ [] ∧
      geometriesLeft geometryId source ⊆ geometries := by
  constructor
  · rcases mem_map.mp (h.families (mem_E2_FAMILIES (.adam, .constant))) with ⟨row, hrow, -⟩
    exact ne_nil_of_mem (mem_geometriesLeft.mpr ⟨row, hrow, rfl⟩)
  · intro geometry hgeometry
    rcases mem_geometriesLeft.mp hgeometry with ⟨row, hrow, rfl⟩
    exact (mem_recipes.mp (h.subset hrow)).1

/-- Survivors that pass all other checks are refused for their number only. -/
theorem checkSurvivors_eq {allRecipes survivors : List E2CandidateRecipe} {expectedCount : ℕ}
    {priorCandidates : List (Option Sha256)} (hprior : none ∉ priorCandidates)
    (hcanonical : survivors.map sha256 = sortedSet (survivors.map sha256))
    (hconfigured : ∀ row ∈ survivors, grid.optimizerConfigFor row = .ok ())
    (hinj : Set.InjOn sha256 {row | row ∈ allRecipes}) (hsub : survivors ⊆ allRecipes)
    (hids : ∀ row ∈ survivors, some (sha256 row) ∈ priorCandidates)
    (hfamilies : E2_FAMILIES ⊆ survivors.map E2CandidateRecipe.family) :
    checkSurvivors sha256 grid allRecipes expectedCount survivors priorCandidates =
      if survivors.length = expectedCount then .ok survivors else .error
        (valueError "E2 survivor set has wrong count, foreign recipes, or re-entered recipes") := by
  have hsorted : sortedBy sha256 survivors = survivors := by
    have hlt := pairwise_map.mp (sortedSet_eq_self_iff.mp hcanonical.symm)
    exact (hlt.imp le_of_lt).insertionSort_eq
  have hlookup : ∀ row ∈ survivors, _ = some row := fun row hrow => get?_byId hinj (hsub hrow)
  have hforEach : forEach grid.optimizerConfigFor survivors = .ok () :=
    forEach_eq_ok.mpr hconfigured
  unfold checkSurvivors
  rw [require_of hprior, hsorted]
  change (forEach _ _ >>= _) = _
  rw [hforEach]
  change (require _ _ >>= _) = _
  split
  · rename_i hcount
    refine bind_eq_ok.mpr ⟨(), require_of ⟨hcount, hcanonical ▸ nodup_sortedSet _, hlookup, hids⟩ _, ?_⟩
    exact bind_eq_ok.mpr ⟨(), require_of ⟨fun family _ => mem_E2_FAMILIES family, hfamilies⟩ _, rfl⟩
  · rename_i hcount
    refine bind_eq_error.mpr (.inl (require_eq_error.mpr ⟨?_, rfl⟩))
    exact fun hall => hcount hall.1

/-- The next round has the survivors, unless the geometries that are left predict another count. -/
theorem Sound.next_eq (h : Sound sha256 geometryId grid geometries source earlier)
    (hreduced : Reduced sha256 proofs source prior receipt)
    (hround : receipt.roundIndex = earlier.length) (hbelow : earlier.length < 3) :
    materializeE2NextRound sha256 geometryId grid prior source receipt =
      if receipt.survivorRecipes.length = retainedCount^[earlier.length + 1]
        (105 * (geometriesLeft geometryId source).length) then .ok receipt.survivorRecipes
      else .error wrongSurvivors := by
  rcases hreduced.cells with ⟨hstage, hnone, hprior⟩
  rcases hreduced.survivors with ⟨-, hsource, hcanonical, hrest⟩
  rw [if_pos (by omega)] at hrest
  rcases hrest with ⟨-, hfamilies, hfinal⟩
  have hmem : ∀ geometry, geometry ∈ geometriesLeft geometryId source ↔ _ :=
    fun _ => mem_geometriesLeft
  have hnodup := @nodup_geometriesLeft geometryId source
  rcases h.left with ⟨hne, hleft⟩
  unfold materializeE2NextRound materializeE2RoundFromVerifiedValues
  generalize geometriesLeft geometryId source = left at hmem hnodup hne hleft ⊢
  have hsub : left.flatMap grid.recipes ⊆ geometries.flatMap grid.recipes := by
    intro row hrow
    exact mem_recipes.mpr ⟨hleft (mem_recipes.mp hrow).1, (mem_recipes.mp hrow).2⟩
  have hcounts : e2RoundCandidateCounts left.length =
      .ok (List.iterate retainedCount (105 * left.length) 4) := by
    have hle := (hnodup.subperm hleft).length_le
    have hpos := length_pos_of_ne_nil hne
    have hallowed := h.allowed
    exact bind_eq_ok.mpr ⟨_, require_of (by omega) _, rfl⟩
  have hall : e2CandidateRecipes sha256 geometryId grid left =
      .ok (sortedBy sha256 (left.flatMap grid.recipes)) := by
    refine e2CandidateRecipes_eq_ok.mpr ⟨⟨hne, hnodup.map_on ?_⟩, ?_, rfl⟩
    · intro a ha b hb
      exact inj_on_of_nodup_map h.distinct (hleft ha) (hleft hb)
    · exact fun row hrow => h.configured row (hsub hrow)
  have hcount : (List.iterate retainedCount (105 * left.length) 4).getD
      (receipt.roundIndex + 1).toNat 0 = retainedCount^[earlier.length + 1] (105 * left.length) := by
    rw [getD_eq_getElem?_getD, getElem?_iterate _ _ _ _ (by omega), Option.getD_some,
      show (receipt.roundIndex + 1).toNat = earlier.length + 1 by omega]
  have hchecked := @checkSurvivors_eq sha256 grid (sortedBy sha256 (left.flatMap grid.recipes)) _
    (retainedCount^[earlier.length + 1] (105 * left.length)) _ hnone hcanonical
    (fun row hrow => h.configured row (h.subset (hsource row hrow)))
    ((h.injOn hreduced).mono fun other hother => hsub (mem_sortedBy.mp hother))
    (fun row hrow => mem_sortedBy.mpr (mem_recipes.mpr ⟨(hmem _).mpr ⟨row, hsource row hrow, rfl⟩,
      (mem_recipes.mp (h.subset (hsource row hrow))).2⟩))
    (fun row hrow => hprior row (hsource row hrow)) hfamilies
  rw [require_of ⟨by omega, hfinal⟩]
  change (require _ _ >>= _) = _
  rw [require_of ⟨by omega, by omega⟩]
  change (e2RoundCandidateCounts _ >>= _) = _
  rw [hcounts]
  change (e2CandidateRecipes _ _ _ _ >>= _) = _
  rw [hall]
  change (if _ then _ else _) = _
  rw [if_neg (by omega)]
  rw [require_of ⟨hstage, rfl⟩, hcount]
  exact hchecked

/-- Round zero has all recipes of its geometries. -/
theorem Sound.first {e1Materialization : Sha256}
    (h : materializeE2Round sha256 geometryId grid e1Materialization geometries = .ok source) :
    Sound sha256 geometryId grid geometries source [] := by
  unfold materializeE2Round materializeE2RoundFromVerifiedValues at h
  rcases bind_eq_ok.mp h with ⟨_, -, h⟩
  rcases bind_eq_ok.mp h with ⟨_, hcounts, h⟩
  rcases bind_eq_ok.mp h with ⟨_, hall, h⟩
  cases h
  rcases bind_eq_ok.mp hcounts with ⟨_, hallowed, -⟩
  rcases require_eq_ok.mp hallowed with ⟨hpos, hle⟩
  rcases e2CandidateRecipes_eq_ok.mp hall with ⟨⟨-, hdistinct⟩, hconfigured, rfl⟩
  refine ⟨by decide, hle, hdistinct, hconfigured, fun _ => rfl, by simp, ?_, ?_, ?_, nofun⟩
  · exact fun row hrow => mem_sortedBy.mp hrow
  · intro family _
    rcases exists_mem_of_length_pos hpos with ⟨geometry, hgeometry⟩
    rcases exists_recipe hgeometry family with ⟨recipe, hrecipe, -, rfl⟩
    exact mem_map_of_mem (mem_sortedBy.mpr hrecipe)
  · rw [(sortedBy_perm _ _).length_eq, length_recipes]
    rfl

/-- The induction is on the rounds. -/
theorem Rounds.sound (h : Rounds sha256 geometryId grid proofs geometries (source :: earlier)) :
    Sound sha256 geometryId grid geometries source earlier := by
  generalize hrounds : source :: earlier = rounds at h
  induction h generalizing source earlier with
  | first hfirst =>
    cases hrounds
    exact Sound.first hfirst
  | next _ hreduced hround hnext ih =>
    cases hrounds
    have hsound := ih rfl
    have hbelow : _ ∧ _ := require_eq_ok.mp (bind_eq_ok.mp hnext).choose_spec.1
    rw [hsound.next_eq hreduced hround (by omega)] at hnext
    rcases hreduced.survivors with ⟨-, hsource, -, hrest⟩
    rw [if_pos hbelow.1] at hrest
    split at hnext
    · cases hnext
      refine ⟨?_, hsound.allowed, hsound.distinct, hsound.configured,
        nofun, fun _ => hsound.injOn hreduced, fun row hrow => hsound.subset (hsource row hrow),
        hrest.2.1, ?_, ?_⟩
      · rw [length_cons]
        omega
      · rw [hrest.1, hsound.count, length_cons, Function.iterate_succ_apply']
      · intro round hround row hrow
        rcases mem_cons.mp hround with rfl | hround
        · exact hsource row hrow
        · exact hsound.nested round hround (hsource row hrow)
    · cases hnext

/-- No geometry is lost before the first selection, and up to three never matter. -/
theorem Sound.count_left (h : Sound sha256 geometryId grid geometries source earlier)
    (hbelow : earlier.length < 3) (hfew : earlier = [] ∨ geometries.length ≤ 3) :
    retainedCount^[earlier.length + 1] (105 * geometries.length) =
      retainedCount^[earlier.length + 1]
        (105 * (geometriesLeft geometryId source).length) := by
  rcases h.left with ⟨hne, hleft⟩
  have hpos := length_pos_of_ne_nil hne
  have hle := (nodup_geometriesLeft.subperm hleft).length_le
  by_cases hempty : earlier = []
  · have hperm : (geometriesLeft geometryId source).Perm geometries := by
      refine (perm_ext_iff_of_nodup nodup_geometriesLeft h.distinct.of_map).mpr fun geometry => ?_
      refine ⟨fun hgeometry => hleft hgeometry, fun hgeometry => ?_⟩
      rcases exists_recipe hgeometry (.adam, .constant) with ⟨row, hrow, hsame, -⟩
      refine mem_geometriesLeft.mpr ⟨row, ?_, hsame⟩
      rw [h.whole hempty]
      exact mem_sortedBy.mpr hrow
    rw [hperm.length_eq]
  · have hlater := length_pos_of_ne_nil hempty
    have htwentyone : ∀ n < 4, 0 < n → ∀ k < 4, 1 < k → retainedCount^[k] (105 * n) = 21 := by
      decide
    have hthree := hfew.resolve_left hempty
    rw [htwentyone _ (by omega) (by omega) _ (by omega) (by omega),
      htwentyone _ (by omega) (by omega) _ (by omega) (by omega)]

end

/-- What holds in every run of the rounds. -/
structure RoundsKept (geometries : List E1Geometry) : Prop where
  candidates : ∀ source earlier,
    Rounds sha256 geometryId grid proofs geometries (source :: earlier) →
      earlier.length < 4 ∧ source.length = retainedCount^[earlier.length] (105 * geometries.length) ∧
        E2_FAMILIES ⊆ source.map E2CandidateRecipe.family ∧ ∀ round ∈ earlier, source ⊆ round
  /-- The survivors are refused exactly when the geometries that are left predict another count. -/
  next : ∀ source earlier prior receipt,
    Rounds sha256 geometryId grid proofs geometries (source :: earlier) →
      Reduced sha256 proofs source prior receipt →
        receipt.roundIndex = earlier.length → earlier.length < 3 →
          materializeE2NextRound sha256 geometryId grid prior source receipt =
            if retainedCount^[earlier.length + 1] (105 * geometries.length) =
              retainedCount^[earlier.length + 1]
                (105 * (geometriesLeft geometryId source).length)
            then .ok receipt.survivorRecipes
            else .error wrongSurvivors
  few : ∀ source earlier,
    Rounds sha256 geometryId grid proofs geometries (source :: earlier) → earlier.length < 3 →
      earlier = [] ∨ geometries.length ≤ 3 →
        retainedCount^[earlier.length + 1] (105 * geometries.length) =
          retainedCount^[earlier.length + 1] (105 * (geometriesLeft geometryId source).length)
  /-- The recipe that is locked was a candidate of every round. -/
  final : ∀ source earlier prior receipt,
    Rounds sha256 geometryId grid proofs geometries (source :: earlier) →
      Reduced sha256 proofs source prior receipt → receipt.roundIndex = 3 →
        ∃ recipe, receipt.finalRecipe = some recipe ∧ ∀ round ∈ source :: earlier, recipe ∈ round

theorem rounds_kept (geometries : List E1Geometry) :
    RoundsKept sha256 geometryId grid proofs geometries := by
  constructor
  · intro source earlier hrounds
    have hsound := hrounds.sound
    exact ⟨hsound.rounds, hsound.count, hsound.families, hsound.nested⟩
  · intro source earlier prior receipt hrounds hreduced hround hbelow
    have hsound := hrounds.sound
    have hrest := hreduced.survivors.2.2.2
    rw [if_pos (by omega)] at hrest
    rw [hsound.next_eq hreduced hround hbelow, hrest.1, hsound.count,
      ← Function.iterate_succ_apply' retainedCount]
  · intro source earlier hrounds hbelow hfew
    exact hrounds.sound.count_left hbelow hfew
  · intro source earlier prior receipt hrounds hreduced hlast
    rcases hreduced.survivors with ⟨-, hsource, -, hrest⟩
    rw [if_neg (by omega)] at hrest
    rcases length_eq_one_iff.mp hrest.1 with ⟨recipe, hsurvivors⟩
    rw [hsurvivors] at hrest hsource
    refine ⟨recipe, hrest.2, fun round hround => ?_⟩
    have hmem := hsource recipe mem_cons_self
    rcases mem_cons.mp hround with rfl | hround
    · exact hmem
    · exact hrounds.sound.nested round hround hmem

def Sample.rates : OptimizerRateGrid := ⟨[1, 2, 3, 4, 5], rfl, by decide, by decide⟩

def Sample.fiveRates : E2RecipeGridAuthority :=
  ⟨fun _ => Sample.rates, fun _ => Sample.rates, Sample.digest 0, fun _ _ _ => .ok ()⟩

/-- The first round of a tournament of one geometry. -/
example : ∃ round, Rounds Sample.recipeDigest (fun _ => Sample.digest 0) Sample.fiveRates proofs
    [⟨.all, .full⟩] [round] ∧ round.length = 105 := by
  have hconfigs : ∀ row ∈ [⟨.all, .full⟩].flatMap Sample.fiveRates.recipes,
      Sample.fiveRates.optimizerConfigFor row = .ok () := by decide
  have hround : materializeE2Round Sample.recipeDigest (fun _ => Sample.digest 0) Sample.fiveRates
      (Sample.digest 0) [⟨.all, .full⟩] = .ok _ :=
    bind_eq_ok.mpr ⟨(), rfl, bind_eq_ok.mpr ⟨_, rfl, bind_eq_ok.mpr
      ⟨_, e2CandidateRecipes_eq_ok.mpr ⟨by decide, hconfigs, rfl⟩, rfl⟩⟩⟩
  exact ⟨_, .first hround, (sortedBy_perm _ _).length_eq.trans length_recipes⟩

/-- The rounds of one of four geometries. -/
example : e2RoundCandidateCounts 4 = .ok [420, 105, 27, 21] := by decide

end Experiments

import Mathlib.Data.List.MinMax
import LightConeSpec.Experiments.Recipes
import LightConeSpec.Lib.RankFill

/-!
# Successive halving

`_select_survivor_recipes` keeps the best recipe of every family and fills up in rank order.
`Halved` says what the survivors of a round are; `select_eq_ok` and `select_raises_iff` that the
selection returns exactly them, or raises.
-/

namespace Experiments

open Python RankFill List
open Control (Sha256)

variable (sha256 : RecipeDigest)

abbrev RankingKey := ℚ ×ₗ ℕ ×ₗ ℕ ×ₗ ℕ ×ₗ Sha256

def ranking (row : E2StagedCandidateEvaluation) : RankingKey :=
  toLex (-row.confidenceLowerRequestRateRatio, toLex (row.peakHbmBytes, toLex (row.p99ItlUs,
    toLex (row.exposedUpdateUs, sha256 row.recipe))))

def evaluationId (row : E2StagedCandidateEvaluation) : Sha256 := sha256 row.recipe

def familyRows (evaluations : List E2StagedCandidateEvaluation) :
    List (List E2StagedCandidateEvaluation) :=
  E2_FAMILIES.map fun family => evaluations.filter fun row => row.recipe.family = family

/-- `{min(rows, key=_ranking).recipe.sha256 for rows in families.values()}`. -/
def familyFloor (evaluations : List E2StagedCandidateEvaluation) : List Sha256 :=
  ((familyRows evaluations).filterMap fun rows =>
    (rows.argmin (ranking sha256)).map (evaluationId sha256)).dedup

def lookupRecipe (sourceRecipes : List E2CandidateRecipe) (digest : Sha256) :
    Except Error E2CandidateRecipe :=
  match sourceRecipes.find? fun recipe => sha256 recipe = digest with
  | some recipe => .ok recipe
  | none => .error (keyError digest.1)

/-- The survivors of a round below the last one: the floor of every family, filled up in rank
order. -/
def retainSurvivors (sourceRecipes : List E2CandidateRecipe)
    (evaluations ranked : List E2StagedCandidateEvaluation) :
    Except Error (List E2CandidateRecipe × Option E2CandidateRecipe) := do
  require (∀ rows ∈ familyRows evaluations, rows ≠ [])
    (valueError "E2 safe evidence does not preserve every optimizer/schedule family")
  let survivorCount := retainedCount sourceRecipes.length
  require (survivorCount ≤ evaluations.length)
    (valueError "E2 safe evidence cannot fill the registered survivor count")
  let selected := fill (evaluationId sha256) survivorCount (familyFloor sha256 evaluations) ranked
  let recipes ← collect (selected.map (lookupRecipe sha256 sourceRecipes))
  pure (sortedBy sha256 recipes, none)

def selectSurvivorRecipes (sourceRecipes : List E2CandidateRecipe)
    (evaluations : List E2StagedCandidateEvaluation) (roundIndex : ℤ) :
    Except Error (List E2CandidateRecipe × Option E2CandidateRecipe) := do
  let sourceIds := sourceRecipes.map sha256
  require (sourceIds = sortedSet sourceIds)
    (valueError "E2 survivor source recipes are not canonical")
  let evaluationIds := evaluations.map (evaluationId sha256)
  require (evaluationIds = sortedSet evaluationIds ∧ evaluationIds ⊆ sourceIds)
    (valueError "E2 survivor evaluations are duplicate or foreign")
  require (0 ≤ roundIndex ∧ roundIndex < 4) (valueError "E2 survivor round is outside [0,4)")
  let ranked := sortedBy (ranking sha256) evaluations
  match ranked with
  | [] => .error (valueError "E2 survivor selection has no safe evaluated candidate")
  | best :: _ =>
    if roundIndex = 3 then pure ([best.recipe], some best.recipe)
    else retainSurvivors sha256 sourceRecipes evaluations ranked

/-! ## Canonical inputs -/

/-- A canonical tuple of source recipes. -/
structure SourceRecipes where
  recipes : List E2CandidateRecipe
  canonical : recipes.map sha256 = sortedSet (recipes.map sha256)

structure Evaluations (source : SourceRecipes sha256) where
  rows : List E2StagedCandidateEvaluation
  canonical : rows.map (evaluationId sha256) = sortedSet (rows.map (evaluationId sha256))
  evaluated : ∀ row ∈ rows, row.recipe ∈ source.recipes

variable {sha256} {source : SourceRecipes sha256} (evaluations : Evaluations sha256 source)

/-- An evaluation that no evaluation of its family outranks. -/
def FamilyBest (row : E2StagedCandidateEvaluation) : Prop :=
  row ∈ evaluations.rows ∧ ∀ other ∈ evaluations.rows,
    other.recipe.family = row.recipe.family → ranking sha256 row ≤ ranking sha256 other

def CoversFamilies : Prop := ∀ family, ∃ row ∈ evaluations.rows, row.recipe.family = family

/-- What the survivors of a round below the last one are. -/
structure Halved (survivors : List E2CandidateRecipe) : Prop where
  count : survivors.length = retainedCount source.recipes.length
  canonical : survivors.map sha256 = sortedSet (survivors.map sha256)
  /-- No recipe survives that was not evaluated. -/
  evaluated : ∀ recipe ∈ survivors, ∃ row ∈ evaluations.rows, row.recipe = recipe
  /-- The best of every family survives. -/
  familyBest : ∀ family, ∃ row, FamilyBest evaluations row ∧ row.recipe.family = family ∧
    row.recipe ∈ survivors
  /-- The best of all survives. -/
  best : ∀ row ∈ evaluations.rows,
    (∀ other ∈ evaluations.rows, ranking sha256 row ≤ ranking sha256 other) →
      row.recipe ∈ survivors
  /-- Any other survivor outranks all that do not survive. -/
  outranks : ∀ row ∈ evaluations.rows, row.recipe ∈ survivors → ¬ FamilyBest evaluations row →
    ∀ other ∈ evaluations.rows, other.recipe ∉ survivors →
      ranking sha256 row < ranking sha256 other

/-! ## Digests of canonical inputs -/

theorem SourceRecipes.eq_of_sha256 (source : SourceRecipes sha256) {a b : E2CandidateRecipe}
    (ha : a ∈ source.recipes) (hb : b ∈ source.recipes) (h : sha256 a = sha256 b) : a = b := by
  have hnd : (source.recipes.map sha256).Nodup := by
    rw [source.canonical]
    exact nodup_sortedSet _
  exact inj_on_of_nodup_map hnd ha hb h

variable {a b row : E2StagedCandidateEvaluation}

namespace Evaluations

theorem nodup_ids : (evaluations.rows.map (evaluationId sha256)).Nodup := by
  rw [evaluations.canonical]
  exact nodup_sortedSet _

theorem eq_of_id (ha : a ∈ evaluations.rows) (hb : b ∈ evaluations.rows)
    (h : evaluationId sha256 a = evaluationId sha256 b) : a = b :=
  inj_on_of_nodup_map evaluations.nodup_ids ha hb h

theorem ids_subset : evaluations.rows.map (evaluationId sha256) ⊆ source.recipes.map sha256 := by
  intro digest hdigest
  rcases mem_map.mp hdigest with ⟨row, hrow, rfl⟩
  exact mem_map_of_mem (evaluations.evaluated row hrow)

theorem length_le : evaluations.rows.length ≤ source.recipes.length := by
  have hle := (evaluations.nodup_ids.subperm evaluations.ids_subset).length_le
  rwa [length_map, length_map] at hle

end Evaluations

/-- The digest is the last part of the ranking key. -/
theorem evaluationId_of_ranking (h : ranking sha256 a = ranking sha256 b) :
    evaluationId sha256 a = evaluationId sha256 b := by
  simp only [ranking, toLex_inj, Prod.mk.injEq] at h
  exact h.2.2.2.2

/-! ## The floor -/

/-- `min` of the evaluations of a family is the best of the family. -/
theorem familyBest_of_argmin {family : E2Optimizer × E2Schedule}
    (hmin : row ∈ (evaluations.rows.filter fun other => other.recipe.family = family).argmin
      (ranking sha256)) : FamilyBest evaluations row ∧ row.recipe.family = family := by
  have hrow := mem_filter.mp (argmin_mem hmin)
  have hfamily : row.recipe.family = family := of_decide_eq_true hrow.2
  refine ⟨⟨hrow.1, fun other hother hsame => ?_⟩, hfamily⟩
  refine le_of_mem_argmin (mem_filter.mpr ⟨hother, ?_⟩) hmin
  exact decide_eq_true (hsame.trans hfamily)

theorem exists_argmin (hrow : row ∈ evaluations.rows) :
    ∃ least, (evaluations.rows.filter fun other => other.recipe.family = row.recipe.family).argmin
      (ranking sha256) = some least := by
  have hmem : row ∈ evaluations.rows.filter fun other => other.recipe.family = row.recipe.family :=
    mem_filter.mpr ⟨hrow, decide_eq_true rfl⟩
  rcases hmin : List.argmin (ranking sha256)
    (evaluations.rows.filter fun other => other.recipe.family = row.recipe.family) with _ | least
  · rw [argmin_eq_none] at hmin
    rw [hmin] at hmem
    cases hmem
  · exact ⟨least, rfl⟩

/-- Two best evaluations of a family have one digest. -/
theorem FamilyBest.evaluationId_eq {evaluations : Evaluations sha256 source}
    (ha : FamilyBest evaluations a) (hb : FamilyBest evaluations b)
    (hfamily : a.recipe.family = b.recipe.family) : evaluationId sha256 a = evaluationId sha256 b :=
  evaluationId_of_ranking (le_antisymm (ha.2 b hb.1 hfamily.symm) (hb.2 a ha.1 hfamily))

/-- The floor holds the digests of the best of each family. -/
theorem mem_familyFloor {digest : Sha256} : digest ∈ familyFloor sha256 evaluations.rows ↔
      ∃ row, FamilyBest evaluations row ∧ evaluationId sha256 row = digest := by
  unfold familyFloor familyRows
  simp only [mem_dedup, mem_filterMap, mem_map, Option.map_eq_some_iff]
  constructor
  · rintro ⟨_, ⟨family, -, rfl⟩, row, hmin, rfl⟩
    exact ⟨row, (familyBest_of_argmin evaluations hmin).1, rfl⟩
  · rintro ⟨row, hbest, rfl⟩
    rcases exists_argmin evaluations hbest.1 with ⟨least, hmin⟩
    have hleast := familyBest_of_argmin evaluations hmin
    exact ⟨_, ⟨row.recipe.family, mem_E2_FAMILIES _, rfl⟩, least, hmin,
      hleast.1.evaluationId_eq hbest hleast.2⟩

theorem length_familyFloor_le (rows : List E2StagedCandidateEvaluation) :
    (familyFloor sha256 rows).length ≤ 21 := by
  unfold familyFloor
  calc _ ≤ _ := (dedup_sublist _).length_le
    _ ≤ (familyRows rows).length := length_filterMap_le _ _
    _ = 21 := by
      unfold familyRows
      rw [length_map]
      rfl

theorem familyRows_ne_nil_iff :
    (∀ rows ∈ familyRows evaluations.rows, rows ≠ []) ↔ CoversFamilies evaluations := by
  unfold familyRows CoversFamilies
  simp only [mem_map, forall_exists_index, and_imp, forall_apply_eq_imp_iff₂, ne_eq,
    filter_eq_nil_iff, decide_eq_true_eq, not_forall, not_not, exists_prop]
  constructor
  · intro h family
    exact h family (mem_E2_FAMILIES family)
  · intro h family _
    exact h family

/-- Every family that is covered has a best evaluation. -/
theorem CoversFamilies.exists_familyBest {evaluations : Evaluations sha256 source}
    (h : CoversFamilies evaluations) (family : E2Optimizer × E2Schedule) :
    ∃ row, FamilyBest evaluations row ∧ row.recipe.family = family := by
  rcases h family with ⟨row, hrow, hfamily⟩
  rcases exists_argmin evaluations hrow with ⟨least, hmin⟩
  have hleast := familyBest_of_argmin evaluations hmin
  exact ⟨least, hleast.1, hleast.2.trans hfamily⟩

/-! ## The selected digests -/

def selectedIds : List Sha256 :=
  fill (evaluationId sha256) (retainedCount source.recipes.length)
    (familyFloor sha256 evaluations.rows) (sortedBy (ranking sha256) evaluations.rows)

theorem nodup_selectedIds : (selectedIds evaluations).Nodup :=
  nodup_fill (nodup_dedup _) _

theorem length_selectedIds (h : retainedCount source.recipes.length ≤ evaluations.rows.length) :
    (selectedIds evaluations).length = retainedCount source.recipes.length := by
  apply le_antisymm
  · apply length_fill_le
    exact (length_familyFloor_le _).trans (le_max_right _ _)
  · apply le_length_fill evaluations.nodup_ids
    · intro digest hdigest
      rcases mem_map.mp hdigest with ⟨row, hrow, rfl⟩
      exact Or.inr (mem_map_of_mem (mem_sortedBy.mpr hrow))
    · rwa [length_map]

/-- What is selected was evaluated. -/
theorem exists_of_mem_selectedIds {digest : Sha256} (h : digest ∈ selectedIds evaluations) :
    ∃ row ∈ evaluations.rows, evaluationId sha256 row = digest := by
  rcases mem_of_mem_fill h with hfloor | hranked
  · rcases (mem_familyFloor evaluations).mp hfloor with ⟨row, hbest, rfl⟩
    exact ⟨row, hbest.1, rfl⟩
  · rcases mem_map.mp hranked with ⟨row, hrow, rfl⟩
    exact ⟨row, mem_sortedBy.mp hrow, rfl⟩

/-- A selected digest that is no floor stands before all that are left out. -/
theorem ranking_lt_of_selected {other : E2StagedCandidateEvaluation} (hrow : row ∈ evaluations.rows)
    (hin : evaluationId sha256 row ∈ selectedIds evaluations) (hnot : ¬ FamilyBest evaluations row)
    (hother : other ∈ evaluations.rows)
    (hout : evaluationId sha256 other ∉ selectedIds evaluations) :
    ranking sha256 row < ranking sha256 other := by
  have hfloor : evaluationId sha256 row ∉ familyFloor sha256 evaluations.rows := by
    intro hmem
    rcases (mem_familyFloor evaluations).mp hmem with ⟨best, hbest, hid⟩
    rw [evaluations.eq_of_id hbest.1 hrow hid] at hbest
    exact hnot hbest
  have hle : ranking sha256 row ≤ ranking sha256 other := by
    apply rel_of_taken (sortedBy_pairwise (ranking sha256) evaluations.rows) hin hfloor _
      (mem_sortedBy.mpr hother) hout
    intro c hc hid
    exact evaluations.eq_of_id (mem_sortedBy.mp hc) hrow hid
  refine lt_of_le_of_ne hle fun heq => hout ?_
  rw [← evaluationId_of_ranking heq]
  exact hin

/-! ## The survivors -/

/-- The recipe of a digest of the source. -/
theorem lookupRecipe_eq_ok {recipe : E2CandidateRecipe} (hrecipe : recipe ∈ source.recipes) :
    lookupRecipe sha256 source.recipes (sha256 recipe) = .ok recipe := by
  unfold lookupRecipe
  rcases hfind : source.recipes.find? fun other => decide (sha256 other = sha256 recipe) with _ | found
  · have hnone := find?_eq_none.mp hfind recipe hrecipe
    simp at hnone
  · have hid : sha256 found = sha256 recipe := by simpa using find?_some hfind
    rw [source.eq_of_sha256 (mem_of_find?_eq_some hfind) hrecipe hid]

/-- The recipes of the selected digests. -/
theorem exists_selected_recipes :
    ∃ recipes, collect ((selectedIds evaluations).map (lookupRecipe sha256 source.recipes)) =
      .ok recipes ∧ recipes.map sha256 = selectedIds evaluations ∧
        ∀ recipe ∈ recipes, ∃ row ∈ evaluations.rows, row.recipe = recipe := by
  have hall : ∀ digest ∈ selectedIds evaluations, ∃ row ∈ evaluations.rows,
      evaluationId sha256 row = digest := fun digest h => exists_of_mem_selectedIds evaluations h
  generalize selectedIds evaluations = ids at hall ⊢
  induction ids with
  | nil => exact ⟨[], rfl, rfl, by simp⟩
  | cons digest rest ih =>
    rcases ih fun d hd => hall d (mem_cons_of_mem _ hd) with ⟨recipes, hok, hids, hrows⟩
    rcases hall digest mem_cons_self with ⟨row, hrow, rfl⟩
    refine ⟨row.recipe :: recipes, ?_, ?_, ?_⟩
    · rw [map_cons, evaluationId, lookupRecipe_eq_ok (evaluations.evaluated row hrow)]
      unfold collect
      rw [hok]
      rfl
    · rw [map_cons, hids]
      rfl
    · intro recipe hrecipe
      rcases mem_cons.mp hrecipe with rfl | h
      · exact ⟨row, hrow, rfl⟩
      · exact hrows recipe h

/-- The recipes of the selected digests are the survivors of the round. -/
theorem halved_of_selected (hcovers : CoversFamilies evaluations)
    (hcount : retainedCount source.recipes.length ≤ evaluations.rows.length)
    {recipes : List E2CandidateRecipe} (hids : recipes.map sha256 = selectedIds evaluations)
    (hrows : ∀ recipe ∈ recipes, ∃ row ∈ evaluations.rows, row.recipe = recipe) :
    Halved evaluations (sortedBy sha256 recipes) := by
  have hmem : ∀ row ∈ evaluations.rows,
      (row.recipe ∈ sortedBy sha256 recipes ↔ evaluationId sha256 row ∈ selectedIds evaluations) := by
    intro row hrow
    rw [mem_sortedBy, ← hids, evaluationId]
    constructor
    · exact fun h => mem_map_of_mem h
    · intro h
      rcases mem_map.mp h with ⟨recipe, hrecipe, hid⟩
      rcases hrows recipe hrecipe with ⟨row', hrow', rfl⟩
      rw [← source.eq_of_sha256 (evaluations.evaluated row' hrow')
        (evaluations.evaluated row hrow) hid]
      exact hrecipe
  have hfloor : ∀ row, FamilyBest evaluations row → row.recipe ∈ sortedBy sha256 recipes := by
    intro row hbest
    rw [hmem row hbest.1]
    exact mem_fill_of_mem ((mem_familyFloor evaluations).mpr ⟨row, hbest, rfl⟩)
  have hlength : recipes.length = (selectedIds evaluations).length := by
    rw [← hids, length_map]
  constructor
  · rw [(sortedBy_perm sha256 recipes).length_eq, hlength, length_selectedIds evaluations hcount]
  · have hnd : (recipes.map sha256).Nodup := by
      rw [hids]
      exact nodup_selectedIds evaluations
    rw [map_sortedBy hnd, sortedSet_idem]
  · intro recipe hrecipe
    exact hrows recipe (mem_sortedBy.mp hrecipe)
  · intro family
    rcases hcovers.exists_familyBest family with ⟨row, hbest, hfamily⟩
    exact ⟨row, hbest, hfamily, hfloor row hbest⟩
  · intro row hrow hbest
    exact hfloor row ⟨hrow, fun other hother _ => hbest other hother⟩
  · intro row hrow hin hnot other hother hout
    rw [hmem row hrow] at hin
    rw [hmem other hother] at hout
    exact ranking_lt_of_selected evaluations hrow hin hnot hother hout

/-! ## The selection -/

/-- Canonical evaluations are ranked, and the first one is the best. -/
theorem exists_ranked (h : evaluations.rows ≠ []) :
    ∃ best rest, sortedBy (ranking sha256) evaluations.rows = best :: rest ∧
      best ∈ evaluations.rows ∧
        ∀ other ∈ evaluations.rows, ranking sha256 best ≤ ranking sha256 other := by
  rcases hranked : sortedBy (ranking sha256) evaluations.rows with _ | ⟨best, rest⟩
  · have hperm := sortedBy_perm (ranking sha256) evaluations.rows
    rw [hranked] at hperm
    exact absurd hperm.nil_eq.symm h
  · have hmem : ∀ row, row ∈ best :: rest ↔ row ∈ evaluations.rows := by
      intro row
      rw [← hranked, mem_sortedBy]
    have hpairs := sortedBy_pairwise (ranking sha256) evaluations.rows
    rw [hranked, pairwise_cons] at hpairs
    refine ⟨best, rest, rfl, (hmem best).mp mem_cons_self, fun other hother => ?_⟩
    rcases mem_cons.mp ((hmem other).mpr hother) with rfl | hrest
    · exact le_rfl
    · exact hpairs.1 other hrest

theorem retainSurvivors_eq_ok (hcovers : CoversFamilies evaluations)
    (hcount : retainedCount source.recipes.length ≤ evaluations.rows.length) :
    ∃ survivors, retainSurvivors sha256 source.recipes evaluations.rows
      (sortedBy (ranking sha256) evaluations.rows) = .ok (survivors, none) ∧
        Halved evaluations survivors := by
  rcases exists_selected_recipes evaluations with ⟨recipes, hok, hids, hrows⟩
  refine ⟨sortedBy sha256 recipes, ?_, halved_of_selected evaluations hcovers hcount hids hrows⟩
  unfold retainSurvivors
  dsimp only
  rw [require_of ((familyRows_ne_nil_iff evaluations).mpr hcovers), require_of hcount]
  change collect ((selectedIds evaluations).map _) >>= _ = _
  rw [hok]
  rfl

/-- A lost family or too few evaluations raise. -/
theorem retainSurvivors_eq_error {ranked : List E2StagedCandidateEvaluation}
    (h : ¬ CoversFamilies evaluations ∨
      evaluations.rows.length < retainedCount source.recipes.length) :
    ∃ e, retainSurvivors sha256 source.recipes evaluations.rows ranked = .error e := by
  unfold retainSurvivors
  simp only [bind_eq_error, require_eq_error, require_eq_ok, familyRows_ne_nil_iff, not_le]
  by_cases hcovers : CoversFamilies evaluations
  · exact ⟨_, Or.inr ⟨(), hcovers, Or.inl ⟨h.resolve_left (not_not.mpr hcovers), rfl⟩⟩⟩
  · exact ⟨_, Or.inl ⟨hcovers, rfl⟩⟩

/-- On canonical inputs the selection is decided by the ranking. -/
theorem selectSurvivorRecipes_eq {roundIndex : ℤ} (hround : 0 ≤ roundIndex ∧ roundIndex < 4) :
    selectSurvivorRecipes sha256 source.recipes evaluations.rows roundIndex =
      match sortedBy (ranking sha256) evaluations.rows with
      | [] => .error (valueError "E2 survivor selection has no safe evaluated candidate")
      | best :: _ =>
        if roundIndex = 3 then .ok ([best.recipe], some best.recipe)
        else retainSurvivors sha256 source.recipes evaluations.rows
          (sortedBy (ranking sha256) evaluations.rows) := by
  unfold selectSurvivorRecipes
  dsimp only
  rw [require_of source.canonical, require_of ⟨evaluations.canonical, evaluations.ids_subset⟩,
    require_of hround]
  rfl

/-- The last round returns the best evaluation. -/
theorem select_last (h : evaluations.rows ≠ []) : ∃ best ∈ evaluations.rows,
      (∀ other ∈ evaluations.rows, ranking sha256 best ≤ ranking sha256 other) ∧
        selectSurvivorRecipes sha256 source.recipes evaluations.rows 3 =
          .ok ([best.recipe], some best.recipe) := by
  rcases exists_ranked evaluations h with ⟨best, rest, hranked, hmem, hbest⟩
  refine ⟨best, hmem, hbest, ?_⟩
  rw [selectSurvivorRecipes_eq evaluations (by decide), hranked]
  rfl

/-- Without evaluations every round raises. -/
theorem select_empty {roundIndex : ℤ} (hround : 0 ≤ roundIndex ∧ roundIndex < 4)
    (h : evaluations.rows = []) :
    selectSurvivorRecipes sha256 source.recipes evaluations.rows roundIndex =
      .error (valueError "E2 survivor selection has no safe evaluated candidate") := by
  rw [selectSurvivorRecipes_eq evaluations hround, h]
  rfl

theorem rows_ne_nil_of_covers (h : CoversFamilies evaluations) : evaluations.rows ≠ [] := by
  intro hnil
  rcases h (.adam, .constant) with ⟨row, hrow, -⟩
  rw [hnil] at hrow
  cases hrow

section

variable {roundIndex : ℤ} (hround : 0 ≤ roundIndex ∧ roundIndex < 3)
include hround

/-- A round below the last one retains the best. -/
theorem select_below (h : evaluations.rows ≠ []) :
    selectSurvivorRecipes sha256 source.recipes evaluations.rows roundIndex =
      retainSurvivors sha256 source.recipes evaluations.rows
        (sortedBy (ranking sha256) evaluations.rows) := by
  rcases exists_ranked evaluations h with ⟨best, rest, hranked, -, -⟩
  rw [selectSurvivorRecipes_eq evaluations ⟨hround.1, hround.2.trans (by decide)⟩, hranked]
  exact if_neg hround.2.ne

/-- Enough evaluations of all families are halved. -/
theorem select_eq_ok (hcovers : CoversFamilies evaluations)
    (hcount : retainedCount source.recipes.length ≤ evaluations.rows.length) :
    ∃ survivors, selectSurvivorRecipes sha256 source.recipes evaluations.rows roundIndex =
      .ok (survivors, none) ∧ Halved evaluations survivors := by
  rw [select_below evaluations hround (rows_ne_nil_of_covers evaluations hcovers)]
  exact retainSurvivors_eq_ok evaluations hcovers hcount

/-- A round raises exactly when a family was lost or too few recipes were evaluated. -/
theorem select_raises_iff :
    (∃ e, selectSurvivorRecipes sha256 source.recipes evaluations.rows roundIndex = .error e) ↔
      ¬ CoversFamilies evaluations ∨
        evaluations.rows.length < retainedCount source.recipes.length := by
  constructor
  · rintro ⟨e, he⟩
    by_contra hboth
    rw [not_or, not_not, not_lt] at hboth
    rcases select_eq_ok evaluations hround hboth.1 hboth.2 with ⟨survivors, hok, -⟩
    rw [hok] at he
    cases he
  · intro hlost
    by_cases hrows : evaluations.rows = []
    · exact ⟨_, select_empty evaluations ⟨hround.1, hround.2.trans (by decide)⟩ hrows⟩
    · rw [select_below evaluations hround hrows]
      exact retainSurvivors_eq_error evaluations hlost

/-- What a round returns is halved. -/
theorem halved_of_select {survivors : List E2CandidateRecipe}
    {finalRecipe : Option E2CandidateRecipe}
    (h : selectSurvivorRecipes sha256 source.recipes evaluations.rows roundIndex =
      .ok (survivors, finalRecipe)) : Halved evaluations survivors ∧ finalRecipe = none := by
  have hnot : ¬ (¬ CoversFamilies evaluations ∨
      evaluations.rows.length < retainedCount source.recipes.length) := by
    intro hlost
    rcases (select_raises_iff evaluations hround).mpr hlost with ⟨e, he⟩
    rw [h] at he
    cases he
  rw [not_or, not_not, not_lt] at hnot
  rcases select_eq_ok evaluations hround hnot.1 hnot.2 with ⟨survivors', hok, hhalved⟩
  rw [h] at hok
  cases hok
  exact ⟨hhalved, rfl⟩

end

end Experiments

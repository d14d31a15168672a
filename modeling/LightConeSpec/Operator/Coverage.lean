import Mathlib.Data.Finset.Card
import LightConeSpec.Operator.History
import LightConeSpec.Operator.Tables
import LightConeSpec.Operator.Summary

/-!
# Stage coverage

A stage whose `known_expected_cells` is known should never hold more distinct
non-legacy cells. Two writes do not check it:

* `_materialize_attempt_locked` compares the count with the bound only when the
  cell has no row at all. A cell whose rows are legacy imports, or lie in
  another stage, is new to the stage and is inserted without the comparison;
* `record_controller_materialization` sets an unknown bound to the number of
  expected cells without comparing it with the cells that are there already.
  `update_stage_expectation` makes this comparison.

`CoverageFits` says that neither branch is taken beyond the bound.
-/

namespace Operator

open Python Machine List

/-- What the coverage of a stage depends on in an attempt. -/
structure CoverageRow where
  stage : String
  phase : String
  cellId : String
  isLegacyImport : Bool

def AttemptRow.coverage (r : AttemptRow) : CoverageRow :=
  ⟨r.stage, r.phase, r.cellId, r.isLegacyImport⟩

def CellAttempt.coverage (a : CellAttempt) : CoverageRow :=
  ⟨a.stage, a.phase, a.cellId, false⟩

theorem AttemptRow.SameSpec.coverage {r r' : AttemptRow} (h : r.SameSpec r') :
    r'.coverage = r.coverage := by
  have hspec := h.spec
  simp only [AttemptRow.spec, CellAttempt.mk.injEq] at hspec
  simp [AttemptRow.coverage, hspec, h.legacy]

/-- The cells with a non-legacy attempt in the stage. -/
def coveredCells (rows : List CoverageRow) (stage phase : String) : List String :=
  ((rows.filter fun row =>
    row.stage = stage ∧ row.phase = phase ∧ row.isLegacyImport = false).map (·.cellId)).dedup

theorem mem_coveredCells {rows : List CoverageRow} {stage phase cell : String} :
    cell ∈ coveredCells rows stage phase ↔ ⟨stage, phase, cell, false⟩ ∈ rows := by
  simp only [coveredCells, mem_dedup, mem_map, mem_filter, decide_eq_true_eq]
  constructor
  · rintro ⟨⟨_, _, _, _⟩, ⟨hmem, rfl, rfl, rfl⟩, rfl⟩
    exact hmem
  · intro hmem
    exact ⟨_, ⟨hmem, rfl, rfl, rfl⟩, rfl⟩

theorem nodup_coveredCells (rows : List CoverageRow) (stage phase : String) :
    (coveredCells rows stage phase).Nodup :=
  nodup_dedup _

/-- A row that adds no cell to the stage leaves its count. -/
theorem length_coveredCells_le {rows : List CoverageRow} {row : CoverageRow} {stage phase : String}
    (h : row.stage = stage ∧ row.phase = phase ∧ row.isLegacyImport = false →
      row.cellId ∈ coveredCells rows stage phase) :
    (coveredCells (rows ++ [row]) stage phase).length ≤ (coveredCells rows stage phase).length := by
  refine (subperm_of_subset (nodup_coveredCells _ _ _) ?_).length_le
  intro cell hcell
  rcases mem_append.mp (mem_coveredCells.mp hcell) with hmem | hmem
  · exact mem_coveredCells.mpr hmem
  · have hrow := mem_singleton.mp hmem
    subst hrow
    exact h ⟨rfl, rfl, rfl⟩

/-- A row adds at most one cell. -/
theorem length_coveredCells_append_le (rows : List CoverageRow) (row : CoverageRow)
    (stage phase : String) : (coveredCells (rows ++ [row]) stage phase).length ≤
      (coveredCells rows stage phase).length + 1 := by
  have hsub : coveredCells (rows ++ [row]) stage phase ⊆
      row.cellId :: coveredCells rows stage phase := by
    intro cell hcell
    rcases mem_append.mp (mem_coveredCells.mp hcell) with hmem | hmem
    · exact mem_cons_of_mem _ (mem_coveredCells.mpr hmem)
    · rw [← mem_singleton.mp hmem]
      exact mem_cons_self
  exact (subperm_of_subset (nodup_coveredCells _ _ _) hsub).length_le

variable {s s' t : Store}

variable {now : Int}

namespace Store

/-- The coverage columns of `cell_attempts`. -/
def coverage (s : Store) : List CoverageRow := s.attempts.map (·.coverage)

theorem materializedCells_eq (s : Store) (stage phase : String) :
    s.materializedCells stage phase = (coveredCells s.coverage stage phase).length := by
  simp only [materializedCells, coveredCells, coverage, filter_map, map_map]
  rfl

/-! ## The condition -/

/-- The cell has attempts, none of them a non-legacy one in the stage. -/
def LateCell (rows : List CoverageRow) (a : CellAttempt) : Prop :=
  (∃ row ∈ rows, row.cellId = a.cellId) ∧ a.cellId ∉ coveredCells rows a.stage a.phase

instance (rows : List CoverageRow) (a : CellAttempt) : Decidable (LateCell rows a) :=
  inferInstanceAs (Decidable (_ ∧ _))

/-- The stage may take one more cell. -/
def HasRoom (s : Store) (rows : List CoverageRow) (stage phase : String) : Prop :=
  ((s.planFor stage phase).bind (·.knownExpectedCells)).all fun known =>
    decide ((coveredCells rows stage phase).length < known)

instance (s : Store) (rows : List CoverageRow) (stage phase : String) :
    Decidable (s.HasRoom rows stage phase) :=
  inferInstanceAs (Decidable (_ = true))

/-- The attempts are inserted one after the other, and the stage of a late cell
has room each time. -/
def LateCellsFit (s : Store) : List CoverageRow → List CellAttempt → Prop
  | _, [] => True
  | rows, a :: rest => (LateCell rows a → s.HasRoom rows a.stage a.phase) ∧
      LateCellsFit s (rows ++ [a.coverage]) rest

instance decidableLateCellsFit (s : Store) : (rows : List CoverageRow) →
    (attempts : List CellAttempt) → Decidable (s.LateCellsFit rows attempts)
  | _, [] => inferInstanceAs (Decidable True)
  | rows, a :: rest =>
    have := decidableLateCellsFit s (rows ++ [a.coverage]) rest
    inferInstanceAs (Decidable ((LateCell rows a → s.HasRoom rows a.stage a.phase) ∧ _))

/-- A late cell is materialised only in a stage with room, and a materialisation
sets an unknown bound to no less than the cells of the stage. -/
def CoverageFits (s : Store) : StoreOp → Prop
  | .materializeAttempt spec _ => s.LateCellsFit s.coverage [spec.val]
  | .materializePhysicalAttemptGroup _ members _ _ _ =>
    s.LateCellsFit s.coverage (members.map (·.attempt.val))
  | .adoptControllerAuxiliaryJobs _ _ _ adoptions _ =>
    s.LateCellsFit s.coverage (adoptions.map (·.attempt.val))
  | .recordControllerMaterialization _ node _ _ cells _ _ =>
    (s.planOfNode node).all (fun plan => decide (plan.knownExpectedCells = none →
      s.materializedCells plan.stage plan.phase ≤ cells.length)) = true
  | _ => True

instance (s : Store) (op : StoreOp) : Decidable (s.CoverageFits op) := by
  induction op using StoreOp.casesOn <;> unfold CoverageFits <;> infer_instance

/-! ## The invariant -/

/-- Every known bound holds. -/
def Covered (s : Store) : Prop :=
  ∀ plan ∈ s.stagePlan, ∀ known, plan.knownExpectedCells = some known →
    s.materializedCells plan.stage plan.phase ≤ known

structure CoverageInvariant (s : Store) : Prop where
  keys : s.KeysNodup
  plan : s.PlanInvariant
  planned : s.stagePlan = [] → s.attempts = []
  covered : s.Covered

theorem CoverageInvariant.empty : CoverageInvariant Store.empty where
  keys := nodup_nil
  plan := .empty
  planned := fun _ => rfl
  covered := fun _ hplan => by cases hplan

/-- The changes that add no cell: no attempt is added to an empty ledger, and
no stage holds more cells than before. -/
structure AddsNoCell (s t : Store) : Prop where
  empty : s.attempts = [] → t.attempts = []
  cells : ∀ stage phase, t.materializedCells stage phase ≤ s.materializedCells stage phase

theorem AddsNoCell.of_coverage (h : t.coverage = s.coverage) : AddsNoCell s t where
  empty := by
    intro hempty
    have hnil : t.coverage = [] := by rw [h, coverage, hempty, map_nil]
    exact map_eq_nil_iff.mp hnil
  cells := by
    intro stage phase
    rw [materializedCells_eq, materializedCells_eq, h]

theorem AddsNoCell.refl (s : Store) : AddsNoCell s s :=
  .of_coverage rfl

theorem AddsNoCell.trans {u : Store} (h : AddsNoCell s t) (h' : AddsNoCell t u) : AddsNoCell s u :=
  ⟨fun hempty => h'.empty (h.empty hempty), fun stage phase =>
    (h'.cells stage phase).trans (h.cells stage phase)⟩

theorem updateAttempts_coverage (s : Store) (keys : List AttemptKey)
    {f : AttemptRow → AttemptRow} (hspec : ∀ r, AttemptRow.SameSpec r (f r)) :
    (s.updateAttempts keys f).coverage = s.coverage := by
  simp only [Store.coverage, updateAttempts_attempts, map_map]
  apply map_congr_left
  intro r _
  by_cases hr : r.key ∈ keys
  · simp [hr, (hspec r).coverage]
  · simp [hr]

/-- A change that inserts no attempt keeps the coverage columns. -/
theorem Change.coverage {kind : ChangeKind} (hmaterialize : kind ≠ .materialize)
    (hlegacy : kind ≠ .legacy) (h : Change kind s t) : t.coverage = s.coverage := by
  cases h with
  | rows keys f hspec _ => exact updateAttempts_coverage s keys hspec
  | materialize => exact absurd rfl hmaterialize
  | legacy => exact absurd rfl hlegacy
  | settings hledger | auxStart hledger | dispatch hledger | envelope hledger =>
    simp [Store.coverage, hledger.attempts]
  | enqueue | insertGroup | insertMember | groupStart | groupFinish => rfl

theorem Changes.addsNoCell {kinds : List ChangeKind} (hmaterialize : .materialize ∉ kinds)
    (hlegacy : .legacy ∉ kinds) (h : Changes kinds s t) : AddsNoCell s t := by
  refine h.relation .refl (fun _ _ _ => .trans) fun kind hkind _ _ hstep => .of_coverage ?_
  refine hstep.coverage ?_ ?_
  · rintro rfl
    exact hmaterialize hkind
  · rintro rfl
    exact hlegacy hkind

/-- The invariant survives when the plan stays and no cell is added. -/
theorem CoverageInvariant.of_addsNoCell (hs : CoverageInvariant s) (hkeys : t.KeysNodup)
    (hplan : t.stagePlan = s.stagePlan) (h : AddsNoCell s t) : CoverageInvariant t where
  keys := hkeys
  plan := hs.plan.of_eq hplan
  planned := fun hempty => h.empty (hs.planned (by rw [← hplan]; exact hempty))
  covered := by
    intro plan hmem known hknown
    rw [hplan] at hmem
    exact (h.cells _ _).trans (hs.covered plan hmem known hknown)

/-! ## Materialisation -/

theorem latestAttempt_isSome {cell : String} {latest : AttemptRow}
    (h : s.latestAttempt cell = some latest) : ∃ row ∈ s.coverage, row.cellId = cell := by
  obtain ⟨hmem, hcell, _⟩ := latestAttempt_eq_some h
  exact ⟨latest.coverage, mem_map.mpr ⟨latest, hmem, rfl⟩, hcell⟩

/-- A materialised attempt lies in a stage of the plan. A cell without any row
is inserted only where the stage has room. -/
theorem materializeAttemptLocked_room {spec : CellAttemptSpec}
    (h : s.materializeAttemptLocked spec now = .ok s') :
    (s.planFor spec.val.stage spec.val.phase).isSome = true ∧
      ((∃ row ∈ s.coverage, row.cellId = spec.val.cellId) ∨
        s.HasRoom s.coverage spec.val.stage spec.val.phase) := by
  simp only [materializeAttemptLocked, bind_eq_ok, check_eq_ok] at h
  obtain ⟨hplan, _, hnext, _⟩ := h
  refine ⟨hplan, ?_⟩
  unfold checkPredecessor at hnext
  cases hlatest : s.latestAttempt spec.val.cellId with
  | some latest => exact .inl (latestAttempt_isSome hlatest)
  | none =>
    simp only [hlatest, checkFirstAttempt, bind_eq_ok, require_eq_ok, exists_const] at hnext
    refine .inr ?_
    unfold HasRoom
    simp only [← materializedCells_eq]
    exact hnext.2

theorem planFor_of_empty {stage phase : String} (hempty : s.stagePlan = []) :
    s.planFor stage phase = none := by
  unfold Store.planFor
  rw [hempty]
  rfl

/-- One insertion keeps the invariant if a late cell has room. -/
theorem CoverageInvariant.materialize (hs : CoverageInvariant s) {spec : CellAttemptSpec}
    (hfits : LateCell s.coverage spec.val → s.HasRoom s.coverage spec.val.stage spec.val.phase)
    (h : s.materializeAttemptLocked spec now = .ok s') :
    CoverageInvariant s' ∧ s'.stagePlan = s.stagePlan ∧
      s'.coverage = s.coverage ++ [spec.val.coverage] := by
  obtain ⟨hplanned, hroom⟩ := materializeAttemptLocked_room h
  obtain ⟨hrow, rfl⟩ := materializeAttemptLocked_change h
  have hcoverage : (s.appendAttempt (AttemptRow.ofSpec spec.val now)).coverage =
      s.coverage ++ [spec.val.coverage] := by
    simp only [Store.coverage, appendAttempt_attempts, map_append]
    rfl
  refine ⟨⟨(Change.materialize _ hrow).keysNodup hs.keys, hs.plan.of_eq rfl, ?_, ?_⟩, rfl,
    hcoverage⟩
  · intro hempty
    simp [planFor_of_empty (s := s) hempty] at hplanned
  · intro plan hplan known hknown
    have hbound := hs.covered plan hplan known hknown
    rw [materializedCells_eq] at hbound ⊢
    rw [hcoverage]
    by_cases hnew : (spec.val.stage = plan.stage ∧ spec.val.phase = plan.phase) ∧
        spec.val.cellId ∉ coveredCells s.coverage plan.stage plan.phase
    · -- a new cell of this stage: the code or the condition compared the count with the bound
      obtain ⟨⟨hstage, hphase⟩, hcell⟩ := hnew
      have hfree : s.HasRoom s.coverage plan.stage plan.phase := by
        rw [← hstage, ← hphase]
        rcases hroom with hsome | hroom
        · exact hfits ⟨hsome, by rw [hstage, hphase]; exact hcell⟩
        · exact hroom
      simp only [HasRoom, hs.plan.planFor hplan, Option.bind_some, hknown, Option.all_some,
        decide_eq_true_eq] at hfree
      exact (length_coveredCells_append_le _ _ _ _).trans hfree
    · refine (length_coveredCells_le ?_).trans hbound
      rintro ⟨hstage, hphase, _⟩
      by_contra hcell
      exact hnew ⟨⟨hstage, hphase⟩, hcell⟩

theorem hasRoom_congr (h : t.stagePlan = s.stagePlan) (rows : List CoverageRow)
    (stage phase : String) : t.HasRoom rows stage phase ↔ s.HasRoom rows stage phase := by
  unfold HasRoom Store.planFor
  rw [h]

theorem lateCellsFit_congr (h : t.stagePlan = s.stagePlan) (rows : List CoverageRow)
    (attempts : List CellAttempt) :
    t.LateCellsFit rows attempts ↔ s.LateCellsFit rows attempts := by
  induction attempts generalizing rows with
  | nil => exact Iff.rfl
  | cons a rest ih =>
    unfold LateCellsFit
    rw [hasRoom_congr h, ih]

section

variable (hs : CoverageInvariant s)

include hs

theorem CoverageInvariant.materializeMembers {members : List GroupMemberSpec}
    (hfits : s.LateCellsFit s.coverage (members.map (·.attempt.val)))
    (h : s.materializeMembers now members = .ok s') : CoverageInvariant s' := by
  induction members generalizing s with
  | nil =>
    simp only [Store.materializeMembers, pure_eq_ok] at h
    exact h ▸ hs
  | cons member rest ih =>
    simp only [Store.materializeMembers, bind_eq_ok] at h
    obtain ⟨mid, hmid, h⟩ := h
    obtain ⟨hlate, hrest⟩ := hfits
    obtain ⟨hs', hplan, hcoverage⟩ := hs.materialize hlate hmid
    refine ih hs' ?_ h
    rw [hcoverage, lateCellsFit_congr hplan]
    exact hrest

/-- The adoption loop; `todo` are the adoptions of the jobs, in their order. -/
theorem CoverageInvariant.adoptJobs {group : AuxGroupRow}
    {plan : PlanRow} {owner : Option String} {adoptions : List AuxiliaryCellAdoption}
    {adopted : Int} (hnd : (adoptions.map fun a => (a.jobId, a.jobAttempt)).Nodup)
    {jobs : List AuxJobRow} {todo : List AuxiliaryCellAdoption} (hsub : todo ⊆ adoptions)
    (hjobs : jobs.map (fun job => (job.jobId, job.jobAttempt)) =
      todo.map fun a => (a.jobId, a.jobAttempt))
    (hfits : s.LateCellsFit s.coverage (todo.map (·.attempt.val)))
    (h : s.adoptJobs group plan owner adoptions adopted jobs = .ok s') : CoverageInvariant s' := by
  induction jobs generalizing s todo with
  | nil =>
    simp only [Store.adoptJobs, pure_eq_ok] at h
    exact h ▸ hs
  | cons job rest ih =>
    cases todo with
    | nil => simp at hjobs
    | cons next todo =>
      simp only [map_cons, List.cons.injEq] at hjobs
      obtain ⟨found, mid, hfind, _, hmid, h⟩ := adoptJobs_cons h
      -- the adoption that the loop looks up is the next one of the list
      have hkey : (found.jobId, found.jobAttempt) = (job.jobId, job.jobAttempt) := by
        have := find?_some hfind
        simp only [decide_eq_true_eq] at this
        rw [this.1, this.2]
      have hnext : found = next :=
        inj_on_of_nodup_map hnd (mem_of_find?_eq_some hfind) (hsub (by simp))
          (hkey.trans hjobs.1)
      subst hnext
      obtain ⟨hlate, hrest⟩ := hfits
      obtain ⟨hmids, hplan, hcoverage⟩ := hs.materialize hlate hmid
      have hadopt (r : AttemptRow) : r.SameSpec (adoptRow r group owner job adopted) :=
        ⟨rfl, rfl⟩
      have hkeys := updateAttempts_keys mid [found.attempt.key] hadopt
      have hwrite := updateAttempts_coverage mid [found.attempt.key] hadopt
      generalize hw : mid.updateAttempts [found.attempt.key]
        (fun r => adoptRow r group owner job adopted) = written at h hkeys hwrite
      have hwplan : written.stagePlan = mid.stagePlan := by rw [← hw]; rfl
      have hs' : CoverageInvariant (written.bindAdoptedCell job found.attempt.key) := by
        refine hmids.of_addsNoCell ?_ hwplan (.of_coverage hwrite)
        show (written.attempts.map (·.key)).Nodup
        rw [hkeys]
        exact hmids.keys
      refine ih hs' (fun a ha => hsub (by simp [ha])) hjobs.2 ?_ h
      have hcover : (written.bindAdoptedCell job found.attempt.key).coverage =
          s.coverage ++ [found.attempt.val.coverage] := hwrite.trans hcoverage
      rw [hcover]
      exact (lateCellsFit_congr (t := written.bindAdoptedCell job found.attempt.key) (s := s)
        (hwplan.trans hplan) _ _).mpr hrest

theorem CoverageInvariant.importLegacyLoop {items : List LegacyStaleAttempt}
    (h : s.importLegacyLoop now items = .ok s') : CoverageInvariant s' := by
  induction items generalizing s with
  | nil =>
    cases h
    exact hs
  | cons item rest ih =>
    obtain ⟨hplanned, hfresh, h⟩ := importLegacyLoop_cons h
    have hkeys := (Change.legacy item now hfresh).keysNodup hs.keys
    refine ih ⟨hkeys, hs.plan.of_eq rfl, ?_, ?_⟩ h
    · intro hempty
      simp [planFor_of_empty (s := s) hempty] at hplanned
    · intro plan hplan known hknown
      have hbound := hs.covered plan hplan known hknown
      rw [materializedCells_eq] at hbound ⊢
      have hcoverage : (s.appendAttempt (AttemptRow.ofLegacy item now)).coverage =
          s.coverage ++ [(AttemptRow.ofLegacy item now).coverage] := by
        simp [Store.coverage]
      rw [hcoverage]
      -- a legacy row counts in no stage
      refine (length_coveredCells_le fun hown => ?_).trans hbound
      exact absurd (show true = false from hown.2.2) (by decide)

/-! ## The plan -/

/-- An update of one plan row keeps the invariant if it bounds the cells of the
stage. -/
theorem CoverageInvariant.updatePlan {node : String}
    {f : PlanRow → PlanRow} (hf : ∀ plan, (f plan).node = plan.node ∧ (f plan).stage = plan.stage ∧
      (f plan).phase = plan.phase)
    (hplan : t.stagePlan = s.stagePlan.map fun plan => if plan.node = node then f plan else plan)
    (hattempts : t.attempts = s.attempts) (hbound : ∀ plan, s.planOfNode node = some plan → ∀ known,
      (f plan).knownExpectedCells = some known →
        s.materializedCells plan.stage plan.phase ≤ known) : CoverageInvariant t := by
  have hcells (stage phase : String) :
      t.materializedCells stage phase = s.materializedCells stage phase := by
    unfold materializedCells
    rw [hattempts]
  refine ⟨?_, hs.plan.update hf hplan, ?_, ?_⟩
  · unfold KeysNodup
    rw [hattempts]
    exact hs.keys
  · intro hempty
    rw [hplan, map_eq_nil_iff] at hempty
    rw [hattempts]
    exact hs.planned hempty
  · intro plan hmem known hknown
    rw [hplan] at hmem
    obtain ⟨old, hold, rfl⟩ := mem_map.mp hmem
    rw [hcells]
    by_cases hnode : old.node = node
    · rw [if_pos hnode] at hknown ⊢
      rw [(hf old).2.1, (hf old).2.2]
      exact hbound old (by rw [← hnode]; exact hs.plan.planOfNode hold) known hknown
    · rw [if_neg hnode] at hknown ⊢
      exact hs.covered old hold known hknown

theorem CoverageInvariant.initializeStagePlan {entries : List StagePlanEntry}
    (h : s.initializeStagePlan entries now = .ok s') : CoverageInvariant s' := by
  obtain ⟨hnodes, hstages, _, ⟨_, _, rfl⟩ | ⟨hplan, _, rfl⟩⟩ := initializeStagePlan_eq_ok h
  · exact hs.of_addsNoCell hs.keys rfl (.of_coverage rfl)
  · refine ⟨hs.keys, ⟨hnodes, hstages⟩, fun _ => hs.planned hplan, ?_⟩
    intro plan _ known _
    -- the first plan meets an empty ledger
    have hzero : ({ s with stagePlan := entries, nodes := entries.map fun entry =>
        ({ node := entry.node, ordinal := entry.ordinal } : NodeRow) } : Store).materializedCells
          plan.stage plan.phase = 0 := by
      simp [materializedCells, hs.planned hplan]
    exact hzero.le.trans (Nat.zero_le known)

/-! ## Every operation -/

theorem apply_coverageInvariant {op : StoreOp}
    (hfits : s.CoverageFits op) (h : s.apply op = .ok s') : CoverageInvariant s' := by
  have hchanges := apply_changes hs.keys h
  have hkeys := hchanges.keysNodup hs.keys
  have htables := apply_tables hs.keys h
  have hstays (hplan : .stagePlan ∉ op.writes) (hmaterialize : .materialize ∉ op.kinds)
      (hlegacy : .legacy ∉ op.kinds) : CoverageInvariant s' :=
    hs.of_addsNoCell hkeys (htables.stagePlan hplan) (hchanges.addsNoCell hmaterialize hlegacy)
  cases op with
  | materializeAttempt spec now =>
    simp only [apply, materializeAttempt, bind_eq_ok] at h
    obtain ⟨_, _, h⟩ := h
    exact (hs.materialize hfits.1 h).1
  | materializePhysicalAttemptGroup groupId members leader kind now =>
    rcases materializePhysicalAttemptGroup_parts h with rfl | ⟨mid, hmid, hlast⟩
    · exact hs
    · have hmids := hs.materializeMembers hfits hmid
      refine hmids.of_addsNoCell hkeys ?_ (hlast.addsNoCell (by simp) (by simp))
      exact (hlast.sameTables (by simp [ChangeKind.isLedger])).stagePlan (by simp)
  | adoptControllerAuxiliaryJobs node groupId groupAttempt adoptions adopted =>
    obtain ⟨_, _, hadopt, ⟨_, rfl⟩ | ⟨_, plan, mid, _, hmid, rfl⟩⟩ :=
      adoptControllerAuxiliaryJobs_eq_ok h
    · exact hs
    · have hmids := hs.adoptJobs hadopt.nodup (List.Subset.refl _) hadopt.jobs hfits hmid
      exact hmids.of_addsNoCell hmids.keys rfl (.of_coverage rfl)
  | importLegacyStaleAttempts items now =>
    simp only [apply, importLegacyStaleAttempts, bind_eq_ok, check_eq_ok] at h
    obtain ⟨_, _, _, _, h⟩ := h
    exact hs.importLegacyLoop h
  | initializeStagePlan => exact hs.initializeStagePlan h
  | updateStageExpectation node formula known =>
    obtain ⟨plan, hplan, hcount, rfl⟩ := updateStageExpectation_eq_ok h
    refine hs.updatePlan
      (f := fun row => { row with expectedFormula := formula, knownExpectedCells := some known })
      (fun _ => ⟨rfl, rfl, rfl⟩) rfl rfl ?_
    intro plan' hplan' known' hknown'
    rw [hplan] at hplan'
    cases hplan'
    cases hknown'
    exact hcount
  | recordControllerMaterialization reopen node m nm cells sources recorded =>
    obtain ⟨_, _, hknown, rfl⟩ := recordControllerMaterialization_eq_ok h
    refine hs.updatePlan (f := fun plan => { plan with knownExpectedCells := some cells.length })
      (fun _ => ⟨rfl, rfl, rfl⟩) rfl rfl ?_
    intro plan hplan known hcount
    cases hcount
    have hfits : plan.knownExpectedCells = none →
        s.materializedCells plan.stage plan.phase ≤ cells.length := by
      have hfits' := hfits
      simp only [CoverageFits, hplan, Option.all_some, decide_eq_true_eq] at hfits'
      exact hfits'
    cases hold : plan.knownExpectedCells with
    | none => exact hfits hold
    | some known =>
      -- a bound that was known already is the number of expected cells
      rw [hplan, Option.bind_some, hold, Option.all_some, decide_eq_true_eq] at hknown
      exact hknown ▸ hs.covered plan (mem_of_find?_eq_some hplan) known hold
  -- the others insert no attempt, and the plan stays
  | _ =>
    exact hstays (by simp [StoreOp.writes]) (by simp [StoreOp.kinds]) (by simp [StoreOp.kinds])

theorem step_coverageInvariant {op : StoreOp}
    (hfits : (s.step op).1 = .ok () → s.CoverageFits op) : CoverageInvariant (s.step op).2 := by
  cases happly : s.apply op with
  | error e =>
    unfold step
    rw [happly]
    exact hs
  | ok s' =>
    rw [step_of_ok happly] at hfits ⊢
    exact apply_coverageInvariant hs (hfits rfl) happly

end

/-- In every run whose calls that return respect `CoverageFits`, no stage holds more
non-legacy cells than it expects, and its progress is at most 100 percent. -/
theorem stage_coverage_bounded (ops : List StoreOp)
    (hfits : ∀ ev ∈ trace Store.step Store.empty ops,
      ev.output = .ok () → ev.pre.CoverageFits ev.input) :
    ∀ ev ∈ trace Store.step Store.empty ops, ∀ plan ∈ ev.post.stagePlan, ∀ known,
      plan.knownExpectedCells = some known →
        ev.post.materializedCells plan.stage plan.phase ≤ known ∧
          ∀ percent, (ev.post.stageSummary plan).progressPercent = some percent →
            percent ≤ 100 := by
  have hstep : ∀ (s : Store) (op : StoreOp), CoverageInvariant s →
      ((s.step op).1 = .ok () → s.CoverageFits op) → CoverageInvariant (s.step op).2 :=
    fun s op hs hop => step_coverageInvariant hs hop
  have hall := (trace_invariant hstep CoverageInvariant.empty
    (forall_output hfits)).1
  intro ev hev plan hplan known hknown
  obtain ⟨_, hpost⟩ := hall ev hev
  have hbound := hpost.covered plan hplan known hknown
  exact ⟨hbound, fun percent hpercent => progressPercent_le hpost.keys hknown hbound hpercent⟩

/-- A second cell, which an old run has attempted once. -/
def Sample.lateAttempt (n : Nat) (directory : String) : CellAttempt :=
  { sampleAttempt n directory with cellId := "late" }

/-- A stage that expects `known` cells holds one; a second one is imported from
an old run and materialised anew. -/
def Sample.lateRun (known : Nat) : List StoreOp :=
  [.initializeStagePlan [⟨"node", 0, "smoke", "final", "1", some known⟩] 1,
   .materializeAttempt ⟨sampleAttempt 1 "/runs/1", sampleAttempt_checks⟩ 2,
   .importLegacyStaleAttempts
    [{ sampleLegacy with spec := ⟨Sample.lateAttempt 1 "/old/1", by decide⟩ }] 3,
   .materializeAttempt ⟨Sample.lateAttempt 2 "/runs/2", by decide⟩ 4]

/-- Two expected cells leave room for the late one. -/
theorem stage_coverage_bounded_late :
    (final Store.step Store.empty (Sample.lateRun 2)).materializedCells "smoke" "final" = 2 ∧
      ∀ ev ∈ trace Store.step Store.empty (Sample.lateRun 2), ∀ plan ∈ ev.post.stagePlan,
        ∀ known, plan.knownExpectedCells = some known →
          ev.post.materializedCells plan.stage plan.phase ≤ known ∧
            ∀ percent, (ev.post.stageSummary plan).progressPercent = some percent →
              percent ≤ 100 :=
  ⟨by decide +kernel, stage_coverage_bounded _ (by decide +kernel)⟩

/-- One expected cell is exceeded by the late one. -/
theorem stage_coverage_exceeded_late :
    ¬ ∀ ops, ∀ ev ∈ trace Store.step Store.empty ops, ∀ plan ∈ ev.post.stagePlan, ∀ known,
      plan.knownExpectedCells = some known →
        ev.post.materializedCells plan.stage plan.phase ≤ known := by
  intro h
  have hbad : (trace Store.step Store.empty (Sample.lateRun 1)).any (fun ev =>
      ev.post.stagePlan.any fun plan => plan.knownExpectedCells.any fun known =>
        decide (known < ev.post.materializedCells plan.stage plan.phase)) = true := by
    decide +kernel
  obtain ⟨ev, hev, hbad⟩ := List.any_eq_true.mp hbad
  obtain ⟨plan, hplan, hbad⟩ := List.any_eq_true.mp hbad
  cases hknown : plan.knownExpectedCells with
  | none => simp [hknown] at hbad
  | some known =>
      rw [hknown, Option.any_some, decide_eq_true_eq] at hbad
      exact absurd (h _ ev hev plan hplan known hknown) (by omega)

end Store

end Operator

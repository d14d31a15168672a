import Mathlib.Tactic.NormNum
import LightConeSpec.Operator.Ledger

/-!
# Stage summaries

`_stage_summary_rows`: what the store reports about every stage of the plan.
Seconds and percentages are exact rationals. A stage never reports more
completed cells than it has materialised, so its progress is bounded by its
coverage.
-/

namespace Operator

/-- A row of `_stage_summary_rows`. -/
structure StageSummary where
  plan : PlanRow
  materializedCells : Nat
  completed : Nat
  running : Nat
  failed : Nat
  blocked : Nat
  stale : Nat
  progressPercent : Option ℚ
  gpuSeconds : GpuSeconds

variable {s : Store}

namespace Store

/-- The `accounting` query: all attempts of the stage, legacy imports too. -/
def stageGpuSeconds (s : Store) (stage phase : String) : GpuSeconds :=
  ((s.attempts.filter fun row => row.stage = stage ∧ row.phase = phase).map (·.gpuSeconds)).sum

/-- The `pending_auxiliary_accounting` query. -/
def pendingAuxiliaryGpuSeconds (s : Store) (node : String) : GpuSeconds :=
  ((s.auxGroups.filter fun row => row.node = node ∧ row.adoptedAtNs = none).map
    (·.gpuSeconds)).sum

def progressPercent (known : Option Nat) (materialized completed : Nat) : Option ℚ :=
  known.map fun (known : Nat) =>
    if known = 0 then if materialized = 0 then 100 else 0 else 100 * (completed : ℚ) / known

def stageSummary (s : Store) (plan : PlanRow) : StageSummary :=
  let latest := s.latestStageAttempts plan.stage plan.phase
  let completed := latest.countP fun row => row.status = .complete
  { plan := plan
    materializedCells := latest.length
    completed := completed
    running := latest.countP fun row => row.status = .running
    failed := latest.countP fun row => row.status = .failed
    blocked := latest.countP fun row => row.status = .blocked
    stale := s.attempts.countP fun row =>
      row.stage = plan.stage ∧ row.phase = plan.phase ∧ row.status = .staleIdentity
    progressPercent := progressPercent plan.knownExpectedCells latest.length completed
    gpuSeconds := s.stageGpuSeconds plan.stage plan.phase + s.pendingAuxiliaryGpuSeconds plan.node }

def stageSummaryRows (s : Store) : List StageSummary :=
  (Python.sortedBy (·.ordinal) s.stagePlan).map s.stageSummary

theorem mem_latestStageAttempts {stage phase : String} {r : AttemptRow} :
    r ∈ s.latestStageAttempts stage phase ↔
      (r ∈ s.attempts ∧ r.isLegacyImport = false) ∧ r.stage = stage ∧ r.phase = phase ∧
        ∀ other ∈ s.attempts, other.isLegacyImport = false → other.cellId = r.cellId →
          other.attempt ≤ r.attempt := by
  simp only [latestStageAttempts, List.mem_filter, decide_eq_true_eq, and_imp]

/-- A cell has one latest attempt. -/
theorem nodup_latestStageAttempts (hs : s.KeysNodup) (stage phase : String) :
    ((s.latestStageAttempts stage phase).map (·.cellId)).Nodup := by
  have hrows : (s.latestStageAttempts stage phase).Nodup :=
    ((List.Nodup.of_map _ hs).filter _).filter _
  refine hrows.map_on ?_
  intro r hr r' hr' hcell
  obtain ⟨⟨hmem, hown⟩, _, _, hmax⟩ := mem_latestStageAttempts.mp hr
  obtain ⟨⟨hmem', hown'⟩, _, _, hmax'⟩ := mem_latestStageAttempts.mp hr'
  have hattempt : r.attempt = r'.attempt :=
    le_antisymm (hmax' r hmem hown hcell) (hmax r' hmem' hown' hcell.symm)
  refine hs.eq_of_key hmem hmem' ?_
  show (⟨r.cellId, r.attempt⟩ : AttemptKey) = ⟨r'.cellId, r'.attempt⟩
  rw [hcell, hattempt]

/-- Every latest attempt of a stage is one of its materialised cells. -/
theorem length_latestStageAttempts_le (hs : s.KeysNodup) (stage phase : String) :
    (s.latestStageAttempts stage phase).length ≤ s.materializedCells stage phase := by
  rw [← List.length_map (·.cellId)]
  refine (List.subperm_of_subset (nodup_latestStageAttempts hs stage phase) ?_).length_le
  intro cell hcell
  obtain ⟨r, hr, rfl⟩ := List.mem_map.mp hcell
  obtain ⟨⟨hmem, hown⟩, hstage, hphase, _⟩ := mem_latestStageAttempts.mp hr
  refine List.mem_dedup.mpr (List.mem_map.mpr ⟨r, List.mem_filter.mpr ⟨hmem, ?_⟩, rfl⟩)
  simp [hstage, hphase, hown]

/-- The progress of a stage within its bound is at most 100 percent. -/
theorem progressPercent_le (hs : s.KeysNodup) {plan : PlanRow} {known : Nat}
    (hknown : plan.knownExpectedCells = some known)
    (hbound : s.materializedCells plan.stage plan.phase ≤ known) {percent : ℚ}
    (h : (s.stageSummary plan).progressPercent = some percent) : percent ≤ 100 := by
  simp only [stageSummary, progressPercent, hknown, Option.map_some, Option.some.injEq] at h
  subst h
  split
  · split <;> norm_num
  · rename_i hpos
    have hcount : (s.latestStageAttempts plan.stage plan.phase).countP
        (fun row => row.status = .complete) ≤ known :=
      List.countP_le_length.trans ((length_latestStageAttempts_le hs _ _).trans hbound)
    have hknown_pos : (0 : ℚ) < known := by
      exact_mod_cast Nat.pos_of_ne_zero hpos
    rw [div_le_iff₀ hknown_pos]
    exact mul_le_mul_of_nonneg_left (by exact_mod_cast hcount) (by norm_num)

end Store

end Operator

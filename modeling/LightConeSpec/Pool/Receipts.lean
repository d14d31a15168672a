import LightConeSpec.Lib.Intervals

/-!
# Receipts of a dispatch

What execution reads of a frozen dispatch plan, and the receipts it writes: one
per assignment with the intervals of all its attempts, one per wave, one per
schedule. Each receipt is a record of the source's fields with the checks its
constructor makes; a field that has one admissible value is kept, since the
checks read it.

Digests are values of a type `D`. `ContentSha` holds the digest functions the
receipts use; nothing in this module needs them to be injective.
-/

namespace Pool

open Python Intervals

/-! ## The frozen plan -/

/-- What execution reads of a `GpuAssignment`: its digest, the cell it runs and
its gang. -/
structure PlannedAssignment (D : Type) where
  assignmentId : D
  itemId : D
  gpuUuids : List String
deriving DecidableEq

/-- What execution reads of a `GpuDispatchWave`. -/
structure PlannedWave (D : Type) where
  waveIndex : ℕ
  sha256 : D
  assignments : List (PlannedAssignment D)
deriving DecidableEq

/-- What execution reads of a `GpuDispatchPlan`, with what the constructors of
the plan and of its waves check: the wave indexes count up from zero, no wave is
empty and no assignment occurs twice. The digest of a wave covers its index, so
no two waves share one. -/
structure FrozenPlan (D : Type) where
  sha256 : D
  waves : List (PlannedWave D)
  scientificBudgetBound : Bool
  contiguous : waves.map (·.waveIndex) = List.range waves.length
  nonempty : ∀ wave ∈ waves, wave.assignments ≠ []
  distinct : ((waves.flatMap (·.assignments)).map (·.assignmentId)).Nodup
  distinctWaves : (waves.map (·.sha256)).Nodup
deriving DecidableEq

/-- What execution reads of an `ExperimentBudget`. -/
structure ExperimentBudget (D : Type) where
  sha256 : D
  retryAllowance : ℕ

/-! ## Intervals -/

/-- `_merge_monotonic_intervals`. The pass meets every interval, so it raises
when one of them is not ordered. -/
def mergeMonotonicIntervals (intervals : List Interval) : Except Error (List Interval) :=
  if Ordered intervals then .ok (merge intervals)
  else .error (valueError "monotonic intervals require 0 <= start <= finish")

def intervalUnionNs (intervals : List Interval) : Except Error ℕ := do
  let merged ← mergeMonotonicIntervals intervals
  pure (totalLength merged)

@[simp] theorem mergeMonotonicIntervals_eq_ok {intervals merged : List Interval} :
    mergeMonotonicIntervals intervals = .ok merged ↔
      Ordered intervals ∧ merge intervals = merged := by
  unfold mergeMonotonicIntervals
  split
  · rename_i h
    simp [h]
  · rename_i h
    simp [h]

@[simp] theorem intervalUnionNs_eq_ok {intervals : List Interval} {ns : ℕ} :
    intervalUnionNs intervals = .ok ns ↔ Ordered intervals ∧ unionLength intervals = ns := by
  simp only [intervalUnionNs, bind_eq_ok, mergeMonotonicIntervals_eq_ok, pure_eq_ok, unionLength]
  constructor
  · rintro ⟨merged, ⟨hordered, rfl⟩, hns⟩
    exact ⟨hordered, hns⟩
  · rintro ⟨hordered, hns⟩
    exact ⟨_, ⟨hordered, rfl⟩, hns⟩

/-! ## Assignment receipts -/

inductive AssignmentExecutionStatus
  | succeeded
  | failed
deriving DecidableEq

/-- `AssignmentTerminalBinding`: the raw files that a successful run left, with
their paths and digests. `files` are the terminal receipt, the budget observation,
its sidecar and the native artifact; `evidence` are the evidence files. -/
structure AssignmentTerminalBinding (D : Type) where
  authoritySha256 : D
  cellId : D
  assignmentSha256 : D
  budgetSha256 : D
  inventorySha256 : D
  physicalGpuUuids : List String
  executionPlanSha256 : D
  dispatchPlanSha256 : D
  runId : String
  runNonceSha256 : D
  files : List (String × D)
  evidence : List (String × D)
deriving DecidableEq

structure AssignmentExecutionReceipt (D : Type) where
  planSha256 : D
  waveSha256 : D
  assignmentSha256 : D
  budgetSha256 : D
  attempt : ℕ
  status : AssignmentExecutionStatus
  terminalReceiptSha256 : Option D
  terminalBinding : Option (AssignmentTerminalBinding D)
  failureSha256 : Option D
  priorAttemptReceiptSha256 : Option D
  gpuCount : ℕ
  fixedInstanceGpuCount : ℕ
  attemptIntervalsMonotonicNs : List Interval
  attributedGpuNs : ℕ
  attributedFixedInstanceGpuNs : ℕ
  accountingSemantics : String := "per_assignment_attribution_not_schedule_ledger_v1"
deriving DecidableEq

/-- The evidence of a failure, whose digest the receipt carries. -/
structure FailureEvidence (D : Type) where
  exceptionType : String
  message : String
  assignmentSha256 : D
  budgetSha256 : D
  attempt : ℕ
  startedMonotonicNs : ℕ
  finishedMonotonicNs : ℕ

/-! ## Wave and schedule receipts -/

structure DispatchWaveExecutionReceipt (D : Type) where
  planSha256 : D
  waveIndex : ℕ
  waveSha256 : D
  assignmentReceipts : List (AssignmentExecutionReceipt D)
  inventorySha256 : D
  fixedInstanceGpuCount : ℕ
  activeIntervalsMonotonicNs : List Interval
  fixedInstanceActualBilledGpuNs : ℕ
  perAssignmentAttributedGpuNs : ℕ
  perAssignmentAttributedFixedInstanceGpuNs : ℕ
  accountingSemantics : String := "interval_union_schedule_ledger_v1"
deriving DecidableEq

inductive DispatchExecutionPhase
  | planned
  | running
  | failed
  | complete
deriving DecidableEq

structure DispatchScheduleReceipt (D : Type) where
  planSha256 : D
  phase : DispatchExecutionPhase
  waveReceipts : List (DispatchWaveExecutionReceipt D)
  inventorySha256 : D
  fixedInstanceGpuCount : ℕ
  activeIntervalsMonotonicNs : List Interval
  fixedInstanceActualBilledGpuNs : ℕ
  perAssignmentAttributedGpuNs : ℕ
  perAssignmentAttributedFixedInstanceGpuNs : ℕ
  priorScheduleReceiptSha256 : Option D
  accountingSemantics : String := "interval_union_schedule_ledger_v1"
deriving DecidableEq

/-- The digests of the records above, `content_sha256(record.to_dict())`. -/
structure ContentSha (D : Type) where
  terminalBinding : AssignmentTerminalBinding D → D
  failure : FailureEvidence D → D
  assignmentReceipt : AssignmentExecutionReceipt D → D
  waveReceipt : DispatchWaveExecutionReceipt D → D
  scheduleReceipt : DispatchScheduleReceipt D → D

variable {D : Type} [DecidableEq D] (sha : ContentSha D)

/-! ## The checks of the constructors -/

/-- `AssignmentTerminalBinding.__post_init__`, which runs again whenever a receipt
is decoded. `isResolved` is the comparison of `Path(path)` with what it resolves to
on the file system of that moment, `False` for a relative path. -/
def AssignmentTerminalBinding.postInit (isResolved : String → Except Error Bool)
    (binding : AssignmentTerminalBinding D) : Except Error Unit := do
  require (binding.physicalGpuUuids ≠ [] ∧ binding.physicalGpuUuids.Nodup)
    (valueError "assignment terminal binding has invalid GPU coverage")
  require (binding.runId ≠ "" ∧ '\n' ∉ binding.runId.toList)
    (valueError "assignment terminal run ID is invalid")
  forEach (fun file : String × D => do
    let resolved ← isResolved file.1
    require (resolved = true)
      (valueError "assignment terminal path must be absolute and resolved"))
    (binding.files ++ binding.evidence)
  require (binding.evidence ≠ [] ∧ (binding.evidence.map Prod.fst).Pairwise (· < ·))
    (valueError "assignment terminal evidence coverage is malformed")

namespace AssignmentExecutionReceipt

def succeeded (receipt : AssignmentExecutionReceipt D) : Bool :=
  receipt.status == .succeeded

/-- The checks on the outcome: a success names its terminal binding, a failure
its evidence. -/
def checkOutcome (receipt : AssignmentExecutionReceipt D) : Except Error Unit :=
  match receipt.status with
  | .succeeded => do
    require receipt.terminalReceiptSha256.isSome
      (valueError "successful assignment needs a terminal receipt")
    match receipt.terminalBinding with
    | none => .error (typeError "successful assignment needs an exact raw terminal binding")
    | some binding =>
      require (receipt.terminalReceiptSha256 = some (sha.terminalBinding binding) ∧
          binding.assignmentSha256 = receipt.assignmentSha256 ∧
          binding.budgetSha256 = receipt.budgetSha256)
        (valueError "successful assignment terminal binding identity mismatch")
    require (receipt.failureSha256 = none)
      (valueError "successful assignment cannot carry failure evidence")
  | .failed => do
    require receipt.failureSha256.isSome
      (valueError "failed assignment needs bound failure evidence")
    require (receipt.terminalReceiptSha256 = none)
      (valueError "failed assignment cannot carry a terminal receipt")
    require (receipt.terminalBinding = none)
      (valueError "failed assignment cannot carry a terminal binding")

def checkPriorAttempt (receipt : AssignmentExecutionReceipt D) : Except Error Unit :=
  if receipt.attempt = 1 then
    require (receipt.priorAttemptReceiptSha256 = none)
      (valueError "first attempt cannot bind a prior attempt receipt")
  else
    require receipt.priorAttemptReceiptSha256.isSome
      (valueError "retried assignment must bind its prior attempt receipt")

def postInit (receipt : AssignmentExecutionReceipt D) : Except Error Unit := do
  require (1 ≤ receipt.attempt) (valueError "attempt must be a positive integer")
  require (receipt.attempt = receipt.attemptIntervalsMonotonicNs.length)
    (valueError "attempt intervals must cover every cumulative attempt")
  let canonicalIntervals ← mergeMonotonicIntervals receipt.attemptIntervalsMonotonicNs
  require (canonicalIntervals = receipt.attemptIntervalsMonotonicNs)
    (valueError "assignment attempt intervals must be sorted and non-overlapping")
  receipt.checkPriorAttempt
  require (1 ≤ receipt.gpuCount) (valueError "gpu_count must be a positive integer")
  require (1 ≤ receipt.fixedInstanceGpuCount)
    (valueError "fixed_instance_gpu_count must be a positive integer")
  require (receipt.gpuCount ≤ receipt.fixedInstanceGpuCount)
    (valueError "fixed-instance GPU count cannot be below gang size")
  let cumulativeElapsedNs ← intervalUnionNs receipt.attemptIntervalsMonotonicNs
  require (receipt.attributedGpuNs = cumulativeElapsedNs * receipt.gpuCount)
    (valueError "assignment GPU attribution differs from monotonic time")
  require (receipt.attributedFixedInstanceGpuNs
      = cumulativeElapsedNs * receipt.fixedInstanceGpuCount)
    (valueError "assignment fixed-instance attribution differs from monotonic time")
  require (receipt.accountingSemantics = "per_assignment_attribution_not_schedule_ledger_v1")
    (valueError "assignment accounting semantics are unsupported")
  receipt.checkOutcome sha

def construct (receipt : AssignmentExecutionReceipt D) :
    Except Error (AssignmentExecutionReceipt D) :=
  validated (postInit sha) receipt

/-- What the constructor leaves of the intervals of a receipt. -/
structure Accounted (receipt : AssignmentExecutionReceipt D) : Prop where
  positive : 1 ≤ receipt.attempt
  covers : receipt.attempt = receipt.attemptIntervalsMonotonicNs.length
  separated : Separated receipt.attemptIntervalsMonotonicNs
  attributed : receipt.attributedGpuNs
    = unionLength receipt.attemptIntervalsMonotonicNs * receipt.gpuCount
  attributedFixed : receipt.attributedFixedInstanceGpuNs
    = unionLength receipt.attemptIntervalsMonotonicNs * receipt.fixedInstanceGpuCount

variable {sha}

theorem accounted_of_postInit {receipt : AssignmentExecutionReceipt D}
    (h : receipt.postInit sha = .ok ()) : receipt.Accounted := by
  unfold postInit at h
  simp only [bind_eq_ok, check_eq_ok, mergeMonotonicIntervals_eq_ok, intervalUnionNs_eq_ok] at h
  obtain ⟨hpositive, hcovers, merged, ⟨hordered, rfl⟩, hmerged, -, -, -, -, -, elapsed,
    ⟨-, rfl⟩, hgpu, hfixed, -⟩ := h
  exact ⟨hpositive, hcovers, (merge_eq_self_iff hordered).mp hmerged, hgpu, hfixed⟩

end AssignmentExecutionReceipt

namespace DispatchWaveExecutionReceipt

def succeeded (receipt : DispatchWaveExecutionReceipt D) : Bool :=
  receipt.assignmentReceipts.all (·.succeeded)

def attemptIntervals (receipt : DispatchWaveExecutionReceipt D) : List Interval :=
  receipt.assignmentReceipts.flatMap (·.attemptIntervalsMonotonicNs)

def postInit (receipt : DispatchWaveExecutionReceipt D) : Except Error Unit := do
  require (receipt.assignmentReceipts ≠ []) (valueError "wave receipt requires assignment receipts")
  require (receipt.assignmentReceipts.map (·.assignmentSha256)).Nodup
    (valueError "wave receipt contains duplicate assignment receipts")
  require (1 ≤ receipt.fixedInstanceGpuCount)
    (valueError "wave fixed-instance GPU count must be positive")
  let expectedIntervals ← mergeMonotonicIntervals receipt.attemptIntervals
  require (receipt.activeIntervalsMonotonicNs = expectedIntervals)
    (valueError "wave active intervals differ from assignment attempts")
  let unionNs ← intervalUnionNs receipt.activeIntervalsMonotonicNs
  require (receipt.fixedInstanceActualBilledGpuNs = unionNs * receipt.fixedInstanceGpuCount)
    (valueError "wave fixed-instance ledger differs from interval union")
  require (receipt.perAssignmentAttributedGpuNs
      = (receipt.assignmentReceipts.map (·.attributedGpuNs)).sum)
    (valueError "wave per-assignment GPU attribution mismatch")
  require (receipt.perAssignmentAttributedFixedInstanceGpuNs
      = (receipt.assignmentReceipts.map (·.attributedFixedInstanceGpuNs)).sum)
    (valueError "wave per-assignment fixed attribution mismatch")
  require (∀ row ∈ receipt.assignmentReceipts,
      row.fixedInstanceGpuCount = receipt.fixedInstanceGpuCount)
    (valueError "wave assignments disagree on fixed-instance GPU count")
  require (receipt.accountingSemantics = "interval_union_schedule_ledger_v1")
    (valueError "wave accounting semantics are unsupported")

def construct (receipt : DispatchWaveExecutionReceipt D) :
    Except Error (DispatchWaveExecutionReceipt D) :=
  validated postInit receipt

end DispatchWaveExecutionReceipt

namespace DispatchScheduleReceipt

def waveIntervals (receipt : DispatchScheduleReceipt D) : List Interval :=
  receipt.waveReceipts.flatMap (·.activeIntervalsMonotonicNs)

/-- The assignment receipts of all waves. -/
def rows (receipt : DispatchScheduleReceipt D) : List (AssignmentExecutionReceipt D) :=
  receipt.waveReceipts.flatMap (·.assignmentReceipts)

def checkPhase (receipt : DispatchScheduleReceipt D) : Except Error Unit :=
  match receipt.phase with
  | .complete =>
    require (∀ wave ∈ receipt.waveReceipts, wave.succeeded = true)
      (valueError "COMPLETE schedule receipt contains failed work")
  | .running =>
    require (receipt.waveReceipts ≠ [] ∧ ∀ wave ∈ receipt.waveReceipts, wave.succeeded = true)
      (valueError "RUNNING schedule receipt must contain a successful wave prefix")
  | .failed =>
    require (receipt.waveReceipts ≠ [] ∧
        ∀ wave ∈ receipt.waveReceipts.getLast?, wave.succeeded = false)
      (valueError "FAILED schedule receipt lacks a failed terminal wave")
  | .planned =>
    .error (valueError "durable schedule receipts must be RUNNING, COMPLETE, or FAILED")

def postInit (receipt : DispatchScheduleReceipt D) : Except Error Unit := do
  require (receipt.waveReceipts.map (·.waveIndex) = List.range receipt.waveReceipts.length)
    (valueError "schedule receipt must be a contiguous wave prefix")
  require (∀ wave ∈ receipt.waveReceipts, wave.planSha256 = receipt.planSha256)
    (valueError "schedule receipt mixes dispatch plans")
  require (1 ≤ receipt.fixedInstanceGpuCount)
    (valueError "schedule fixed-instance GPU count must be positive")
  require (∀ wave ∈ receipt.waveReceipts, wave.inventorySha256 = receipt.inventorySha256 ∧
      wave.fixedInstanceGpuCount = receipt.fixedInstanceGpuCount)
    (valueError "schedule receipt mixes inventory billing identities")
  let expectedIntervals ← mergeMonotonicIntervals receipt.waveIntervals
  require (receipt.activeIntervalsMonotonicNs = expectedIntervals)
    (valueError "schedule intervals differ from its wave receipts")
  let unionNs ← intervalUnionNs receipt.activeIntervalsMonotonicNs
  require (receipt.fixedInstanceActualBilledGpuNs = unionNs * receipt.fixedInstanceGpuCount)
    (valueError "schedule fixed-instance ledger differs from interval union")
  require (receipt.perAssignmentAttributedGpuNs
      = (receipt.waveReceipts.map (·.perAssignmentAttributedGpuNs)).sum)
    (valueError "schedule per-assignment GPU attribution mismatch")
  require (receipt.perAssignmentAttributedFixedInstanceGpuNs
      = (receipt.waveReceipts.map (·.perAssignmentAttributedFixedInstanceGpuNs)).sum)
    (valueError "schedule per-assignment fixed attribution mismatch")
  require (receipt.accountingSemantics = "interval_union_schedule_ledger_v1")
    (valueError "schedule accounting semantics are unsupported")
  receipt.checkPhase

def construct (receipt : DispatchScheduleReceipt D) :
    Except Error (DispatchScheduleReceipt D) :=
  validated postInit receipt

end DispatchScheduleReceipt

end Pool

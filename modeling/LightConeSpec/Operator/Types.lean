import LightConeSpec.Lib.Python
import Mathlib.Algebra.Order.Ring.Rat

/-!
# Values of the experiment operator

The frozen dataclasses of `orchestration/experiment_operator.py` that the
durable store and its scheduler exchange. A dataclass with a `__post_init__`
is a record of its fields, the list of its checks in source order, and a
structure of the records that pass them.

`scientific_axes` is kept as the canonical JSON text that the store compares,
and so is what `identity` holds besides the digests it must hold.
`command_sha256` is the constructor `Digest.command` applied to the hashed
identity, so that two command digests agree exactly when the hashed commands
do; every other digest is a `Digest.hex`.
-/

namespace Operator

open Python

/-! ## Enumerations -/

/-- `CellAttemptStatus`. -/
inductive AttemptStatus
  | pending
  | running
  | complete
  | failed
  | blocked
  | staleIdentity
deriving DecidableEq

def AttemptStatus.text : AttemptStatus → String
  | .pending => "PENDING"
  | .running => "RUNNING"
  | .complete => "COMPLETE"
  | .failed => "FAILED"
  | .blocked => "BLOCKED"
  | .staleIdentity => "STALE_IDENTITY"

/-- The status column of physical groups, auxiliary groups and auxiliary jobs. -/
inductive GroupStatus
  | pending
  | running
  | complete
  | failed
deriving DecidableEq

/-- The `dispatch_state` metadata value. -/
inductive DispatchState
  | run
  | stop
deriving DecidableEq

inductive InterferenceMode
  | unresolved
  | isolated
  | dualSingle
deriving DecidableEq

/-- `CommandTimingClass`. -/
inductive TimingClass
  | headline
  | safeAuxiliary
  | exclusive
  | profiler
  | failure
  | archive
deriving DecidableEq

/-- `exclusive_classes` of `_select_dispatch`. -/
def TimingClass.isExclusive : TimingClass → Bool
  | .exclusive | .profiler | .failure | .archive => true
  | .headline | .safeAuxiliary => false

/-- `TerminalFailureClass`. -/
inductive FailureClass
  | infrastructure
  | scientific
  | unsafeResult
  | oomCandidate
  | exactness
  | failureDiagnostic
deriving DecidableEq

def FailureClass.text : FailureClass → String
  | .infrastructure => "INFRASTRUCTURE"
  | .scientific => "SCIENTIFIC"
  | .unsafeResult => "UNSAFE"
  | .oomCandidate => "OOM_CANDIDATE"
  | .exactness => "EXACTNESS"
  | .failureDiagnostic => "FAILURE_DIAGNOSTIC"

inductive LogicalKind
  | compile
  | exactness
  | interference
  | serving
deriving DecidableEq

inductive PhysicalGroupKind
  | preflightExactTen
  | tp1ServingSession
deriving DecidableEq

/-- The termination signals of `record_attempt_termination_signal`. -/
inductive SignalName
  | term
  | kill
deriving DecidableEq

/-- `controller_nodes.state`. -/
inductive NodeState
  | unmaterialized
  | materialized
  | planned
  | reduced
  | blocked
deriving DecidableEq

/-! ## Commands -/

/-- The identity that `command_sha256` hashes. -/
structure CommandIdentity where
  argv : List String
  environment : List (String × String)
  launchCompatibilityKey : String
  requiredGpuCount : Nat
  timingClass : TimingClass
  pairedGpuKey : Option String
  preferredGpuIndex : Option Nat
  maxRuntimeSeconds : Nat
  maxLogStallSeconds : Nat
deriving DecidableEq

inductive Digest
  | command (identity : CommandIdentity)
  | hex (text : String)
deriving DecidableEq

/-- An `identity` mapping: the digests of `_REQUIRED_IDENTITY_SHA_FIELDS`, and the
canonical JSON text of its other fields. -/
structure Identity where
  sourceSha256 : Digest
  patchSha256 : Digest
  registrySha256 : Digest
  rest : String
deriving DecidableEq

/-- The primary key `(cell_id, attempt)` of the attempt table. -/
@[ext]
structure AttemptKey where
  cellId : String
  attempt : Nat
deriving DecidableEq

/-- The fields of `QueuedCommandSpec`. -/
structure QueuedCommand where
  cellId : String
  attempt : Nat
  argv : List String
  launchCompatibilityKey : String
  requiredGpuCount : Nat
  timingClass : TimingClass
  predictedHighWaterBytes : Nat
  monitoredPath : String
  logPath : String
  expectedTerminalPath : String
  expectedJunitPath : String
  expectedRawLogPath : String
  atomicPointerPath : String
  childExitReceiptPath : String
  environment : List (String × String) := []
  pairedGpuKey : Option String := none
  preferredGpuIndex : Option Nat := none
  priority : Int := 0
  maxRuntimeSeconds : Nat := 6 * 60 * 60
  maxLogStallSeconds : Nat := 30 * 60
deriving DecidableEq

namespace QueuedCommand

def key (c : QueuedCommand) : AttemptKey := ⟨c.cellId, c.attempt⟩

/-- The six paths that one attempt publishes its evidence to. -/
def evidencePaths (c : QueuedCommand) : List String :=
  [c.logPath, c.expectedTerminalPath, c.expectedJunitPath, c.expectedRawLogPath,
    c.atomicPointerPath, c.childExitReceiptPath]

def commandSha256 (c : QueuedCommand) : Digest :=
  .command
    { argv := c.argv
      environment := c.environment
      launchCompatibilityKey := c.launchCompatibilityKey
      requiredGpuCount := c.requiredGpuCount
      timingClass := c.timingClass
      pairedGpuKey := c.pairedGpuKey
      preferredGpuIndex := c.preferredGpuIndex
      maxRuntimeSeconds := c.maxRuntimeSeconds
      maxLogStallSeconds := c.maxLogStallSeconds }

def pathChecks (label value : String) : List (Bool × Error) :=
  textChecks label value ++
  [(isAbsolutePath value, valueError s!"queued {label} must be absolute")]

/-- The environment loop: every row against the name before it. -/
def environmentChecks : Option String → List (String × String) → List (Bool × Error)
  | _, [] => []
  | prior, (name, value) :: rest =>
    textChecks "queued environment name" name ++
    [(!name.toList.contains '=' && !hasNul value,
       valueError "queued environment contains an invalid entry"),
     (prior.all fun before => decide (before < name),
       valueError "queued environment must be uniquely sorted by name")] ++
    environmentChecks (some name) rest

/-- The checks of `QueuedCommandSpec.__post_init__`, in source order. -/
def checks (c : QueuedCommand) : List (Bool × Error) :=
  textChecks "queued cell ID" c.cellId ++
  [(decide (0 < c.attempt), valueError "queued attempt must be a positive integer"),
   (!c.argv.isEmpty && c.argv.all (· ≠ ""),
     valueError "queued argv must be a non-empty tuple of strings")] ++
  textChecks "launch compatibility key" c.launchCompatibilityKey ++
  [(decide (0 < c.requiredGpuCount), valueError "required GPU count must be a positive integer"),
   (decide (c.timingClass = .headline → c.requiredGpuCount = 1),
     valueError "headline cells must be complete single-GPU cells")] ++
  pathChecks "monitored path" c.monitoredPath ++
  pathChecks "log path" c.logPath ++
  pathChecks "expected terminal path" c.expectedTerminalPath ++
  pathChecks "expected JUnit path" c.expectedJunitPath ++
  pathChecks "expected raw-log path" c.expectedRawLogPath ++
  pathChecks "atomic pointer path" c.atomicPointerPath ++
  pathChecks "child exit-receipt path" c.childExitReceiptPath ++
  [(decide c.evidencePaths.Nodup, valueError "queued command evidence paths must be distinct")] ++
  environmentChecks none c.environment ++
  [(c.environment.all fun row => row.1 ≠ "CUDA_VISIBLE_DEVICES",
     valueError "CUDA_VISIBLE_DEVICES is assigned only by the scheduler")] ++
  (c.pairedGpuKey.toList.flatMap (textChecks "paired GPU key")) ++
  [(decide (c.preferredGpuIndex.isSome = true → c.requiredGpuCount = 1),
     valueError "preferred GPU index applies only to single-GPU commands"),
   (c.pairedGpuKey.isNone == c.preferredGpuIndex.isNone,
     valueError "paired GPU key and preferred GPU index must be present together"),
   (decide (0 < c.maxRuntimeSeconds),
     valueError "queued maximum runtime must be a positive integer"),
   (decide (0 < c.maxLogStallSeconds),
     valueError "queued maximum log stall must be a positive integer"),
   (decide (c.maxLogStallSeconds ≤ c.maxRuntimeSeconds),
     valueError "queued log-stall limit exceeds maximum runtime")]

end QueuedCommand

/-- `QueuedCommandSpec`: a command that passed its `__post_init__`. -/
structure QueuedCommandSpec where
  val : QueuedCommand
  property : requireAll val.checks = .ok ()
deriving DecidableEq

namespace QueuedCommandSpec

def key (c : QueuedCommandSpec) : AttemptKey := c.val.key

theorem requiredGpuCount_pos (c : QueuedCommandSpec) : 0 < c.val.requiredGpuCount := by
  have h := requireAll_eq_ok.mp c.property (decide (0 < c.val.requiredGpuCount),
    valueError "required GPU count must be a positive integer") (by simp [QueuedCommand.checks])
  simpa using h

/-- A headline command runs on one GPU. -/
theorem requiredGpuCount_of_headline (c : QueuedCommandSpec)
    (h : c.val.timingClass = .headline) : c.val.requiredGpuCount = 1 := by
  have hc := requireAll_eq_ok.mp c.property (decide (c.val.timingClass = .headline →
    c.val.requiredGpuCount = 1), valueError "headline cells must be complete single-GPU cells")
    (by simp [QueuedCommand.checks])
  exact of_decide_eq_true hc h

end QueuedCommandSpec

/-! ## Attempts -/

/-- The fields of `CellAttemptSpec`. -/
structure CellAttempt where
  cellId : String
  attempt : Nat
  stage : String
  phase : String
  block : Option String
  seed : Option Int
  scientificAxes : String
  identity : Identity
  commandSha256 : Digest
  outputDirectory : String
  scientificCommandSha256 : Option Digest := none

namespace CellAttempt

def key (a : CellAttempt) : AttemptKey := ⟨a.cellId, a.attempt⟩

/-- The checks of `CellAttemptSpec.__post_init__`, in source order. -/
def checks (a : CellAttempt) : List (Bool × Error) :=
  textChecks "cell_id" a.cellId ++ textChecks "stage" a.stage ++ textChecks "phase" a.phase ++
  [(decide (0 < a.attempt), valueError "attempt must be a positive integer")] ++
  (a.block.toList.flatMap (textChecks "block")) ++
  [(a.scientificAxes != "\x7b\x7d", valueError "scientific axes cannot be empty")] ++
  textChecks "attempt output directory" a.outputDirectory ++
  [(isAbsolutePath a.outputDirectory, valueError "attempt output directory must be absolute")]

end CellAttempt

/-- `CellAttemptSpec`: an attempt that passed its `__post_init__`. -/
structure CellAttemptSpec where
  val : CellAttempt
  property : requireAll val.checks = .ok ()

def CellAttemptSpec.key (a : CellAttemptSpec) : AttemptKey := a.val.key

theorem CellAttemptSpec.attempt_pos (a : CellAttemptSpec) : 0 < a.val.attempt := by
  have h := requireAll_eq_ok.mp a.property (decide (0 < a.val.attempt),
    valueError "attempt must be a positive integer") (by simp [CellAttempt.checks])
  simpa using h

/-! ## Physical attempt groups -/

/-- `PhysicalAttemptGroupMemberSpec`. -/
structure GroupMemberSpec where
  attempt : CellAttemptSpec
  command : QueuedCommandSpec
  logicalKind : LogicalKind
  key_eq : attempt.key = command.key
  digest_eq : attempt.val.commandSha256 = command.val.commandSha256

/-- `_physical_attempt_group_kind` of the members' logical kinds. -/
def physicalAttemptGroupKind (kinds : List LogicalKind) : Except Error PhysicalGroupKind :=
  if kinds.length = 10 ∧ kinds.count .compile = 1 ∧ kinds.count .exactness = 1 ∧
      kinds.count .interference = 8 then
    .ok .preflightExactTen
  else if 2 ≤ kinds.length ∧ kinds.length ≤ 32 ∧ kinds.all (· == .serving) then
    .ok .tp1ServingSession
  else
    .error (valueError "physical attempt group coverage is not registered")

/-! ## Interference envelope -/

/-- `InterferenceEnvelope`; `_validated_gpu_uuids` and the canonical order are
its fields. -/
structure InterferenceEnvelope where
  mode : InterferenceMode
  gpuUuids : List String
  evidenceSha256 : Digest
  uuids_text : ∀ uuid ∈ gpuUuids, isNonBlank uuid = true ∧ hasNul uuid = false
  uuids_nodup : gpuUuids.Nodup
  uuids_sorted : gpuUuids = sortedSet gpuUuids
  dual_single : mode = .dualSingle → 2 ≤ gpuUuids.length
deriving DecidableEq

/-! ## Processes and terminal evidence -/

structure SpawnedProcess where
  pid : Nat
  pgid : Nat
  processStartReceiptSha256 : Option Digest
  pid_pos : 0 < pid
  pgid_pos : 0 < pgid

/-- `RecoveredProcessStart`: a validated start receipt of a session leader. -/
structure RecoveredProcessStart where
  pid : Nat
  startedNs : Int
  receiptSha256 : Digest
  pid_pos : 0 < pid
  started_pos : 0 < startedNs

/-- `pid != pgid` is refused, so the group id is the process id. -/
def RecoveredProcessStart.pgid (r : RecoveredProcessStart) : Nat := r.pid

structure WorkerHeartbeat where
  commandSha256 : Digest
  workerPid : Nat
  sequence : Nat
  observedAtNs : Int
  worker_pos : 0 < workerPid
  sequence_pos : 0 < sequence
  observed_pos : 0 < observedAtNs

structure ProcessObservation where
  pid : Nat
  alive : Bool
  observedPgid : Option Nat
  reason : String
  exitCode : Option Int

/-- Evidence files of a terminal attempt: a path and its digest, `none` where
the value is not a lowercase SHA-256. -/
abbrev EvidenceFiles := List (String × Option Digest)

/-- The two statuses of `TerminalEvidence`. -/
inductive TerminalStatus
  | complete
  | failed
deriving DecidableEq

/-- The fields of `TerminalEvidence`. -/
structure Terminal where
  status : TerminalStatus
  exitCode : Option Int
  atomicPublicationSha256 : Digest
  terminalSha256 : Option Digest
  junitSha256 : Option Digest
  rawLogSha256 : Option Digest
  evidenceFiles : EvidenceFiles
  failureClass : Option FailureClass
  failureCode : Option String
  exclusionReason : Option String
  includedInAnalysis : Bool
  startedNs : Option Int
  finishedNs : Option Int

def evidenceChecks (pathLabel digestLabel : String) (evidence : EvidenceFiles) :
    List (Bool × Error) :=
  evidence.flatMap fun row =>
    textChecks pathLabel row.1 ++
    [(row.2.isSome, valueError s!"{digestLabel} {row.1} must be a lowercase SHA-256")]

/-- The checks of `TerminalEvidence.__post_init__`, in source order. -/
def Terminal.checks (t : Terminal) : List (Bool × Error) :=
  evidenceChecks "terminal evidence path" "terminal evidence SHA-256 for" t.evidenceFiles ++
  [(t.startedNs.isNone == t.finishedNs.isNone,
     valueError "terminal timing must be both present or absent"),
   (match t.startedNs, t.finishedNs with
      | some started, some finished => decide (0 < started ∧ started < finished)
      | _, _ => true,
     valueError "terminal timing must be positive and increasing"),
   (match t.status with
      | .complete =>
        t.exitCode == some 0 && t.terminalSha256.isSome && t.junitSha256.isSome &&
          t.rawLogSha256.isSome && t.failureClass.isNone && t.failureCode.isNone &&
          t.includedInAnalysis == t.exclusionReason.isNone
      | .failed => true,
     valueError "COMPLETE terminal evidence is incomplete"),
   (match t.status with
      | .complete => true
      | .failed =>
        t.failureClass.isSome && t.failureCode.any (· ≠ "") && t.exclusionReason.any (· ≠ "") &&
          !t.includedInAnalysis,
     valueError "FAILED terminal evidence lacks classified exclusion")]

/-- `TerminalEvidence`: a terminal that passed its `__post_init__`. -/
structure TerminalEvidence where
  val : Terminal
  property : requireAll val.checks = .ok ()

/-! ## GPU time -/

/-- The three GPU-second columns. The source stores floats; here they are exact. -/
@[ext]
structure GpuSeconds where
  compute : ℚ := 0
  reserved : ℚ := 0
  billed : ℚ := 0
deriving DecidableEq

namespace GpuSeconds

instance : Zero GpuSeconds := ⟨{}⟩

instance : Add GpuSeconds :=
  ⟨fun a b => ⟨a.compute + b.compute, a.reserved + b.reserved, a.billed + b.billed⟩⟩

@[simp] theorem zero_compute : (0 : GpuSeconds).compute = 0 := rfl
@[simp] theorem zero_reserved : (0 : GpuSeconds).reserved = 0 := rfl
@[simp] theorem zero_billed : (0 : GpuSeconds).billed = 0 := rfl
@[simp] theorem add_compute (a b : GpuSeconds) : (a + b).compute = a.compute + b.compute := rfl
@[simp] theorem add_reserved (a b : GpuSeconds) : (a + b).reserved = a.reserved + b.reserved := rfl
@[simp] theorem add_billed (a b : GpuSeconds) : (a + b).billed = a.billed + b.billed := rfl

instance : AddCommMonoid GpuSeconds where
  add_assoc a b c := by ext <;> simp [add_assoc]
  zero_add a := by ext <;> simp
  add_zero a := by ext <;> simp
  add_comm a b := by ext <;> simp [add_comm]
  nsmul := nsmulRec

/-- The time of one lease on `gpus` GPUs over a number of nanoseconds; nothing
is billed by the ledger itself. -/
def lease (nanoseconds : Int) (gpus : Nat) : GpuSeconds :=
  { compute := (nanoseconds : ℚ) / 10 ^ 9 * gpus
    reserved := (nanoseconds : ℚ) / 10 ^ 9 * gpus }

/-- `_require_nonnegative_finite` of the three columns. -/
def checks (label : String) (t : GpuSeconds) : List (Bool × Error) :=
  [(decide (0 ≤ t.compute),
     valueError (label ++ "compute GPU-seconds must be non-negative")),
   (decide (0 ≤ t.reserved),
     valueError (label ++ "reserved GPU-seconds must be non-negative")),
   (decide (0 ≤ t.billed),
     valueError (label ++ "billed GPU-seconds must be non-negative"))]

end GpuSeconds

/-! ## Legacy attempts -/

structure LegacyStaleAttempt where
  spec : CellAttemptSpec
  originalStatus : String
  exclusionReason : String
  startedAtNs : Option Int
  finishedAtNs : Option Int
  exitCode : Option Int := none
  terminalSha256 : Option Digest := none
  junitSha256 : Option Digest := none
  rawLogSha256 : Option Digest := none
  evidenceFiles : EvidenceFiles := []
  gpuSeconds : GpuSeconds := 0
  original_text : isNonBlank originalStatus = true ∧ hasNul originalStatus = false
  exclusion_text : isNonBlank exclusionReason = true ∧ hasNul exclusionReason = false
  started_pos : ∀ t, startedAtNs = some t → 0 < t
  finished_pos : ∀ t, finishedAtNs = some t → 0 < t
  finished_after : ∀ t t', startedAtNs = some t → finishedAtNs = some t' → t ≤ t'
  evidence_valid : requireAll (evidenceChecks "legacy evidence path"
    "legacy evidence SHA-256 for" evidenceFiles) = .ok () := by decide
  gpu_valid : requireAll (gpuSeconds.checks "legacy ") = .ok () := by decide

/-! ## The controller's auxiliary campaigns -/

/-- `ControllerArtifactBinding`. -/
structure ArtifactBinding where
  absolutePath : String
  sha256 : Digest
deriving DecidableEq

structure AuxiliaryJobSpec where
  jobId : String
  attempt : Nat
  adoptionKey : String
  scientificAxes : String
  identity : Identity
  commandSha256 : Digest
  outputDirectory : String
deriving DecidableEq

/-- The checks of `AuxiliaryJobSpec.__post_init__`, in source order. -/
def AuxiliaryJobSpec.checks (job : AuxiliaryJobSpec) : List (Bool × Error) :=
  textChecks "auxiliary job ID" job.jobId ++
  [(decide (0 < job.attempt), valueError "auxiliary job attempt must be a positive integer")] ++
  textChecks "auxiliary adoption key" job.adoptionKey ++
  [(job.scientificAxes != "\x7b\x7d", valueError "auxiliary scientific axes cannot be empty")] ++
  textChecks "auxiliary output directory" job.outputDirectory ++
  [(isAbsolutePath job.outputDirectory,
    valueError "auxiliary output directory must be absolute and normalized")]

/-- `AuxiliaryPhysicalGroupSpec`; the checks of its jobs and the cross-field checks
of its `__post_init__` are fields. -/
structure AuxiliaryGroupSpec where
  groupId : String
  attempt : Nat
  node : String
  sourceKind : String
  jobs : List AuxiliaryJobSpec
  assignedGpuUuids : List String
  launchCommandSha256 : Digest
  outputDirectory : String
  attempt_pos : 0 < attempt
  jobs_ne : jobs ≠ []
  jobs_checks : ∀ job ∈ jobs, requireAll job.checks = .ok ()
  jobs_sorted : jobs.Pairwise fun a b => a.jobId < b.jobId
  jobs_attempt : ∀ job ∈ jobs, job.attempt = attempt
  adoption_nodup : (jobs.map (·.adoptionKey)).Nodup
  output_nodup : (jobs.map (·.outputDirectory)).Nodup
  uuids_ne : assignedGpuUuids ≠ []
  uuids_text : ∀ uuid ∈ assignedGpuUuids, isNonBlank uuid = true ∧ hasNul uuid = false
  uuids_nodup : assignedGpuUuids.Nodup

/-- `AuxiliaryGroupTerminal`: the publication, the evidence of each job and the
GPU time of the campaign. -/
structure AuxiliaryGroupTerminal where
  publication : ArtifactBinding
  terminals : List (String × TerminalEvidence)
  gpuSeconds : GpuSeconds
  terminals_ne : terminals ≠ []
  keys_nodup : (terminals.map (·.1)).Nodup
  one_publication :
    ∀ a ∈ terminals, ∀ b ∈ terminals,
      a.2.val.atomicPublicationSha256 = b.2.val.atomicPublicationSha256
  gpu_valid : requireAll (gpuSeconds.checks "auxiliary ") = .ok ()
  reserved_covers : gpuSeconds.compute ≤ gpuSeconds.reserved

structure AuxiliaryCellAdoption where
  jobId : String
  jobAttempt : Nat
  adoptionKey : String
  attempt : CellAttemptSpec

/-! ## Stage plan -/

structure StagePlanEntry where
  node : String
  ordinal : Nat
  stage : String
  phase : String
  expectedFormula : String
  knownExpectedCells : Option Nat
deriving DecidableEq

/-! ## Recovery evidence of a cleared STOP -/

/-- One process row of `_require_running_recovery_evidence_locked`. -/
structure RecoveryProcess where
  key : AttemptKey
  commandSha256 : Digest
  pid : Option Nat
  pgid : Option Nat
  processStartReceiptSha256 : Option Digest
  coveredAttempts : List AttemptKey

/-- The group row of `_require_auxiliary_running_recovery_evidence_locked`. -/
structure RecoveryAuxiliaryGroup where
  groupId : String
  attempt : Nat
  node : String
  commandSha256 : Digest
  pid : Option Nat
  pgid : Option Nat
  processStartReceiptSha256 : Option Digest
  heartbeatCommandSha256 : Digest
  heartbeatSequence : Nat

/-- The `mode` of a recovery envelope. -/
inductive RecoveryMode
  | freshChildHeartbeat
  | manualOperatorEvidence
deriving DecidableEq

/-- The recovery evidence mapping: one of the two envelopes whose field sets
are accepted, or any other mapping. -/
inductive RecoveryEvidence
  | running (mode : RecoveryMode) (stopReason : String) (verifiedAtNs : Int)
      (processes : List RecoveryProcess) (heartbeatObservations : Nat)
      (manualEvidence : Option ArtifactBinding)
  | auxiliary (stopReason : String) (verifiedAtNs : Int) (group : RecoveryAuxiliaryGroup)
  | other

end Operator

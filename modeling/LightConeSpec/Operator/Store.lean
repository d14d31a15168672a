import LightConeSpec.Operator.Types
import Mathlib.Data.List.MinMax
import Mathlib.Data.Prod.Lex

/-!
# The durable operator store: tables and queries

The tables of the SQLite schema of `experiment_operator.py` that the modelled
operations read or write, as lists of rows in insertion order, and the queries
over them. `SELECT .. WHERE` is a filter, `UPDATE .. WHERE` a map with a
condition, and a unique index is a check on insertion.

The tables of watchdog events, metrics, selection decisions, archive
checkpoints and provider samples are not read by these operations.
-/

namespace Operator

open Python

/-! ## Rows -/

/-- A row of `stage_plan`. -/
abbrev PlanRow := StagePlanEntry

/-- A row of `controller_nodes`; `expected_cell_ids_sha256` and the count are
those of `expectedCellIds`. -/
structure NodeRow where
  node : String
  ordinal : Nat
  state : NodeState := .unmaterialized
  materialization : Option ArtifactBinding := none
  nodeMaterialization : Option ArtifactBinding := none
  executionSource : Option ArtifactBinding := none
  preparedLaunch : Option ArtifactBinding := none
  decision : Option ArtifactBinding := none
  completion : Option ArtifactBinding := none
  expectedCellIds : Option (List String) := none
  auxiliarySources : List (String × ArtifactBinding) := []
  blockerReason : Option String := none

/-- A row of `controller_auxiliary_groups`. -/
structure AuxGroupRow where
  groupId : String
  attempt : Nat
  node : String
  sourceKind : String
  launchCommandSha256 : Digest
  outputDirectory : String
  assignedGpuUuids : List String
  status : GroupStatus := .pending
  pid : Option Nat := none
  pgid : Option Nat := none
  processStartReceiptSha256 : Option Digest := none
  heartbeatAtNs : Option Int := none
  heartbeatSequence : Nat := 0
  lastLogSizeBytes : Option Int := none
  lastLogGrowthNs : Option Int := none
  terminationReason : Option String := none
  termSentAtNs : Option Int := none
  killSentAtNs : Option Int := none
  startedAtNs : Option Int := none
  finishedAtNs : Option Int := none
  publication : Option ArtifactBinding := none
  failureCode : Option String := none
  failureClass : Option String := none
  exclusionReason : Option String := none
  gpuSeconds : GpuSeconds := 0
  adoptedAtNs : Option Int := none

/-- A row of `controller_auxiliary_jobs`. -/
structure AuxJobRow where
  groupId : String
  groupAttempt : Nat
  jobId : String
  jobAttempt : Nat
  adoptionKey : String
  memberOrdinal : Nat
  scientificAxes : String
  identity : Identity
  commandSha256 : Digest
  outputDirectory : String
  status : GroupStatus := .pending
  exitCode : Option Int := none
  terminalSha256 : Option Digest := none
  junitSha256 : Option Digest := none
  rawLogSha256 : Option Digest := none
  evidenceFiles : EvidenceFiles := []
  failureClass : Option FailureClass := none
  failureCode : Option String := none
  includedInAnalysis : Bool := false
  exclusionReason : Option String := none
  evidenceStartedAtNs : Option Int := none
  evidenceFinishedAtNs : Option Int := none
  adoptedCell : Option AttemptKey := none

/-- A row of `cell_attempts`. -/
structure AttemptRow where
  cellId : String
  attempt : Nat
  stage : String
  phase : String
  blockId : Option String
  seed : Option Int
  scientificAxes : String
  identity : Identity
  isLegacyImport : Bool := false
  status : AttemptStatus := .pending
  commandSha256 : Digest
  scientificCommandSha256 : Option Digest
  outputDirectory : String
  assignedGpuUuids : List String := []
  pid : Option Nat := none
  pgid : Option Nat := none
  processStartReceiptSha256 : Option Digest := none
  startedAtNs : Option Int := none
  finishedAtNs : Option Int := none
  heartbeatAtNs : Option Int := none
  heartbeatSequence : Nat := 0
  lastLogSizeBytes : Option Int := none
  lastLogGrowthNs : Option Int := none
  terminationReason : Option String := none
  terminationRequestedAtNs : Option Int := none
  termSentAtNs : Option Int := none
  killSentAtNs : Option Int := none
  exitCode : Option Int := none
  terminalSha256 : Option Digest := none
  junitSha256 : Option Digest := none
  rawLogSha256 : Option Digest := none
  evidenceFiles : EvidenceFiles := []
  failureCode : Option String := none
  retryDecision : Option String := none
  includedInAnalysis : Bool := false
  exclusionReason : Option String := none
  gpuSeconds : GpuSeconds := 0
  updatedAtNs : Int
deriving DecidableEq

def AttemptRow.key (r : AttemptRow) : AttemptKey := ⟨r.cellId, r.attempt⟩

/-- A row of `physical_attempt_groups`. -/
structure GroupRow where
  groupId : String
  leader : AttemptKey
  status : GroupStatus := .pending
  sharedEvidenceSha256 : Option Digest := none

/-- A row of `physical_attempt_group_members`. -/
structure MemberRow where
  groupId : String
  key : AttemptKey
  logicalKind : LogicalKind
  memberOrdinal : Nat

/-! ## The store -/

/-- The tables, and the `operator_meta` values that are read back. An absent
`dispatch_state` reads as `RUN`, an empty stop reason as `None`. -/
structure Store where
  stagePlan : List PlanRow := []
  nodes : List NodeRow := []
  auxGroups : List AuxGroupRow := []
  auxJobs : List AuxJobRow := []
  attempts : List AttemptRow := []
  queue : List QueuedCommandSpec := []
  groups : List GroupRow := []
  members : List MemberRow := []
  dispatchState : DispatchState := .run
  dispatchStopReason : Option String := none
  recoveryEvidence : Option RecoveryEvidence := none
  envelope : Option InterferenceEnvelope := none
  lastLaunchCompatibilityKey : Option String := none

/-- A freshly created database. -/
def Store.empty : Store := {}

variable (s : Store) (groupId : String) (key : AttemptKey)

namespace Store

/-! ## Stage plan and controller nodes -/

def planFor (stage phase : String) : Option PlanRow :=
  s.stagePlan.find? fun row => row.stage = stage ∧ row.phase = phase

def planOfNode (node : String) : Option PlanRow :=
  s.stagePlan.find? fun row => row.node = node

/-- `COUNT(DISTINCT cell_id)` of the non-legacy attempts of a stage. -/
def materializedCells (stage phase : String) : Nat :=
  ((s.attempts.filter fun row =>
    row.stage = stage ∧ row.phase = phase ∧ row.isLegacyImport = false).map
      (·.cellId)).dedup.length

def requireControllerNode (node : String) : Except Error NodeRow := do
  requireText "controller node" node
  match s.nodes.find? fun row => row.node = node with
  | some row => pure row
  | none => .error (keyError s!"unknown controller node '{node}'")

/-- Some node before `ordinal` is not `REDUCED`. -/
def hasIncompletePrior (ordinal : Nat) : Bool :=
  s.nodes.any fun row => decide (row.ordinal < ordinal ∧ row.state ≠ .reduced)

/-- `UPDATE controller_nodes .. WHERE node = ?`. -/
def updateNode (node : String) (f : NodeRow → NodeRow) : Store :=
  { s with nodes := s.nodes.map fun row => if row.node = node then f row else row }

/-! ## Auxiliary groups -/

/-- `_require_controller_auxiliary_group`. -/
def requireAuxGroup (attempt : Nat) : Except Error AuxGroupRow := do
  requireText "controller auxiliary group ID" groupId
  match s.auxGroups.find? fun row => row.groupId = groupId ∧ row.attempt = attempt with
  | some row => pure row
  | none => .error (keyError s!"unknown controller auxiliary group '{groupId}'/{attempt}")

/-- The jobs of a group, by ordinal. -/
def auxJobsOf (attempt : Nat) : List AuxJobRow :=
  sortedBy (·.memberOrdinal)
    (s.auxJobs.filter fun row => row.groupId = groupId ∧ row.groupAttempt = attempt)

/-- The latest attempt of a node's auxiliary campaign. -/
def latestAuxGroup (node : String) : Option AuxGroupRow :=
  (s.auxGroups.filter fun row => row.node = node).argmax (·.attempt)

/-- `UPDATE controller_auxiliary_groups .. WHERE group_id = ? AND attempt = ?`. -/
def updateAuxGroup (attempt : Nat) (f : AuxGroupRow → AuxGroupRow) : Store :=
  { s with auxGroups := s.auxGroups.map fun row =>
      if row.groupId = groupId ∧ row.attempt = attempt then f row else row }

/-- `UPDATE controller_auxiliary_jobs .. WHERE group_id = ? AND group_attempt = ?`. -/
def updateAuxJobs (attempt : Nat) (f : AuxJobRow → AuxJobRow) : Store :=
  { s with auxJobs := s.auxJobs.map fun row =>
      if row.groupId = groupId ∧ row.groupAttempt = attempt then f row else row }

/-- `UPDATE controller_auxiliary_jobs SET adopted_cell_id = ?, ..`. -/
def bindAdoptedCell (job : AuxJobRow) (cell : AttemptKey) : Store :=
  { s with auxJobs := s.auxJobs.map fun row =>
      if row.jobId = job.jobId ∧ row.jobAttempt = job.jobAttempt then
        { row with adoptedCell := some cell }
      else row }

/-! ## Attempts -/

def findAttempt : Option AttemptRow :=
  s.attempts.find? fun row => row.key = key

/-- `_require_attempt`, the query behind `attempt()`. -/
def requireAttempt : Except Error AttemptRow := do
  requireText "cell ID" key.cellId
  require (0 < key.attempt) (valueError "attempt must be a positive integer")
  match s.findAttempt key with
  | some row => pure row
  | none => .error (keyError s!"unknown attempt '{key.cellId}'/{key.attempt}")

/-- `SELECT .. WHERE cell_id = ? ORDER BY attempt DESC LIMIT 1`. -/
def latestAttempt (cellId : String) : Option AttemptRow :=
  (s.attempts.filter fun row => row.cellId = cellId).argmax (·.attempt)

/-- `UPDATE cell_attempts ..` on the rows of the given keys. -/
def updateAttempts (keys : List AttemptKey) (f : AttemptRow → AttemptRow) : Store :=
  { s with attempts := s.attempts.map fun row => if row.key ∈ keys then f row else row }

/-- `INSERT INTO cell_attempts`. -/
def appendAttempt (row : AttemptRow) : Store :=
  { s with attempts := s.attempts ++ [row] }

/-- The unique index `one_running_attempt_per_cell`. -/
def checkRunningIndex : Except Error Unit :=
  require ((s.attempts.filter (·.status = .running)).map (·.cellId)).Nodup
    (integrityError "UNIQUE constraint failed: cell_attempts.cell_id")

/-- The attempts that hold a `RUNNING` row. -/
def runningAttempts : List AttemptRow :=
  s.attempts.filter fun row => row.status = .running

/-- `failure_code LIKE 'INFRASTRUCTURE:%'`; SQLite's `LIKE` ignores ASCII case. -/
def isInfrastructureCode (code : String) : Bool :=
  "infrastructure:".toList.isPrefixOf (code.toList.map Char.toLower)

def infrastructureFailureCount (cellId : String) : Nat :=
  s.attempts.countP fun row =>
    decide (row.cellId = cellId ∧ row.status = .failed) && row.failureCode.any isInfrastructureCode

/-! ## Physical groups -/

def memberOf : Option MemberRow :=
  s.members.find? fun row => row.key = key

def findGroup : Option GroupRow :=
  s.groups.find? fun row => row.groupId = groupId

/-- The membership rows of a group, by ordinal. -/
def membersOf : List MemberRow :=
  sortedBy (·.memberOrdinal) (s.members.filter fun row => row.groupId = groupId)

def groupAttempts : List (LogicalKind × AttemptRow) :=
  (s.membersOf groupId).filterMap fun member =>
    (s.findAttempt member.key).map fun row => (member.logicalKind, row)

/-- `UPDATE physical_attempt_groups .. WHERE group_id = ?`. -/
def updateGroup (f : GroupRow → GroupRow) : Store :=
  { s with groups := s.groups.map fun row => if row.groupId = groupId then f row else row }

/-- `INSERT INTO physical_attempt_groups`. -/
def appendGroup (group : GroupRow) : Store :=
  { s with groups := s.groups ++ [group] }

/-- `INSERT INTO physical_attempt_group_members`. -/
def appendMember (member : MemberRow) : Store :=
  { s with members := s.members ++ [member] }

/-- What `physical_attempt_group_for_attempt` returns. -/
structure GroupView where
  group : GroupRow
  members : List MemberRow

/-- The registered kind of the group's members. -/
def GroupView.kind (view : GroupView) : Except Error PhysicalGroupKind :=
  physicalAttemptGroupKind (view.members.map (·.logicalKind))

def physicalAttemptGroupForAttempt : Except Error (Option GroupView) := do
  let _ ← s.requireAttempt key
  match s.memberOf key with
  | none => pure none
  | some member =>
    match s.findGroup member.groupId with
    | none => pure none
    | some group =>
      let view : GroupView := ⟨group, s.membersOf group.groupId⟩
      let _ ← view.kind
      pure (some view)

/-! ## The command queue -/

def queuedFor : Option QueuedCommandSpec :=
  s.queue.find? fun command => command.key = key

/-- `INSERT INTO command_queue`. -/
def appendCommand (command : QueuedCommandSpec) : Store :=
  { s with queue := s.queue ++ [command] }

/-- The order of the queue: priority first, then launch key, cell and attempt. -/
def queueOrder (command : QueuedCommandSpec) : Int ×ₗ String ×ₗ String ×ₗ Nat :=
  toLex (-command.val.priority, toLex (command.val.launchCompatibilityKey,
    toLex (command.val.cellId, command.val.attempt)))

/-- The attempt is standalone, or the leader of its group. -/
def isPhysical : Bool :=
  match s.memberOf key with
  | none => true
  | some member => (s.findGroup member.groupId).any fun group => group.leader = key

/-- `physical_commands`: standalone commands and one leader per group. -/
def physicalCommands (status : AttemptStatus) : List QueuedCommandSpec :=
  sortedBy queueOrder (s.queue.filter fun command =>
    (s.findAttempt command.key).any (fun row => row.status = status) && s.isPhysical command.key)

def physicalAttemptGroupCommands : Except Error (List QueuedCommandSpec) := do
  let rows := (s.membersOf groupId).filterMap fun member =>
    (s.queuedFor member.key).map fun command => (member.logicalKind, command)
  let _ ← physicalAttemptGroupKind (rows.map (·.1))
  pure (rows.map (·.2))

end Store

end Operator

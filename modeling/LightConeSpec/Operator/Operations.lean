import LightConeSpec.Operator.Store

/-!
# The durable operator store: operations

Every public method of `ExperimentOperatorStore` that writes one of the
modelled tables, as a function from the store to the store after its
transaction, or to the error that rolled it back. `StoreOp` names a call with
its arguments, and `Store.step` is the store after the call in both cases.

A loop over fetched rows that raises or updates row by row is a check of all
rows followed by one update: a raise in the middle rolls the earlier updates
back.
-/

namespace Operator

open Python

def validatedTime (t : Int) : Except Error Unit :=
  require (0 < t) (valueError "timestamp must be a positive integer nanosecond time")

def validatedGpuUuids (uuids : List String) : Except Error Unit := do
  forEach (requireText "GPU UUID") uuids
  require uuids.Nodup (valueError "assigned GPU UUIDs contain duplicates")

/-- The retry decision that promises another attempt. -/
def retryInfrastructureAutomatic : String := "RETRY_INFRASTRUCTURE_AUTOMATIC"

/-- The decision of a stale row. -/
def rerunUnderFrozenIdentity : String := "RERUN_UNDER_FROZEN_IDENTITY"

/-! ## Row updates -/

namespace AttemptRow

/-- The row that `_materialize_attempt_locked` inserts. -/
def ofSpec (a : CellAttempt) (now : Int) : AttemptRow where
  cellId := a.cellId
  attempt := a.attempt
  stage := a.stage
  phase := a.phase
  blockId := a.block
  seed := a.seed
  scientificAxes := a.scientificAxes
  identity := a.identity
  commandSha256 := a.commandSha256
  scientificCommandSha256 := a.scientificCommandSha256
  outputDirectory := a.outputDirectory
  updatedAtNs := now

/-- The row that `import_legacy_stale_attempts` inserts. -/
def ofLegacy (item : LegacyStaleAttempt) (now : Int) : AttemptRow :=
  { ofSpec item.spec.val now with
    isLegacyImport := true
    status := .staleIdentity
    startedAtNs := item.startedAtNs
    finishedAtNs := some ((item.finishedAtNs.orElse fun _ => item.startedAtNs).getD now)
    exitCode := item.exitCode
    terminalSha256 := item.terminalSha256
    junitSha256 := item.junitSha256
    rawLogSha256 := item.rawLogSha256
    evidenceFiles := item.evidenceFiles
    gpuSeconds := item.gpuSeconds
    retryDecision := some rerunUnderFrozenIdentity
    exclusionReason := some item.exclusionReason }

/-- The `UPDATE` of `mark_running_before_spawn` and of a group start. -/
def start (r : AttemptRow) (gpus : List String) (started : Int) : AttemptRow :=
  { r with
    status := .running
    assignedGpuUuids := gpus
    startedAtNs := some started
    heartbeatAtNs := none
    heartbeatSequence := 0
    updatedAtNs := started }

/-- The `UPDATE` of `attach_process`: metadata is written once, and a missing
receipt digest is filled in. -/
def attach (r : AttemptRow) (pid pgid : Nat) (receipt : Option Digest) (now : Int) : AttemptRow :=
  if r.pid.isSome ∨ r.pgid.isSome then
    if r.processStartReceiptSha256 = none ∧ receipt.isSome then
      { r with processStartReceiptSha256 := receipt, updatedAtNs := now }
    else r
  else
    { r with pid := some pid, pgid := some pgid, processStartReceiptSha256 := receipt,
             updatedAtNs := now }

/-- The checks of `attach_process` on one row. -/
def attachCheck (r : AttemptRow) (pid pgid : Nat) (receipt : Option Digest)
    (receiptError metadataError : String) : Except Error Unit :=
  if r.pid.isSome ∨ r.pgid.isSome then do
    require (r.pid = some pid ∧ r.pgid = some pgid) (transitionError metadataError)
    require (¬ (receipt.isSome ∧ r.processStartReceiptSha256.isSome ∧
      r.processStartReceiptSha256 ≠ receipt)) (transitionError receiptError)
  else .ok ()

/-- The log bookkeeping shared by heartbeats and runtime observations. -/
def observeLog (r : AttemptRow) (logSize : Int) (observed : Int) : AttemptRow :=
  { r with
    lastLogSizeBytes := some logSize
    lastLogGrowthNs :=
      if r.lastLogSizeBytes.all (· < logSize) then some observed else r.lastLogGrowthNs
    updatedAtNs := observed }

/-- The `UPDATE` of `record_heartbeat`. -/
def heartbeat (r : AttemptRow) (logSize : Int) (observed : Int) (sequence : Option Nat) :
    AttemptRow :=
  { r.observeLog logSize observed with
    heartbeatAtNs := some observed
    heartbeatSequence := sequence.getD (r.heartbeatSequence + 1) }

/-- The checks of `record_heartbeat` on one row after its status check. -/
def heartbeatCheck (r : AttemptRow) (logSize : Int) (observed : Int) (sequence : Option Nat) :
    Except Error Unit := do
  require (r.heartbeatAtNs.all (· < observed))
    (transitionError "heartbeat timestamps must increase monotonically")
  require (r.heartbeatSequence < sequence.getD (r.heartbeatSequence + 1))
    (transitionError "heartbeat sequence must increase monotonically")
  require (r.lastLogSizeBytes.all (· ≤ logSize))
    (transitionError "heartbeat log size cannot decrease")

/-- The `UPDATE` of `request_attempt_termination`. -/
def requestTermination (r : AttemptRow) (reason : String) (requested : Int) : AttemptRow :=
  if r.terminationReason.isSome then r
  else { r with terminationReason := some reason, terminationRequestedAtNs := some requested,
                updatedAtNs := requested }

/-- The `UPDATE` of `record_attempt_termination_signal`. -/
def recordSignal (r : AttemptRow) (signal : SignalName) (sent : Int) : AttemptRow :=
  match signal with
  | .term =>
    if r.termSentAtNs.isSome then r else { r with termSentAtNs := some sent, updatedAtNs := sent }
  | .kill =>
    if r.killSentAtNs.isSome then r else { r with killSentAtNs := some sent, updatedAtNs := sent }

/-- The `UPDATE` of `mark_stale_identity`. -/
def markStale (r : AttemptRow) (reason retryDecision : String) (marked : Int) : AttemptRow :=
  { r with
    status := .staleIdentity
    includedInAnalysis := false
    exclusionReason := some reason
    retryDecision := some retryDecision
    finishedAtNs := some (r.finishedAtNs.getD marked)
    updatedAtNs := marked }

/-- The `UPDATE` of the two operations that fail a whole group. -/
def failInfrastructure (r : AttemptRow) (failureCode retryDecision exclusionReason : String)
    (evidence : EvidenceFiles) (gpuSeconds : GpuSeconds) (finished : Int) : AttemptRow :=
  { r with
    status := .failed
    finishedAtNs := some finished
    exitCode := none
    evidenceFiles := evidence
    failureCode := some failureCode
    retryDecision := some retryDecision
    includedInAnalysis := false
    exclusionReason := some exclusionReason
    gpuSeconds := gpuSeconds
    updatedAtNs := finished }

end AttemptRow

/-- The keyword arguments of `finish_attempt`. -/
structure FinishArgs where
  status : AttemptStatus
  exitCode : Option Int := none
  terminalSha256 : Option Digest := none
  junitSha256 : Option Digest := none
  rawLogSha256 : Option Digest := none
  evidenceFiles : EvidenceFiles := []
  failureCode : Option String := none
  retryDecision : Option String := none
  includedInAnalysis : Bool := false
  exclusionReason : Option String := none
  gpuSeconds : GpuSeconds := 0
  finishedAtNs : Int

/-- The argument checks of `finish_attempt`, in source order. -/
def FinishArgs.checks (args : FinishArgs) : List (Bool × Error) :=
  [(args.status != .pending && args.status != .running,
     valueError "finish status must be terminal")] ++
  evidenceChecks "evidence file path" "evidence SHA-256 for" args.evidenceFiles ++
  args.gpuSeconds.checks "" ++
  (match args.status with
    | .complete =>
      [(args.exitCode == some 0, valueError "COMPLETE attempts require exit code zero"),
       (args.terminalSha256.isSome && args.junitSha256.isSome && args.rawLogSha256.isSome,
         valueError "COMPLETE attempts require terminal, JUnit, and raw-log SHA-256"),
       (args.failureCode.isNone && args.retryDecision.isNone,
         valueError "COMPLETE attempts cannot carry failure or retry codes"),
       (args.includedInAnalysis == args.exclusionReason.isNone,
         valueError "COMPLETE analysis inclusion and exclusion reason disagree")]
    | status =>
      [(!args.includedInAnalysis, valueError "non-complete attempts cannot enter analysis")] ++
      optionTextChecks "terminal exclusion reason" args.exclusionReason ++
      (if status = .failed ∨ status = .blocked then
        optionTextChecks "failure code" args.failureCode ++
        optionTextChecks "retry decision" args.retryDecision
      else if args.retryDecision.isSome then
        optionTextChecks "retry decision" args.retryDecision
      else []))

/-- The `UPDATE` of `finish_attempt`. -/
def AttemptRow.finish (r : AttemptRow) (args : FinishArgs) : AttemptRow :=
  { r with
    status := args.status
    finishedAtNs := some args.finishedAtNs
    exitCode := args.exitCode
    terminalSha256 := args.terminalSha256
    junitSha256 := args.junitSha256
    rawLogSha256 := args.rawLogSha256
    evidenceFiles := args.evidenceFiles
    failureCode := args.failureCode
    retryDecision := args.retryDecision
    includedInAnalysis := args.includedInAnalysis
    exclusionReason := args.exclusionReason
    gpuSeconds := args.gpuSeconds
    updatedAtNs := args.finishedAtNs }

def TerminalStatus.attemptStatus : TerminalStatus → AttemptStatus
  | .complete => .complete
  | .failed => .failed

/-- The retry decision of a failed member in `finish_physical_attempt_group`. -/
def groupRetryDecision (kind : PhysicalGroupKind) (automatic : Bool) (cls : FailureClass) :
    String :=
  if kind = .preflightExactTen then "NO_BLIND_GROUP_RETRY"
  else if cls = .infrastructure ∧ automatic then retryInfrastructureAutomatic
  else if cls = .infrastructure then "NO_RETRY_BUILDER_OR_LIMIT"
  else "NO_SCIENTIFIC_RETRY"

/-- What `finish_physical_attempt_group` writes to the row of one member, as
the arguments of the same `UPDATE` that finishes a single attempt. -/
def groupFinishArgs (kind : PhysicalGroupKind) (automatic : Bool) (terminal : Terminal)
    (gpuSeconds : GpuSeconds) (finished : Int) : FinishArgs where
  status := terminal.status.attemptStatus
  exitCode := terminal.exitCode
  terminalSha256 := terminal.terminalSha256
  junitSha256 := terminal.junitSha256
  rawLogSha256 := terminal.rawLogSha256
  evidenceFiles := terminal.evidenceFiles
  failureCode := match terminal.status, terminal.failureClass with
    | .failed, some cls => some (cls.text ++ ":" ++ terminal.failureCode.getD "None")
    | _, _ => none
  retryDecision := match terminal.status, terminal.failureClass with
    | .failed, some cls => some (groupRetryDecision kind automatic cls)
    | _, _ => none
  includedInAnalysis := terminal.includedInAnalysis
  exclusionReason := terminal.exclusionReason
  gpuSeconds := gpuSeconds
  finishedAtNs := finished

/-- The retry decision of the two operations that fail a whole group. -/
def groupFailureDecision (kind : PhysicalGroupKind) (automatic : Bool) : String :=
  if kind = .preflightExactTen then "NO_BLIND_GROUP_RETRY"
  else if automatic then retryInfrastructureAutomatic
  else "NO_RETRY_BUILDER_OR_LIMIT"

namespace Store

/-! ## Materialisation and the queue -/

variable (s : Store)

def checkFirstAttempt (a : CellAttempt) : Except Error Unit := do
  require (a.attempt = 1) (transitionError "first materialized attempt must be 1")
  require (((s.planFor a.stage a.phase).bind (·.knownExpectedCells)).all fun known =>
      decide (s.materializedCells a.stage a.phase < known))
    (operatorError "materialization would exceed known stage coverage")

/-- The checks of an attempt after `latest`. -/
def checkRetry (latest : AttemptRow) (a : CellAttempt) : Except Error Unit := do
  require (a.attempt = latest.attempt + 1)
    (transitionError s!"next attempt for '{a.cellId}' must be {latest.attempt + 1}")
  require (latest.status = .failed ∨ latest.status = .blocked ∨ latest.status = .staleIdentity)
    (transitionError "a retry requires a failed, blocked, or stale prior attempt")
  require (latest.stage = a.stage ∧ latest.phase = a.phase ∧ latest.blockId = a.block ∧
      latest.seed = a.seed ∧ latest.scientificAxes = a.scientificAxes)
    (transitionError "a retry cannot change stage, block, seed, or scientific axes")
  require (¬ ((latest.status = .failed ∨ latest.status = .blocked) ∧
      (latest.identity ≠ a.identity ∨
        latest.scientificCommandSha256 ≠ a.scientificCommandSha256)))
    (transitionError "an infrastructure retry cannot change scientific identity")
  require (¬ (latest.commandSha256 ≠ a.commandSha256 ∧ latest.status ≠ .staleIdentity ∧
      (latest.status ≠ .failed ∨
        ¬ (latest.failureCode.any fun code =>
            "INFRASTRUCTURE:".toList.isPrefixOf code.toList) = true ∨
        latest.retryDecision ≠ some retryInfrastructureAutomatic ∨
        a.scientificCommandSha256 = none)))
    (transitionError ("a changed retry command requires sealed infrastructure failure " ++
      "and stable path-independent scientific identity"))

def checkPredecessor (a : CellAttempt) : Except Error Unit :=
  match s.latestAttempt a.cellId with
  | none => s.checkFirstAttempt a
  | some latest => checkRetry latest a

/-- `INSERT INTO cell_attempts` with its two unique indexes. -/
def insertAttempt (row : AttemptRow) (error : Error) : Except Error Store := do
  require (∀ r ∈ s.attempts, r.key ≠ row.key ∧ r.outputDirectory ≠ row.outputDirectory) error
  pure (s.appendAttempt row)

def materializeAttemptLocked (spec : CellAttemptSpec) (now : Int) : Except Error Store := do
  require ((s.planFor spec.val.stage spec.val.phase).isSome)
    (keyError s!"unknown stage/phase {spec.val.stage}/{spec.val.phase}")
  s.checkPredecessor spec.val
  s.insertAttempt (AttemptRow.ofSpec spec.val now)
    (operatorError "attempt identity or output directory is already registered")

def materializeAttempt (spec : CellAttemptSpec) (now : Int) : Except Error Store := do
  validatedTime now
  s.materializeAttemptLocked spec now

def enqueueCommandLocked (command : QueuedCommandSpec) : Except Error Store := do
  let row ← s.requireAttempt command.key
  require (row.status = .pending) (transitionError "only PENDING attempts may be queued")
  require (row.commandSha256 = command.val.commandSha256)
    (transitionError "queued argv differs from materialized command SHA-256")
  require (∀ queued ∈ s.queue, queued.key ≠ command.key)
    (operatorError "command attempt is already queued")
  pure (s.appendCommand command)

def enqueueCommand (command : QueuedCommandSpec) (enqueued : Int) : Except Error Store := do
  validatedTime enqueued
  s.enqueueCommandLocked command

def materializeMembers (s : Store) (now : Int) : List GroupMemberSpec → Except Error Store
  | [] => pure s
  | member :: rest => do
    let s ← s.materializeAttemptLocked member.attempt now
    s.materializeMembers now rest

def insertMembers (s : Store) (groupId : String) : Nat → List GroupMemberSpec → Except Error Store
  | _, [] => pure s
  | ordinal, member :: rest => do
    require (∀ row ∈ s.members, row.key ≠ member.attempt.key)
      (integrityError "UNIQUE constraint failed: physical_attempt_group_members")
    let s := s.appendMember ⟨groupId, member.attempt.key, member.logicalKind, ordinal⟩
    let s ← s.enqueueCommandLocked member.command
    s.insertMembers groupId (ordinal + 1) rest

def checkGroupResources (members : List GroupMemberSpec) : PhysicalGroupKind → Except Error Unit
  | .preflightExactTen =>
    require (∀ m ∈ members, m.attempt.val.stage = "preflight" ∧ m.attempt.val.phase = "final" ∧
        m.command.val.requiredGpuCount = 2 ∧ m.command.val.timingClass = .exclusive)
      (valueError "preflight physical attempt group requires final dual-GPU exclusive rows")
  | .tp1ServingSession =>
    require (∀ m ∈ members, m.command.val.requiredGpuCount = 1 ∧
        m.command.val.timingClass = .headline)
      (valueError "TP1 serving session group requires single-GPU headline rows")

/-- The argument checks of `materialize_physical_attempt_group`. -/
def checkGroupMembers (members : List GroupMemberSpec) (leaderCellId : String)
    (kind : PhysicalGroupKind) : Except Error Unit := do
  let keys := members.map (·.attempt.key)
  require (kind = .preflightExactTen →
      members.length = 10 ∧ keys.Pairwise fun a b =>
        a.cellId < b.cellId ∨ (a.cellId = b.cellId ∧ a.attempt < b.attempt))
    (valueError "preflight physical attempt group requires ten uniquely sorted members")
  require keys.Nodup (valueError "physical attempt group members must be unique")
  let inferred ← physicalAttemptGroupKind (members.map (·.logicalKind))
  require (inferred = kind) (valueError "physical attempt group kind differs from its coverage")
  require ((members.head?.map (·.attempt.val.cellId)) = some leaderCellId)
    (valueError "physical attempt group leader must be canonical first member")
  require ((members.map fun m => (m.attempt.val.stage, m.attempt.val.phase)).dedup.length = 1)
    (valueError "physical attempt group cannot cross stage/phase")
  checkGroupResources members kind
  require ((members.map (·.attempt.val.attempt)).dedup.length = 1 ∧
      (members.map (·.command.val.commandSha256)).dedup.length = 1 ∧
      (members.map (·.command.val.launchCompatibilityKey)).dedup.length = 1)
    (valueError "physical attempt group members must share attempt, command, and launch key")

/-- `_require_physical_group_matches_locked`. -/
def requirePhysicalGroupMatches (group : GroupRow) (members : List GroupMemberSpec)
    (leaderCellId : String) : Except Error Unit := do
  require (group.leader.cellId = leaderCellId ∧
      (members.head?.map (·.attempt.val.attempt)) = some group.leader.attempt)
    (operatorError "durable physical attempt group leader differs")
  require ((s.membersOf group.groupId).map (fun row => (row.key, row.logicalKind, row.memberOrdinal))
      = members.zipIdx.map fun m => (m.1.attempt.key, m.1.logicalKind, m.2))
    (operatorError "durable physical attempt group membership differs")
  forEach (fun member : GroupMemberSpec => do
    let row ← s.requireAttempt member.attempt.key
    require (row.stage = member.attempt.val.stage ∧ row.phase = member.attempt.val.phase ∧
        row.blockId = member.attempt.val.block ∧ row.seed = member.attempt.val.seed ∧
        row.scientificAxes = member.attempt.val.scientificAxes ∧
        row.identity = member.attempt.val.identity ∧
        row.commandSha256 = member.attempt.val.commandSha256 ∧
        row.scientificCommandSha256 = member.attempt.val.scientificCommandSha256 ∧
        row.outputDirectory = member.attempt.val.outputDirectory)
      (operatorError "durable physical attempt group attempt differs")
    require (s.queuedFor member.attempt.key = some member.command)
      (operatorError "durable physical attempt group command differs")) members

variable (spec : AuxiliaryGroupSpec) (groupId : String) (key : AttemptKey)

def materializePhysicalAttemptGroup (members : List GroupMemberSpec) (leaderCellId : String)
    (kind : PhysicalGroupKind) (materialized : Int) : Except Error Store := do
  requireText "physical attempt group ID" groupId
  requireText "physical attempt group leader" leaderCellId
  checkGroupMembers members leaderCellId kind
  validatedTime materialized
  match s.findGroup groupId with
  | some existing => do
    s.requirePhysicalGroupMatches existing members leaderCellId
    pure s
  | none => do
    let s ← s.materializeMembers materialized members
    let leaderAttempt := (members.head?.map (·.attempt.val.attempt)).getD 0
    let s := s.appendGroup { groupId := groupId, leader := ⟨leaderCellId, leaderAttempt⟩ }
    s.insertMembers groupId 0 members

/-- The loop of `import_legacy_stale_attempts`. -/
def importLegacyLoop (s : Store) (now : Int) : List LegacyStaleAttempt → Except Error Store
  | [] => pure s
  | item :: rest => do
    require ((s.planFor item.spec.val.stage item.spec.val.phase).isSome)
      (keyError s!"unknown stage/phase {item.spec.val.stage}/{item.spec.val.phase}")
    let s ← s.insertAttempt (AttemptRow.ofLegacy item now)
      (operatorError "legacy attempt key or output directory is already registered")
    s.importLegacyLoop now rest

def importLegacyStaleAttempts (items : List LegacyStaleAttempt) (now : Int) :
    Except Error Store := do
  require (items ≠ []) (valueError "legacy stale import cannot be empty")
  require (items.map (·.spec.key)).Nodup
    (valueError "legacy stale import contains duplicate attempt keys")
  validatedTime now
  s.importLegacyLoop now items

/-! ## Starting -/

def markRunningBeforeSpawn (gpus : List String) (started : Int) : Except Error Store := do
  validatedGpuUuids gpus
  validatedTime started
  let row ← s.requireAttempt key
  require (row.status = .pending)
    (transitionError s!"attempt must be PENDING before spawn, got {row.status.text}")
  let s := s.updateAttempts [key] fun r => r.start gpus started
  s.checkRunningIndex
  pure s

/-- The first transaction of `start_physical_attempt_group_with_launcher`. -/
def startPhysicalAttemptGroup (gpus : List String) (started : Int) : Except Error Store := do
  requireText "physical attempt group ID" groupId
  validatedGpuUuids gpus
  validatedTime started
  match s.findGroup groupId with
  | none => .error (keyError s!"unknown physical attempt group '{groupId}'")
  | some group => do
    require (group.status = .pending)
      (transitionError "physical attempt group must be PENDING before spawn")
    let rows := s.groupAttempts groupId
    let kind ← physicalAttemptGroupKind (rows.map (·.1))
    require (∀ row ∈ rows, row.2.status = .pending)
      (transitionError "physical attempt group logical rows are not all PENDING")
    require (gpus.length = if kind = .preflightExactTen then 2 else 1)
      (valueError "physical attempt group GPU assignment differs from group kind")
    let s := s.updateAttempts (rows.map (·.2.key)) fun r => r.start gpus started
    s.checkRunningIndex
    pure (s.updateGroup groupId fun g => { g with status := .running })

/-! ## Process metadata, heartbeats and observations -/

def attachProcess (pid pgid : Nat) (receipt : Option Digest) (now : Int) : Except Error Store := do
  require (0 < pid) (valueError "PID must be a positive integer")
  require (0 < pgid) (valueError "PGID must be a positive integer")
  validatedTime now
  let row ← s.requireAttempt key
  require (row.status = .running) (transitionError "process metadata requires RUNNING status")
  row.attachCheck pid pgid receipt "process start receipt digest is immutable"
    "attempt process metadata is immutable"
  pure (s.updateAttempts [key] fun r => r.attach pid pgid receipt now)

def attachPhysicalAttemptGroupProcess (pid pgid : Nat) (receipt : Option Digest) (now : Int) :
    Except Error Store := do
  requireText "physical attempt group ID" groupId
  require (0 < pid) (valueError "PID must be a positive integer")
  require (0 < pgid) (valueError "PGID must be a positive integer")
  validatedTime now
  require ((s.findGroup groupId).any fun group => group.status = .running)
    (transitionError "physical group process metadata requires RUNNING status")
  let rows := s.groupAttempts groupId
  let _ ← physicalAttemptGroupKind (rows.map (·.1))
  require (∀ row ∈ rows, row.2.status = .running)
    (transitionError "physical group process metadata lacks all RUNNING rows")
  forEach (fun row : LogicalKind × AttemptRow => row.2.attachCheck pid pgid receipt
    "physical group start receipt digest is immutable"
    "physical group process metadata is immutable") rows
  pure (s.updateAttempts (rows.map (·.2.key)) fun r => r.attach pid pgid receipt now)

/-- `record_heartbeat`; `gpuObservation` says whether the GPU mapping is
canonical and not empty. -/
def recordHeartbeat (pid pgid : Nat) (logSize : Int) (gpuObservation : Bool) (observed : Int)
    (sequence : Option Nat) : Except Error Store := do
  require (0 ≤ logSize) (valueError "heartbeat log size must be non-negative")
  require (gpuObservation = true) (valueError "GPU observation cannot be empty")
  validatedTime observed
  let row ← s.requireAttempt key
  require (row.status = .running) (transitionError "heartbeat requires RUNNING status")
  require (row.pid = some pid ∧ row.pgid = some pgid)
    (transitionError "heartbeat PID/PGID differs from assignment")
  row.heartbeatCheck logSize observed sequence
  pure (s.updateAttempts [key] fun r => r.heartbeat logSize observed sequence)

def recordPhysicalAttemptGroupHeartbeat (pid pgid : Nat) (logSize : Int) (gpuObservation : Bool)
    (observed : Int) (sequence : Option Nat) : Except Error Store := do
  requireText "physical attempt group ID" groupId
  require (0 ≤ logSize) (valueError "heartbeat log size must be non-negative")
  require (gpuObservation = true) (valueError "GPU observation cannot be empty")
  validatedTime observed
  let rows := s.groupAttempts groupId
  let _ ← physicalAttemptGroupKind (rows.map (·.1))
  forEach (fun row : LogicalKind × AttemptRow => do
    require (row.2.status = .running ∧ row.2.pid = some pid ∧ row.2.pgid = some pgid)
      (transitionError "physical group heartbeat differs from RUNNING parent")
    row.2.heartbeatCheck logSize observed sequence) rows
  pure (s.updateAttempts (rows.map (·.2.key)) fun r => r.heartbeat logSize observed sequence)

def recordRuntimeObservation (pid pgid : Nat) (logSize : Int) (gpuObservation : Bool)
    (observed : Int) : Except Error Store := do
  require (0 ≤ logSize) (valueError "runtime observation log size must be non-negative")
  require (gpuObservation = true) (valueError "GPU observation cannot be empty")
  validatedTime observed
  let row ← s.requireAttempt key
  require (row.status = .running ∧ row.pid = some pid ∧ row.pgid = some pgid)
    (transitionError "runtime observation differs from RUNNING assignment")
  require (row.lastLogSizeBytes.all (· ≤ logSize))
    (transitionError "runtime observation log size decreased")
  pure (s.updateAttempts [key] fun r => r.observeLog logSize observed)

def recordPhysicalAttemptGroupRuntimeObservation (pid pgid : Nat) (logSize : Int)
    (gpuObservation : Bool) (observed : Int) : Except Error Store := do
  requireText "physical attempt group ID" groupId
  require (0 ≤ logSize) (valueError "runtime observation log size must be non-negative")
  require (gpuObservation = true) (valueError "GPU observation cannot be empty")
  validatedTime observed
  let rows := s.groupAttempts groupId
  let _ ← physicalAttemptGroupKind (rows.map (·.1))
  forEach (fun row : LogicalKind × AttemptRow => do
    require (row.2.status = .running ∧ row.2.pid = some pid ∧ row.2.pgid = some pgid)
      (transitionError "physical group runtime observation differs from parent")
    require (row.2.lastLogSizeBytes.all (· ≤ logSize))
      (transitionError "physical group runtime observation log size decreased")) rows
  pure (s.updateAttempts (rows.map (·.2.key)) fun r => r.observeLog logSize observed)

/-! ## Termination bookkeeping -/

def leaseRows (row : AttemptRow) : List AttemptRow :=
  match s.memberOf row.key with
  | none => [row]
  | some member =>
    match s.findGroup member.groupId with
    | none => [row]
    | some group => (s.groupAttempts group.groupId).map (·.2)

def requestAttemptTermination (reason : String) (requested : Int) : Except Error Store := do
  requireText "attempt termination reason" reason
  validatedTime requested
  let row ← s.requireAttempt key
  require (row.status = .running) (transitionError "termination requires a RUNNING attempt")
  let rows := s.leaseRows row
  forEach (fun member : AttemptRow => do
    require (member.status = .running)
      (transitionError "termination process lease contains a non-RUNNING member")
    require (member.terminationReason.all (· = reason))
      (transitionError "attempt termination reason is immutable")) rows
  pure (s.updateAttempts (rows.map (·.key)) fun r => r.requestTermination reason requested)

def recordAttemptTerminationSignal (signal : SignalName) (sent : Int) : Except Error Store := do
  validatedTime sent
  let row ← s.requireAttempt key
  require (row.status = .running ∧ row.terminationReason.isSome)
    (transitionError "termination signal requires persisted RUNNING intent")
  let rows := s.leaseRows row
  forEach (fun member : AttemptRow => do
    require (member.terminationReason = row.terminationReason)
      (transitionError "termination intent differs across one process lease")
    require (signal = .kill → member.termSentAtNs.isSome)
      (transitionError "KILL cannot precede TERM")) rows
  pure (s.updateAttempts (rows.map (·.key)) fun r => r.recordSignal signal sent)

/-! ## Terminal transitions -/

def finishAttempt (args : FinishArgs) : Except Error Store := do
  requireAll args.checks
  validatedTime args.finishedAtNs
  let row ← s.requireAttempt key
  require (row.status = .pending ∨ row.status = .running)
    (transitionError s!"attempt is already terminal with status {row.status.text}")
  require (args.status = .complete → row.status = .running)
    (transitionError "COMPLETE requires a RUNNING attempt")
  require (row.startedAtNs.all (· ≤ args.finishedAtNs))
    (valueError "finished time precedes started time")
  require (row.heartbeatAtNs.all (· ≤ args.finishedAtNs))
    (valueError "finished time precedes latest heartbeat")
  pure (s.updateAttempts [key] fun r => r.finish args)

def terminalFor (terminals : List (String × TerminalEvidence)) (cellId : String) :
    Option TerminalEvidence :=
  (terminals.find? fun entry => entry.1 = cellId).map (·.2)

/-- `len(rows[0]["assigned_gpu_uuids"])`. -/
def groupGpuCount (rows : List (LogicalKind × AttemptRow)) : Nat :=
  (rows.head?.map (·.2.assignedGpuUuids.length)).getD 0

/-- The time from the first start to the last end of the evidence. -/
def evidenceGpuSeconds (rows : List (LogicalKind × AttemptRow))
    (evidence : List TerminalEvidence) : GpuSeconds :=
  let started := ((evidence.filterMap (·.val.startedNs)).min?).getD 0
  let ended := ((evidence.filterMap (·.val.finishedNs)).max?).getD 0
  .lease (ended - started) (groupGpuCount rows)

/-- The charge of one row of a group: the leader's cell owns the time. -/
def ownerCharge (leader : AttemptKey) (charge : GpuSeconds) (r : AttemptRow) : GpuSeconds :=
  if r.cellId = leader.cellId then charge else 0

def finishPhysicalAttemptGroup (terminals : List (String × TerminalEvidence)) (automatic : Bool)
    (finished : Int) : Except Error Store := do
  requireText "physical attempt group ID" groupId
  validatedTime finished
  match s.findGroup groupId with
  | none => .error (keyError s!"unknown physical attempt group '{groupId}'")
  | some group => do
    require (group.status = .running)
      (transitionError "physical attempt group terminal requires RUNNING status")
    let rows := s.groupAttempts groupId
    let kind ← physicalAttemptGroupKind (rows.map (·.1))
    require ((∀ cell ∈ terminals.map (·.1), cell ∈ rows.map (·.2.cellId)) ∧
        ∀ cell ∈ rows.map (·.2.cellId), cell ∈ terminals.map (·.1))
      (valueError "physical attempt group terminal coverage is incomplete")
    require (∀ row ∈ rows, row.2.status = .running)
      (transitionError "physical attempt group logical row is not RUNNING")
    let evidence := rows.filterMap fun row => terminalFor terminals row.2.cellId
    require ((evidence.map (·.val.atomicPublicationSha256)).dedup.length = 1)
      (valueError "physical attempt group terminals lack one shared publication")
    require (∀ t ∈ evidence, t.val.startedNs.isSome ∧ t.val.finishedNs.isSome)
      (valueError "physical attempt group terminals require durable lifecycle timing")
    require (∀ t ∈ evidence, t.val.finishedNs.all (· ≤ finished))
      (valueError "physical group evidence finishes after ledger time")
    require (∀ row ∈ rows, row.2.heartbeatAtNs.all (· ≤ finished))
      (valueError "physical group ledger finish precedes latest heartbeat")
    let status : GroupStatus :=
      if evidence.all fun t => t.val.status = .complete then .complete else .failed
    let s := s.updateAttempts (rows.map (·.2.key)) fun r =>
      match terminalFor terminals r.cellId with
      | some t => r.finish (groupFinishArgs kind automatic t.val
          (ownerCharge group.leader (evidenceGpuSeconds rows evidence) r) finished)
      | none => r
    pure (s.updateGroup groupId fun g =>
      { g with status := status, sharedEvidenceSha256 :=
          evidence.head?.map (·.val.atomicPublicationSha256) })

/-- The shared part of the two operations that fail a whole group: `charge` is
the time of its lease, and `update` is applied to every member row. -/
def failGroup (statusError rowsError : String) (automatic : Bool)
    (charge : GroupRow → List (LogicalKind × AttemptRow) → Except Error GpuSeconds)
    (update : String → GpuSeconds → AttemptRow → AttemptRow) : Except Error Store :=
  match s.findGroup groupId with
  | none => .error (transitionError statusError)
  | some group => do
    require (group.status = .running) (transitionError statusError)
    let rows := s.groupAttempts groupId
    let kind ← physicalAttemptGroupKind (rows.map (·.1))
    require (∀ row ∈ rows, row.2.status = .running) (transitionError rowsError)
    let time ← charge group rows
    let s := s.updateAttempts (rows.map (·.2.key)) fun r =>
      update (groupFailureDecision kind automatic) (ownerCharge group.leader time r) r
    pure (s.updateGroup groupId fun g => { g with status := .failed })

/-- The time of a lease that ended without evidence: from the start of the
leader's row to the ledger time. -/
def leaderGpuSeconds (finished : Int) (group : GroupRow) (rows : List (LogicalKind × AttemptRow)) :
    Except Error GpuSeconds :=
  match rows.find? fun row => row.2.cellId = group.leader.cellId with
  | none => .error ⟨.stopIteration, ""⟩
  | some row =>
    match row.2.startedAtNs with
    | none => .error (typeError
        "int() argument must be a string, a bytes-like object or a real number, not 'NoneType'")
    | some started => .ok (.lease (max 0 (finished - started)) (groupGpuCount rows))

def failPhysicalAttemptGroupSpawn (exceptionType : String) (automatic : Bool) (finished : Int) :
    Except Error Store := do
  requireText "physical attempt group ID" groupId
  requireText "physical group spawn exception type" exceptionType
  validatedTime finished
  s.failGroup groupId "physical group spawn failure requires RUNNING status"
    "physical group spawn failure coverage is not all RUNNING" automatic
    (fun _ _ => .ok 0) fun decision time r =>
      r.failInfrastructure "INFRASTRUCTURE:SPAWN_FAILED" decision
        ("spawn_failed:" ++ exceptionType) r.evidenceFiles time finished

def failPhysicalAttemptGroupInfrastructure (failureCode exclusionReason : String)
    (evidence : EvidenceFiles) (automatic : Bool) (finished : Int) : Except Error Store := do
  requireText "physical attempt group ID" groupId
  requireText "physical group infrastructure failure code" failureCode
  require ("INFRASTRUCTURE:".toList.isPrefixOf failureCode.toList = true)
    (valueError "physical group failure must be infrastructure-classified")
  requireText "physical group exclusion reason" exclusionReason
  requireAll (evidenceChecks "physical group partial evidence path"
    "physical group partial evidence SHA-256 for" evidence)
  validatedTime finished
  s.failGroup groupId "physical group infrastructure failure requires RUNNING status"
    "physical group infrastructure coverage is not all RUNNING" automatic
    (leaderGpuSeconds finished) fun decision time r =>
      r.failInfrastructure failureCode decision exclusionReason evidence time finished

def markStaleIdentity (reason retryDecision : String) (marked : Int) : Except Error Store := do
  requireText "stale identity reason" reason
  requireText "stale identity retry decision" retryDecision
  validatedTime marked
  let row ← s.requireAttempt key
  if row.status = .staleIdentity then do
    require (row.exclusionReason = some reason)
      (transitionError "stale identity reason is immutable")
    pure s
  else do
    require (row.status ≠ .running)
      (transitionError "stop and terminalize a running process before marking it stale")
    require (row.updatedAtNs ≤ marked)
      (valueError "stale identity time precedes latest attempt update")
    pure (s.updateAttempts [key] fun r => r.markStale reason retryDecision marked)

/-! ## Dispatch control and configuration -/

def configureInterferenceEnvelope (envelope : InterferenceEnvelope) (configured : Int) :
    Except Error Store := do
  validatedTime configured
  if s.envelope = some envelope then pure s
  else do
    require (s.runningAttempts = [])
      (transitionError "interference envelope cannot change while attempts run")
    pure { s with envelope := some envelope }

/-- `set_dispatch_stop`; a second reason is only an event. -/
def setDispatchStop (reason : String) (stopped : Int) : Except Error Store := do
  requireText "dispatch STOP reason" reason
  validatedTime stopped
  if s.dispatchState = .stop then pure s
  else pure { s with dispatchState := .stop, dispatchStopReason := some reason,
                     recoveryEvidence := none }

def keysIncreasing (keys : List AttemptKey) : Prop :=
  keys.Pairwise fun a b => a.cellId < b.cellId ∨ (a.cellId = b.cellId ∧ a.attempt < b.attempt)

instance (keys : List AttemptKey) : Decidable (keysIncreasing keys) :=
  inferInstanceAs (Decidable (keys.Pairwise _))

/-- The `RUNNING` row of a key. -/
def runningRow : Option AttemptRow :=
  s.runningAttempts.find? fun row => row.key = key

def checkRecoveryProcess (process : RecoveryProcess) : Except Error Unit :=
  match s.runningRow process.key, s.queuedFor process.key with
  | some leader, some command => do
    require (process.commandSha256 = command.val.commandSha256 ∧ process.pid = leader.pid ∧
        process.pgid = leader.pgid ∧
        process.processStartReceiptSha256 = leader.processStartReceiptSha256)
      (transitionError "dispatch RUNNING recovery leader identity differs")
    require (process.processStartReceiptSha256.isSome)
      (valueError "dispatch RUNNING recovery start receipt must be a lowercase SHA-256")
    require (process.coveredAttempts ≠ [])
      (transitionError "dispatch RUNNING recovery coverage is empty")
    require (keysIncreasing process.coveredAttempts ∧
        ∀ key ∈ process.coveredAttempts, (s.runningRow key).any fun row =>
          row.pid = leader.pid ∧ row.pgid = leader.pgid ∧
            row.processStartReceiptSha256 = leader.processStartReceiptSha256)
      (transitionError "dispatch RUNNING recovery member identity differs")
  | _, _ => .error (transitionError "dispatch RUNNING recovery leader identity differs")

/-- `_require_running_recovery_evidence_locked`. -/
def requireRunningRecoveryEvidence (evidence : RecoveryEvidence) (stopReason : String) :
    Except Error Unit :=
  match evidence with
  | .running mode reason verified processes heartbeats manual => do
    require (reason = stopReason ∧ 0 < verified ∧ processes ≠ [] ∧
        (mode = .freshChildHeartbeat ↔ manual = none))
      (transitionError "dispatch RUNNING recovery envelope differs")
    require (keysIncreasing (processes.map (·.key)))
      (transitionError "dispatch RUNNING recovery process order differs")
    forEach s.checkRecoveryProcess processes
    require (∀ row ∈ s.runningAttempts, row.key ∈ processes.flatMap (·.coveredAttempts))
      (transitionError "dispatch RUNNING recovery coverage differs from ledger")
    require (mode = .freshChildHeartbeat → heartbeats = processes.length)
      (transitionError "dispatch RUNNING recovery lacks fresh heartbeat coverage")
  | _ => .error (transitionError "dispatch RUNNING recovery envelope differs")

/-- `_require_auxiliary_running_recovery_evidence_locked`. -/
def requireAuxiliaryRunningRecoveryEvidence (evidence : RecoveryEvidence) (stopReason : String) :
    Except Error Unit :=
  match evidence with
  | .auxiliary reason verified group => do
    require (reason = stopReason ∧ 0 < verified)
      (transitionError "dispatch auxiliary RUNNING recovery envelope differs")
    match s.auxGroups.filter fun row => row.status = .running with
    | [row] => do
      require (group.groupId = row.groupId ∧ group.attempt = row.attempt ∧ group.node = row.node ∧
          group.commandSha256 = row.launchCommandSha256 ∧ group.pid = row.pid ∧
          group.pgid = row.pgid ∧
          group.processStartReceiptSha256 = row.processStartReceiptSha256 ∧
          group.heartbeatCommandSha256 = row.launchCommandSha256 ∧
          row.heartbeatSequence ≤ group.heartbeatSequence)
        (transitionError "dispatch auxiliary RUNNING recovery identity differs")
      require (group.processStartReceiptSha256.isSome)
        (valueError "dispatch auxiliary recovery start receipt must be a lowercase SHA-256")
    | _ => .error (transitionError "dispatch auxiliary recovery requires exact one RUNNING group")
  | _ => .error (transitionError "dispatch auxiliary RUNNING recovery envelope differs")

/-- The evidence that a clear needs while work is running. -/
def requireClearEvidence (attempts groups : Bool) (stopReason : String) :
    Option RecoveryEvidence → Except Error Unit
  | none => .ok ()
  | some evidence =>
    if attempts then s.requireRunningRecoveryEvidence evidence stopReason
    else if groups then s.requireAuxiliaryRunningRecoveryEvidence evidence stopReason
    else .ok ()

/-- `clear_dispatch_stop`, the only operation that returns to `RUN`. -/
def clearDispatchStop (reason : String) (evidence : Option RecoveryEvidence) (cleared : Int) :
    Except Error Store := do
  requireText "dispatch resume reason" reason
  validatedTime cleared
  match s.dispatchState, s.dispatchStopReason with
  | .stop, some stopReason => do
    let attempts := !s.runningAttempts.isEmpty
    let groups := s.auxGroups.any fun row => row.status = .running
    require (¬ (groups ∧ attempts))
      (transitionError "dispatch STOP cannot clear with mixed RUNNING work")
    require (¬ (groups ∧ evidence = none))
      (transitionError "dispatch STOP cannot clear with unverified auxiliary work")
    require (¬ (attempts ∧ evidence = none))
      (transitionError "dispatch STOP cannot clear with unverified RUNNING attempts")
    s.requireClearEvidence attempts groups stopReason evidence
    pure { s with dispatchState := .run, dispatchStopReason := none, recoveryEvidence := evidence }
  | _, _ => .error (transitionError "dispatch resume requires a durable STOP state")

def recordLaunchCompatibilityKey (value : String) : Except Error Store := do
  requireText "launch compatibility key" value
  pure { s with lastLaunchCompatibilityKey := some value }

/-- `record_watchdog_event` and `_record_watchdog_finding_once`: the event
table is not modelled, the checks are. -/
def recordWatchdogEvent (eventType : String) (key : Option AttemptKey) (occurred : Int) :
    Except Error Store := do
  requireText "watchdog event type" eventType
  validatedTime occurred
  match key with
  | none => pure s
  | some key => do
    let _ ← s.requireAttempt key
    pure s

/-! ## Stage plan and controller nodes -/

def initializeStagePlan (entries : List StagePlanEntry) (now : Int) : Except Error Store := do
  require (entries ≠ []) (valueError "stage plan cannot be empty")
  require (entries.map (·.node)).Nodup (valueError "stage plan contains duplicate nodes")
  require (entries.map fun entry => (entry.stage, entry.phase)).Nodup
    (valueError "stage plan contains duplicate stage/phase pairs")
  require ((sortedBy id (entries.map (·.ordinal))) = List.range entries.length)
    (valueError "stage plan ordinals must be contiguous from zero")
  validatedTime now
  let rows := entries.map fun entry => ({ node := entry.node, ordinal := entry.ordinal } : NodeRow)
  if s.stagePlan ≠ [] then do
    require (sortedBy (·.ordinal) s.stagePlan = sortedBy (·.ordinal) entries)
      (operatorError "refusing to replace an initialized stage plan")
    -- `INSERT OR IGNORE` of the nodes that are missing
    pure { s with nodes := s.nodes ++ rows.filter (fun row =>
      s.nodes.all fun node => node.node ≠ row.node ∧ node.ordinal ≠ row.ordinal) }
  else do
    require (s.nodes = []) (integrityError "UNIQUE constraint failed: controller_nodes.node")
    pure { s with stagePlan := entries, nodes := rows }

def updateStageExpectation (node expectedFormula : String) (knownExpectedCells : Nat) :
    Except Error Store := do
  requireText "node" node
  requireText "expected formula" expectedFormula
  match s.planOfNode node with
  | none => .error (keyError s!"unknown stage-plan node '{node}'")
  | some plan => do
    require (s.materializedCells plan.stage plan.phase ≤ knownExpectedCells)
      (operatorError "known expected cells cannot be below materialized coverage")
    pure { s with stagePlan := s.stagePlan.map fun row =>
      if row.node = node then
        { row with expectedFormula := expectedFormula, knownExpectedCells := some knownExpectedCells }
      else row }

/-- `record_controller_materialization`; `reopen` is the check that a bound
artifact is still the file it was bound to. -/
def recordControllerMaterialization (reopen : ArtifactBinding → Except Error Unit) (node : String)
    (materialization nodeMaterialization : ArtifactBinding) (expectedCellIds : List String)
    (auxiliarySources : List (String × ArtifactBinding)) (recorded : Int) : Except Error Store := do
  requireText "controller node" node
  reopen materialization
  reopen nodeMaterialization
  require (materialization.absolutePath ≠ nodeMaterialization.absolutePath)
    (valueError "controller materialization artifacts must be distinct")
  require ((∀ cell ∈ expectedCellIds, cell ≠ "") ∧ expectedCellIds = sortedSet expectedCellIds)
    (valueError "controller expected cell IDs must be uniquely sorted")
  forEach (fun source : String × ArtifactBinding => do
    requireText "controller auxiliary source kind" source.1
    reopen source.2) auxiliarySources
  validatedTime recorded
  let row ← s.requireControllerNode node
  require ((row.state = .unmaterialized ∨ row.state = .blocked) ∧ row.materialization = none)
    (transitionError "controller node is already materially initialized")
  require (s.hasIncompletePrior row.ordinal = false)
    (transitionError "controller cannot materialize ahead of its predecessor")
  require (((s.planOfNode node).bind (·.knownExpectedCells)).all (· = expectedCellIds.length))
    (operatorError "controller materialization cell count differs from stage plan")
  let s : Store := { s with stagePlan := s.stagePlan.map fun plan =>
    if plan.node = node then { plan with knownExpectedCells := some expectedCellIds.length }
    else plan }
  pure (s.updateNode node fun row =>
    { row with
      state := .materialized
      materialization := some materialization
      nodeMaterialization := some nodeMaterialization
      expectedCellIds := some expectedCellIds
      auxiliarySources := auxiliarySources
      blockerReason := none })

def recordControllerExecutionPlan (reopen : ArtifactBinding → Except Error Unit) (node : String)
    (executionSource : ArtifactBinding) (preparedLaunch : Option ArtifactBinding) (recorded : Int) :
    Except Error Store := do
  requireText "controller node" node
  reopen executionSource
  forEach reopen preparedLaunch.toList
  validatedTime recorded
  let row ← s.requireControllerNode node
  require (row.state = .materialized)
    (transitionError "controller execution planning requires MATERIALIZED state")
  pure (s.updateNode node fun row =>
    { row with
      state := .planned
      executionSource := some executionSource
      preparedLaunch := preparedLaunch
      blockerReason := none })

/-- The latest non-legacy attempt of every cell, restricted to one stage. -/
def latestStageAttempts (stage phase : String) : List AttemptRow :=
  let own := s.attempts.filter fun row => row.isLegacyImport = false
  own.filter fun row => row.stage = stage ∧ row.phase = phase ∧
    ∀ other ∈ own, other.cellId = row.cellId → other.attempt ≤ row.attempt

def recordControllerReduction (reopen : ArtifactBinding → Except Error Unit) (node : String)
    (decision completion : ArtifactBinding) (recorded : Int) : Except Error Store := do
  requireText "controller node" node
  reopen decision
  reopen completion
  require (decision.absolutePath ≠ completion.absolutePath)
    (valueError "controller decision and completion must be distinct")
  validatedTime recorded
  let row ← s.requireControllerNode node
  require (row.state = .planned) (transitionError "controller reduction requires a PLANNED node")
  let latest := match s.planOfNode node with
    | some plan => s.latestStageAttempts plan.stage plan.phase
    | none => []
  require (row.expectedCellIds.any (·.length = latest.length) = true ∧
      ∀ attempt ∈ latest, attempt.status = .complete)
    (transitionError "controller reduction lacks exact COMPLETE attempt coverage")
  pure (s.updateNode node fun row =>
    { row with
      state := .reduced
      decision := some decision
      completion := some completion
      blockerReason := none })

def markControllerBlocked (node reason : String) (recorded : Int) : Except Error Store := do
  requireText "controller node" node
  requireText "controller blocker reason" reason
  validatedTime recorded
  let row ← s.requireControllerNode node
  require (row.state ≠ .reduced) (transitionError "reduced controller node cannot block")
  pure (s.updateNode node fun row => { row with state := .blocked, blockerReason := some reason })

def resumeControllerNode (node reason : String) (recorded : Int) : Except Error Store := do
  requireText "controller node" node
  requireText "controller resume reason" reason
  validatedTime recorded
  let row ← s.requireControllerNode node
  require (row.state = .blocked) (transitionError "controller node is not BLOCKED")
  pure (s.updateNode node fun row =>
    { row with
      state :=
        if row.executionSource.isSome then .planned
        else if row.materialization.isSome then .materialized
        else .unmaterialized
      blockerReason := none })

/-! ## Auxiliary groups -/

/-- The specification that a stored job was registered with. -/
def auxJobSpec (job : AuxJobRow) : AuxiliaryJobSpec where
  jobId := job.jobId
  attempt := job.jobAttempt
  adoptionKey := job.adoptionKey
  scientificAxes := job.scientificAxes
  identity := job.identity
  commandSha256 := job.commandSha256
  outputDirectory := job.outputDirectory

/-- `_require_controller_auxiliary_spec_matches_locked`. -/
def requireAuxSpecMatches (row : AuxGroupRow) (spec : AuxiliaryGroupSpec) : Except Error Unit :=
  require (row.groupId = spec.groupId ∧ row.attempt = spec.attempt ∧ row.node = spec.node ∧
      row.sourceKind = spec.sourceKind ∧ row.launchCommandSha256 = spec.launchCommandSha256 ∧
      row.outputDirectory = spec.outputDirectory ∧
      row.assignedGpuUuids = spec.assignedGpuUuids ∧
      (s.auxJobsOf row.groupId row.attempt).map auxJobSpec = spec.jobs)
    (operatorError "durable controller auxiliary group differs from rebuilt plan")

def auxGroupOfSpec : Except Error AuxGroupRow := do
  let row ← s.requireAuxGroup spec.groupId spec.attempt
  s.requireAuxSpecMatches row spec
  pure row

/-- The checks of a new auxiliary attempt against the latest one of its node. -/
def checkAuxAttempt : Option AuxGroupRow → Except Error Unit
  | none => require (spec.attempt = 1) (transitionError "first controller auxiliary attempt must be 1")
  | some latest => do
    require (spec.groupId = latest.groupId)
      (transitionError "controller auxiliary retry changed its group identity")
    require (spec.attempt = latest.attempt + 1)
      (transitionError "controller auxiliary retry attempt is not contiguous")
    require (latest.status = .failed)
      (transitionError "controller auxiliary retry requires a retained failure")
    require (latest.failureClass = some "INFRASTRUCTURE")
      (transitionError "controller auxiliary retry is infrastructure-only")
    require (latest.attempt < 3)
      (transitionError "controller auxiliary infrastructure retry limit is exhausted")

/-- The rows that a registration inserts. -/
def auxGroupRow : AuxGroupRow where
  groupId := spec.groupId
  attempt := spec.attempt
  node := spec.node
  sourceKind := spec.sourceKind
  launchCommandSha256 := spec.launchCommandSha256
  outputDirectory := spec.outputDirectory
  assignedGpuUuids := spec.assignedGpuUuids

def auxJobRows : List AuxJobRow :=
  spec.jobs.zipIdx.map fun job =>
    { groupId := spec.groupId
      groupAttempt := spec.attempt
      jobId := job.1.jobId
      jobAttempt := job.1.attempt
      adoptionKey := job.1.adoptionKey
      memberOrdinal := job.2
      scientificAxes := job.1.scientificAxes
      identity := job.1.identity
      commandSha256 := job.1.commandSha256
      outputDirectory := job.1.outputDirectory }

def registerControllerAuxiliaryGroup (registered : Int) : Except Error Store := do
  validatedTime registered
  let controller ← s.requireControllerNode spec.node
  require (controller.state = .unmaterialized)
    (transitionError "auxiliary registration requires an UNMATERIALIZED node")
  require (s.hasIncompletePrior controller.ordinal = false)
    (transitionError "controller auxiliary cannot run ahead of its predecessor")
  match s.auxGroups.find? fun row => row.groupId = spec.groupId ∧ row.attempt = spec.attempt with
  | some existing => do
    s.requireAuxSpecMatches existing spec
    pure s
  | none => do
    checkAuxAttempt spec (s.latestAuxGroup spec.node)
    require ((∀ row ∈ s.auxGroups, row.outputDirectory ≠ spec.outputDirectory) ∧
        ∀ row ∈ s.auxJobs, ∀ job ∈ spec.jobs, ¬ (row.jobId = job.jobId ∧
          row.jobAttempt = job.attempt) ∧ row.outputDirectory ≠ job.outputDirectory)
      (operatorError "controller auxiliary identity or output directory is registered")
    pure { s with auxGroups := s.auxGroups ++ [auxGroupRow spec],
                  auxJobs := s.auxJobs ++ auxJobRows spec }

/-- The first transaction of `start_controller_auxiliary_group_with_launcher`. -/
def startControllerAuxiliaryGroup (started : Int) : Except Error Store := do
  validatedTime started
  let row ← s.auxGroupOfSpec spec
  require (row.status = .pending)
    (transitionError "controller auxiliary launch requires PENDING status")
  let s := s.updateAuxGroup spec.groupId spec.attempt fun row =>
    { row with status := .running, startedAtNs := some started }
  pure (s.updateAuxJobs spec.groupId spec.attempt fun job => { job with status := .running })

/-- The second transaction of `start_controller_auxiliary_group_with_launcher`. -/
def attachStartedAuxiliaryGroup (process : SpawnedProcess) (attached : Int) :
    Except Error Store := do
  require (process.pid = process.pgid)
    (valueError "auxiliary child is not a setsid session leader")
  validatedTime attached
  let row ← s.requireAuxGroup spec.groupId spec.attempt
  require (row.status = .running ∧ row.pid = none)
    (transitionError "controller auxiliary process attachment differs")
  pure (s.updateAuxGroup spec.groupId spec.attempt fun row =>
    { row with
      pid := some process.pid
      pgid := some process.pgid
      processStartReceiptSha256 := process.processStartReceiptSha256 })

def failControllerAuxiliarySpawn (exceptionType : String) (finished : Int) :
    Except Error Store := do
  requireText "auxiliary spawn exception type" exceptionType
  validatedTime finished
  let row ← s.auxGroupOfSpec spec
  require (row.status = .running)
    (transitionError "auxiliary spawn failure requires RUNNING status")
  let reason := "spawn_failed:" ++ exceptionType
  let s := s.updateAuxGroup spec.groupId spec.attempt fun row =>
    { row with
      status := .failed
      finishedAtNs := some finished
      failureCode := some "INFRASTRUCTURE:SPAWN_FAILED"
      failureClass := some "INFRASTRUCTURE"
      exclusionReason := some reason }
  pure (s.updateAuxJobs spec.groupId spec.attempt fun job =>
    { job with
      status := .failed
      failureClass := some .infrastructure
      failureCode := some "SPAWN_FAILED"
      includedInAnalysis := false
      exclusionReason := some reason })

def attachControllerAuxiliaryGroupProcess (pid pgid : Nat) (receipt : Digest) (attached : Int) :
    Except Error Store := do
  require (0 < pid) (valueError "auxiliary PID must be a positive integer")
  require (0 < pgid) (valueError "auxiliary PGID must be a positive integer")
  require (pid = pgid) (valueError "auxiliary wrapper must be a setsid session leader")
  validatedTime attached
  let row ← s.auxGroupOfSpec spec
  require (row.status = .running)
    (transitionError "auxiliary process attachment requires RUNNING status")
  require (row.pid.all (· = pid) ∧ (row.pid.isSome → row.pgid = some pgid))
    (transitionError "auxiliary process attachment differs from durable state")
  require (row.pid.isSome → row.processStartReceiptSha256.all (· = receipt))
    (transitionError "auxiliary process start receipt differs from durable state")
  pure (s.updateAuxGroup spec.groupId spec.attempt fun row =>
    { row with pid := some pid, pgid := some pgid, processStartReceiptSha256 := some receipt })

def recordControllerAuxiliaryObservation (logSize : Int) (heartbeat : Option WorkerHeartbeat)
    (observed : Int) : Except Error Store := do
  require (0 ≤ logSize) (valueError "auxiliary observed log size is invalid")
  validatedTime observed
  let row ← s.auxGroupOfSpec spec
  require (row.status = .running)
    (transitionError "auxiliary observation requires RUNNING status")
  require (row.lastLogSizeBytes.all (· ≤ logSize)) (valueError "auxiliary log size moved backwards")
  forEach (fun beat : WorkerHeartbeat => do
    require (beat.commandSha256 = spec.launchCommandSha256)
      (valueError "auxiliary heartbeat command identity differs")
    require (row.heartbeatSequence ≤ beat.sequence)
      (valueError "auxiliary heartbeat sequence moved backwards")
    require (beat.observedAtNs ≤ observed) (valueError "auxiliary heartbeat is from the future"))
    heartbeat.toList
  pure (s.updateAuxGroup spec.groupId spec.attempt fun row =>
    { row with
      heartbeatAtNs := match heartbeat with
        | some beat =>
          if row.heartbeatSequence < beat.sequence then some beat.observedAtNs
          else row.heartbeatAtNs
        | none => row.heartbeatAtNs
      heartbeatSequence := match heartbeat with
        | some beat => max row.heartbeatSequence beat.sequence
        | none => row.heartbeatSequence
      lastLogSizeBytes := some logSize
      lastLogGrowthNs :=
        if row.lastLogSizeBytes.all (· < logSize) then some observed else row.lastLogGrowthNs })

def requestControllerAuxiliaryTermination (reason : String) (requested : Int) :
    Except Error Store := do
  requireText "auxiliary termination reason" reason
  validatedTime requested
  let row ← s.auxGroupOfSpec spec
  require (row.status = .running)
    (transitionError "auxiliary termination requires RUNNING status")
  require (row.terminationReason.all (· = reason))
    (transitionError "auxiliary termination reason is immutable")
  pure (s.updateAuxGroup spec.groupId spec.attempt fun row =>
    { row with terminationReason := some reason })

def recordControllerAuxiliaryTerminationSignal (signal : SignalName) (sent : Int) :
    Except Error Store := do
  validatedTime sent
  let row ← s.auxGroupOfSpec spec
  require (row.status = .running ∧ row.terminationReason.isSome)
    (transitionError "auxiliary signal requires requested RUNNING termination")
  require (signal = .kill → row.termSentAtNs.isSome)
    (transitionError "auxiliary KILL requires prior TERM")
  pure (s.updateAuxGroup spec.groupId spec.attempt fun row =>
    match signal with
    | .term => { row with termSentAtNs := some (row.termSentAtNs.getD sent) }
    | .kill => { row with killSentAtNs := some (row.killSentAtNs.getD sent) })

/-- What `finish_controller_auxiliary_group` writes to the row of one job. -/
def finishAuxJob (job : AuxJobRow) (terminal : Terminal) : AuxJobRow :=
  { job with
    status := match terminal.status with
      | .complete => .complete
      | .failed => .failed
    exitCode := terminal.exitCode
    terminalSha256 := terminal.terminalSha256
    junitSha256 := terminal.junitSha256
    rawLogSha256 := terminal.rawLogSha256
    evidenceFiles := terminal.evidenceFiles
    failureClass := terminal.failureClass
    failureCode := terminal.failureCode
    includedInAnalysis := terminal.includedInAnalysis
    exclusionReason := terminal.exclusionReason
    evidenceStartedAtNs := terminal.startedNs
    evidenceFinishedAtNs := terminal.finishedNs }

/-- The failure class of a group: the one of its failed jobs, or `MIXED`. -/
def auxFailureClass (terminals : List (String × TerminalEvidence)) : String :=
  match sortedSet ((terminals.filter fun t => t.2.val.status = .failed).filterMap fun t =>
      t.2.val.failureClass.map FailureClass.text) with
  | [cls] => cls
  | _ => "MIXED"

def finishControllerAuxiliaryGroup (reopen : ArtifactBinding → Except Error Unit)
    (spec : AuxiliaryGroupSpec) (terminal : AuxiliaryGroupTerminal) (finished : Int) :
    Except Error Store := do
  reopen terminal.publication
  require (sortedBy id (terminal.terminals.map (·.1)) = spec.jobs.map (·.jobId))
    (valueError "auxiliary terminal job coverage differs")
  require (∀ t ∈ terminal.terminals, t.2.val.startedNs.isSome ∧ t.2.val.finishedNs.isSome)
    (valueError "auxiliary terminals require durable lifecycle timing")
  validatedTime finished
  require (∀ t ∈ terminal.terminals, t.2.val.finishedNs.all (· ≤ finished))
    (valueError "auxiliary evidence finishes after ledger time")
  let row ← s.auxGroupOfSpec spec
  require (row.status = .running) (transitionError "auxiliary terminal requires RUNNING status")
  require (∀ t ∈ terminal.terminals, t.2.val.startedNs.all fun started =>
      row.startedAtNs.all (· ≤ started))
    (valueError "auxiliary evidence starts before RUNNING commit")
  let failed := terminal.terminals.any fun t => t.2.val.status = .failed
  let failedJobs := (spec.jobs.map (·.jobId)).filter fun jobId =>
    (terminalFor terminal.terminals jobId).any fun t => t.val.status = .failed
  let s := s.updateAuxJobs spec.groupId spec.attempt fun job =>
    match terminalFor terminal.terminals job.jobId with
    | some t => finishAuxJob job t.val
    | none => job
  pure (s.updateAuxGroup spec.groupId spec.attempt fun row =>
    { row with
      status := if failed then .failed else .complete
      finishedAtNs := some finished
      publication := some terminal.publication
      failureCode := if failed then some "AUXILIARY_MEMBER_FAILED" else none
      failureClass := if failed then some (auxFailureClass terminal.terminals) else none
      exclusionReason :=
        if failed then some ("terminal_failed_jobs:" ++ ",".intercalate failedJobs) else none
      gpuSeconds := terminal.gpuSeconds })

/-- What `adopt_controller_auxiliary_jobs` writes to the row it materialised. -/
def adoptRow (r : AttemptRow) (group : AuxGroupRow) (owner : Option String) (job : AuxJobRow)
    (adopted : Int) : AttemptRow :=
  { r with
    status := .complete
    assignedGpuUuids := group.assignedGpuUuids
    pid := group.pid
    pgid := group.pgid
    startedAtNs := job.evidenceStartedAtNs
    finishedAtNs := job.evidenceFinishedAtNs
    heartbeatAtNs := job.evidenceFinishedAtNs
    exitCode := job.exitCode
    terminalSha256 := job.terminalSha256
    junitSha256 := job.junitSha256
    rawLogSha256 := job.rawLogSha256
    evidenceFiles := job.evidenceFiles
    includedInAnalysis := job.includedInAnalysis
    exclusionReason := job.exclusionReason
    gpuSeconds := if owner = some job.jobId then group.gpuSeconds else 0
    updatedAtNs := adopted }

/-- The adoption loop; a job without its adoption raises `KeyError`. `owner` is
the job whose cell takes over the GPU time of the group. -/
def adoptJobs (s : Store) (group : AuxGroupRow) (plan : PlanRow) (owner : Option String)
    (adoptions : List AuxiliaryCellAdoption) (adopted : Int) : List AuxJobRow → Except Error Store
  | [] => pure s
  | job :: rest =>
    match adoptions.find? fun a => a.jobId = job.jobId ∧ a.jobAttempt = job.jobAttempt with
    | none => .error (keyError s!"('{job.jobId}', {job.jobAttempt})")
    | some adoption => do
      let spec := adoption.attempt
      require (adoption.adoptionKey = job.adoptionKey ∧ spec.val.stage = plan.stage ∧
          spec.val.phase = plan.phase ∧ spec.val.scientificAxes = job.scientificAxes ∧
          spec.val.identity = job.identity ∧ spec.val.commandSha256 = job.commandSha256 ∧
          spec.val.outputDirectory = job.outputDirectory ∧ job.status = .complete)
        (operatorError "auxiliary adoption differs from completed job identity")
      let s ← s.materializeAttemptLocked spec adopted
      let s := s.updateAttempts [spec.key] fun r => adoptRow r group owner job adopted
      let s := s.bindAdoptedCell job spec.key
      s.adoptJobs group plan owner adoptions adopted rest

/-- `_require_cell_attempt_spec_matches` on the latest attempt of the cell. -/
def requireAdoptedMatches (adoption : AuxiliaryCellAdoption) : Except Error Unit :=
  let spec := adoption.attempt.val
  match s.latestAttempt spec.cellId with
  | none => .error (operatorError "adopted auxiliary cell disappeared from the ledger")
  | some row =>
    require (row.attempt = spec.attempt ∧ row.stage = spec.stage ∧ row.phase = spec.phase ∧
        row.blockId = spec.block ∧ row.seed = spec.seed ∧
        row.scientificAxes = spec.scientificAxes ∧ row.identity = spec.identity ∧
        row.commandSha256 = spec.commandSha256 ∧
        row.scientificCommandSha256 = spec.scientificCommandSha256 ∧
        row.outputDirectory = spec.outputDirectory ∧ row.status = .complete)
      (operatorError "durable adopted attempt differs from auxiliary adoption")

def adoptControllerAuxiliaryJobs (node groupId : String) (groupAttempt : Nat)
    (adoptions : List AuxiliaryCellAdoption) (adopted : Int) : Except Error Store := do
  requireText "auxiliary adoption node" node
  requireText "auxiliary adoption group ID" groupId
  require (adoptions ≠ []) (typeError "auxiliary adoption requires exact non-empty rows")
  require (keysIncreasing (adoptions.map fun a => ⟨a.jobId, a.jobAttempt⟩))
    (valueError "auxiliary adoptions must be uniquely sorted by job")
  require (adoptions.map (·.attempt.val.cellId)).Nodup
    (valueError "auxiliary adoptions contain duplicate cell IDs")
  validatedTime adopted
  let controller ← s.requireControllerNode node
  require (controller.state = .materialized)
    (transitionError "auxiliary adoption requires a MATERIALIZED node")
  let group ← s.requireAuxGroup groupId groupAttempt
  require (group.node = node ∧ group.status = .complete)
    (transitionError "only the node's COMPLETE auxiliary group may be adopted")
  require (group.publication.isSome ∧
      (controller.auxiliarySources.lookup group.sourceKind) = group.publication)
    (operatorError "materialization switched its completed auxiliary source")
  let jobs := sortedBy (fun job => toLex (job.jobId, job.jobAttempt))
    (s.auxJobs.filter fun row => row.groupId = groupId ∧ row.groupAttempt = groupAttempt)
  require (jobs.map (fun job => (job.jobId, job.jobAttempt)) =
      adoptions.map fun a => (a.jobId, a.jobAttempt))
    (valueError "auxiliary adoption does not cover every exact job")
  if group.adoptedAtNs.isSome then do
    require (jobs.map (fun job => (job.adoptionKey, job.adoptedCell)) =
        adoptions.map fun a => (a.adoptionKey, some a.attempt.key))
      (operatorError "completed auxiliary adoption mapping differs")
    forEach s.requireAdoptedMatches adoptions
    pure s
  else
    match s.planOfNode node with
    | none => .error (typeError "'NoneType' object is not subscriptable")
    | some plan => do
      let s ← s.adoptJobs group plan (jobs.head?.map (·.jobId)) adoptions adopted jobs
      pure (s.updateAuxGroup groupId groupAttempt fun row =>
        { row with adoptedAtNs := some adopted })

end Store

/-! ## Calls -/

/-- A call of one of the store's public methods with its arguments. -/
inductive StoreOp
  | materializeAttempt (spec : CellAttemptSpec) (now : Int)
  | enqueueCommand (command : QueuedCommandSpec) (enqueued : Int)
  | materializePhysicalAttemptGroup (groupId : String) (members : List GroupMemberSpec)
      (leaderCellId : String) (kind : PhysicalGroupKind) (materialized : Int)
  | importLegacyStaleAttempts (items : List LegacyStaleAttempt) (now : Int)
  | markRunningBeforeSpawn (key : AttemptKey) (gpus : List String) (started : Int)
  | startPhysicalAttemptGroup (groupId : String) (gpus : List String) (started : Int)
  | attachProcess (key : AttemptKey) (pid pgid : Nat) (receipt : Option Digest) (now : Int)
  | attachPhysicalAttemptGroupProcess (groupId : String) (pid pgid : Nat)
      (receipt : Option Digest) (now : Int)
  | recordHeartbeat (key : AttemptKey) (pid pgid : Nat) (logSize : Int) (gpuObservation : Bool)
      (observed : Int) (sequence : Option Nat)
  | recordPhysicalAttemptGroupHeartbeat (groupId : String) (pid pgid : Nat) (logSize : Int)
      (gpuObservation : Bool) (observed : Int) (sequence : Option Nat)
  | recordRuntimeObservation (key : AttemptKey) (pid pgid : Nat) (logSize : Int)
      (gpuObservation : Bool) (observed : Int)
  | recordPhysicalAttemptGroupRuntimeObservation (groupId : String) (pid pgid : Nat)
      (logSize : Int) (gpuObservation : Bool) (observed : Int)
  | requestAttemptTermination (key : AttemptKey) (reason : String) (requested : Int)
  | recordAttemptTerminationSignal (key : AttemptKey) (signal : SignalName) (sent : Int)
  | finishAttempt (key : AttemptKey) (args : FinishArgs)
  | finishPhysicalAttemptGroup (groupId : String) (terminals : List (String × TerminalEvidence))
      (automatic : Bool) (finished : Int)
  | failPhysicalAttemptGroupSpawn (groupId exceptionType : String) (automatic : Bool)
      (finished : Int)
  | failPhysicalAttemptGroupInfrastructure (groupId failureCode exclusionReason : String)
      (evidence : EvidenceFiles) (automatic : Bool) (finished : Int)
  | markStaleIdentity (key : AttemptKey) (reason retryDecision : String) (marked : Int)
  | configureInterferenceEnvelope (envelope : InterferenceEnvelope) (configured : Int)
  | setDispatchStop (reason : String) (stopped : Int)
  | clearDispatchStop (reason : String) (evidence : Option RecoveryEvidence) (cleared : Int)
  | recordLaunchCompatibilityKey (value : String)
  | recordWatchdogEvent (eventType : String) (key : Option AttemptKey) (occurred : Int)
  | initializeStagePlan (entries : List StagePlanEntry) (now : Int)
  | updateStageExpectation (node expectedFormula : String) (knownExpectedCells : Nat)
  | recordControllerMaterialization (reopen : ArtifactBinding → Except Error Unit) (node : String)
      (materialization nodeMaterialization : ArtifactBinding) (expectedCellIds : List String)
      (auxiliarySources : List (String × ArtifactBinding)) (recorded : Int)
  | recordControllerExecutionPlan (reopen : ArtifactBinding → Except Error Unit) (node : String)
      (executionSource : ArtifactBinding) (preparedLaunch : Option ArtifactBinding)
      (recorded : Int)
  | recordControllerReduction (reopen : ArtifactBinding → Except Error Unit) (node : String)
      (decision completion : ArtifactBinding) (recorded : Int)
  | markControllerBlocked (node reason : String) (recorded : Int)
  | resumeControllerNode (node reason : String) (recorded : Int)
  | registerControllerAuxiliaryGroup (spec : AuxiliaryGroupSpec) (registered : Int)
  | startControllerAuxiliaryGroup (spec : AuxiliaryGroupSpec) (started : Int)
  | attachStartedAuxiliaryGroup (spec : AuxiliaryGroupSpec) (process : SpawnedProcess)
      (attached : Int)
  | failControllerAuxiliarySpawn (spec : AuxiliaryGroupSpec) (exceptionType : String)
      (finished : Int)
  | attachControllerAuxiliaryGroupProcess (spec : AuxiliaryGroupSpec) (pid pgid : Nat)
      (receipt : Digest) (attached : Int)
  | recordControllerAuxiliaryObservation (spec : AuxiliaryGroupSpec) (logSize : Int)
      (heartbeat : Option WorkerHeartbeat) (observed : Int)
  | requestControllerAuxiliaryTermination (spec : AuxiliaryGroupSpec) (reason : String)
      (requested : Int)
  | recordControllerAuxiliaryTerminationSignal (spec : AuxiliaryGroupSpec) (signal : SignalName)
      (sent : Int)
  | finishControllerAuxiliaryGroup (reopen : ArtifactBinding → Except Error Unit)
      (spec : AuxiliaryGroupSpec) (terminal : AuxiliaryGroupTerminal) (finished : Int)
  | adoptControllerAuxiliaryJobs (node groupId : String) (groupAttempt : Nat)
      (adoptions : List AuxiliaryCellAdoption) (adopted : Int)

namespace Store

/-- The transaction of a call: the store after its commit, or the error that
rolled it back. -/
def apply (s : Store) : StoreOp → Except Error Store
  | .materializeAttempt spec now => s.materializeAttempt spec now
  | .enqueueCommand command enqueued => s.enqueueCommand command enqueued
  | .materializePhysicalAttemptGroup groupId members leader kind materialized =>
    s.materializePhysicalAttemptGroup groupId members leader kind materialized
  | .importLegacyStaleAttempts items now => s.importLegacyStaleAttempts items now
  | .markRunningBeforeSpawn key gpus started => s.markRunningBeforeSpawn key gpus started
  | .startPhysicalAttemptGroup groupId gpus started =>
    s.startPhysicalAttemptGroup groupId gpus started
  | .attachProcess key pid pgid receipt now => s.attachProcess key pid pgid receipt now
  | .attachPhysicalAttemptGroupProcess groupId pid pgid receipt now =>
    s.attachPhysicalAttemptGroupProcess groupId pid pgid receipt now
  | .recordHeartbeat key pid pgid logSize gpu observed sequence =>
    s.recordHeartbeat key pid pgid logSize gpu observed sequence
  | .recordPhysicalAttemptGroupHeartbeat groupId pid pgid logSize gpu observed sequence =>
    s.recordPhysicalAttemptGroupHeartbeat groupId pid pgid logSize gpu observed sequence
  | .recordRuntimeObservation key pid pgid logSize gpu observed =>
    s.recordRuntimeObservation key pid pgid logSize gpu observed
  | .recordPhysicalAttemptGroupRuntimeObservation groupId pid pgid logSize gpu observed =>
    s.recordPhysicalAttemptGroupRuntimeObservation groupId pid pgid logSize gpu observed
  | .requestAttemptTermination key reason requested =>
    s.requestAttemptTermination key reason requested
  | .recordAttemptTerminationSignal key signal sent =>
    s.recordAttemptTerminationSignal key signal sent
  | .finishAttempt key args => s.finishAttempt key args
  | .finishPhysicalAttemptGroup groupId terminals automatic finished =>
    s.finishPhysicalAttemptGroup groupId terminals automatic finished
  | .failPhysicalAttemptGroupSpawn groupId exceptionType automatic finished =>
    s.failPhysicalAttemptGroupSpawn groupId exceptionType automatic finished
  | .failPhysicalAttemptGroupInfrastructure groupId code exclusion evidence automatic finished =>
    s.failPhysicalAttemptGroupInfrastructure groupId code exclusion evidence automatic finished
  | .markStaleIdentity key reason decision marked => s.markStaleIdentity key reason decision marked
  | .configureInterferenceEnvelope envelope configured =>
    s.configureInterferenceEnvelope envelope configured
  | .setDispatchStop reason stopped => s.setDispatchStop reason stopped
  | .clearDispatchStop reason evidence cleared => s.clearDispatchStop reason evidence cleared
  | .recordLaunchCompatibilityKey value => s.recordLaunchCompatibilityKey value
  | .recordWatchdogEvent eventType key occurred => s.recordWatchdogEvent eventType key occurred
  | .initializeStagePlan entries now => s.initializeStagePlan entries now
  | .updateStageExpectation node formula known => s.updateStageExpectation node formula known
  | .recordControllerMaterialization reopen node materialization nodeMaterialization cells sources
      recorded =>
    s.recordControllerMaterialization reopen node materialization nodeMaterialization cells sources
      recorded
  | .recordControllerExecutionPlan reopen node source launch recorded =>
    s.recordControllerExecutionPlan reopen node source launch recorded
  | .recordControllerReduction reopen node decision completion recorded =>
    s.recordControllerReduction reopen node decision completion recorded
  | .markControllerBlocked node reason recorded => s.markControllerBlocked node reason recorded
  | .resumeControllerNode node reason recorded => s.resumeControllerNode node reason recorded
  | .registerControllerAuxiliaryGroup spec registered =>
    s.registerControllerAuxiliaryGroup spec registered
  | .startControllerAuxiliaryGroup spec started => s.startControllerAuxiliaryGroup spec started
  | .attachStartedAuxiliaryGroup spec process attached =>
    s.attachStartedAuxiliaryGroup spec process attached
  | .failControllerAuxiliarySpawn spec exceptionType finished =>
    s.failControllerAuxiliarySpawn spec exceptionType finished
  | .attachControllerAuxiliaryGroupProcess spec pid pgid receipt attached =>
    s.attachControllerAuxiliaryGroupProcess spec pid pgid receipt attached
  | .recordControllerAuxiliaryObservation spec logSize heartbeat observed =>
    s.recordControllerAuxiliaryObservation spec logSize heartbeat observed
  | .requestControllerAuxiliaryTermination spec reason requested =>
    s.requestControllerAuxiliaryTermination spec reason requested
  | .recordControllerAuxiliaryTerminationSignal spec signal sent =>
    s.recordControllerAuxiliaryTerminationSignal spec signal sent
  | .finishControllerAuxiliaryGroup reopen spec terminal finished =>
    s.finishControllerAuxiliaryGroup reopen spec terminal finished
  | .adoptControllerAuxiliaryJobs node groupId groupAttempt adoptions adopted =>
    s.adoptControllerAuxiliaryJobs node groupId groupAttempt adoptions adopted

/-- A call on the store: its answer and the store that it leaves. -/
def step (s : Store) (op : StoreOp) : Except Error Unit × Store :=
  match s.apply op with
  | .ok s' => (.ok (), s')
  | .error e => (.error e, s)

theorem step_of_ok {s s' : Store} {op : StoreOp} (h : s.apply op = .ok s') :
    s.step op = (.ok (), s') := by
  unfold step
  rw [h]

end Store

end Operator

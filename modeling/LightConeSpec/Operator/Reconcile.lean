import LightConeSpec.Operator.Callbacks

/-!
# The scheduler: reconciliation

`FormalExperimentSchedulerDaemon._reconcile_running` and everything it calls,
as programs over the effects of `Callbacks`. Every method call on the store is a
transaction of its own, in source order: a query is a `read` whose answer is
queried, a write is one `write`. An `except Exception` is `attempt`, and a
`continue` of the reconcile loop is the list of reconciled rows returned so far.

Comparisons of ages in float seconds are comparisons of integer nanoseconds,
and the payloads of watchdog events and GPU-seconds are left out.
-/

namespace Operator

open Python Program

namespace Scheduler

/-! ## Effects -/

/-- A call that returns its answer or raises. -/
def returned {α : Type} (p : Sched (Except Error α)) : Sched α := p.bind Prog.ofExcept

/-- A call of the environment. -/
def ask (q : Query) : Sched q.Reply := Prog.perform (Effect.ask q)

def query {α : Type} (f : Store → Except Error α) : Sched α :=
  (Prog.perform Effect.read).bind fun s : Store => Prog.ofExcept (f s)

def write (op : StoreOp) : Sched Unit := returned (Prog.perform (Effect.write op))

def dispatchControl : Sched (DispatchState × Option String) :=
  (Prog.perform Effect.dispatchControl).bind fun s : Store =>
    pure (s.dispatchState, s.dispatchStopReason)

/-- `_now` of the scheduler. -/
def now : Sched Int := do
  let t : Int ← ask .now
  Prog.ofExcept (require (0 < t) (valueError "scheduler clock must return positive nanoseconds"))
  pure t

/-- The store's own clock, read by the methods that are given no time. -/
def storeNow : Sched Int := ask .storeNow

/-- `try: p` with `except Exception`. -/
def attempt {α : Type} (p : Sched α) : Sched (Except Error α) := p.attempt Error.isException

/-- `record_watchdog_event` on an attempt. -/
def record (eventType : String) (key : AttemptKey) (occurred : Int) : Sched Unit :=
  write (.recordWatchdogEvent eventType (some key) occurred)

/-- `set_dispatch_stop`. -/
def setStop (reason : String) (stopped : Int) : Sched Unit :=
  write (.setDispatchStop reason stopped)

/-- An event and a STOP with the same time, the usual fail-closed handler. -/
def failClosed (eventType reason : String) (key : AttemptKey) (occurred : Int) : Sched Unit := do
  record eventType key occurred
  setStop reason occurred

/-- What `_reconcile_running` reports about an attempt. -/
inductive ReconcileTag
  | stopped
  | waitingStartReceipt
  | startNotPublished
  | stopGate
  | manualHeartbeatWaiver
  | heartbeat
  | observed
  | killFailed
  | residentKillSent
  | waitingResidentExit
  | failed
  | waiting
  | terminal (status : TerminalStatus)
  | spawnFailed
  | stopNoProcessMetadata
  | stopNoTermCallback
  | stopNoKillCallback
  | termFailed
  | termSent
  | killSent
  | waitingGroupExitAfterKill
  | waitingTermGrace

/-- A row of `SchedulerCycleResult.reconciled`. -/
abbrev Reconciled := AttemptKey × ReconcileTag

/-! ## Retries -/

variable (cfg : SchedulerConfig) (command : QueuedCommandSpec) (group : Option Store.GroupView)
  (row : AttemptRow)

/-- The `try` block of `_materialize_retry`. -/
def buildRetry : Sched Unit := do
  let nextAttempt := command.val.attempt + 1
  let answer : Returned (CellAttemptSpec × QueuedCommandSpec) ←
    returned (ask (.retryBuilder command nextAttempt))
  match answer with
  | .other => Prog.throw (valueError "retry builder returned a different attempt")
  | .value (spec, retryCommand) => do
    Prog.ofExcept (require (spec.key = ⟨command.val.cellId, nextAttempt⟩ ∧
        retryCommand.key = ⟨command.val.cellId, nextAttempt⟩)
      (valueError "retry builder returned a different attempt"))
    let prior ← query fun s => s.requireAttempt command.key
    Prog.ofExcept (require (spec.val.outputDirectory ≠ prior.outputDirectory)
      (valueError "retry builder reused the prior output directory"))
    Prog.ofExcept (require (∀ path ∈ command.val.evidencePaths,
        path ∉ retryCommand.val.evidencePaths)
      (valueError "retry builder reused prior attempt evidence paths"))
    let materialized ← storeNow
    write (.materializeAttempt spec materialized)
    let enqueued ← storeNow
    write (.enqueueCommand retryCommand enqueued)
    let occurred ← now
    record "INFRASTRUCTURE_RETRY_QUEUED" ⟨command.val.cellId, nextAttempt⟩ occurred

def materializeRetry : Sched Unit :=
  if cfg.retryBuilder then do
    match ← attempt (buildRetry command) with
    | .ok () => pure ()
    | .error _ => do
      let occurred ← now
      record "INFRASTRUCTURE_RETRY_BUILD_FAILED" command.key occurred
      let stopped ← now
      setStop "infrastructure_retry_builder_failed" stopped
  else pure ()

/-- One round of `_materialize_serving_group_retries`. -/
def retryMember : Sched Unit := do
  let previous ← query fun s => s.requireAttempt command.key
  if previous.status = .failed ∧ previous.retryDecision = some retryInfrastructureAutomatic then do
    let count ← query fun s => .ok (s.infrastructureFailureCount command.val.cellId)
    if count < 2 then materializeRetry cfg command else pure ()
  else pure ()

def materializeServingGroupRetries (group : Store.GroupView) (commands : List QueuedCommandSpec) :
    Sched Unit :=
  if 2 ≤ group.members.length ∧ group.members.length ≤ 32 ∧
      (∀ m ∈ group.members, m.logicalKind = .serving) ∧ cfg.retryBuilder = true then
    Prog.forEach (retryMember cfg) commands
  else pure ()

/-! ## Terminal transitions -/

/-- The shared shape of the infrastructure failures of a standalone attempt:
the failure is written with the retry decision and the GPU time, then the retry
is made. -/
def finishInfrastructure (failureCode exclusionReason : String) (evidence : EvidenceFiles)
    (gpuSeconds : Except Error GpuSeconds) (finished : Int) : Sched Unit := do
  let count ← query fun s => .ok (s.infrastructureFailureCount command.val.cellId)
  let automatic := decide (count < 2) && cfg.retryBuilder
  let gpuSeconds ← Prog.ofExcept gpuSeconds
  write (.finishAttempt command.key
    { status := .failed
      evidenceFiles := evidence
      failureCode := some failureCode
      retryDecision := some
        (if automatic then retryInfrastructureAutomatic else "NO_RETRY_BUILDER_OR_LIMIT")
      exclusionReason := some exclusionReason
      gpuSeconds := gpuSeconds
      finishedAtNs := finished })
  if automatic then materializeRetry cfg command else pure ()

def terminalizeSpawnFailure (error : Error) : Sched Unit := do
  let finished ← now
  finishInfrastructure cfg command "INFRASTRUCTURE:SPAWN_FAILED"
    ("spawn_failed:" ++ error.kind.name) [] (.ok 0) finished

def terminalizeMissingStartReceipt (now : Int) : Sched Unit :=
  finishInfrastructure cfg command "INFRASTRUCTURE:START_RECEIPT_NOT_PUBLISHED"
    "wrapper_start_receipt_absent_after_attach_grace" [] (.ok 0) now

/-- `partial_evidence`; a failure is an event. -/
def collectPartialEvidence (now : Int) : Sched EvidenceFiles :=
  if cfg.partialEvidence then do
    match ← attempt (returned (ask (.partialEvidence command))) with
    | .ok evidence => pure evidence
    | .error _ => do
      record "PARTIAL_EVIDENCE_COLLECTION_FAILED" command.key now
      pure []
  else pure []

def forcedExclusion (reason : String) (validatorError : Option Error) : String :=
  "forced_termination:" ++ reason.toLower ++
    (match validatorError with
      | some error => ":" ++ error.kind.name
      | none => "")

/-- The group branch of `_terminalize_forced_termination`. -/
def terminalizeForcedGroup (group : Store.GroupView) (reason : String)
    (validatorError : Option Error) (evidence : EvidenceFiles) (now : Int) : Sched Unit := do
  let commands ← query fun s => s.physicalAttemptGroupCommands group.group.groupId
  let kind ← Prog.ofExcept group.kind
  let residentOrphan := kind = .tp1ServingSession ∧
    reason = "RESIDENT_SERVER_ORPHAN_AFTER_WRAPPER_EXIT"
  write (.failPhysicalAttemptGroupInfrastructure group.group.groupId
    (if residentOrphan then "INFRASTRUCTURE:RESIDENT_GROUP_UNSEALED_EXIT"
      else "INFRASTRUCTURE:RUNTIME_LIMIT_EXCEEDED")
    (if residentOrphan then "resident_wrapper_exited_without_atomic_close_fanout"
      else forcedExclusion reason validatorError)
    evidence cfg.retryBuilder now)
  materializeServingGroupRetries cfg group commands

/-- The GPU time of a standalone attempt that is terminated. -/
def forcedGpuSeconds (now : Int) : Except Error GpuSeconds :=
  match row.startedAtNs with
  | none => .error (typeError
      "int() argument must be a string, a bytes-like object or a real number, not 'NoneType'")
  | some started => .ok (.lease (max 0 (now - started)) row.assignedGpuUuids.length)

def terminalizeForcedTermination (now : Int) (validatorError : Option Error) : Sched Unit := do
  let evidence ← collectPartialEvidence cfg command now
  let reason := row.terminationReason.getD "None"
  match group with
  | some group => terminalizeForcedGroup cfg group reason validatorError evidence now
  | none => do
    finishInfrastructure cfg command "INFRASTRUCTURE:RUNTIME_LIMIT_EXCEEDED"
      (forcedExclusion reason validatorError) evidence (forcedGpuSeconds row now) now
    record "FORCED_TERMINATION_TERMINALIZED_INFRASTRUCTURE" command.key now

/-- The GPU time of a terminal: what its own timing says, if it has one. -/
def terminalGpuSeconds (t : Terminal) (gpus : Nat) : GpuSeconds :=
  match t.startedNs, t.finishedNs with
  | some started, some finished => .lease (finished - started) gpus
  | _, _ => 0

/-- The fields that both branches of `_finish_from_terminal` copy. -/
def terminalArgs (t : Terminal) (gpus : Nat) (now : Int) : FinishArgs where
  status := t.status.attemptStatus
  exitCode := t.exitCode
  terminalSha256 := t.terminalSha256
  junitSha256 := t.junitSha256
  rawLogSha256 := t.rawLogSha256
  evidenceFiles := t.evidenceFiles
  includedInAnalysis := t.includedInAnalysis
  exclusionReason := t.exclusionReason
  gpuSeconds := terminalGpuSeconds t gpus
  finishedAtNs := if t.startedNs.isSome then t.finishedNs.getD now else now

/-- The condition of `automatic_retry`; the count is read for an
infrastructure failure only. -/
def automaticRetry (cls : FailureClass) : Sched Bool :=
  if cls = .infrastructure then do
    let count ← query fun s => .ok (s.infrastructureFailureCount command.val.cellId)
    pure (decide (count < 2) && cfg.retryBuilder)
  else pure false

/-- The failure branch of `_finish_from_terminal`. -/
def finishFailedTerminal (t : Terminal) (cls : FailureClass) (gpus : Nat) (now : Int) :
    Sched Unit := do
  let automatic ← automaticRetry cfg command cls
  write (.finishAttempt command.key
    { terminalArgs t gpus now with
      failureCode := some (cls.text ++ ":" ++ t.failureCode.getD "None")
      retryDecision := some (if automatic then retryInfrastructureAutomatic else "NO_BLIND_RETRY")
      includedInAnalysis := false })
  if automatic then materializeRetry cfg command else pure ()

def finishFromTerminal (terminal : TerminalEvidence) (now : Int) : Sched Unit := do
  let row ← query fun s => s.requireAttempt command.key
  let gpus := row.assignedGpuUuids.length
  match terminal.val.status, terminal.val.failureClass with
  | .complete, _ => do
    write (.finishAttempt command.key (terminalArgs terminal.val gpus now))
    record "ATOMIC_TERMINAL_ACCEPTED" command.key now
  | .failed, some cls => finishFailedTerminal cfg command terminal.val cls gpus now
  | .failed, none => Prog.throw ⟨.assertionError, ""⟩

/-! ## Termination -/

/-- The signal callback is configured. -/
def canSend : SignalName → Bool
  | .term => cfg.sendTerm
  | .kill => cfg.sendKill

/-- A signal and its record in the ledger. -/
def deliverSignal (pid pgid : Nat) (signal : SignalName) (now : Int) : Sched Unit := do
  returned (ask (.sendSignal signal command pid pgid))
  write (.recordAttemptTerminationSignal command.key signal now)

/-- The texts and tags of the two signal blocks of `_advance_termination`. -/
structure SignalTexts where
  unavailable : ReconcileTag
  failedEvent : String
  failedReason : String
  failed : ReconcileTag
  sentEvent : String
  sent : ReconcileTag

def signalTexts : SignalName → SignalTexts
  | .term => ⟨.stopNoTermCallback, "PROCESS_TERM_FAILED", "process_term_failed", .termFailed,
      "PROCESS_TERM_SENT", .termSent⟩
  | .kill => ⟨.stopNoKillCallback, "PROCESS_KILL_FAILED", "process_kill_failed", .killFailed,
      "PROCESS_GROUP_KILL_SENT", .killSent⟩

/-- The signal blocks of `_advance_termination`. -/
def advanceSignal (pid pgid : Nat) (signal : SignalName) (now : Int) : Sched ReconcileTag :=
  if canSend cfg signal then do
    match ← attempt (deliverSignal command pid pgid signal now) with
    | .error _ => do
      failClosed (signalTexts signal).failedEvent (signalTexts signal).failedReason command.key now
      pure (signalTexts signal).failed
    | .ok () => do
      record (signalTexts signal).sentEvent command.key now
      pure (signalTexts signal).sent
  else do
    failClosed "TERMINATION_CALLBACK_UNAVAILABLE" "termination_callback_unavailable" command.key now
    pure (signalTexts signal).unavailable

def advanceTermination (now : Int) : Sched ReconcileTag :=
  match row.pid, row.pgid with
  | some pid, some pgid =>
    match row.termSentAtNs, row.killSentAtNs with
    | none, _ => advanceSignal cfg command pid pgid .term now
    | some termSent, none =>
      if cfg.policy.terminationGraceNs < now - termSent then
        advanceSignal cfg command pid pgid .kill now
      else pure .waitingTermGrace
    | some _, some killSent =>
      if cfg.policy.terminationGraceNs < now - killSent then do
        record "PROCESS_GROUP_ALIVE_AFTER_KILL" command.key now
        pure .waitingGroupExitAfterKill
      else pure .waitingGroupExitAfterKill
  | _, _ => do
    setStop "terminating_attempt_lacks_process_metadata" now
    pure .stopNoProcessMetadata

def beginRuntimeTermination (now : Int) : Sched ReconcileTag := do
  write (.requestAttemptTermination command.key "SOURCE_BOUND_RUNTIME_LIMIT" now)
  record "COMMAND_RUNTIME_LIMIT_EXCEEDED" command.key now
  let control ← dispatchControl
  if control.1 = .stop then do
    let current ← query fun s => s.requireAttempt command.key
    advanceTermination cfg command current now
  else do
    setStop "command_runtime_limit_exceeded" now
    let current ← query fun s => s.requireAttempt command.key
    advanceTermination cfg command current now

/-! ## A live process -/

def isServingSession : Option Store.GroupView → Except Error Bool
  | none => .ok false
  | some group => do
    let kind ← group.kind
    pure (decide (kind = .tp1ServingSession))

/-- `record_runtime_observation` of an attempt or of its group. -/
def observeRuntime (pid pgid : Nat) (logSize : Int) (gpu : Bool) (now : Int) : Sched Unit :=
  match group with
  | none => write (.recordRuntimeObservation command.key pid pgid logSize gpu now)
  | some group => write (.recordPhysicalAttemptGroupRuntimeObservation group.group.groupId
      pid pgid logSize gpu now)

/-- `record_heartbeat` of an attempt or of its group. -/
def recordBeat (pid pgid : Nat) (logSize : Int) (gpu : Bool) (beat : WorkerHeartbeat) :
    Sched Unit :=
  match group with
  | none => write (.recordHeartbeat command.key pid pgid logSize gpu beat.observedAtNs
      (some beat.sequence))
  | some group => write (.recordPhysicalAttemptGroupHeartbeat group.group.groupId pid pgid
      logSize gpu beat.observedAtNs (some beat.sequence))

/-- The call of `worker_heartbeat`. -/
def readHeartbeat : Sched (Option WorkerHeartbeat) :=
  if cfg.workerHeartbeat then do
    let answer : Returned (Option WorkerHeartbeat) ← returned (ask (.workerHeartbeat command))
    match answer with
    | .value beat => pure beat
    | .other => Prog.throw (typeError "worker heartbeat callback returned another type")
  else pure none

/-- The probe of the worker that a heartbeat names. -/
def probeWorker (workerPid pgid : Nat) : Sched Unit := do
  let answer : Returned ProcessObservation ← returned (ask (.processProbe workerPid pgid))
  match answer with
  | .other => Prog.throw (attributeError "'object' object has no attribute 'alive'")
  | .value worker => Prog.ofExcept (require (¬ (worker.alive = true ∧
      worker.observedPgid ≠ some pgid)) (valueError "heartbeat worker is outside process group"))

/-- The `try` block of a live process; returns `heartbeat_recorded`. -/
def recordLiveness (pid pgid : Nat) (now : Int) : Sched Bool := do
  let logSize : Int ← returned (ask (.logSizeBytes command))
  let gpu : Bool ← returned (ask (.gpuSnapshot row.assignedGpuUuids))
  match ← readHeartbeat cfg command with
  | none => do
    observeRuntime command group pid pgid logSize gpu now
    pure false
  | some beat => do
    Prog.ofExcept (require (beat.commandSha256 = command.val.commandSha256 ∧
        beat.observedAtNs ≤ now ∧ row.startedAtNs.any (· ≤ beat.observedAtNs))
      (valueError "worker heartbeat identity or timing differs"))
    probeWorker beat.workerPid pgid
    if row.heartbeatSequence < beat.sequence then do
      recordBeat command group pid pgid logSize gpu beat
      pure true
    else do
      Prog.ofExcept (require (beat.sequence = row.heartbeatSequence ∧
          row.heartbeatAtNs = some beat.observedAtNs)
        (valueError "worker heartbeat regressed or changed"))
      observeRuntime command group pid pgid logSize gpu now
      pure false

/-- The bound file and the process rows of a manual recovery from a stale
heartbeat. -/
def manualRecovery : Option RecoveryEvidence → Option (ArtifactBinding × List RecoveryProcess)
  | some (.running .manualOperatorEvidence reason verified processes _ (some manual)) =>
    if reason = "child_heartbeat_stale" ∧ 0 < verified then some (manual, processes) else none
  | _ => none

/-- The file of a manual recovery is the one that was bound. -/
def manualEvidenceHolds (binding : ArtifactBinding) : Sched Bool := do
  let bindAgain : Sched ArtifactBinding := returned (ask (.bindManualEvidence binding))
  let caught (error : Error) : Bool :=
    error.kind = .typeError ∨ error.kind = .valueError ∨ error.kind = .osError ∨
      error.kind = .runtimeError
  match ← bindAgain.attempt caught with
  | .ok again => pure (decide (again = binding))
  | .error _ => pure false

def coversProcess (processes : List RecoveryProcess) (command : QueuedCommandSpec)
    (row : AttemptRow) : Bool :=
  match processes.filter fun process => command.key ∈ process.coveredAttempts with
  | [process] => process.key = command.key ∧
      process.commandSha256 = command.val.commandSha256 ∧ process.pid = row.pid ∧
      process.pgid = row.pgid ∧ process.processStartReceiptSha256 = row.processStartReceiptSha256
  | _ => false

/-- The start receipt names the recorded process. -/
def receiptMatches (now : Int) : Sched Bool := do
  let answer : Returned (Option RecoveredProcessStart) ←
    returned (ask (.recoverStartedProcess now command))
  match answer with
  | .other => Prog.throw (attributeError "'object' object has no attribute 'pid'")
  | .value none => pure false
  | .value (some recovered) => pure (decide (some recovered.pid = row.pid ∧
      some recovered.pgid = row.pgid ∧
      some recovered.receiptSha256 = row.processStartReceiptSha256))

def manualHeartbeatWaiver (now : Int) : Sched Bool := do
  let evidence ← query fun s => .ok s.recoveryEvidence
  match manualRecovery evidence with
  | none => pure false
  | some (manual, processes) => do
    let holds ← manualEvidenceHolds manual
    if holds = true ∧ coversProcess processes command row = true ∧
        cfg.recoverStartedProcess = true then
      receiptMatches command row now
    else pure false

/-- What the heartbeat check decides about a live process. -/
inductive HeartbeatVerdict
  | fresh
  | waived
  | stale

/-- The stale-heartbeat check of a live process. -/
def checkHeartbeat (started now : Int) : Sched HeartbeatVerdict :=
  if cfg.policy.heartbeatTimeoutNs < now - row.heartbeatAtNs.getD started then do
    if ← manualHeartbeatWaiver cfg command row now then do
      record "CHILD_HEARTBEAT_STALE_MANUALLY_ACKNOWLEDGED" command.key now
      pure .waived
    else do
      failClosed "CHILD_HEARTBEAT_STALE" "child_heartbeat_stale" command.key now
      pure .stale
  else pure .fresh

/-- `worker_heartbeat_required` and the check behind it. -/
def heartbeatVerdict (started now : Int) : Sched HeartbeatVerdict :=
  if cfg.workerHeartbeatRequired then do
    let required : Bool ← returned (ask (.workerHeartbeatRequired command))
    if required then checkHeartbeat cfg command row started now else pure .fresh
  else pure .fresh

def secondsNs (seconds : Nat) : Int := seconds * 1000000000

/-- `int(row["started_at_ns"])`. -/
def startedNs : Except Error Int :=
  match row.startedAtNs with
  | some started => .ok started
  | none => .error (typeError "int() argument must be a string or a real number, not 'NoneType'")

def warnLogStall (now : Int) : Sched Unit :=
  if row.lastLogGrowthNs.any fun grown =>
      decide (secondsNs command.val.maxLogStallSeconds < now - grown) then
    record "COMMAND_LOG_STALL_WARNING" command.key now
  else pure ()

/-- A live process after its observation was recorded. -/
def superviseLive (recorded : Bool) (now : Int) : Sched ReconcileTag := do
  let current ← query fun s => s.requireAttempt command.key
  let started ← Prog.ofExcept (startedNs current)
  warnLogStall command current now
  let verdict ← heartbeatVerdict cfg command current started now
  match verdict with
  | .stale => pure .stopGate
  | .fresh | .waived =>
    if current.terminationReason.isSome then advanceTermination cfg command current now
    else if secondsNs command.val.maxRuntimeSeconds < now - started then
      beginRuntimeTermination cfg command now
    else
      match verdict, recorded with
      | .waived, _ => pure .manualHeartbeatWaiver
      | _, true => pure .heartbeat
      | _, false => pure .observed

/-- A process that the probe reports alive. -/
def reconcileLive (pid pgid : Nat) (now : Int) : Sched ReconcileTag := do
  match ← attempt (recordLiveness cfg command group row pid pgid now) with
  | .error _ => do
    failClosed "LIVE_PROCESS_MONITORING_FAILED" "live_process_monitoring_failed" command.key now
    pure .stopped
  | .ok recorded => superviseLive cfg command recorded now

/-! ## A process that is gone -/

/-- The values of `independent_process_groups` that `process_group_alive` confirms. -/
def liveAmong : List Int → Sched (List Int)
  | [] => pure []
  | value :: rest => do
    let alive : Bool ← returned (ask (.processGroupAlive value))
    let live ← liveAmong rest
    pure (if alive then value :: live else live)

/-- The call of `independent_process_groups` with its checks. -/
def independentGroups : Sched (List Int) :=
  if cfg.independentProcessGroups then do
    let answer : Returned (List Int) ← returned (ask (.independentProcessGroups command))
    match answer with
    | .other => Prog.throw (valueError "independent process-group targets differ")
    | .value pgids => do
      Prog.ofExcept (require (pgids.Nodup ∧ ∀ value ∈ pgids, 0 < value)
        (valueError "independent process-group targets differ"))
      Prog.ofExcept (require (pgids = [] ∨ cfg.processGroupAlive = true)
        (runtimeError "independent process-group targets lack a liveness probe"))
      pure pgids
  else pure []

/-- The `try` block of an exited wrapper: its live independent groups, and
whether its own group is alive. -/
def liveGroups (pgid : Nat) : Sched (List Int × Bool) := do
  let pgids ← independentGroups cfg command
  let live ← liveAmong pgids
  if cfg.processGroupAlive then do
    let wrapper : Bool ← returned (ask (.processGroupAlive pgid))
    pure (live, wrapper)
  else pure (live, false)

/-- The `try` block that kills an orphaned resident server. -/
def killOrphan (pid pgid : Nat) (now : Int) : Sched Unit := do
  write (.requestAttemptTermination command.key "RESIDENT_SERVER_ORPHAN_AFTER_WRAPPER_EXIT" now)
  deliverSignal command pid pgid .term now
  deliverSignal command pid pgid .kill now

/-- A wrapper that exited while an independent process group is alive. -/
def reconcileOrphans (pid pgid : Nat) (now : Int) : Sched ReconcileTag := do
  let current ← query fun s => s.requireAttempt command.key
  let resident ← Prog.ofExcept (isServingSession group)
  if resident = true ∧ cfg.sendTerm = true ∧ cfg.sendKill = true then
    if current.terminationReason.isNone then do
      match ← attempt (killOrphan command pid pgid now) with
      | .error _ => do
        failClosed "RESIDENT_ORPHAN_KILL_FAILED" "resident_orphan_kill_failed" command.key now
        pure .killFailed
      | .ok () => do
        record "RESIDENT_ORPHAN_KILL_SENT" command.key now
        pure .residentKillSent
    else if current.killSentAtNs.any fun sent =>
        decide (cfg.policy.terminationGraceNs < now - sent) then do
      failClosed "RESIDENT_PROCESS_GROUP_ALIVE_AFTER_KILL"
        "resident_process_group_alive_after_kill" command.key now
      pure .waitingResidentExit
    else pure .waitingResidentExit
  else do
    failClosed "WRAPPER_EXITED_WITH_LIVE_INDEPENDENT_PROCESS_GROUP"
      "wrapper_exited_with_live_independent_process_group" command.key now
    pure .stopGate

/-- A wrapper that exited while its own process group is alive. -/
def reconcileWrapperGroup (now : Int) : Sched ReconcileTag := do
  let current ← query fun s => s.requireAttempt command.key
  if current.terminationReason.isSome then advanceTermination cfg command current now
  else do
    failClosed "WRAPPER_EXITED_WITH_LIVE_PROCESS_GROUP" "wrapper_exited_with_live_process_group"
      command.key now
    pure .stopGate

def setTerminal (terminals : List (String × TerminalEvidence)) (cellId : String)
    (terminal : TerminalEvidence) : List (String × TerminalEvidence) :=
  terminals.filter (fun entry => entry.1 ≠ cellId) ++ [(cellId, terminal)]

/-- The loop over the logical commands: their terminals, and whether one is
missing. -/
def collectTerminals (observation : ProcessObservation) :
    List QueuedCommandSpec → List (String × TerminalEvidence) → Bool →
    Sched (List (String × TerminalEvidence) × Bool)
  | [], terminals, waiting => pure (terminals, waiting)
  | command :: rest, terminals, waiting => do
    let row ← query fun s => s.requireAttempt command.key
    let answer : Returned (Option TerminalEvidence) ←
      returned (ask (.terminalValidator command row observation))
    match answer with
    | .other => Prog.throw (typeError "terminal validator returned another type")
    | .value none => collectTerminals observation rest terminals true
    | .value (some terminal) =>
      collectTerminals observation rest (setTerminal terminals command.val.cellId terminal) waiting

/-- The `try` block of the terminal validation. -/
def validateTerminals (observation : ProcessObservation) :
    Sched (List QueuedCommandSpec × List (String × TerminalEvidence) × Bool) := do
  match group with
  | none => do
    let result ← collectTerminals observation [command] [] false
    pure ([command], result)
  | some group => do
    let commands ← query fun s => s.physicalAttemptGroupCommands group.group.groupId
    let result ← collectTerminals observation commands [] false
    pure (commands, result)

/-- A resident group whose wrapper is gone without an atomic close. -/
def failUnsealedGroup (group : Store.GroupView) (commands : List QueuedCommandSpec) (now : Int) :
    Sched (List Reconciled) := do
  let evidence ← collectPartialEvidence cfg command now
  write (.failPhysicalAttemptGroupInfrastructure group.group.groupId
    "INFRASTRUCTURE:RESIDENT_GROUP_UNSEALED_EXIT"
    "resident_wrapper_exited_without_atomic_close_fanout" evidence cfg.retryBuilder now)
  materializeServingGroupRetries cfg group commands
  pure (commands.map fun c => (c.key, .failed))

/-- Some terminal is missing and no termination was requested. -/
def reconcileWaiting (commands : List QueuedCommandSpec) (now : Int) : Sched (List Reconciled) := do
  let resident ← Prog.ofExcept (isServingSession group)
  match group, resident with
  | some group, true => failUnsealedGroup cfg command group commands now
  | _, _ => do
    record "TERMINAL_EVIDENCE_NOT_YET_ATOMIC" command.key now
    pure [(command.key, .waiting)]

def isInfrastructureFailure (t : Terminal) : Bool :=
  t.status = .failed ∧ t.failureClass = some .infrastructure

/-- Every logical command has a terminal. -/
def reconcileSealed (commands : List QueuedCommandSpec)
    (terminals : List (String × TerminalEvidence)) (now : Int) : Sched (List Reconciled) :=
  match group with
  | none =>
    match Store.terminalFor terminals command.val.cellId with
    | none => Prog.throw (keyError command.val.cellId)
    | some terminal => do
      finishFromTerminal cfg command terminal now
      pure [(command.key, .terminal terminal.val.status)]
  | some group => do
    match ← attempt (write (.finishPhysicalAttemptGroup group.group.groupId terminals
        cfg.retryBuilder now)) with
    | .error _ => do
      failClosed "PHYSICAL_GROUP_TERMINAL_FANOUT_FAILED" "physical_group_terminal_fanout_failed"
        command.key now
      pure [(command.key, .stopped)]
    | .ok () => do
      materializeServingGroupRetries cfg group (commands.filter fun c =>
        (Store.terminalFor terminals c.val.cellId).any fun t => isInfrastructureFailure t.val)
      pure (commands.filterMap fun c =>
        (Store.terminalFor terminals c.val.cellId).map fun t => (c.key, .terminal t.val.status))

/-- A wrapper that is gone with its process group. -/
def reconcileTerminal (observation : ProcessObservation) (now : Int) : Sched (List Reconciled) := do
  let current ← query fun s => s.requireAttempt command.key
  match ← attempt (validateTerminals command group observation) with
  | .error error =>
    if current.terminationReason.isSome then do
      terminalizeForcedTermination cfg command group current now (some error)
      pure [(command.key, .failed)]
    else do
      failClosed "TERMINAL_VALIDATION_FAILED" "terminal_evidence_validation_failed" command.key now
      pure [(command.key, .stopped)]
  | .ok (commands, terminals, waiting) =>
    if waiting then
      if current.terminationReason.isSome then do
        terminalizeForcedTermination cfg command group current now none
        pure [(command.key, .failed)]
      else reconcileWaiting cfg command group commands now
    else reconcileSealed cfg command group commands terminals now

/-- A process that the probe does not report alive. -/
def reconcileExited (observation : ProcessObservation) (pid pgid : Nat) (now : Int) :
    Sched (List Reconciled) := do
  match ← attempt (liveGroups cfg command pgid) with
  | .error _ => do
    failClosed "INDEPENDENT_PROCESS_GROUP_VALIDATION_FAILED"
      "independent_process_group_validation_failed" command.key now
    pure [(command.key, .stopped)]
  | .ok (independent, wrapperAlive) =>
    if independent ≠ [] then do
      let tag ← reconcileOrphans cfg command group pid pgid now
      pure [(command.key, tag)]
    else if wrapperAlive then do
      let tag ← reconcileWrapperGroup cfg command now
      pure [(command.key, tag)]
    else reconcileTerminal cfg command group observation now

/-! ## One running attempt -/

def observeProcess (pid pgid : Nat) (now : Int) : Sched (List Reconciled) := do
  let answer : Returned ProcessObservation ← returned (ask (.processProbe pid pgid))
  match answer with
  | .other => do
    setStop "invalid_process_probe_result" now
    pure [(command.key, .stopped)]
  | .value observation =>
    if observation.pid ≠ pid then do
      setStop "invalid_process_probe_result" now
      pure [(command.key, .stopped)]
    else if observation.alive = true ∧ observation.observedPgid = some pgid then do
      let tag ← reconcileLive cfg command group row pid pgid now
      pure [(command.key, tag)]
    else reconcileExited cfg command group observation pid pgid now

/-- `recover_started_process` with its type check. -/
def recoverStart (now : Int) : Sched (Option RecoveredProcessStart) := do
  let answer : Returned (Option RecoveredProcessStart) ←
    returned (ask (.recoverStartedProcess now command))
  match answer with
  | .value recovered => pure recovered
  | .other => Prog.throw (typeError "process-start recovery returned another type")

/-- The age of the start is past the attach grace; a row without a start time
is never. -/
def pastAttachGrace (now : Int) : Bool :=
  row.startedAtNs.any fun started => decide (cfg.policy.processAttachGraceNs < now - started)

/-- No start receipt was published within the attach grace. -/
def failMissingStart (now : Int) : Sched Unit :=
  match group with
  | none => terminalizeMissingStartReceipt cfg command now
  | some group => write (.failPhysicalAttemptGroupSpawn group.group.groupId
      "START_RECEIPT_NOT_PUBLISHED" cfg.retryBuilder now)

def attachRecovered (recovered : RecoveredProcessStart) (now : Int) : Sched (List Reconciled) := do
  let attached ← storeNow
  write (match group with
    | none => .attachProcess command.key recovered.pid recovered.pgid
        (some recovered.receiptSha256) attached
    | some group => .attachPhysicalAttemptGroupProcess group.group.groupId recovered.pid
        recovered.pgid (some recovered.receiptSha256) attached)
  record "PROCESS_METADATA_RECOVERED_FROM_START_RECEIPT" command.key now
  let row ← query fun s => s.requireAttempt command.key
  observeProcess cfg command group row recovered.pid recovered.pgid now

/-- A running attempt without process metadata. -/
def reconcileUnattached (now : Int) : Sched (List Reconciled) :=
  if cfg.recoverStartedProcess then do
    match ← attempt (recoverStart command now) with
    | .error _ => do
      failClosed "PROCESS_START_RECEIPT_VALIDATION_FAILED"
        "process_start_receipt_validation_failed" command.key now
      pure [(command.key, .stopped)]
    | .ok none =>
      if pastAttachGrace cfg row now then do
        failMissingStart cfg command group now
        record "PROCESS_START_RECEIPT_NOT_PUBLISHED" command.key now
        pure [(command.key, .startNotPublished)]
      else pure [(command.key, .waitingStartReceipt)]
    | .ok (some recovered) => do
      let started ← Prog.ofExcept (startedNs row)
      if recovered.startedNs < started then do
        failClosed "PROCESS_START_RECEIPT_TIMING_INVALID" "process_start_receipt_timing_invalid"
          command.key now
        pure [(command.key, .stopped)]
      else attachRecovered cfg command group recovered now
  else pure []

/-- One round of the loop of `_reconcile_running`. -/
def reconcileOne (now : Int) (command : QueuedCommandSpec) : Sched (List Reconciled) := do
  let row ← query fun s => s.requireAttempt command.key
  let group ← query fun s => s.physicalAttemptGroupForAttempt command.key
  match row.pid, row.pgid with
  | some pid, some pgid => observeProcess cfg command group row pid pgid now
  | _, _ => reconcileUnattached cfg command group row now

def reconcileRunning : Sched (List Reconciled) := do
  let now ← now
  let commands ← query fun s => .ok (s.physicalCommands .running)
  let reconciled ← Prog.collect (reconcileOne cfg now) commands
  returned (ask (.watchdogOnce now))
  pure reconciled

end Scheduler

end Operator

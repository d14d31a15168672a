import Mathlib.Algebra.GroupWithZero.Nat
import LightConeSpec.Operator.Reconcile

/-!
# The scheduler: dispatch

`_select_dispatch`, the disk gate, the two start operations with their
launcher, and `run_once` as the body of a loop: `CycleState.start` is the part
before `while True`, and `CycleState.dispatch` is one round of it.
-/

namespace Operator

open Python Program

def Store.interferenceEnvelope (s : Store) : Except Error InterferenceEnvelope :=
  match s.envelope with
  | some envelope => .ok envelope
  | none => .error (operatorError "interference envelope is not configured")

namespace Scheduler

/-! ## Selection -/

/-- What `_select_dispatch` decides. -/
inductive Choice
  | nothing
  | stop (reason : String)
  | dispatch (command : QueuedCommandSpec) (gpus : List String)

/-- The loop over the pending commands; `running` says whether a row is
`RUNNING`. -/
def choosePending (envelope : InterferenceEnvelope) (running : Bool)
    (occupied available : List String) : List QueuedCommandSpec → Choice
  | [] => .nothing
  | command :: rest =>
    if envelope.gpuUuids.length < command.val.requiredGpuCount then
      choosePending envelope running occupied available rest
    else if 1 < command.val.requiredGpuCount ∨ command.val.timingClass.isExclusive = true then
      if running = true ∨ available.length < command.val.requiredGpuCount then
        choosePending envelope running occupied available rest
      else .dispatch command (available.take command.val.requiredGpuCount)
    else if envelope.mode = .isolated ∧ occupied ≠ [] then
      choosePending envelope running occupied available rest
    else if command.val.timingClass = .headline ∧ envelope.mode = .unresolved then
      choosePending envelope running occupied available rest
    else
      match command.val.preferredGpuIndex with
      | some index =>
        match envelope.gpuUuids[index]? with
        | none => .stop "preferred_gpu_index_outside_interference_inventory"
        | some gpu =>
          if gpu ∈ available then .dispatch command [gpu]
          else choosePending envelope running occupied available rest
      | none =>
        match available with
        | gpu :: _ => .dispatch command [gpu]
        | [] => choosePending envelope running occupied available rest

/-- The sort key of `_select_dispatch`: the last launch key goes first within a
priority. -/
def dispatchOrder (preferred : Option String) (command : QueuedCommandSpec) :
    Int ×ₗ Bool ×ₗ String ×ₗ String ×ₗ Nat :=
  toLex (-command.val.priority,
    toLex (decide (some command.val.launchCompatibilityKey ≠ preferred),
      toLex (command.val.launchCompatibilityKey,
        toLex (command.val.cellId, command.val.attempt))))

/-- The GPUs of the `RUNNING` rows. -/
def occupiedGpus (rows : List AttemptRow) : List String :=
  (rows.filter fun row => row.status = .running).flatMap (·.assignedGpuUuids)

variable (cfg : SchedulerConfig) (envelope : InterferenceEnvelope)

def availableGpus (occupied : List String) : List String :=
  envelope.gpuUuids.filter fun gpu => gpu ∉ occupied

/-- The decision after the three queries that follow the snapshot. -/
def choose (rows : List AttemptRow) (runningCommands : List QueuedCommandSpec)
    (pending : List QueuedCommandSpec) : Choice :=
  let occupied := occupiedGpus rows
  if runningCommands.any fun command => command.val.timingClass.isExclusive then .nothing
  else choosePending envelope (rows.any fun row => row.status = .running) occupied
    (availableGpus envelope occupied) pending

def stopSelection (reason : String) : Sched (Option (QueuedCommandSpec × List String)) := do
  let stopped ← now
  setStop reason stopped
  pure none

def selectDispatch : Sched (Option (QueuedCommandSpec × List String)) := do
  let rows ← query fun s => .ok s.attempts
  let runningCommands ← query fun s => .ok (s.physicalCommands .running)
  if ∀ gpu ∈ occupiedGpus rows, gpu ∈ envelope.gpuUuids then do
    let preferred ← query fun s => .ok s.lastLaunchCompatibilityKey
    let pending ← query fun s => .ok (s.physicalCommands .pending)
    match choose envelope rows runningCommands (sortedBy (dispatchOrder preferred) pending) with
    | .nothing => pure none
    | .stop reason => stopSelection reason
    | .dispatch command gpus => pure (some (command, gpus))
  else stopSelection "running_attempt_uses_gpu_outside_interference_inventory"

/-! ## Starting -/

/-- The closure `launch` of `run_once`. -/
def launch (command : QueuedCommandSpec) (gpus : List String) : Sched SpawnedProcess := do
  let answer : Returned SpawnedProcess ← returned (Prog.perform (Effect.launch command gpus))
  match answer with
  | .other => Prog.throw (typeError "scheduler launcher returned another type")
  | .value process =>
    if process.pid = process.pgid then pure process
    else Prog.throw (valueError "scheduler child is not a setsid session leader")

/-- An event of the start path, at the store's own time. -/
def recordNow (eventType : String) (key : AttemptKey) : Sched Unit := do
  let occurred ← storeNow
  record eventType key occurred

/-- The attach transaction of a start, at the store's own time. -/
def attach (op : Int → StoreOp) : Sched Unit := do
  let attached ← storeNow
  returned (Prog.perform (Effect.attach (op attached)))

/-- What the two start operations share after their first transaction. -/
def launchAndAttach (command : QueuedCommandSpec) (gpus : List String) (key : AttemptKey)
    (spawnEvent attachEvent : String) (op : SpawnedProcess → Int → StoreOp) : Sched Unit := do
  let process ← (launch command gpus).onError fun _ => recordNow spawnEvent key
  (attach (op process)).onError fun _ => recordNow attachEvent key

def startAttemptWithLauncher (command : QueuedCommandSpec) (gpus : List String) (started : Int) :
    Sched Unit := do
  write (.markRunningBeforeSpawn command.key gpus started)
  launchAndAttach command gpus command.key "SPAWN_OUTCOME_UNKNOWN"
    "PROCESS_METADATA_ATTACH_FAILED" fun process attached =>
      .attachProcess command.key process.pid process.pgid process.processStartReceiptSha256 attached

/-- `start_physical_attempt_group_with_launcher`. -/
def startGroupWithLauncher (command : QueuedCommandSpec) (group : Store.GroupView)
    (gpus : List String) (started : Int) : Sched Unit := do
  write (.startPhysicalAttemptGroup group.group.groupId gpus started)
  launchAndAttach command gpus group.group.leader "PHYSICAL_GROUP_SPAWN_OUTCOME_UNKNOWN"
    "PHYSICAL_GROUP_PROCESS_METADATA_ATTACH_FAILED" fun process attached =>
      .attachPhysicalAttemptGroupProcess group.group.groupId process.pid process.pgid
        process.processStartReceiptSha256 attached

/-- The `try` block of a start in `run_once`. -/
def startCommand (command : QueuedCommandSpec) (gpus : List String) (started : Int) :
    Sched Unit := do
  let group ← query fun s => s.physicalAttemptGroupForAttempt command.key
  match group with
  | none => startAttemptWithLauncher command gpus started
  | some group => startGroupWithLauncher command group gpus started

/-- The handler of a failed start in `run_once`. -/
def failStart (command : QueuedCommandSpec) (error : Error) : Sched Unit := do
  let group ← query fun s => s.physicalAttemptGroupForAttempt command.key
  match group with
  | none => terminalizeSpawnFailure cfg command error
  | some group => do
    let commands ← query fun s => s.physicalAttemptGroupCommands group.group.groupId
    let finished ← now
    write (.failPhysicalAttemptGroupSpawn group.group.groupId error.kind.name cfg.retryBuilder
      finished)
    materializeServingGroupRetries cfg group commands

/-! ## One cycle -/

/-- `SchedulerCycleResult`. -/
structure CycleResult where
  reconciled : List Reconciled
  dispatched : List (AttemptKey × List String)
  dispatchState : DispatchState
  stopReason : Option String

/-- Where a cycle is: before its loop, or at the head of the loop with its
envelope and its two lists. -/
inductive CycleState
  | start
  | dispatch (envelope : InterferenceEnvelope) (reconciled : List Reconciled)
      (dispatched : List (AttemptKey × List String))

/-- The code after the loop. -/
def endCycle (reconciled : List Reconciled) (dispatched : List (AttemptKey × List String)) :
    Sched (CycleState ⊕ CycleResult) := do
  let control ← dispatchControl
  pure (.inr ⟨reconciled, dispatched, control.1, control.2⟩)

/-- `REMOTE_SPOOL_SAFETY_RESERVE_BYTES`. -/
def safetyReserveBytes : Int := 15 * 1024 ^ 3

/-- `required_free_bytes` of `evaluate_dispatch_disk_gate`. -/
def requiredFreeBytes (command : QueuedCommandSpec) (running : List QueuedCommandSpec) : Int :=
  command.val.predictedHighWaterBytes +
    ((running.map (·.val.predictedHighWaterBytes)).sum : Nat) + safetyReserveBytes

/-- `free_disk_bytes` with its checks. -/
def freeDiskBytes (command : QueuedCommandSpec) : Sched Int := do
  let answer : Returned Int ← returned (ask (.freeDiskBytes command.val.monitoredPath))
  match answer with
  | .other => Prog.throw (valueError "scheduler free-disk callback returned invalid bytes")
  | .value free => do
    Prog.ofExcept (require (0 ≤ free)
      (valueError "scheduler free-disk callback returned invalid bytes"))
    pure free

/-- An event and a STOP of the disk gate, each at its own time. -/
def stopForDisk (eventType reason : String) (command : QueuedCommandSpec) : Sched Unit := do
  let occurred ← now
  record eventType command.key occurred
  let stopped ← now
  setStop reason stopped

/-- The start of a selected command and what follows in the same round. -/
def dispatchSelected (reconciled : List Reconciled) (dispatched : List (AttemptKey × List String))
    (command : QueuedCommandSpec) (gpus : List String) : Sched (CycleState ⊕ CycleResult) := do
  let started ← now
  match ← attempt (startCommand command gpus started) with
  | .error error => do
    failStart cfg command error
    let control ← dispatchControl
    if control.1 = .stop then
      endCycle (reconciled ++ [(command.key, .spawnFailed)]) dispatched
    else pure (.inl (.dispatch envelope (reconciled ++ [(command.key, .spawnFailed)]) dispatched))
  | .ok () => do
    write (.recordLaunchCompatibilityKey command.val.launchCompatibilityKey)
    let occurred ← now
    record "COMMAND_DISPATCHED" command.key occurred
    pure (.inl (.dispatch envelope reconciled (dispatched ++ [(command.key, gpus)])))

def gateSelected (reconciled : List Reconciled) (dispatched : List (AttemptKey × List String))
    (command : QueuedCommandSpec) (gpus : List String) : Sched (CycleState ⊕ CycleResult) := do
  let running ← query fun s => .ok (s.physicalCommands .running)
  match ← attempt (freeDiskBytes command) with
  | .error error => do
    stopForDisk "DISPATCH_STOP_DISK_CAPACITY_PROBE_FAILED"
      ("disk_capacity_probe_failed:" ++ error.kind.name) command
    endCycle reconciled dispatched
  | .ok free =>
    if requiredFreeBytes command running ≤ free then
      dispatchSelected cfg envelope reconciled dispatched command gpus
    else do
      stopForDisk "DISPATCH_STOP_DISK_HIGH_WATER"
        ("disk_high_water_gate:" ++ toString free ++ "<" ++
          toString (requiredFreeBytes command running)) command
      endCycle reconciled dispatched

/-- `run_once`: the part before the loop, and one round of it. -/
def runOnce : CycleState → Sched (CycleState ⊕ CycleResult)
  | .start => do
    let reconciled ← reconcileRunning cfg
    let control ← dispatchControl
    if control.1 = .stop then pure (.inr ⟨reconciled, [], .stop, control.2⟩)
    else do
      let envelope ← query fun s => s.interferenceEnvelope
      pure (.inl (.dispatch envelope reconciled []))
  | .dispatch envelope reconciled dispatched => do
    let selected ← selectDispatch envelope
    match selected with
    | none => endCycle reconciled dispatched
    | some (command, gpus) => gateSelected cfg envelope reconciled dispatched command gpus

/-! ## Runs -/

/-- The scheduler as a process over the world. -/
abbrev Daemon := Process Effect Effect.Reply Error World CycleState CycleResult

/-- One step of the system: a cycle begins, another process acts, or the
scheduler performs its next effect. -/
def step (cfg : SchedulerConfig) : Daemon → Input Oracle Foreign → Option Effect × Daemon :=
  Program.step World.handle World.foreign (runOnce cfg) .start

/-- The daemon before its first cycle. -/
def boot (store : Store) : Daemon := ⟨{ store := store }, none⟩

/-! ## Sample values

A plan of one node, one queued command per cell, and callbacks that answer
without failing. The witnesses of the scheduler's theorems run on them. -/

namespace Sample

/-- A single-GPU auxiliary command of attempt `n` of a cell, with its evidence
under `directory`. -/
def command (cell : String) (n : Nat) (directory : String) : QueuedCommand where
  cellId := cell
  attempt := n
  argv := ["run"]
  launchCompatibilityKey := "key"
  requiredGpuCount := 1
  timingClass := .safeAuxiliary
  predictedHighWaterBytes := 0
  monitoredPath := "/m"
  logPath := directory ++ "/l"
  expectedTerminalPath := directory ++ "/t"
  expectedJunitPath := directory ++ "/j"
  expectedRawLogPath := directory ++ "/r"
  atomicPointerPath := directory ++ "/p"
  childExitReceiptPath := directory ++ "/x"

def cellAttempt (c : QueuedCommand) (directory : String) : CellAttempt where
  cellId := c.cellId
  attempt := c.attempt
  stage := "smoke"
  phase := "final"
  block := none
  seed := none
  scientificAxes := "\x7b\"tp\":1\x7d"
  identity := ⟨.hex "e0", .hex "e1", .hex "e2", "\x7b\x7d"⟩
  commandSha256 := c.commandSha256
  outputDirectory := directory

theorem attempt_checks : requireAll (cellAttempt (command "a" 1 "/a") "/a").checks = .ok () := by
  decide

theorem command_checks : requireAll (command "a" 1 "/a").checks = .ok () := by
  decide

/-- The plan of one node and an envelope over the given GPUs. -/
def plan : List StoreOp :=
  [.initializeStagePlan [⟨"node", 0, "smoke", "final", "1", none⟩] 1,
   .configureInterferenceEnvelope envelope 1]

def enqueue (c : QueuedCommand) (directory : String)
    (hattempt : requireAll (cellAttempt c directory).checks = .ok ())
    (hcommand : requireAll c.checks = .ok ()) : List StoreOp :=
  [.materializeAttempt ⟨cellAttempt c directory, hattempt⟩ 1, .enqueueCommand ⟨c, hcommand⟩ 1]

theorem g0_ne : ["g0"] ≠ [] := by
  decide

theorem g0_text : ∀ uuid ∈ ["g0"], isNonBlank uuid = true ∧ hasNul uuid = false := by
  decide

theorem g0_nodup : ["g0"].Nodup := by
  decide

def oneGpu : InterferenceEnvelope where
  mode := .isolated
  gpuUuids := ["g0"]
  evidenceSha256 := .hex "e0"
  uuids_text := g0_text
  uuids_nodup := g0_nodup
  uuids_sorted := by decide
  dual_single := by decide

/-- The process that a launch returns. -/
def process (pid : Nat) (h : 0 < pid) : SpawnedProcess := ⟨pid, pid, none, h, h⟩

/-- The answers of callbacks that succeed at time `t`: every disk is large and
every process is alive with its own group. -/
def answer (t : Int) : (query : Query) → query.Reply
  | .now | .storeNow => t
  | .freeDiskBytes _ => .ok (.value (16 * 1024 ^ 3))
  | .recoverStartedProcess .. => .ok (.value none)
  | .processProbe pid pgid => .ok (.value ⟨pid, true, some pgid, "process_exists", none⟩)
  | .logSizeBytes _ => .ok 0
  | .gpuSnapshot _ => .ok true
  | .workerHeartbeat _ => .ok (.value none)
  | .workerHeartbeatRequired _ => .ok false
  | .independentProcessGroups _ => .ok (.value [])
  | .processGroupAlive _ => .ok false
  | .sendSignal .. => .ok ()
  | .terminalValidator .. => .ok (.value none)
  | .partialEvidence _ => .ok []
  | .retryBuilder .. => .ok .other
  | .bindManualEvidence binding => .ok binding
  | .watchdogOnce _ => .ok ()

/-- An oracle at time `t` whose launch starts a child. -/
def oracle (t : Int) : Oracle where
  answer := answer t
  launched := .ok (.value (process 7 (by decide)))
  child := some 7

/-- Calls made by another process. -/
def calls (ops : List StoreOp) : List (Input Oracle Foreign) :=
  ops.map fun op => .interfere (.call op)

/-- A new cycle and its first `n` effects. -/
def cycle (n : Nat) (ω : Oracle) : List (Input Oracle Foreign) :=
  .begin :: List.replicate n (.resume ω)

end Sample

end Scheduler

end Operator

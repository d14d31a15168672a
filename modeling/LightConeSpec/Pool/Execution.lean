import LightConeSpec.Lib.Method
import LightConeSpec.Pool.Receipts

/-!
# Executing a dispatch plan

`execute_dispatch_plan` runs the waves of a frozen plan in order. The pending
assignments of a wave run concurrently in one task group; a failed sibling lets
the others finish and stops the schedule after the wave. A later call resumes
from the receipt that the call before returned.

What a call does to the outside is a list of events: each call of the runner,
and each receipt that an assignment ended with. What the outside does to a call
is its `World`: for each wave the readings of the clock and the moves of the
tasks. Tasks move in any order, and a wave whose moves end before all its tasks
have returned is a call that was interrupted.

The attempt journal is a parameter, like the source's protocol class
`DispatchAttemptJournalSink`.
-/

namespace Pool

open Python Intervals

variable {D J : Type} [DecidableEq D]

/-! ## Terminal authorities -/

/-- `IndustrialExecutionTerminalBinding`: what reopening the raw files of a run
gives. -/
structure IndustrialExecutionTerminalBinding (D : Type) where
  cellId : D
  runId : String
  runNonceSha256 : D
  executionPlanSha256 : D
  dispatchPlanSha256 : D
  assignmentSha256 : D
  experimentBudgetSha256 : D
  inventorySha256 : D
  physicalGpuUuids : List String
  trustedAttestation : Bool
  trustedAttesterPolicySha256 : D
  files : List (String × D)
  evidence : List (String × D)

/-- `AssignmentTerminalAuthority`. `reopened` is what
`revalidate_industrial_execution_result` finds on disk, and `isResolved` what the
constructor of the binding then finds of its paths. -/
structure AssignmentTerminalAuthority (D : Type) where
  sha256 : D
  registrySha256 : D
  inventorySha256 : D
  cellId : D
  policyReleaseReady : Bool
  policySha256 : D
  reopened : Except Error (IndustrialExecutionTerminalBinding D)
  isResolved : String → Except Error Bool

def AssignmentTerminalAuthority.revalidate (authority : AssignmentTerminalAuthority D)
    (registrySha256 inventorySha256 assignmentSha256 budgetSha256 : D)
    (physicalGpuUuids : List String) : Except Error (AssignmentTerminalBinding D) := do
  require (authority.registrySha256 = registrySha256 ∧ authority.inventorySha256 = inventorySha256)
    (valueError "assignment terminal authority is foreign")
  let binding ← authority.reopened
  require (binding.cellId = authority.cellId ∧ binding.assignmentSha256 = assignmentSha256 ∧
      binding.experimentBudgetSha256 = budgetSha256 ∧
      binding.inventorySha256 = inventorySha256 ∧ binding.physicalGpuUuids = physicalGpuUuids)
    (valueError "assignment terminal differs from scheduler assignment/budget")
  require (authority.policyReleaseReady = true ∧ binding.trustedAttestation = true ∧
      binding.trustedAttesterPolicySha256 = authority.policySha256)
    (runtimeError
      "assignment terminal authority is BLOCKED: trusted_hardware_attester_unavailable")
  validated (AssignmentTerminalBinding.postInit authority.isResolved) {
    authoritySha256 := authority.sha256
    cellId := binding.cellId
    assignmentSha256 := assignmentSha256
    budgetSha256 := budgetSha256
    inventorySha256 := inventorySha256
    physicalGpuUuids := physicalGpuUuids
    executionPlanSha256 := binding.executionPlanSha256
    dispatchPlanSha256 := binding.dispatchPlanSha256
    runId := binding.runId
    runNonceSha256 := binding.runNonceSha256
    files := binding.files
    evidence := binding.evidence }

/-! ## The execution context -/

/-- What execution reads of a `GpuDispatchExecutionContext`. `issuePlan` is the
plan that the scheduler issues from it: its budgets are those of the pending cells,
at least one, so the plan has a wave. -/
structure ExecutionContext (D : Type) where
  registrySha256 : D
  inventorySha256 : D
  deviceCount : ℕ
  budgetsByCellId : D → Option (ExperimentBudget D)
  issuePlan : Except Error (FrozenPlan D)
  issuesWaves : ∀ plan, issuePlan = .ok plan → plan.waves ≠ []
  resumeTerminalAuthorities : List (AssignmentTerminalAuthority D)

def ExecutionContext.budget (ctx : ExecutionContext D) (cellId : D) :
    Except Error (ExperimentBudget D) :=
  match ctx.budgetsByCellId cellId with
  | some budget => .ok budget
  | none => .error (keyError "budgets_by_cell_id")

variable (sha : ContentSha D) (plan : FrozenPlan D) (ctx : ExecutionContext D)

def validateDispatchPlanForExecution : Except Error Unit := do
  let expected ← ctx.issuePlan
  require (plan = expected)
    (valueError "dispatch plan is not the exact plan issued from its planning context")

/-! ## The attempt journal -/

structure DispatchAttemptJournalToken (D : Type) where
  startedMonotonicNs : ℕ
  intentSha256 : D

structure DispatchAttemptJournalReplay (D : Type) where
  journalPath : String
  manifestSha256 : D
  headEventSha256 : D
  eventCount : ℕ
  scheduleReceiptSha256 : D

/-- One entry of `pending`: an assignment, the number of its attempt, its budget
and the receipt of the attempt before. -/
structure PendingAttempt (D : Type) where
  assignment : PlannedAssignment D
  attempt : ℕ
  budget : ExperimentBudget D
  prior : Option (AssignmentExecutionReceipt D)

/-- `DispatchAttemptJournalSink`. `J` is the state of the journal, and
`beginWaveAttempts` may read the clock once for each attempt. -/
structure AttemptJournalSink (D J : Type) where
  beginWaveAttempts : FrozenPlan D → PlannedWave D → List (PendingAttempt D) → Option D →
    (ℕ → ℕ) → Method J Unit
  beginAttempt : FrozenPlan D → PlannedWave D → PendingAttempt D → ℕ → Option D →
    Method J (DispatchAttemptJournalToken D)
  finishAttempt : DispatchAttemptJournalToken D → AssignmentExecutionReceipt D → Method J Unit

/-! ## Resuming -/

def rowOf (rows : List (AssignmentExecutionReceipt D)) (assignmentId : D) :
    Option (AssignmentExecutionReceipt D) :=
  rows.find? fun row => row.assignmentSha256 = assignmentId

/-- The checks of `_validate_wave_receipt` on one assignment receipt. -/
def validateAssignmentRow (wave : PlannedWave D) (ctx : ExecutionContext D)
    (row : AssignmentExecutionReceipt D) : Except Error Unit :=
  match wave.assignments.find? fun x => x.assignmentId = row.assignmentSha256 with
  | none => .error (keyError "assignment_by_id")
  | some assignment => do
    let budget ← ctx.budget assignment.itemId
    require (row.planSha256 = plan.sha256 ∧ row.waveSha256 = wave.sha256)
      (valueError "resume assignment receipt plan/wave mismatch")
    require (row.budgetSha256 = budget.sha256)
      (valueError "resume assignment receipt budget mismatch")
    require (row.gpuCount = assignment.gpuUuids.length)
      (valueError "resume assignment receipt gang-size mismatch")
    require (row.attempt ≤ budget.retryAllowance + 1)
      (valueError "resume assignment receipt exceeds retry allowance")
    if row.succeeded then
      match row.terminalBinding with
      | none => .error (valueError "resume success lacks a raw terminal binding")
      | some binding =>
        require (binding.cellId = assignment.itemId ∧
            binding.inventorySha256 = ctx.inventorySha256 ∧
            binding.physicalGpuUuids = assignment.gpuUuids)
          (valueError "resume terminal binding differs from its assignment/inventory")
    else pure ()

def validateWaveReceipt (wave : PlannedWave D) (receipt : DispatchWaveExecutionReceipt D)
    (ctx : ExecutionContext D) : Except Error Unit := do
  require (receipt.planSha256 = plan.sha256 ∧ receipt.waveSha256 = wave.sha256)
    (valueError "resume wave receipt identity mismatch")
  let expected : List D := wave.assignments.map (·.assignmentId)
  let actual : List D := receipt.assignmentReceipts.map (·.assignmentSha256)
  require (expected ⊆ actual ∧ actual ⊆ expected)
    (valueError "resume wave receipt has incomplete or extra assignments")
  require (receipt.inventorySha256 = ctx.inventorySha256 ∧
      receipt.fixedInstanceGpuCount = ctx.deviceCount)
    (valueError "resume wave receipt belongs to another inventory ledger")
  forEach (validateAssignmentRow plan wave ctx) receipt.assignmentReceipts

/-- The checks of `_validate_dispatch_resume_structure` on the phase. -/
def validateResumePhase (receipt : DispatchScheduleReceipt D) : Except Error Unit := do
  require (receipt.phase = .complete → receipt.waveReceipts.length = plan.waves.length)
    (valueError "complete resume receipt does not cover the whole plan")
  match receipt.phase with
  | .planned =>
    require (receipt.waveReceipts = [])
      (valueError "planned resume receipt cannot contain a wave")
  | .running =>
    require (receipt.waveReceipts ≠ [] ∧ receipt.waveReceipts.length < plan.waves.length ∧
        receipt.waveReceipts.all (·.succeeded) = true)
      (valueError "running resume receipt must be a nonempty successful wave prefix")
  | .failed =>
    require (receipt.waveReceipts ≠ [] ∧
        (∀ wave ∈ receipt.waveReceipts.getLast?, wave.succeeded = false) ∧
        receipt.waveReceipts.dropLast.all (·.succeeded) = true)
      (valueError "failed resume receipt must end in one failed wave after a successful prefix")
  | .complete =>
    require (receipt.waveReceipts.all (·.succeeded) = true)
      (valueError "complete resume receipt contains a failed wave")

def validateDispatchResumeStructure (receipt : DispatchScheduleReceipt D)
    (ctx : ExecutionContext D) : Except Error Unit := do
  validateDispatchPlanForExecution plan ctx
  require (receipt.planSha256 = plan.sha256)
    (valueError "resume receipt belongs to another dispatch plan")
  require (receipt.inventorySha256 = ctx.inventorySha256 ∧
      receipt.fixedInstanceGpuCount = ctx.deviceCount)
    (valueError "resume receipt belongs to another inventory ledger")
  require (receipt.waveReceipts.length ≤ plan.waves.length)
    (valueError "resume receipt exceeds dispatch-plan wave count")
  forEach (fun waveReceipt =>
    match plan.waves[waveReceipt.waveIndex]? with
    | none => .error (indexError "tuple index out of range")
    | some wave => validateWaveReceipt plan wave waveReceipt ctx) receipt.waveReceipts
  validateResumePhase plan receipt

def DispatchScheduleReceipt.successBindings (receipt : DispatchScheduleReceipt D) :
    List (AssignmentTerminalBinding D) :=
  (receipt.rows.filter (·.succeeded)).filterMap (·.terminalBinding)

/-- Reopening one successful assignment in `validate_dispatch_resume`. -/
def reopenSuccess (wave : PlannedWave D) (ctx : ExecutionContext D)
    (row : AssignmentExecutionReceipt D) : Except Error Unit :=
  if row.succeeded then
    match row.terminalBinding with
    | none => .error (valueError "resume success lacks a raw terminal binding")
    | some binding =>
      match wave.assignments.find? fun x => x.assignmentId = row.assignmentSha256 with
      | none => .error (keyError "assignments")
      | some assignment =>
        match ctx.resumeTerminalAuthorities.find? fun x => x.sha256 = binding.authoritySha256 with
        | none => .error (keyError "provided")
        | some authority => do
          let budget ← ctx.budget assignment.itemId
          let expected ← authority.revalidate ctx.registrySha256 ctx.inventorySha256
            assignment.assignmentId budget.sha256 assignment.gpuUuids
          require (binding = expected)
            (valueError "resume terminal binding differs from freshly revalidated raw files")
  else pure ()

/-- The checks of `validate_dispatch_resume` on the journal. -/
def validateJournalReplay (receipt : DispatchScheduleReceipt D)
    (attemptJournalReplay : Option (DispatchAttemptJournalReplay D)) : Except Error Unit :=
  match attemptJournalReplay with
  | none =>
    require (receipt.waveReceipts = [])
      (valueError
        "dispatch resume is blocked without a release-owned append-only attempt/cost authority")
  | some replay =>
    require (replay.scheduleReceiptSha256 = sha.scheduleReceipt receipt)
      (valueError "attempt journal replay differs from the resumed schedule receipt")

def validateDispatchResume (receipt : DispatchScheduleReceipt D) (ctx : ExecutionContext D)
    (attemptJournalReplay : Option (DispatchAttemptJournalReplay D)) : Except Error Unit := do
  validateDispatchResumeStructure plan receipt ctx
  validateJournalReplay sha receipt attemptJournalReplay
  let required : List D := receipt.successBindings.map (·.authoritySha256)
  let provided : List D := ctx.resumeTerminalAuthorities.map (·.sha256)
  require (provided ⊆ required ∧ required ⊆ provided)
    (valueError
      "resume requires the exact raw terminal authority set referenced by successful assignments")
  forEach (fun (wave, waveReceipt) =>
    forEach (reopenSuccess wave ctx) waveReceipt.assignmentReceipts)
    (plan.waves.zip receipt.waveReceipts)

/-! ## The state machine of a schedule -/

structure DispatchExecutionState (D : Type) where
  planSha256 : D
  phase : DispatchExecutionPhase
  nextWaveIndex : ℕ
  waveReceiptSha256 : List D

namespace DispatchExecutionState

def construct (state : DispatchExecutionState D) : Except Error (DispatchExecutionState D) :=
  validated (fun state => require (state.waveReceiptSha256.length = state.nextWaveIndex)
    (valueError "state receipt chain must cover every attempted wave")) state

def begin (state : DispatchExecutionState D) (totalWaves : ℕ) :
    Except Error (DispatchExecutionState D) := do
  require (state.phase = .planned ∨ state.phase = .failed)
    (valueError "only planned or failed execution can begin")
  require (state.nextWaveIndex ≤ totalWaves)
    (valueError "execution state exceeds dispatch-plan wave count")
  construct { state with phase := .running }

def phaseAfter (succeeded : Bool) (nextIndex totalWaves : ℕ) : DispatchExecutionPhase :=
  if succeeded = false then .failed
  else if nextIndex = totalWaves then .complete
  else .running

def accept (state : DispatchExecutionState D) (receipt : DispatchWaveExecutionReceipt D)
    (totalWaves : ℕ) : Except Error (DispatchExecutionState D) := do
  require (state.phase = .running) (valueError "wave receipt requires RUNNING execution state")
  require (receipt.planSha256 = state.planSha256)
    (valueError "wave receipt belongs to another dispatch plan")
  require (receipt.waveIndex = state.nextWaveIndex)
    (valueError "wave receipt is not the next contiguous wave")
  construct {
    planSha256 := state.planSha256
    phase := phaseAfter receipt.succeeded (state.nextWaveIndex + 1) totalWaves
    nextWaveIndex := state.nextWaveIndex + 1
    waveReceiptSha256 := state.waveReceiptSha256 ++ [sha.waveReceipt receipt] }

end DispatchExecutionState

/-! ## Making receipts -/

/-- The record that `_make_wave_execution_receipt` passes to the constructor. -/
def waveExecutionRecord (wave : PlannedWave D)
    (assignmentReceipts : List (AssignmentExecutionReceipt D)) (ctx : ExecutionContext D) :
    DispatchWaveExecutionReceipt D :=
  let intervals := merge (assignmentReceipts.flatMap (·.attemptIntervalsMonotonicNs))
  { planSha256 := plan.sha256
    waveIndex := wave.waveIndex
    waveSha256 := wave.sha256
    assignmentReceipts := assignmentReceipts
    inventorySha256 := ctx.inventorySha256
    fixedInstanceGpuCount := ctx.deviceCount
    activeIntervalsMonotonicNs := intervals
    fixedInstanceActualBilledGpuNs := unionLength intervals * ctx.deviceCount
    perAssignmentAttributedGpuNs := (assignmentReceipts.map (·.attributedGpuNs)).sum
    perAssignmentAttributedFixedInstanceGpuNs :=
      (assignmentReceipts.map (·.attributedFixedInstanceGpuNs)).sum }

def makeWaveExecutionReceipt (wave : PlannedWave D)
    (assignmentReceipts : List (AssignmentExecutionReceipt D)) (ctx : ExecutionContext D) :
    Except Error (DispatchWaveExecutionReceipt D) := do
  let _ ← mergeMonotonicIntervals (assignmentReceipts.flatMap (·.attemptIntervalsMonotonicNs))
  (waveExecutionRecord plan wave assignmentReceipts ctx).construct

/-- The record that `_make_schedule_receipt` passes to the constructor. -/
def scheduleRecord (phase : DispatchExecutionPhase)
    (waveReceipts : List (DispatchWaveExecutionReceipt D)) (ctx : ExecutionContext D)
    (priorScheduleReceiptSha256 : Option D) : DispatchScheduleReceipt D :=
  let intervals := merge (waveReceipts.flatMap (·.activeIntervalsMonotonicNs))
  { planSha256 := plan.sha256
    phase := phase
    waveReceipts := waveReceipts
    inventorySha256 := ctx.inventorySha256
    fixedInstanceGpuCount := ctx.deviceCount
    activeIntervalsMonotonicNs := intervals
    fixedInstanceActualBilledGpuNs := unionLength intervals * ctx.deviceCount
    perAssignmentAttributedGpuNs := (waveReceipts.map (·.perAssignmentAttributedGpuNs)).sum
    perAssignmentAttributedFixedInstanceGpuNs :=
      (waveReceipts.map (·.perAssignmentAttributedFixedInstanceGpuNs)).sum
    priorScheduleReceiptSha256 := priorScheduleReceiptSha256 }

def makeScheduleReceipt (phase : DispatchExecutionPhase)
    (waveReceipts : List (DispatchWaveExecutionReceipt D)) (ctx : ExecutionContext D)
    (priorScheduleReceiptSha256 : Option D) : Except Error (DispatchScheduleReceipt D) := do
  let _ ← mergeMonotonicIntervals (waveReceipts.flatMap (·.activeIntervalsMonotonicNs))
  (scheduleRecord plan phase waveReceipts ctx priorScheduleReceiptSha256).construct

/-! ## One assignment -/

/-- What the outside sees of a run. -/
inductive ExecutionEvent (D : Type)
  /-- The runner was called for the assignment, as its attempt of this number. -/
  | invoked (assignmentId : D) (attempt : ℕ)
  /-- An assignment ended with the receipt. -/
  | recorded (receipt : AssignmentExecutionReceipt D)
  /-- A call returned the receipt. -/
  | returned (receipt : DispatchScheduleReceipt D)

/-- The journal and what has happened so far. -/
structure Session (D J : Type) where
  journal : J
  events : List (ExecutionEvent D)

namespace Session

def onJournal {α : Type} (m : Method J α) : Method (Session D J) α :=
  .onAttribute journal (fun j s => { s with journal := j }) m

def emit (event : ExecutionEvent D) (s : Session D J) : Session D J :=
  { s with events := s.events ++ [event] }

end Session

/-- What awaiting the runner gives: it raises, or returns a value that is an
exact terminal authority or is not. -/
abbrev RunnerOutcome (D : Type) := Except Error (Option (AssignmentTerminalAuthority D))

/-- What the tasks of one wave share. -/
structure WaveScope (D : Type) where
  plan : FrozenPlan D
  wave : PlannedWave D
  ctx : ExecutionContext D
  priorScheduleReceiptSha256 : Option D

def PendingAttempt.intervals (p : PendingAttempt D) (started finished : ℕ) : List Interval :=
  (p.prior.elim [] (·.attemptIntervalsMonotonicNs)) ++ [(started, finished)]

variable (sink : Option (AttemptJournalSink D J)) (scope : WaveScope D)

/-- The body of the `try` statement of `_run_assignment`. -/
def successReceipt (p : PendingAttempt D) (outcome : RunnerOutcome D) (started finished : ℕ) :
    Except Error (AssignmentExecutionReceipt D) := do
  match ← outcome with
  | none =>
    .error (typeError ("assignment runner must return an exact AssignmentTerminalAuthority; " ++
      "a digest cannot authorize success"))
  | some terminal =>
    let terminalBinding ← terminal.revalidate scope.ctx.registrySha256 scope.ctx.inventorySha256
      p.assignment.assignmentId p.budget.sha256 p.assignment.gpuUuids
    let elapsedNs ← intervalUnionNs (p.intervals started finished)
    AssignmentExecutionReceipt.construct sha {
      planSha256 := scope.plan.sha256
      waveSha256 := scope.wave.sha256
      assignmentSha256 := p.assignment.assignmentId
      budgetSha256 := p.budget.sha256
      attempt := p.attempt
      status := .succeeded
      terminalReceiptSha256 := some (sha.terminalBinding terminalBinding)
      terminalBinding := some terminalBinding
      failureSha256 := none
      priorAttemptReceiptSha256 := p.prior.map sha.assignmentReceipt
      gpuCount := p.assignment.gpuUuids.length
      fixedInstanceGpuCount := scope.ctx.deviceCount
      attemptIntervalsMonotonicNs := p.intervals started finished
      attributedGpuNs := elapsedNs * p.assignment.gpuUuids.length
      attributedFixedInstanceGpuNs := elapsedNs * scope.ctx.deviceCount }

/-- The body of the `except` clause of `_run_assignment`. -/
def failureReceipt (p : PendingAttempt D) (error : Error) (started finished : ℕ) :
    Except Error (AssignmentExecutionReceipt D) := do
  let elapsedNs ← intervalUnionNs (p.intervals started finished)
  AssignmentExecutionReceipt.construct sha {
    planSha256 := scope.plan.sha256
    waveSha256 := scope.wave.sha256
    assignmentSha256 := p.assignment.assignmentId
    budgetSha256 := p.budget.sha256
    attempt := p.attempt
    status := .failed
    terminalReceiptSha256 := none
    terminalBinding := none
    failureSha256 := some (sha.failure {
      exceptionType := error.kind.name
      message := error.message
      assignmentSha256 := p.assignment.assignmentId
      budgetSha256 := p.budget.sha256
      attempt := p.attempt
      startedMonotonicNs := started
      finishedMonotonicNs := finished })
    priorAttemptReceiptSha256 := p.prior.map sha.assignmentReceipt
    gpuCount := p.assignment.gpuUuids.length
    fixedInstanceGpuCount := scope.ctx.deviceCount
    attemptIntervalsMonotonicNs := p.intervals started finished
    attributedGpuNs := elapsedNs * p.assignment.gpuUuids.length
    attributedFixedInstanceGpuNs := elapsedNs * scope.ctx.deviceCount }

/-- The receipt that `_run_assignment` ends with. The clock is read once in the
`try` statement and once more in the `except` clause. -/
def terminalReceipt (p : PendingAttempt D) (outcome : RunnerOutcome D)
    (started finished finishedAfterError : ℕ) : Except Error (AssignmentExecutionReceipt D) :=
  match successReceipt sha scope p outcome started finished with
  | .ok receipt => .ok receipt
  | .error error =>
    if error.isException then failureReceipt sha scope p error started finishedAfterError
    else .error error

/-! ## The task group of a wave -/

/-- A task of the group. `running` is a task that awaits the runner. -/
inductive TaskState (D : Type)
  | created
  | running (token : Option (DispatchAttemptJournalToken D)) (startedNs : ℕ)
  | returned (receipt : AssignmentExecutionReceipt D)
  | raised (error : Error)

/-- A move of one task: its first steps, up to the call of the runner, and its
last ones, from what the runner gave. -/
inductive Move (D : Type)
  | start (now : ℕ)
  | finish (outcome : RunnerOutcome D) (finished finishedAfterError : ℕ)

/-- What the outside does while one wave runs. -/
structure WaveWorld (D : Type) where
  clock : ℕ → ℕ
  moves : List (D × Move D)

/-- The tasks of a group, by their assignment, and the session. -/
structure Group (D J : Type) where
  tasks : D → TaskState D
  session : Session D J

def Group.put (g : Group D J) (assignmentId : D) (state : TaskState D) (s : Session D J) :
    Group D J :=
  ⟨Function.update g.tasks assignmentId state, s⟩

/-- `_run_assignment` up to its call of the runner. -/
def startTask (p : PendingAttempt D) (now : ℕ) (g : Group D J) : Group D J :=
  let id := p.assignment.assignmentId
  match sink with
  | none => g.put id (.running none now) (g.session.emit (.invoked id p.attempt))
  | some journal =>
    match Session.onJournal (journal.beginAttempt scope.plan scope.wave p scope.ctx.deviceCount
        scope.priorScheduleReceiptSha256) g.session with
    | (.error error, s) => g.put id (.raised error) s
    | (.ok token, s) =>
      g.put id (.running (some token) token.startedMonotonicNs) (s.emit (.invoked id p.attempt))

/-- `_run_assignment` from the end of its call of the runner. -/
def finishTask (p : PendingAttempt D) (token : Option (DispatchAttemptJournalToken D))
    (started : ℕ) (outcome : RunnerOutcome D) (finished finishedAfterError : ℕ) (g : Group D J) :
    Group D J :=
  let id := p.assignment.assignmentId
  match terminalReceipt sha scope p outcome started finished finishedAfterError with
  | .error error => g.put id (.raised error) g.session
  | .ok receipt =>
    match sink, token with
    | some journal, some token =>
      match Session.onJournal (journal.finishAttempt token receipt) g.session with
      | (.error error, s) => g.put id (.raised error) s
      | (.ok (), s) => g.put id (.returned receipt) (s.emit (.recorded receipt))
    | some _, none =>
      g.put id (.raised (runtimeError "attempt journal token disappeared")) g.session
    | none, _ => g.put id (.returned receipt) (g.session.emit (.recorded receipt))

/-- A move of one task. A move that the task cannot make does nothing. -/
def advance (pending : List (PendingAttempt D)) (g : Group D J) (move : D × Move D) : Group D J :=
  match pending.find? fun p => p.assignment.assignmentId = move.1 with
  | none => g
  | some p =>
    match g.tasks move.1, move.2 with
    | .created, .start now => startTask sink scope p now g
    | .running token started, .finish outcome finished finishedAfterError =>
      finishTask sha sink scope p token started outcome finished finishedAfterError g
    | _, _ => g

/-- The end of the group: the receipt of a task, or an error when a task raised
or the wave was interrupted. -/
def taskResult (tasks : D → TaskState D) (assignmentId : D) :
    Except Error (AssignmentExecutionReceipt D) :=
  match tasks assignmentId with
  | .returned receipt => .ok receipt
  | .raised _ => .error (runtimeError "unhandled errors in a TaskGroup")
  | .created | .running .. => .error ⟨.keyboardInterrupt, "interrupted"⟩

/-- `async with asyncio.TaskGroup() as group`. -/
def runGroup (pending : List (PendingAttempt D)) (moves : List (D × Move D)) :
    Method (Session D J) (D → TaskState D) := fun s =>
  let g := moves.foldl (advance sha sink scope pending) ⟨fun _ => .created, s⟩
  (.ok g.tasks, g.session)

/-! ## One wave -/

/-- `pending` of a wave, given the receipts of its failed attempt. -/
def pendingAttempts (ctx : ExecutionContext D) (priorRows : List (AssignmentExecutionReceipt D)) :
    List (PlannedAssignment D) → Except Error (List (PendingAttempt D))
  | [] => .ok []
  | assignment :: rest =>
    match rowOf (priorRows.filter (·.succeeded)) assignment.assignmentId with
    | some _ => pendingAttempts ctx priorRows rest
    | none => do
      let prior := rowOf (priorRows.filter fun row => !row.succeeded) assignment.assignmentId
      let attempt := prior.elim 1 (·.attempt + 1)
      let budget ← ctx.budget assignment.itemId
      require (attempt ≤ budget.retryAllowance + 1)
        (valueError "dispatch retry would exceed the ExperimentBudget allowance")
      let others ← pendingAttempts ctx priorRows rest
      pure (⟨assignment, attempt, budget, prior⟩ :: others)

def carriedOrResult (priorRows : List (AssignmentExecutionReceipt D)) (tasks : D → TaskState D)
    (assignment : PlannedAssignment D) : Except Error (AssignmentExecutionReceipt D) :=
  match rowOf (priorRows.filter (·.succeeded)) assignment.assignmentId with
  | some receipt => .ok receipt
  | none => taskResult tasks assignment.assignmentId

def collectReceipts (priorRows : List (AssignmentExecutionReceipt D)) (tasks : D → TaskState D) :
    List (PlannedAssignment D) → Except Error (List (AssignmentExecutionReceipt D))
  | [] => .ok []
  | assignment :: rest => do
    let receipt ← carriedOrResult priorRows tasks assignment
    let receipts ← collectReceipts priorRows tasks rest
    pure (receipt :: receipts)

def priorRowsOf (failedPrior : Option (DispatchWaveExecutionReceipt D)) (wave : PlannedWave D) :
    List (AssignmentExecutionReceipt D) :=
  match failedPrior with
  | none => []
  | some failed => if wave.waveIndex = failed.waveIndex then failed.assignmentReceipts else []

/-- The wave intent of the journal. -/
def beginWave (pending : List (PendingAttempt D)) (clock : ℕ → ℕ) : Method (Session D J) Unit :=
  match sink with
  | none => pure ()
  | some journal => Session.onJournal (journal.beginWaveAttempts scope.plan scope.wave pending
      scope.priorScheduleReceiptSha256 clock)

/-- The loop body of `execute_dispatch_plan`, up to the wave receipt. -/
def runWave (priorRows : List (AssignmentExecutionReceipt D)) (world : WaveWorld D) :
    Method (Session D J) (DispatchWaveExecutionReceipt D) := do
  let pending ← .check (pendingAttempts scope.ctx priorRows scope.wave.assignments)
  beginWave sink scope pending world.clock
  let tasks ← runGroup sha sink scope pending world.moves
  let assignmentReceipts ← .check (collectReceipts priorRows tasks scope.wave.assignments)
  .check (makeWaveExecutionReceipt scope.plan scope.wave assignmentReceipts scope.ctx)

/-! ## The schedule -/

/-- The variables of the loop of `execute_dispatch_plan`. -/
structure LoopState (D : Type) where
  priorReceipts : List (DispatchWaveExecutionReceipt D)
  failedPrior : Option (DispatchWaveExecutionReceipt D)
  state : DispatchExecutionState D
  currentScheduleReceipt : Option (DispatchScheduleReceipt D)

/-- The loop over the waves. -/
def runWaves (sha : ContentSha D) (sink : Option (AttemptJournalSink D J)) (plan : FrozenPlan D)
    (ctx : ExecutionContext D) (worlds : ℕ → WaveWorld D) :
    List (PlannedWave D) → LoopState D → Method (Session D J) (DispatchScheduleReceipt D)
  | [], loop =>
    match loop.currentScheduleReceipt with
    | none => .raise (runtimeError "dispatch execution produced no schedule receipt")
    | some receipt => pure receipt
  | wave :: rest, loop => do
    let priorSha := loop.currentScheduleReceipt.map sha.scheduleReceipt
    let waveReceipt ← runWave sha sink ⟨plan, wave, ctx, priorSha⟩
      (priorRowsOf loop.failedPrior wave) (worlds wave.waveIndex)
    let state ← .check (loop.state.accept sha waveReceipt plan.waves.length)
    let receipt ← .check (makeScheduleReceipt plan state.phase
      (loop.priorReceipts ++ [waveReceipt]) ctx priorSha)
    if state.phase = .failed then pure receipt
    else
      runWaves sha sink plan ctx worlds rest {
        priorReceipts := loop.priorReceipts ++ [waveReceipt]
        failedPrior := loop.failedPrior.filter fun failed => wave.waveIndex ≠ failed.waveIndex
        state := state
        currentScheduleReceipt := some receipt }

/-- The receipts before the first wave that runs, the receipt of its failed
attempt, and its index. -/
def resumePointOf (receipt : DispatchScheduleReceipt D) :
    List (DispatchWaveExecutionReceipt D) × Option (DispatchWaveExecutionReceipt D) × ℕ :=
  match receipt.phase, receipt.waveReceipts.getLast? with
  | .failed, some failed => (receipt.waveReceipts.dropLast, some failed, failed.waveIndex)
  | _, _ => (receipt.waveReceipts, none, receipt.waveReceipts.length)

/-- The same for a call that may resume nothing. -/
def resumePoint : Option (DispatchScheduleReceipt D) →
    List (DispatchWaveExecutionReceipt D) × Option (DispatchWaveExecutionReceipt D) × ℕ
  | none => ([], none, 0)
  | some receipt => resumePointOf receipt

/-- The arguments of a call. `resumeTerminalAuthorities` belongs to the
execution context, which is otherwise the same in every call of a chain. -/
structure Call (D : Type) where
  resumeTerminalAuthorities : List (AssignmentTerminalAuthority D)
  attemptJournalReplay : Option (DispatchAttemptJournalReplay D)
  stopAfterWaveIndex : Option ℕ
  worlds : ℕ → WaveWorld D

def validateResumeReceipt (attemptJournalReplay : Option (DispatchAttemptJournalReplay D)) :
    Option (DispatchScheduleReceipt D) → Except Error Unit
  | none => .ok ()
  | some receipt => validateDispatchResume sha plan receipt ctx attemptJournalReplay

/-- The waves to run and the variables of the loop before the first of them. -/
def openWaves (resume : Option (DispatchScheduleReceipt D)) (stopAfterWaveIndex : Option ℕ) :
    Except Error (List (PlannedWave D) × LoopState D) := do
  let (priorReceipts, failedPrior, startWaveIndex) := resumePoint resume
  let planned ← DispatchExecutionState.construct {
    planSha256 := plan.sha256
    phase := if failedPrior.isSome then .failed else .planned
    nextWaveIndex := startWaveIndex
    waveReceiptSha256 := priorReceipts.map sha.waveReceipt }
  let state ← planned.begin plan.waves.length
  let stop := stopAfterWaveIndex.getD (plan.waves.length - 1)
  pure ((plan.waves.take (stop + 1)).drop startWaveIndex,
    ⟨priorReceipts, failedPrior, state, resume⟩)

/-- What `execute_dispatch_plan` does before its loop: it returns a receipt at
once, or the waves to run. -/
def openSchedule (resume : Option (DispatchScheduleReceipt D))
    (attemptJournalReplay : Option (DispatchAttemptJournalReplay D))
    (stopAfterWaveIndex : Option ℕ) :
    Except Error (DispatchScheduleReceipt D ⊕ List (PlannedWave D) × LoopState D) := do
  require plan.scientificBudgetBound
    (valueError "dispatch plan lacks exact per-cell ExperimentBudget bindings")
  validateDispatchPlanForExecution plan ctx
  require (∀ stop ∈ stopAfterWaveIndex, stop < plan.waves.length)
    (valueError "dispatch stop wave index is outside the frozen plan")
  validateResumeReceipt sha plan ctx attemptJournalReplay resume
  match resume.filter fun receipt => receipt.phase = .complete with
  | some receipt => pure (.inl receipt)
  | none =>
    require (∀ stop ∈ stopAfterWaveIndex, (resumePoint resume).2.2 ≤ stop)
      (valueError "dispatch stop wave precedes the receipt-authorized prefix")
    if plan.waves = [] then
      .inl <$> makeScheduleReceipt plan .complete [] ctx (resume.map sha.scheduleReceipt)
    else .inr <$> openWaves sha plan resume stopAfterWaveIndex

def executeDispatchPlan (plan : FrozenPlan D) (ctx : ExecutionContext D)
    (resume : Option (DispatchScheduleReceipt D)) (call : Call D) :
    Method (Session D J) (DispatchScheduleReceipt D) := do
  let ctx := { ctx with resumeTerminalAuthorities := call.resumeTerminalAuthorities }
  match ← .check (openSchedule sha plan ctx resume call.attemptJournalReplay
      call.stopAfterWaveIndex) with
  | .inl receipt => pure receipt
  | .inr (waves, loop) => runWaves sha sink plan ctx call.worlds waves loop

/-! ## Chains of calls -/

/-- A chain of calls: the receipt that the last call returned, and whether a call
has raised, which ends the chain. -/
structure Chain (D J : Type) where
  receipt : Option (DispatchScheduleReceipt D)
  session : Session D J
  ended : Bool

def Chain.start (journal : J) : Chain D J := ⟨none, ⟨journal, []⟩, false⟩

def Chain.next (plan : FrozenPlan D) (ctx : ExecutionContext D) (chain : Chain D J)
    (call : Call D) : Chain D J :=
  if chain.ended then chain
  else
    match executeDispatchPlan sha sink plan ctx chain.receipt call chain.session with
    | (.ok receipt, s) => ⟨some receipt, s.emit (.returned receipt), false⟩
    | (.error _, s) => ⟨chain.receipt, s, true⟩

/-- The chain after the calls. -/
def Chain.run (plan : FrozenPlan D) (ctx : ExecutionContext D) (journal : J)
    (calls : List (Call D)) : Chain D J :=
  calls.foldl (Chain.next sha sink plan ctx) (Chain.start journal)

end Pool

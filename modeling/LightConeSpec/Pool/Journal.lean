import LightConeSpec.Lib.Dict
import LightConeSpec.Pool.Chain

/-!
# The attempt journal

`DispatchAttemptJournal`: an append-only chain of WAVE, INTENT and FINISH events.
A WAVE names the pending attempts of a wave, an INTENT says that one of them is
about to start, a FINISH carries the receipt it ended with. `replay` folds the
events and rebuilds the schedule receipt; the three writing methods append
events.

An event is a record whose payload follows its type, and a file is the digest in
its name with an event, or with a torn body that has another digest. The names
of the files hold their sequence numbers, so the directory lists the files in
the order of the list. What the disk does to each write is a parameter of the
state: a write may fail before or after the file exists, or tear it.
-/

namespace Pool

open Python Intervals

variable {D : Type}

/-! ## Events -/

structure AttemptIdentity (D : Type) where
  assignmentSha256 : D
  budgetSha256 : D
  retryAllowance : ℕ
  gpuUuids : List String
  fixedInstanceGpuCount : ℕ
  attempt : ℕ
  priorAttemptReceiptSha256 : Option D
deriving DecidableEq

structure WavePayload (D : Type) where
  priorScheduleReceiptSha256 : Option D
  pendingAttempts : List (AttemptIdentity D)

/-- The type of a Python number that is equal to a count. -/
inductive NumberType
  | int
  | float
  | bool
deriving DecidableEq

/-- The types of `attributed_gpu_ns` and `attributed_fixed_instance_gpu_ns` in a
receipt. Its constructor compares both with a count, so `15.0` and `True` pass. -/
@[ext] structure AttributedTypes where
  gpuNs : NumberType := .int
  fixedInstanceGpuNs : NumberType := .int
deriving DecidableEq

/-- The payload of an INTENT or FINISH event. -/
structure AttemptPayload (D : Type) where
  identity : AttemptIdentity D
  waveEventSha256 : D
  startedMonotonicNs : ℕ
  finishedMonotonicNs : Option ℕ
  intentEventSha256 : Option D
  assignmentReceipt : Option (AssignmentExecutionReceipt D)
  attributedTypes : AttributedTypes := {}

inductive EventPayload (D : Type)
  | wave (payload : WavePayload D)
  | intent (payload : AttemptPayload D)
  | finish (payload : AttemptPayload D)

structure JournalEvent (D : Type) where
  schemaVersion : ℕ := 1
  kind : String := "industrial_dispatch_attempt_event"
  manifestSha256 : D
  sequence : ℕ
  previousEventSha256 : Option D
  planSha256 : D
  executionContextSha256 : D
  inventorySha256 : D
  waveIndex : ℕ
  waveSha256 : D
  payload : EventPayload D

/-- The digest functions of the receipts, and the digest of an event file, which
is the SHA-256 of its bytes. -/
structure JournalSha (D : Type) extends ContentSha D where
  event : JournalEvent D → D
  event_injective : Function.Injective event

/-- A file of the events directory. A body that is not an event is the torn
beginning of one. -/
structure JournalFile (D : Type) where
  sequence : ℕ
  declaredSha256 : D
  body : Option (JournalEvent D)

/-- What the disk does to a write: the file is written, or nothing is; the file
is torn; or the file is whole and the write raises. -/
inductive WriteOutcome
  | written
  | refused
  | torn
  | unsynced
deriving DecidableEq

/-- What no method of a journal assigns. -/
structure DispatchAttemptJournal (D : Type) where
  root : String
  plan : FrozenPlan D
  ctx : ExecutionContext D
  executionContextSha256 : D
  manifestSha256 : D

structure DispatchAttemptJournalBinding (D : Type) where
  journalPath : String
  manifestSha256 : D
  headEventSha256 : D
  eventCount : ℕ
deriving DecidableEq

/-- `DispatchAttemptJournalSnapshot`. The source sorts the receipts and the
intents by their digests; all readers look them up by digest. -/
structure DispatchAttemptJournalSnapshot (D : Type) where
  binding : Option (DispatchAttemptJournalBinding D)
  receipt : Option (DispatchScheduleReceipt D)
  replayAuthority : Option (DispatchAttemptJournalReplay D)
  terminalBindings : List (AssignmentTerminalBinding D)
  latestAssignmentReceipts : List (AssignmentExecutionReceipt D)
  incompleteIntentSha256s : List D
  eventSha256s : List D

def DispatchAttemptJournalSnapshot.requireCompleteCostAuthority
    (snapshot : DispatchAttemptJournalSnapshot D) : Except Error Unit :=
  match snapshot.incompleteIntentSha256s with
  | [] => .ok ()
  | _ :: _ => .error (blockedError "dispatch_attempt_intent_without_finish_cost_unresolved")

variable [DecidableEq D]

/-! ## Schedules and pending attempts of the last receipts -/

/-- The loop of `_schedule_from_latest`. -/
def waveReceiptsFromLatest (plan : FrozenPlan D) (ctx : ExecutionContext D)
    (latest : D → Option (AssignmentExecutionReceipt D)) :
    List (PlannedWave D) → Except Error (List (DispatchWaveExecutionReceipt D))
  | [] => .ok []
  | wave :: rest =>
    if ∃ x ∈ wave.assignments, latest x.assignmentId = none then .ok []
    else do
      let waveReceipt ← makeWaveExecutionReceipt plan wave (rowsOf latest wave) ctx
      if waveReceipt.succeeded then
        (waveReceipt :: ·) <$> waveReceiptsFromLatest plan ctx latest rest
      else pure [waveReceipt]

def scheduleFromLatest (plan : FrozenPlan D) (ctx : ExecutionContext D)
    (latest : D → Option (AssignmentExecutionReceipt D)) (priorScheduleReceiptSha256 : Option D) :
    Except Error (Option (DispatchScheduleReceipt D)) := do
  let waveReceipts ← waveReceiptsFromLatest plan ctx latest plan.waves
  match waveReceipts.getLast? with
  | none => pure none
  | some last =>
    some <$> makeScheduleReceipt plan
      (DispatchExecutionState.phaseAfter last.succeeded waveReceipts.length plan.waves.length)
      waveReceipts ctx priorScheduleReceiptSha256

def attemptIdentity (sha : ContentSha D) (ctx : ExecutionContext D) (p : PendingAttempt D) :
    AttemptIdentity D where
  assignmentSha256 := p.assignment.assignmentId
  budgetSha256 := p.budget.sha256
  retryAllowance := p.budget.retryAllowance
  gpuUuids := p.assignment.gpuUuids
  fixedInstanceGpuCount := ctx.deviceCount
  attempt := p.attempt
  priorAttemptReceiptSha256 := p.prior.map sha.assignmentReceipt

def hasSucceeded (latest : D → Option (AssignmentExecutionReceipt D)) (assignmentId : D) : Bool :=
  (latest assignmentId).any (·.succeeded)

/-- The target of `_expected_pending`: the first wave that is not fully succeeded. -/
def expectedWave (plan : FrozenPlan D) (latest : D → Option (AssignmentExecutionReceipt D)) :
    Except Error (PlannedWave D) :=
  match plan.waves.find? fun wave =>
      !wave.assignments.all fun x => hasSucceeded latest x.assignmentId with
  | some wave => .ok wave
  | none => .error (valueError "complete dispatch journal cannot start another wave")

/-- The identities of `_expected_pending`. -/
def expectedIdentities (sha : ContentSha D) (ctx : ExecutionContext D)
    (latest : D → Option (AssignmentExecutionReceipt D)) :
    List (PlannedAssignment D) → Except Error (List (AttemptIdentity D))
  | [] => .ok []
  | assignment :: rest =>
    if hasSucceeded latest assignment.assignmentId then expectedIdentities sha ctx latest rest
    else do
      let prior := latest assignment.assignmentId
      let budget ← ctx.budget assignment.itemId
      let attempt := prior.elim 1 (·.attempt + 1)
      require (attempt ≤ budget.retryAllowance + 1)
        (valueError "dispatch retry would exceed the ExperimentBudget allowance")
      let others ← expectedIdentities sha ctx latest rest
      pure (attemptIdentity sha ctx ⟨assignment, attempt, budget, prior⟩ :: others)

def expectedPending (sha : ContentSha D) (plan : FrozenPlan D) (ctx : ExecutionContext D)
    (latest : D → Option (AssignmentExecutionReceipt D)) :
    Except Error (PlannedWave D × List (AttemptIdentity D)) := do
  let wave ← expectedWave plan latest
  let identities ← expectedIdentities sha ctx latest wave.assignments
  pure (wave, identities)

/-! ## Replay -/

/-- An entry of `wave_events`. -/
structure WaveEvent (D : Type) where
  waveIndex : ℕ
  priorScheduleReceiptSha256 : Option D
  pendingAttempts : List (AttemptIdentity D)

/-- An entry of `incomplete`. -/
structure OpenIntent (D : Type) where
  identity : AttemptIdentity D
  waveEventSha256 : D
  startedMonotonicNs : ℕ
deriving DecidableEq

/-- The variables of the loop of `replay`. `previous` is the last of the event
digests and `expected_sequence` is their number. -/
structure ReplayState (D : Type) where
  latest : Dict D (AssignmentExecutionReceipt D) := .empty
  incomplete : Dict D (OpenIntent D) := .empty
  waveEvents : Dict D (WaveEvent D) := .empty
  eventSha256s : List D := []
  lastFinishPriorScheduleSha256 : Option D := none

/-- The checks on the intent that a payload describes. -/
def openIntent (payload : AttemptPayload D) : OpenIntent D :=
  ⟨payload.identity, payload.waveEventSha256, payload.startedMonotonicNs⟩

namespace DispatchAttemptJournal

variable (sha : JournalSha D) (journal : DispatchAttemptJournal D)

def replayWave (st : ReplayState D) (wave : PlannedWave D) (digest : D) (payload : WavePayload D) :
    Except Error (ReplayState D) := do
  require (st.incomplete.entries = [])
    (blockedError "dispatch_attempt_intent_without_finish_cost_unresolved")
  let expectedReceipt ← scheduleFromLatest journal.plan journal.ctx st.latest.get?
    st.lastFinishPriorScheduleSha256
  let expectedPrior := expectedReceipt.map sha.scheduleReceipt
  require (payload.priorScheduleReceiptSha256 = expectedPrior)
    (valueError "dispatch journal wave prior schedule identity mismatch")
  let expected ← expectedPending sha.toContentSha journal.plan journal.ctx st.latest.get?
  require (wave = expected.1 ∧ payload.pendingAttempts = expected.2)
    (valueError "dispatch journal wave pending attempts differ from replay")
  pure { st with
    waveEvents := st.waveEvents.set digest ⟨wave.waveIndex, expectedPrior, payload.pendingAttempts⟩ }

/-- The checks that INTENT and FINISH events share; the WAVE event of the attempt. -/
def replayAttempt (st : ReplayState D) (wave : PlannedWave D) (payload : AttemptPayload D) :
    Except Error (WaveEvent D) :=
  match st.waveEvents.get? payload.waveEventSha256 with
  | none => .error (valueError "attempt event lacks its exact wave intent")
  | some waveEvent => do
    require (waveEvent.waveIndex = wave.waveIndex)
      (valueError "attempt event lacks its exact wave intent")
    require (payload.identity ∈ waveEvent.pendingAttempts)
      (valueError "attempt event was not pending in its wave intent")
    pure waveEvent

def replayIntent (st : ReplayState D) (wave : PlannedWave D) (digest : D)
    (payload : AttemptPayload D) : Except Error (ReplayState D) := do
  let _ ← replayAttempt st wave payload
  require (payload.finishedMonotonicNs = none ∧ payload.intentEventSha256 = none ∧
      payload.assignmentReceipt = none ∧
      ∀ row ∈ st.incomplete.values,
        ¬(row.identity.assignmentSha256 = payload.identity.assignmentSha256 ∧
          row.waveEventSha256 = payload.waveEventSha256))
    (valueError "dispatch attempt intent is not canonical")
  pure { st with incomplete := st.incomplete.set digest (openIntent payload) }

def checkFinishReceipt (wave : PlannedWave D) (assignment : PlannedAssignment D)
    (budget : ExperimentBudget D) (started finished : ℕ) (receipt : AssignmentExecutionReceipt D) :
    Except Error Unit := do
  require (receipt.planSha256 = journal.plan.sha256 ∧ receipt.waveSha256 = wave.sha256 ∧
      receipt.assignmentSha256 = assignment.assignmentId ∧
      receipt.budgetSha256 = budget.sha256 ∧
      receipt.attemptIntervalsMonotonicNs.getLast? = some (started, finished))
    (valueError "attempt finish receipt differs from its raw interval")
  require (receipt.succeeded = true → ∃ binding ∈ receipt.terminalBinding,
      binding.cellId = assignment.itemId ∧
      binding.inventorySha256 = journal.ctx.inventorySha256 ∧
      binding.physicalGpuUuids = assignment.gpuUuids ∧
      binding.dispatchPlanSha256 = journal.plan.sha256)
    (valueError "attempt success terminal binding differs from the frozen assignment")

/-- The intent that a FINISH event closes, its end and its receipt. -/
def finishParts (st : ReplayState D) (payload : AttemptPayload D) :
    Except Error (D × ℕ × AssignmentExecutionReceipt D) :=
  match payload.intentEventSha256, payload.finishedMonotonicNs, payload.assignmentReceipt with
  | some intentSha256, some finished, some receipt => do
    require (payload.startedMonotonicNs ≤ finished)
      (valueError "attempt finished monotonic time is below its minimum")
    require (st.incomplete.get? intentSha256 = some (openIntent payload))
      (valueError "dispatch attempt finish lacks its exact intent")
    require (payload.attributedTypes.gpuNs = .int)
      (typeError "attributed_gpu_ns must be an integer")
    require (payload.attributedTypes.fixedInstanceGpuNs = .int)
      (typeError "attributed_fixed_instance_gpu_ns must be an integer")
    let receipt ← receipt.construct sha.toContentSha
    pure (intentSha256, finished, receipt)
  | none, _, _ => .error (valueError "attempt intent event must be a SHA-256 digest")
  | _, none, _ => .error (typeError "attempt finished monotonic time must be an integer")
  | _, _, none => .error (typeError "assignment execution receipt must be a JSON object")

def replayFinish (st : ReplayState D) (wave : PlannedWave D) (payload : AttemptPayload D) :
    Except Error (ReplayState D) := do
  let waveEvent ← replayAttempt st wave payload
  let (intentSha256, finished, receipt) ← finishParts sha st payload
  let assignmentId := payload.identity.assignmentSha256
  match wave.assignments.find? fun x => x.assignmentId = assignmentId with
  | none => .error (valueError "attempt assignment is absent from its wave")
  | some assignment => do
    let budget ← journal.ctx.budget assignment.itemId
    require (payload.identity = attemptIdentity sha.toContentSha journal.ctx
        ⟨assignment, receipt.attempt, budget, st.latest.get? assignmentId⟩)
      (valueError "attempt finish identity differs from replay")
    journal.checkFinishReceipt wave assignment budget payload.startedMonotonicNs finished receipt
    pure { st with
      incomplete := st.incomplete.erase intentSha256
      latest := st.latest.set assignmentId receipt
      lastFinishPriorScheduleSha256 := waveEvent.priorScheduleReceiptSha256 }

def replayPayload (st : ReplayState D) (wave : PlannedWave D) (digest : D) :
    EventPayload D → Except Error (ReplayState D)
  | .wave payload => journal.replayWave sha st wave digest payload
  | .intent payload => replayIntent st wave digest payload
  | .finish payload => journal.replayFinish sha st wave payload

/-- The identity of one event; the wave it belongs to. -/
def replayIdentity (st : ReplayState D) (event : JournalEvent D) :
    Except Error (PlannedWave D) := do
  require (event.schemaVersion = 1 ∧ event.kind = "industrial_dispatch_attempt_event" ∧
      event.manifestSha256 = journal.manifestSha256 ∧
      event.sequence = st.eventSha256s.length ∧
      event.previousEventSha256 = st.eventSha256s.getLast? ∧
      event.planSha256 = journal.plan.sha256 ∧
      event.executionContextSha256 = journal.executionContextSha256 ∧
      event.inventorySha256 = journal.ctx.inventorySha256)
    (blockedError "dispatch_attempt_journal_event_identity_mismatch")
  match journal.plan.waves[event.waveIndex]? with
  | none => .error (valueError "attempt journal wave index exceeds the plan")
  | some wave => do
    require (event.waveSha256 = wave.sha256)
      (valueError "attempt journal event belongs to another wave")
    pure wave

/-- The body of a file whose digest is the one in its name. -/
def readEvent (file : JournalFile D) : Except Error (JournalEvent D) :=
  match file.body with
  | none => .error (blockedError "dispatch_attempt_journal_event_digest_mismatch")
  | some event =>
    if sha.event event = file.declaredSha256 then .ok event
    else .error (blockedError "dispatch_attempt_journal_event_digest_mismatch")

/-- One round of the loop of `replay`. -/
def replayFile (st : ReplayState D) (file : JournalFile D) : Except Error (ReplayState D) := do
  require (file.sequence = st.eventSha256s.length)
    (blockedError "dispatch_attempt_journal_sequence_gap")
  let event ← readEvent sha file
  let wave ← journal.replayIdentity st event
  let st ← journal.replayPayload sha st wave file.declaredSha256 event.payload
  pure { st with eventSha256s := st.eventSha256s ++ [file.declaredSha256] }

/-- The loop of `replay`. -/
def replayFiles (files : List (JournalFile D)) : Except Error (ReplayState D) :=
  files.foldlM (journal.replayFile sha) {}

/-- The end of `replay`. -/
def snapshotOf (st : ReplayState D) (receipt : Option (DispatchScheduleReceipt D)) :
    DispatchAttemptJournalSnapshot D :=
  let binding := st.eventSha256s.getLast?.map fun head =>
    { journalPath := journal.root
      manifestSha256 := journal.manifestSha256
      headEventSha256 := head
      eventCount := st.eventSha256s.length }
  { binding := binding
    receipt := receipt
    replayAuthority := do
      let binding ← binding
      let receipt ← receipt
      pure {
        journalPath := binding.journalPath
        manifestSha256 := binding.manifestSha256
        headEventSha256 := binding.headEventSha256
        eventCount := binding.eventCount
        scheduleReceiptSha256 := sha.scheduleReceipt receipt }
    terminalBindings := (st.latest.values.filter (·.succeeded)).filterMap (·.terminalBinding)
    latestAssignmentReceipts := st.latest.values
    incompleteIntentSha256s := st.incomplete.entries.map Prod.fst
    eventSha256s := st.eventSha256s }

/-- The files that `replay` reads. -/
def replayNames (files : List (JournalFile D)) :
    Option ℕ → Except Error (List (JournalFile D))
  | none => .ok files
  | some eventCount => do
    require (1 ≤ eventCount)
      (valueError "attempt journal replay event count is below its minimum")
    require (eventCount ≤ files.length)
      (valueError "attempt journal prefix exceeds available events")
    pure (files.take eventCount)

def replay (files : List (JournalFile D)) (eventCount : Option ℕ) :
    Except Error (DispatchAttemptJournalSnapshot D) := do
  let names ← replayNames files eventCount
  let st ← journal.replayFiles sha names
  let receipt ← scheduleFromLatest journal.plan journal.ctx st.latest.get?
    st.lastFinishPriorScheduleSha256
  pure (journal.snapshotOf sha st receipt)

end DispatchAttemptJournal

/-! ## Writing -/

/-- The events directory and the fields of a journal. -/
structure JournalState (D : Type) where
  files : List (JournalFile D)
  eventNames : List (ℕ × D)
  eventSha256s : List D
  activeWave : Option (D × WavePayload D)
  openTokens : Dict D (AttemptPayload D)
  preissuedAssignmentTokens : Dict D (DispatchAttemptJournalToken D)
  disk : ℕ → WriteOutcome
  writes : ℕ

namespace JournalState

def open_ (files : List (JournalFile D)) (eventSha256s : List D) (disk : ℕ → WriteOutcome) :
    JournalState D where
  files := files
  eventNames := files.map fun file => (file.sequence, file.declaredSha256)
  eventSha256s := eventSha256s
  activeWave := none
  openTokens := .empty
  preissuedAssignmentTokens := .empty
  disk := disk
  writes := 0

/-- A journal that was created. -/
def new (disk : ℕ → WriteOutcome) : JournalState D := open_ [] [] disk

/-- What a write of a file leaves. The names and digests are cached when the
write returns. -/
def write (event : JournalEvent D) (digest : D) : Method (JournalState D) Unit := fun s =>
  let sequence := s.eventNames.length
  let s' := { s with writes := s.writes + 1 }
  match s.disk s.writes with
  | .written =>
    (.ok (), { s' with
      files := s.files ++ [⟨sequence, digest, some event⟩]
      eventNames := s.eventNames ++ [(sequence, digest)]
      eventSha256s := s.eventSha256s ++ [digest] })
  | .refused => (.error ⟨.osError, "write"⟩, s')
  | .torn => (.error ⟨.osError, "write"⟩, { s' with files := s.files ++ [⟨sequence, digest, none⟩] })
  | .unsynced =>
    (.error ⟨.osError, "fsync"⟩, { s' with files := s.files ++ [⟨sequence, digest, some event⟩] })

end JournalState

namespace DispatchAttemptJournal

variable (sha : JournalSha D) (journal : DispatchAttemptJournal D)

def eventCommon (wave : PlannedWave D) (payload : EventPayload D) (s : JournalState D) :
    JournalEvent D where
  manifestSha256 := journal.manifestSha256
  sequence := s.eventNames.length
  previousEventSha256 := s.eventSha256s.getLast?
  planSha256 := journal.plan.sha256
  executionContextSha256 := journal.executionContextSha256
  inventorySha256 := journal.ctx.inventorySha256
  waveIndex := wave.waveIndex
  waveSha256 := wave.sha256
  payload := payload

def verifyCachedHead (s : JournalState D) : Except Error Unit := do
  require (s.files.map (fun file => (file.sequence, file.declaredSha256)) = s.eventNames)
    (blockedError "dispatch_attempt_journal_changed_outside_writer")
  require (∀ file ∈ s.files.getLast?, ∃ event ∈ file.body,
      s.eventSha256s.getLast? = some (sha.event event))
    (blockedError "dispatch_attempt_journal_head_changed")

def appendEvent (event : JournalEvent D) : Method (JournalState D) D := do
  .check (verifyCachedHead sha (← .read id))
  JournalState.write event (sha.event event)
  pure (sha.event event)

/-- `latest` of `begin_wave_attempts`. -/
def latestOf (snapshot : DispatchAttemptJournalSnapshot D) :
    Dict D (AssignmentExecutionReceipt D) :=
  snapshot.latestAssignmentReceipts.foldl
    (fun latest receipt => latest.set receipt.assignmentSha256 receipt) .empty

/-- The checks of `begin_wave_attempts` and the payload of its WAVE event. -/
def wavePayload (files : List (JournalFile D)) (plan : FrozenPlan D) (wave : PlannedWave D)
    (attempts : List (PendingAttempt D)) (priorScheduleReceiptSha256 : Option D) :
    Except Error (WavePayload D) := do
  require (plan = journal.plan) (valueError "attempt journal received another dispatch plan")
  let snapshot ← journal.replay sha files none
  snapshot.requireCompleteCostAuthority
  let expected ← expectedPending sha.toContentSha journal.plan journal.ctx (latestOf snapshot).get?
  let actualPending : List (AttemptIdentity D) :=
    attempts.map (attemptIdentity sha.toContentSha journal.ctx)
  let expectedPrior := snapshot.receipt.map sha.scheduleReceipt
  require (wave = expected.1 ∧ actualPending = expected.2 ∧
      priorScheduleReceiptSha256 = expectedPrior)
    (valueError "attempt journal wave launch differs from raw replay state")
  pure ⟨expectedPrior, actualPending⟩

def intentPayload (identity : AttemptIdentity D) (waveEventSha256 : D) (started : ℕ) :
    AttemptPayload D :=
  ⟨identity, waveEventSha256, started, none, none, none, {}⟩

/-- The loop of `begin_wave_attempts`, from its round `n`. -/
def preissue (wave : PlannedWave D) (waveEventSha256 : D) (clock : ℕ → ℕ) :
    ℕ → List (AttemptIdentity D) → Method (JournalState D) Unit
  | _, [] => pure ()
  | n, identity :: rest => do
    let payload := intentPayload identity waveEventSha256 (clock n)
    let digest ← appendEvent sha (← .read (journal.eventCommon wave (.intent payload)))
    .assign fun s => { s with
      openTokens := s.openTokens.set digest payload
      preissuedAssignmentTokens :=
        s.preissuedAssignmentTokens.set identity.assignmentSha256 ⟨clock n, digest⟩ }
    preissue wave waveEventSha256 clock (n + 1) rest

def beginWaveAttempts (plan : FrozenPlan D) (wave : PlannedWave D)
    (attempts : List (PendingAttempt D)) (priorScheduleReceiptSha256 : Option D) (clock : ℕ → ℕ) :
    Method (JournalState D) Unit := do
  let payload ← .check (journal.wavePayload sha (← .read (·.files)) plan wave attempts
    priorScheduleReceiptSha256)
  let digest ← appendEvent sha (← .read (journal.eventCommon wave (.wave payload)))
  .assign fun s => { s with activeWave := some (digest, payload) }
  journal.preissue sha wave digest clock 0 payload.pendingAttempts

/-- The checks of `begin_attempt` before it takes the token. -/
def checkBeginAttempt (s : JournalState D) (plan : FrozenPlan D) (p : PendingAttempt D)
    (fixedInstanceGpuCount : ℕ) (priorScheduleReceiptSha256 : Option D) : Except Error Unit :=
  match s.activeWave with
  | none => .error (valueError "attempt intent differs from its durable wave intent")
  | some (_, payload) => do
    require (plan = journal.plan ∧ fixedInstanceGpuCount = journal.ctx.deviceCount ∧
        priorScheduleReceiptSha256 = payload.priorScheduleReceiptSha256)
      (valueError "attempt intent differs from its durable wave intent")
    require (attemptIdentity sha.toContentSha journal.ctx p ∈ payload.pendingAttempts)
      (valueError "attempt was not declared by the durable wave intent")

/-- `self._preissued_assignment_tokens.pop(assignment_id, None)`, which must give
a token. -/
def takeToken (assignmentId : D) : Method (JournalState D) (DispatchAttemptJournalToken D) :=
  fun s =>
    match s.preissuedAssignmentTokens.get? assignmentId with
    | none => (.error (valueError "attempt intent was not durably preissued"), s)
    | some token => (.ok token, { s with
        preissuedAssignmentTokens := s.preissuedAssignmentTokens.erase assignmentId })

/-- The check of `begin_attempt` on the token it took. -/
def checkToken (s : JournalState D) (p : PendingAttempt D)
    (token : DispatchAttemptJournalToken D) : Except Error Unit :=
  require ((s.openTokens.get? token.intentSha256).map (·.identity)
      = some (attemptIdentity sha.toContentSha journal.ctx p))
    (valueError "preissued attempt intent identity changed")

/-- `begin_attempt`. It reads its wave only through the plan. -/
def beginAttempt (plan : FrozenPlan D) (_wave : PlannedWave D) (p : PendingAttempt D)
    (fixedInstanceGpuCount : ℕ) (priorScheduleReceiptSha256 : Option D) :
    Method (JournalState D) (DispatchAttemptJournalToken D) := do
  .check (journal.checkBeginAttempt sha (← .read id) plan p fixedInstanceGpuCount
    priorScheduleReceiptSha256)
  let token ← takeToken p.assignment.assignmentId
  .check (journal.checkToken sha (← .read id) p token)
  pure token

/-- The checks of `finish_attempt`; the wave of the receipt and the payload of
the FINISH event. -/
def finishPayload (s : JournalState D) (token : DispatchAttemptJournalToken D)
    (receipt : AssignmentExecutionReceipt D) (types : AttributedTypes := {}) :
    Except Error (PlannedWave D × AttemptPayload D) :=
  match s.openTokens.get? token.intentSha256, receipt.attemptIntervalsMonotonicNs.getLast? with
  | none, _ => .error (valueError "attempt finish lacks its process-local durable intent")
  | _, none => .error (indexError "tuple index out of range")
  | some intent, some (started, finished) => do
    require (receipt.assignmentSha256 = intent.identity.assignmentSha256 ∧
        receipt.budgetSha256 = intent.identity.budgetSha256 ∧
        receipt.attempt = intent.identity.attempt ∧
        receipt.priorAttemptReceiptSha256 = intent.identity.priorAttemptReceiptSha256 ∧
        started = token.startedMonotonicNs)
      (valueError "attempt finish receipt differs from its intent")
    match journal.plan.waves.find? fun wave => wave.sha256 = receipt.waveSha256 with
    | none => .error ⟨.runtimeError, "coroutine raised StopIteration"⟩
    | some wave =>
      pure (wave, ⟨intent.identity, intent.waveEventSha256, token.startedMonotonicNs,
        some finished, some token.intentSha256, some receipt, types⟩)

def finishAttempt (token : DispatchAttemptJournalToken D)
    (receipt : AssignmentExecutionReceipt D) (types : AttributedTypes := {}) :
    Method (JournalState D) Unit := do
  let (wave, payload) ← .check (journal.finishPayload (← .read id) token receipt types)
  let _ ← appendEvent sha (← .read (journal.eventCommon wave (.finish payload)))
  .assign fun s => { s with openTokens := s.openTokens.erase token.intentSha256 }

/-- The journal as the sink that `execute_dispatch_plan` writes to. -/
def sink : AttemptJournalSink D (JournalState D) where
  beginWaveAttempts := journal.beginWaveAttempts sha
  beginAttempt := journal.beginAttempt sha
  finishAttempt token receipt := journal.finishAttempt sha token receipt

end DispatchAttemptJournal

end Pool

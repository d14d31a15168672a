import LightConeSpec.Fleet.Records
import LightConeSpec.Pool.Bundles
import LightConeSpec.Pool.Publication

/-!
# The worker of a host

`execute_host_local_wave_request`: a host reads one request, reopens the publication it names,
runs the wave and prints a response. What it prints after the wave it takes from the published
receipt, which it reads again.

What the system calls of that reading give, or raise, is a parameter, and so is what reopening
the publication gives. The wave is the process of `Pool.WaveCall`.
-/

namespace Fleet

open Python Pool

variable {D : Type} [LinearOrder D]

/-- The digest functions of the worker. `envelope` is `canonical_sha256` of a document. -/
structure WorkerSha (D : Type) where
  journal : JournalSha D
  fleet : FleetSha D
  envelope : Document D → D

/-! ## Reading a file twice -/

/-- What `_stat_identity` compares of a `stat_result`. -/
structure StatResult where
  device : ℕ
  inode : ℕ
  mode : ℕ
  links : ℕ
  userId : ℕ
  groupId : ℕ
  size : ℕ
  modifiedNs : ℕ
  changedNs : ℕ
deriving DecidableEq

/-- `stat.S_ISREG`. -/
def StatResult.isRegular (s : StatResult) : Bool := s.mode / 4096 % 16 == 8

/-- A regular file with one link and an admissible size. -/
def StatResult.IsBoundedLeaf (limitBytes : ℕ) (s : StatResult) : Prop :=
  s.isRegular = true ∧ s.links = 1 ∧ 1 ≤ s.size ∧ s.size ≤ limitBytes

instance (limitBytes : ℕ) (s : StatResult) : Decidable (s.IsBoundedLeaf limitBytes) :=
  inferInstanceAs (Decidable (_ ∧ _))

/-- What the system calls of one `_read_stable_leaf` return or raise: `reads` are the sizes of the
chunks, and there are no more bytes behind the last one. `body` is what they hold together. -/
structure LeafRead (D : Type) where
  initial : Except Error StatResult
  openLeaf : Except Error Unit
  opened : Except Error StatResult
  reads : List (Except Error ℕ)
  after : Except Error StatResult
  current : Except Error StatResult
  close : Except Error Unit
  body : Body D

/-- The loop over `os.read`: the calls that are left when `remaining` bytes have been read. -/
def readChunks : List (Except Error ℕ) → ℕ → Except Error (List (Except Error ℕ))
  | reads, 0 => .ok reads
  | [], _ + 1 => .error (valueError "remote evidence file shrank while it was read")
  | chunk :: rest, remaining + 1 => do
    let size ← chunk
    require (0 < size) (valueError "remote evidence file shrank while it was read")
    readChunks rest (remaining + 1 - size)

/-- `if os.read(descriptor, 1)`. -/
def requireEnd : List (Except Error ℕ) → Except Error Unit
  | [] => .ok ()
  | chunk :: _ => do
    let size ← chunk
    require (size = 0) (valueError "remote evidence file grew while it was read")

/-- The statements of `_read_stable_leaf` between `os.open` and `os.close`. -/
def readOpened (limitBytes : ℕ) (initial : StatResult) (leaf : LeafRead D) :
    Except Error (StatResult × StatResult × StatResult) := do
  let opened ← leaf.opened
  require (initial = opened ∧ opened.IsBoundedLeaf limitBytes)
    (valueError "remote evidence file changed before it was opened")
  let rest ← readChunks leaf.reads opened.size
  requireEnd rest
  let after ← leaf.after
  let current ← leaf.current
  pure (opened, after, current)

def readStableLeaf (limitBytes : ℕ) (leaf : LeafRead D) : Except Error (Body D × StatResult) := do
  let initial ← leaf.initial
  require (initial.IsBoundedLeaf limitBytes)
    (valueError "remote evidence file is not one bounded single-link file")
  leaf.openLeaf
  let (opened, after, current) ← finallyClose leaf.close (readOpened limitBytes initial leaf)
  require (opened = after ∧ opened = current ∧ current.isRegular = true ∧ current.links = 1)
    (valueError "remote evidence file changed while it was read")
  pure (leaf.body, opened)

/-- What the outside does while the published receipt is read again. `undecodable` is what
decoding raises of bytes that are not the canonical JSON of an envelope: a `ValueError`, or a
`RecursionError` of `json.loads`. `evidenceIsResolved` and `journalIsResolved` are the comparisons
of the evidence paths and the journal path in the envelope with what they resolve to: on a loop of
symbolic links `Path.resolve` raises a `RuntimeError`. -/
structure EvidenceRead (D : Type) where
  isSymlink : Except Error Bool
  isResolved : Except Error Bool
  first : LeafRead D
  second : LeafRead D
  undecodable : Error
  evidenceIsResolved : String → Except Error Bool
  journalIsResolved : Except Error Bool

/-- `path.is_absolute() and path.resolve() == path`. -/
def isAbsoluteAnd (text : String) (resolved : Except Error Bool) : Except Error Bool :=
  if isAbsolutePath text then resolved else .ok false

def readStableEvidenceLeaf (pathValue : String) (limitBytes : ℕ) (read : EvidenceRead D) :
    Except Error (Body D) := do
  let resolved ← isAbsoluteAnd pathValue do
    if ← read.isSymlink then pure false else read.isResolved
  require (resolved = true) (valueError "remote evidence path is unresolved or a symlink")
  let (body, identity) ← readStableLeaf limitBytes read.first
  let (reopened, reopenedIdentity) ← readStableLeaf limitBytes read.second
  require (identity = reopenedIdentity ∧ body = reopened)
    (valueError "remote evidence file changed between bound reads")
  pure body

/-! ## Decoding the published envelope -/

variable (sha : WorkerSha D) (request : RemoteHostWaveRequest D)

/-- `AssignmentExecutionReceipt.from_dict`: the constructors of the terminal binding and of the
receipt. -/
def decodeAssignmentReceipt (read : EvidenceRead D) (row : AssignmentExecutionReceipt D) :
    Except Error Unit := do
  forEach (AssignmentTerminalBinding.postInit read.evidenceIsResolved) row.terminalBinding.toList
  row.postInit sha.journal.toContentSha

/-- `_decode_unbound_schedule_receipt`: the constructors of all receipts. -/
def decodeUnboundScheduleReceipt (read : EvidenceRead D) (receipt : DispatchScheduleReceipt D) :
    Except Error Unit := do
  forEach (fun wave : DispatchWaveExecutionReceipt D => do
    forEach (decodeAssignmentReceipt sha read) wave.assignmentReceipts
    wave.postInit) receipt.waveReceipts
  receipt.postInit

/-- `DispatchAttemptJournalBinding.__post_init__`, when resolving the path may raise. -/
def checkJournalBinding (binding : DispatchAttemptJournalBinding D) (isResolved : Except Error Bool) :
    Except Error Unit := do
  let resolved ← isAbsoluteAnd binding.journalPath isResolved
  require (resolved = true)
    (valueError "attempt journal binding path must be absolute and resolved")
  require (1 ≤ binding.eventCount)
    (valueError "attempt journal event count must be an integer >= 1")

/-- `_decode_raw_schedule_envelope`. An envelope of the first schema names no journal. -/
def decodeRawScheduleEnvelope (read : EvidenceRead D) (body : Body D) :
    Except Error (DispatchScheduleReceipt D × DispatchAttemptJournalBinding D) :=
  match body with
  | .canonical (.envelope receipt sidecar (some attemptJournal)) => do
    decodeUnboundScheduleReceipt sha read receipt
    sidecar.postInit
    require (sidecar.artifactKind = "dispatch_schedule_receipt.v1" ∧
        sidecar.artifactSha256 = sha.journal.scheduleReceipt receipt)
      (valueError "raw dispatch receipt sidecar identity differs")
    checkJournalBinding attemptJournal read.journalIsResolved
    pure (receipt, attemptJournal)
  | .canonical _ => .error (valueError "raw dispatch schedule envelope fields differ")
  | .other _ => .error read.undecodable

def canonicalEnvelopeSha256 (read : EvidenceRead D) : Body D → Except Error D
  | .canonical document => .ok (sha.envelope document)
  | .other _ => .error read.undecodable

def maxReconcileReceiptBytes : ℕ := 4 * 1024 * 1024

/-- The published receipt is read again: the body of the file, and the receipt in it. -/
def reopenPublished (read : EvidenceRead D) :
    Except Error (Body D × DispatchScheduleReceipt D) := do
  let receiptBody ← readStableEvidenceLeaf request.binding.receiptOutputPath
    maxReconcileReceiptBytes read
  let (reopened, _) ← decodeRawScheduleEnvelope sha read receiptBody
  pure (receiptBody, reopened)

/-! ## Responses -/

def blockedWorkerResponse (reasonCode : String) : Except Error (RemoteHostWaveResponse D) := do
  requireReason "worker BLOCKED reason" reasonCode
  validated RemoteHostWaveResponse.postInit {
    schemaVersion := 1
    hostId := request.binding.hostId
    requestSha256 := sha.fleet.request request
    bindingSha256 := sha.fleet.binding request.binding
    status := .blocked
    reasonCode := some reasonCode
    dispatchScheduleReceiptSha256 := none
    dispatchScheduleReceiptEnvelopeSha256 := none
    completedAssignmentSha256 := []
    failedAssignmentSha256 := [] }

/-- `assignment_bindings[assignment_sha256]`. -/
def RemoteHostExecutionBinding.assignmentBinding (binding : RemoteHostExecutionBinding D)
    (assignmentSha256 : D) : Except Error (HostAssignmentBinding D) :=
  match binding.assignments.find? fun item => item.assignmentSha256 = assignmentSha256 with
  | some item => .ok item
  | none => .error (keyError "assignment_bindings")

/-- An assignment receipt belongs to the plan, its wave and the inventory. -/
def isOwnChild (binding : RemoteHostExecutionBinding D) (waveSha256 : D)
    (row : AssignmentExecutionReceipt D) : Prop :=
  row.planSha256 = binding.hostDispatchPlanSha256 ∧ row.waveSha256 = waveSha256 ∧
    ∀ terminal ∈ row.terminalBinding,
      terminal.dispatchPlanSha256 = binding.hostDispatchPlanSha256 ∧
        terminal.inventorySha256 = binding.hostInventorySha256

instance (binding : RemoteHostExecutionBinding D) (waveSha256 : D)
    (row : AssignmentExecutionReceipt D) : Decidable (isOwnChild binding waveSha256 row) :=
  inferInstanceAs (Decidable (_ ∧ _))

/-- `tuple(sorted(row.assignment_sha256 for row in rows))`. -/
def sortedAssignments (rows : List (AssignmentExecutionReceipt D)) : List D :=
  (rows.map (·.assignmentSha256)).insertionSort (· ≤ ·)

def requireTerminalGpus (binding : RemoteHostExecutionBinding D)
    (row : AssignmentExecutionReceipt D) : Except Error Unit :=
  match row.terminalBinding with
  | none => .ok ()
  | some terminal => do
    let item ← binding.assignmentBinding row.assignmentSha256
    require (terminal.physicalGpuUuids = item.gpuUuids)
      (valueError "host schedule terminal GPU coverage differs")

/-- The response for the rows of a wave that ran. -/
def executedResponse (receipt : DispatchScheduleReceipt D) (receiptEnvelopeSha256 : D)
    (rows : List (AssignmentExecutionReceipt D)) : RemoteHostWaveResponse D :=
  let completed := sortedAssignments (rows.filter (·.status = .succeeded))
  let failed := sortedAssignments (rows.filter (·.status = .failed))
  let succeeded : Bool := failed = [] ∧ completed = request.binding.assignmentSha256
  { schemaVersion := 1
    hostId := request.binding.hostId
    requestSha256 := sha.fleet.request request
    bindingSha256 := sha.fleet.binding request.binding
    status := if succeeded then .succeeded else .failed
    reasonCode := if succeeded then none else some "remote_host_wave_failed"
    dispatchScheduleReceiptSha256 := some (sha.journal.scheduleReceipt receipt)
    dispatchScheduleReceiptEnvelopeSha256 := some receiptEnvelopeSha256
    completedAssignmentSha256 := completed
    failedAssignmentSha256 := failed }

def workerResponseFromReceipt (receipt : DispatchScheduleReceipt D) (receiptEnvelopeSha256 : D) :
    Except Error (RemoteHostWaveResponse D) := do
  let binding := request.binding
  require (receipt.planSha256 = binding.hostDispatchPlanSha256 ∧
      receipt.inventorySha256 = binding.hostInventorySha256 ∧
      receipt.waveReceipts.length = binding.hostWaveIndex + 1)
    (valueError "host schedule receipt differs from request authority")
  require (∀ wave ∈ receipt.waveReceipts, ∀ row ∈ wave.assignmentReceipts,
      isOwnChild binding wave.waveSha256 row)
    (valueError "host schedule child receipt differs from wave authority")
  match receipt.waveReceipts[binding.hostWaveIndex]? with
  | none => .error (indexError "tuple index out of range")
  | some wave => do
    require (wave.waveIndex = binding.hostWaveIndex ∧ wave.waveSha256 = binding.hostWaveSha256)
      (valueError "host schedule receipt differs from requested wave")
    require (sortedAssignments wave.assignmentReceipts = binding.assignmentSha256)
      (valueError "host schedule receipt assignment coverage differs")
    forEach (requireTerminalGpus binding) wave.assignmentReceipts
    validated RemoteHostWaveResponse.postInit
      (executedResponse sha request receipt receiptEnvelopeSha256 wave.assignmentReceipts)

/-- The statements that follow a wave that returned its receipt. -/
def responseFromPublished (receipt : DispatchScheduleReceipt D) (read : EvidenceRead D) :
    Except Error (RemoteHostWaveResponse D) := do
  let (receiptBody, reopened) ← reopenPublished sha request read
  require (reopened = receipt)
    (valueError "worker receipt differs from its published envelope")
  let envelopeSha256 ← canonicalEnvelopeSha256 sha read receiptBody
  workerResponseFromReceipt sha request receipt envelopeSha256

/-! ## The publication on the host -/

/-- Where the plans of a publication place their assignments, beyond what the dispatch plan
says. -/
structure HostLocalPublication (D : Type) where
  ports : D → List ℕ
  hostId : D → Option String

/-- `_load_verified_host_local_publication`. `publication` is what reading the manifest and
replaying its bundles gives; the dispatch plan of the bundles is that of the journal. -/
def loadVerifiedHostLocalPublication (journal : DispatchAttemptJournal D)
    (binding : RemoteHostExecutionBinding D) (publication : Except Error (HostLocalPublication D)) :
    Except Error Unit := do
  let published ← publication
  require (journal.plan.sha256 = binding.hostDispatchPlanSha256 ∧
      journal.ctx.inventorySha256 = binding.hostInventorySha256 ∧
      binding.hostWaveIndex < journal.plan.waves.length)
    (valueError "host-local publication differs from host plan authority")
  match journal.plan.waves[binding.hostWaveIndex]? with
  | none => .error (indexError "tuple index out of range")
  | some wave => do
    require (wave.waveIndex = binding.hostWaveIndex ∧ wave.sha256 = binding.hostWaveSha256 ∧
        wave.assignments.map (·.assignmentId) = binding.assignmentSha256)
      (valueError "host-local publication differs from host wave authority")
    forEach (fun assignment => do
      let bound ← binding.assignmentBinding assignment.assignmentId
      require (assignment.gpuUuids = bound.gpuUuids ∧
          published.ports assignment.assignmentId = bound.ports)
        (valueError "host-local publication differs from physical placement")) wave.assignments
    require (∀ a ∈ binding.assignmentSha256, published.hostId a = some binding.hostId)
      (valueError "host-local publication differs from host identity")

/-! ## One request -/

/-- What the outside does to one request. -/
structure HostCall (D : Type) where
  publication : Except Error (HostLocalPublication D)
  wave : WaveCall D
  published : EvidenceRead D

def HostCall.waveCall (call : HostCall D) (binding : RemoteHostExecutionBinding D) : WaveCall D :=
  { call.wave with
    waveIndex := binding.hostWaveIndex
    supplied := if binding.resumeReceiptPath.isSome then call.wave.supplied else none }

/-- `error.reason_code` of an `ExecutionBundleBlockedError`, whose message ends with it. -/
def reasonCodeOf (error : Error) : String :=
  String.ofList (error.message.toList.drop "industrial execution bundle is BLOCKED: ".length)

/-- The reason of a blocked error, when it can be printed. -/
def safeReason (error : Error) (otherwise : String) : String :=
  if error.kind = .executionBundleBlockedError ∧ isReasonCode (reasonCodeOf error) = true then
    reasonCodeOf error
  else otherwise

/-- A BLOCKED response with its exit code. -/
def reportBlocked (reason : String) :
    Method (Session D (JournalState D)) (ℕ × Option (RemoteHostWaveResponse D)) := do
  let response ← .check (blockedWorkerResponse sha request reason)
  pure (42, some response)

/-- The answer after the wave executor has returned or raised. -/
def reportExecuted (call : HostCall D) : Except Error (DispatchScheduleReceipt D) →
      Method (Session D (JournalState D)) (ℕ × Option (RemoteHostWaveResponse D))
  | .error error =>
    if error.isException = false then .raise error
    else if error.kind = .executionBundleBlockedError then
      reportBlocked sha request (safeReason error "remote_host_wave_blocked")
    else pure (43, none)
  | .ok receipt =>
    match responseFromPublished sha request receipt call.published with
    | .error error => if error.isTypeOrValueError then pure (43, none) else .raise error
    | .ok response => pure (if response.status = .succeeded then 0 else 42, some response)

/-- `execute_host_local_wave_request`: the exit code and what is printed, for the request that
the standard input decodes to. -/
def executeHostLocalWaveRequest (journal : DispatchAttemptJournal D)
    (request : RemoteHostWaveRequest D) (call : HostCall D) :
    Method (Session D (JournalState D)) (ℕ × Option (RemoteHostWaveResponse D)) := do
  .check request.postInit
  match loadVerifiedHostLocalPublication journal request.binding call.publication with
  | .error error =>
    if error.isException then
      reportBlocked sha request (safeReason error "remote_host_manifest_invalid")
    else .raise error
  | .ok () => do
    let outcome ← Method.attempt
      (journal.executeDispatchWaveBundles sha.journal (call.waveCall request.binding))
    reportExecuted sha request call outcome

end Fleet

import LightConeSpec.Telemetry.Writer

/-!
# Closing an attempt

What ends an attempt: the native terminal artifact, `prepareClose`, `publishClose` and
`abort`. `Call` collects the public operations of the writer, and `step` is a call on a
session, whose state is kept when the call raises.
-/

namespace Telemetry

open Python

namespace EvidenceWriter

variable (hash : Hashing) (w : EvidenceWriter) (files : Directory)

/-! ## The completion contract -/

/-- The output identities of the requests of a segment. -/
def checkSegment (name : String) : Except Error Unit :=
  match files.get? name with
  | some (.parquet shard) =>
    forEach (validateOutputTokens hash) (shard.rows.filterMap EvidenceRecord.asRequest)
  | some (.other _ error) => .error error
  | _ => .error (runtimeError ("invalid evidence WAL " ++ name))

def segmentNames (table : Table) : List String :=
  sortedBy id (glob files (segmentStart w.stem table) ".parquet")

/-- The native terminal binding of a serving run. -/
def checkNative (run : RunRecord) : Except Error Unit :=
  match w.nativeTerminalBinding with
  | none => .error (runtimeError "serving completion lacks its native terminal artifact")
  | some binding => do
      require (run.nativeBinding = some binding)
        (runtimeError "run evidence changed its native terminal binding")
      validateNativeBinding hash files binding w.runId w.rank w.stem

def checkCounts (run : RunRecord) : Except Error Unit :=
  require (some (w.rowCounts .request : ℤ) = run.expectedRequestRows ∧
      some (w.rowCounts .round : ℤ) = run.expectedRoundRows ∧
      some (w.rowCounts .update : ℤ) = run.expectedUpdateRows ∧
      some (w.rowCounts .performance : ℤ) = run.expectedPerformanceRows)
    (runtimeError "industrial evidence row counts do not match the locked contract")

/-- The segments of an industrial run. -/
def checkSegments (contract : String) : Except Error Unit :=
  if contract ∈ industrialWorkloadContracts then do
    require ((w.segmentNames files .request).length = w.rowGroups .request)
      (runtimeError "industrial request WAL coverage changed")
    forEach (checkSegment hash files) (w.segmentNames files .request)
  else pure ()

/-- The checks of `_validate_completion` on a run with a workload contract. -/
def checkContract (run : RunRecord) (contract : String) : Except Error Unit := do
  w.checkCounts run
  require (run.rank = some (w.rank : ℤ))
    (runtimeError "industrial run rank differs from its evidence writer")
  w.checkSegments hash files contract
  if contract ∈ budgetObservedWorkloadContracts then w.checkNative hash files run
  else
    require (w.nativeTerminalBinding = none)
      (runtimeError "non-serving completion carries a native terminal artifact")

/-- The tables that a run of this method must have. -/
def expected (run : RunRecord) : List Table :=
  if run.method ∈ evidenceMethods then expectedTables run.method run.workloadContract else []

/-- The condition on the tables in `_validate_completion`. -/
def Satisfies (run : RunRecord) : Prop :=
  run.runId = w.runId ∧ run.status = "complete" ∧ run.completedNs.isSome ∧ expected run ≠ [] ∧
    (∀ table, w.rowCounts table ≠ 0 ↔ table ∈ expected run) ∧
    (∀ table ∈ expected run, w.droppedByTable table = 0) ∧
    w.methodsByTable .run = {run.method} ∧ w.methodsByTable .request = {run.method} ∧
    w.methodsByTable .performance = {run.method} ∧ w.requestHashFormats = {outputHashFormat}

instance (run : RunRecord) : Decidable (w.Satisfies run) := by
  unfold Satisfies
  infer_instance

def validateCompletion : Except Error (List Table) :=
  match w.runRecord with
  | none => .error (runtimeError "a complete attempt requires exactly one run row")
  | some run => do
      require (w.rowCounts .run = 1)
        (runtimeError "a complete attempt requires exactly one run row")
      require (w.Satisfies run)
        (runtimeError "evidence tables do not satisfy the method completion contract")
      match run.workloadContract with
      | none => pure (expected run)
      | some contract => do
          w.checkContract hash files run contract
          pure (expected run)

/-! ## Final shards -/

def readSegment (name : String) : Except Error (List EvidenceRecord) :=
  match files.get? name with
  | some (.parquet shard) => do
      require (shard.rows.length ≤ w.settings.maxQueuedRows)
        (runtimeError ("evidence WAL exceeded queue bound: " ++ name))
      pure shard.rows
  | some (.other _ error) => .error error
  | _ => .error (runtimeError ("invalid evidence WAL " ++ name))

/-- `_build_final_table`, up to the write. -/
def finalShard (table : Table) : Except Error Shard := do
  let segments := w.segmentNames files table
  require (segments.length = w.rowGroups table)
    (runtimeError ("evidence WAL coverage changed for " ++ table.name))
  require (files.get? (w.path (.shard table))).isNone
    (runtimeError ("refusing to overwrite evidence shard " ++ w.path (.shard table)))
  let groups ← collect (segments.map (w.readSegment files))
  pure ⟨table, Session.optionalColumns table, groups⟩

/-! ## Receipts -/

def fileEntry (name : String) (shard : Shard) : FileEntry where
  name := name
  sha256 := hash.file (.parquet shard)
  size := hash.size (.parquet shard)
  rows := shard.rows.length
  rowGroups := shard.rowGroups.length
  schemaSha256 := hash.schema shard

def preparedReceiptOf (shards : List (Table × String × Shard)) (checkpoint : File) : Receipt where
  schemaVersion := 3
  runId := w.runId
  rank := w.rank
  processId := w.settings.processId
  attemptId := w.settings.attemptId
  stem := some w.stem
  files := shards.map fun row => (row.1, fileEntry hash row.2.1 row.2.2)
  checkpoint := some ⟨w.path .checkpoint, hash.file checkpoint, hash.size checkpoint⟩
  coverage := some (shards.map fun row => (row.1, row.2.2.rows.length, row.2.2.rowGroups.length))
  counters := some w.counters
  writerPolicy := w.settings.registeredPolicy
  writerPolicySha256 := w.settings.registeredPolicy.map hash.policy
  experimentBudgetSha256 := w.runRecord.bind fun run => run.experimentBudgetSha256
  nativeTerminalArtifact := w.nativeTerminalBinding
  postBinding := none

end EvidenceWriter

namespace Session

variable (hash : Hashing) (clock : Clock)

def sortedTables (expected : List Table) : List Table :=
  [Table.performance, .request, .round, .run, .update].filter (· ∈ expected)

def publish (name : String) (file : File) (runId : String) : Method Session Unit := fun s =>
  ((publishExclusive s.files name file runId).1,
    { s with files := (publishExclusive s.files name file runId).2 })

/-! ## The native terminal artifact -/

/-- The binding of an artifact that was written with this size and digest. -/
def nativeBindingOf (path : String) (artifact : NativeArtifact) : NativeBinding where
  path := path
  size := hash.size (.native artifact)
  rawSha256 := hash.file (.native artifact)
  terminalSha256 := artifact.terminalSha256.getD ""
  trustedAttesterPolicySha256 := artifact.trustedAttesterPolicySha256.getD ""

def persistNativeTerminalArtifact (artifact : NativeArtifact) : Method Session NativeBinding := do
  requireUnprepared "evidence writer is closed or prepared"
  let w ← Method.read Session.writer
  Method.check (require (w.nativeTerminalBinding = none)
    (runtimeError "native terminal artifact is already persisted"))
  Method.check (require (artifact.exact ∧ artifact.schemaVersion = 2 ∧
      artifact.artifactKind = "native_terminal_evidence_bundle_v2" ∧
      artifact.runId = w.runId ∧ artifact.rank = w.rank)
    (valueError "native terminal artifact differs from this writer"))
  Method.check (require artifact.strict
    (valueError "native terminal artifact is not strict JSON"))
  Method.check (require (isOptionalSha256 artifact.terminalSha256 ∧
      isOptionalSha256 artifact.trustedAttesterPolicySha256)
    (valueError "native terminal artifact lacks release digest bindings"))
  publish (w.path .nativeTerminal) (.native artifact) artifact.runId
  let binding := nativeBindingOf hash (w.path .nativeTerminal) artifact
  let files ← Method.read Session.files
  Method.check (validateNativeBinding hash files binding w.runId w.rank w.stem)
  update fun w => { w with nativeTerminalBinding := some binding }
  writeCheckpoint clock
  pure binding

/-! ## Preparing, publishing and aborting -/

def buildFinalTable (table : Table) : Method Session (Table × String × Shard) := do
  let s ← Method.read id
  let shard ← Method.check (s.writer.finalShard s.files table)
  Method.assign fun s =>
    { s with files := s.files.set (s.writer.path (.shard table)) (.parquet shard) }
  pure (table, s.writer.path (.shard table), shard)

/-- The end of `prepare_close`: the receipt of these shards and this checkpoint is
published. -/
def publishReceipt (shards : List (Table × String × Shard)) (checkpoint : File) :
    Method Session Resolved := do
  let s ← Method.read id
  let receipt := s.writer.preparedReceiptOf hash shards checkpoint
  let resolved := shards.map fun row => (row.1, row.2.1)
  Method.check (require (s.files.get? (preparedName s.writer.runId s.writer.rank)).isNone
    (runtimeError ("prepared evidence already exists for run " ++ s.writer.runId)))
  publish (preparedName s.writer.runId s.writer.rank) (.receipt receipt true) s.writer.runId
  useIndex
  update fun w =>
    { w with
      indexOpen := false
      preparedReceipt := some receipt
      preparedFiles := some resolved
      state := .prepared }
  pure resolved

/-- `EvidenceWriter.prepare_close`: the names of the shards. -/
def prepareClose : Method Session Resolved := do
  requireUnprepared "evidence writer is already closed or prepared"
  flushAll clock
  let s ← Method.read id
  let expected ← Method.check (s.writer.validateCompletion hash s.files)
  let completed ← Method.check (loadCompletedEvidence hash s.files s.writer.runId s.writer.rank)
  Method.check (require (completed = none)
    (runtimeError ("completed evidence already exists for run " ++ s.writer.runId)))
  update fun w => { w with state := .publishing }
  let checkpoint ← Method.read fun s => File.checkpoint s.writer.checkpointValue
  writeCheckpoint clock
  let shards ← Method.collect buildFinalTable (sortedTables expected)
  publishReceipt hash shards checkpoint

/-- The callback of `publish_close`. -/
def validatePrepared (preparedFiles : Option Resolved) (resolved : Resolved) : Except Error Unit :=
  require (some resolved = preparedFiles)
    (runtimeError "prepared evidence changed before completion")

def publishPrepared (receipt : Receipt) (validatePostBinding : Except Error Unit) :
    Method Session Resolved := fun s =>
  let published := publishPreparedCompletion hash s.writer.runId s.writer.rank
    (some (hash.file (.receipt receipt true))) (validatePrepared s.writer.preparedFiles)
    validatePostBinding s.files
  (published.1, { s with files := published.2 })

def publishClose (validatePostBinding : Except Error Unit) : Method Session Resolved := do
  requireOpen "evidence writer already closed"
  let prepared ← Method.read fun s => s.writer.preparedReceipt
  match prepared with
  | none => Method.raise (runtimeError "evidence writer has not prepared completion")
  | some receipt => do
      let published ← publishPrepared hash receipt validatePostBinding
      update fun w => { w with state := .complete, closed := true }
      pure published

def abort (reason : Option String) : Method Session Unit := do
  requireUnprepared "evidence writer is closed or prepared"
  flushAll clock
  update fun w => { w with state := .aborted }
  let aborted ← Method.read fun s => File.aborted s.writer.checkpointValue reason
  useIndex
  update fun w => { w with indexOpen := false }
  Method.assign fun s => { s with files := s.files.set (s.writer.path .aborted) aborted }
  update fun w => { w with closed := true }

/-! ## A new writer -/

/-- The checks of `EvidenceWriter.__init__` on its arguments. -/
def validateSettings (settings : Settings) : Except Error Unit := do
  require (isSafeComponent settings.runId)
    (valueError "run_id must be a safe non-empty path component")
  require (0 < settings.maxQueuedRows) (valueError "max_queued_rows must be positive")
  require (0 < settings.rowGroupRows) (valueError "row_group_rows must be positive")
  require (settings.checkpointIntervalS.all fun interval => decide (0 < interval))
    (valueError "checkpoint_interval_s must be positive or None")
  match settings.registeredPolicy with
  | none => pure ()
  | some policy =>
    require (settings.maxQueuedRows = policy.writerQueueRows ∧
        settings.rowGroupRows = policy.parquetRowGroupRows ∧
        settings.checkpointIntervalS = some (policy.checkpointIntervalMs / 1000) ∧
        settings.overflowPolicy = .backpressure)
      (valueError "evidence writer settings differ from the registered policy")

def attemptStem (settings : Settings) : String :=
  runStem settings.runId settings.rank ++ ".pid" ++ toString settings.processId ++ ".attempt"
    ++ settings.attemptId

/-- The fields that `__init__` sets. -/
def newWriter (settings : Settings) (lastCheckpoint : ℚ) : EvidenceWriter where
  settings := settings
  stem := attemptStem settings
  queues := fun _ => []
  queuedRows := 0
  rowCounts := fun _ => 0
  rowGroups := fun _ => 0
  droppedByTable := fun _ => 0
  methodsByTable := fun _ => ∅
  requestHashFormats := ∅
  runRecord := none
  flushes := 0
  fsyncTimeNs := 0
  backpressureEvents := 0
  backpressuredRows := 0
  droppedRows := 0
  maxObservedQueuedRows := 0
  lastCheckpoint := lastCheckpoint
  closed := false
  preparedReceipt := none
  preparedFiles := none
  nativeTerminalBinding := none
  state := .opened
  seen := []
  indexOpen := true

/-- `EvidenceWriter.__init__` on a directory. -/
def init (settings : Settings) (files : Directory) : Except Error Session := do
  validateSettings settings
  let completed ← loadCompletedEvidence hash files settings.runId settings.rank
  require (completed = none)
    (runtimeError ("completed evidence already exists for run " ++ settings.runId))
  require (isSafeComponent settings.attemptId)
    (valueError "attempt_id must be a safe non-empty path component")
  require (glob files (attemptStem settings ++ ".") "" = [])
    (runtimeError ("attempt path already exists for " ++ attemptStem settings))
  pure (checkpointed clock
    ⟨newWriter settings (clock.monotonic 0),
      files.set (fileName (attemptStem settings) .index) .index, 1⟩)

/-! ## Calls -/

/-- A call of a public operation. -/
inductive Call
  | write (argument : Argument)
  | flush
  | registerExternalBackpressureEvents (count : Option ℤ)
  | persistNativeTerminalArtifact (artifact : NativeArtifact)
  | prepareClose
  | publishClose (validatePostBinding : Except Error Unit)
  | abort (reason : Option String)

/-- What a call returns. -/
inductive Reply
  | written (accepted : Bool)
  | flushed (counts : List ℕ)
  | done
  | binding (value : NativeBinding)
  | resolved (value : Resolved)

def step (s : Session) : Call → Except Error Reply × Session
  | .write argument => (Reply.written <$> write clock argument) s
  | .flush => (Reply.flushed <$> flush clock) s
  | .registerExternalBackpressureEvents count =>
    ((fun _ => Reply.done) <$> registerExternalBackpressureEvents clock count) s
  | .persistNativeTerminalArtifact artifact =>
    (Reply.binding <$> persistNativeTerminalArtifact hash clock artifact) s
  | .prepareClose => (Reply.resolved <$> prepareClose hash clock) s
  | .publishClose validatePostBinding =>
    (Reply.resolved <$> publishClose hash validatePostBinding) s
  | .abort reason => ((fun _ => Reply.done) <$> abort clock reason) s

end Session

end Telemetry

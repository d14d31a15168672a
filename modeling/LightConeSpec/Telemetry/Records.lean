import Mathlib.Data.Rat.Defs
import LightConeSpec.Telemetry.Names

/-!
# Evidence records and files

The rows of the five tables with the fields that the writer reads, the checks of
`_validate_row`, and the files that the writer makes.

Records are typed, so a required field is never `None`; `nonFinite` names the
fields that hold a float which is not finite, and `unstorable` those with another value
that no cell of their Arrow column holds: a text with a lone surrogate, a value of
another type, or an int of a field that is left out here and needs more than 64 bits.
-/

namespace Telemetry

open Python

/-! ## Records -/

def outputHashFormat : String := "sglang-output-token-ids-json-v1"

/-- A binding with the fields `_NATIVE_TERMINAL_BINDING_FIELDS`. -/
structure NativeBinding where
  path : String
  size : ℤ
  rawSha256 : String
  terminalSha256 : String
  trustedAttesterPolicySha256 : String
deriving DecidableEq

/-- `RunRecord`; `industrialHashes` are the fields `_INDUSTRIAL_HASH_FIELDS`, and
`sessionHashes` those of the session plan, its opening and the reset. -/
structure RunRecord where
  runId : String
  method : String
  status : String
  completedNs : Option ℤ
  industrialHashes : List (Option String)
  rankConfigSha256 : Option String
  patchedSglangTree : Option String
  tensorParallelSize : Option ℤ
  dataParallelSize : Option ℤ
  worldSize : Option ℤ
  rank : Option ℤ
  expectedRequestRows : Option ℤ
  expectedRoundRows : Option ℤ
  expectedUpdateRows : Option ℤ
  expectedPerformanceRows : Option ℤ
  workloadContract : Option String
  experimentBudgetSha256 : Option String
  preflightAttestationSha256 : Option String
  sessionHashes : List (Option String)
  sessionEpoch : Option ℤ
  nativeTerminalArtifactPath : Option String
  nativeTerminalArtifactSize : Option ℤ
  nativeTerminalRawSha256 : Option String
  nativeTerminalSha256 : Option String
  trustedAttesterPolicySha256 : Option String
  nonFinite : List String
  unstorable : List String
deriving DecidableEq

structure RequestRecord where
  runId : String
  requestId : String
  method : String
  outputTokens : ℤ
  outputHashFormat : Option String
  outputSha256 : Option String
  outputTokenIds : Option String
  outputTokenIdsSha256 : Option String
  tokenTimingCoverage : Option ℚ
  coalescedIntervals : Option ℤ
  retryAttempt : Option ℤ
  nonFinite : List String
  unstorable : List String
deriving DecidableEq

structure RoundRecord where
  runId : String
  requestId : String
  roundIndex : ℤ
  requestEpoch : Option ℤ
  nonFinite : List String
  unstorable : List String
deriving DecidableEq

structure UpdateRecord where
  runId : String
  cohortSha256 : String
  updateIndex : ℤ
  requestEpoch : Option ℤ
  nonFinite : List String
  unstorable : List String
deriving DecidableEq

structure PerformanceRecord where
  runId : String
  promptId : String
  method : String
  repetitionBlock : ℤ
  region : String
  concurrency : ℤ
  generatedBucketStart : ℤ
  generatedBucketEnd : ℤ
  nonFinite : List String
  unstorable : List String
deriving DecidableEq

inductive EvidenceRecord
  | run (row : RunRecord)
  | request (row : RequestRecord)
  | round (row : RoundRecord)
  | update (row : UpdateRecord)
  | performance (row : PerformanceRecord)
deriving DecidableEq

namespace EvidenceRecord

/-- `_TABLE[type(record)]`. -/
def table : EvidenceRecord → Table
  | .run _ => .run
  | .request _ => .request
  | .round _ => .round
  | .update _ => .update
  | .performance _ => .performance

def runId : EvidenceRecord → String
  | .run row => row.runId
  | .request row => row.runId
  | .round row => row.runId
  | .update row => row.runId
  | .performance row => row.runId

/-- `row["method"]`, of the tables that have it. -/
def method : EvidenceRecord → Option String
  | .run row => some row.method
  | .request row => some row.method
  | .performance row => some row.method
  | _ => none

def nonFinite : EvidenceRecord → List String
  | .run row => row.nonFinite
  | .request row => row.nonFinite
  | .round row => row.nonFinite
  | .update row => row.nonFinite
  | .performance row => row.nonFinite

def unstorable : EvidenceRecord → List String
  | .run row => row.unstorable
  | .request row => row.unstorable
  | .round row => row.unstorable
  | .update row => row.unstorable
  | .performance row => row.unstorable

end EvidenceRecord

/-- A value of an identity. -/
inductive Scalar
  | text (value : String)
  | number (value : ℤ)
  | none
deriving DecidableEq

def Scalar.ofOption : Option ℤ → Scalar
  | some value => .number value
  | Option.none => .none

/-- `EvidenceWriter._identity`; as JSON these are texts, numbers and `null`, so that
distinct identities have distinct keys. -/
def EvidenceRecord.identity : EvidenceRecord → List Scalar
  | .run _ => [.text "run"]
  | .request row => [.text row.requestId]
  | .round row => [.ofOption row.requestEpoch, .text row.requestId, .number row.roundIndex]
  | .update row => [.ofOption row.requestEpoch, .text row.cohortSha256, .number row.updateIndex]
  | .performance row =>
    [.text row.promptId, .text row.method, .number row.repetitionBlock, .text row.region,
      .number row.concurrency, .number row.generatedBucketStart, .number row.generatedBucketEnd]

/-! ## `_validate_row` -/

/-- A lowercase hexadecimal text of this length. -/
def isLowerHex (length : ℕ) (value : String) : Bool :=
  value.toList.length == length &&
    value.toList.all fun c => ('0' ≤ c && c ≤ '9') || ('a' ≤ c && c ≤ 'f')

/-- `isinstance(value, str) and _LOWER_SHA256.fullmatch(value)`. -/
def isOptionalSha256 : Option String → Bool
  | some value => isLowerHex 64 value
  | none => false

def industrialHashFields : List String :=
  ["industrial_cell_id", "runtime_sha256", "split_sha256", "corpus_sha256",
    "arrival_trace_sha256", "request_ids_sha256", "sampling_profile_sha256", "model_lock_sha256",
    "run_nonce_sha256", "topology_sha256"]

def industrialWorkloadContracts : List String :=
  ["industrial_target_only", "industrial_static", "industrial_adapted",
    "industrial_preflight_target_only", "industrial_preflight_static"]

def budgetObservedWorkloadContracts : List String :=
  ["industrial_target_only", "industrial_static", "industrial_adapted"]

def evidenceMethods : List String :=
  ["target_only", "static", "tts", "l0", "onlinespec_ogd", "onlinespec_opt", "onlinespec_ens"]

/-- `_expected_tables`, in the order of `_TABLE`. -/
def expectedTables (method : String) (workloadContract : Option String) : List Table :=
  match workloadContract with
  | some contract =>
    if contract ∉ industrialWorkloadContracts then []
    else if contract ∈ ["industrial_target_only", "industrial_preflight_target_only",
        "industrial_static", "industrial_preflight_static"] then [.run, .request, .performance]
    else Table.all
  | none =>
    if method ∈ ["target_only", "static"] then [.run, .request, .performance] else Table.all

namespace RunRecord

variable (row : RunRecord)

/-- The values of `_NATIVE_TERMINAL_RUN_FIELDS` are present. -/
def nativePresent : List Bool :=
  [row.nativeTerminalArtifactPath.isSome, row.nativeTerminalArtifactSize.isSome,
    row.nativeTerminalRawSha256.isSome, row.nativeTerminalSha256.isSome,
    row.trustedAttesterPolicySha256.isSome]

/-- The `industrial_values` are present. -/
def industrialPresent : List Bool :=
  row.industrialHashes.map Option.isSome ++
    [row.rankConfigSha256.isSome, row.patchedSglangTree.isSome, row.tensorParallelSize.isSome,
      row.dataParallelSize.isSome, row.worldSize.isSome, row.rank.isSome,
      row.expectedRequestRows.isSome, row.expectedRoundRows.isSome, row.expectedUpdateRows.isSome,
      row.expectedPerformanceRows.isSome, row.experimentBudgetSha256.isSome,
      row.preflightAttestationSha256.isSome]
    ++ row.sessionHashes.map Option.isSome ++ [row.sessionEpoch.isSome] ++ row.nativePresent

/-- The run's native terminal binding, when it is complete. -/
def nativeBinding : Option NativeBinding := do
  let path ← row.nativeTerminalArtifactPath
  let size ← row.nativeTerminalArtifactSize
  let rawSha256 ← row.nativeTerminalRawSha256
  let terminalSha256 ← row.nativeTerminalSha256
  let policySha256 ← row.trustedAttesterPolicySha256
  pure ⟨path, size, rawSha256, terminalSha256, policySha256⟩

/-- The counters that must be integers that are not negative. -/
def counters : List (Option ℤ) :=
  [row.tensorParallelSize, row.dataParallelSize, row.worldSize, row.rank, row.expectedRequestRows,
    row.expectedRoundRows, row.expectedUpdateRows, row.expectedPerformanceRows]

/-- A native artifact path of a serving run. -/
def nativePathValid (path : String) : Bool :=
  isSafeComponent path && (".native-terminal.json".toList).isSuffixOf path.toList

def validateSession : Except Error Unit :=
  if row.sessionHashes.all Option.isNone ∧ row.sessionEpoch = none then pure ()
  else do
    require (row.sessionHashes.all Option.isSome ∧ row.sessionEpoch.isSome)
      (valueError "industrial session identity must be complete")
    require (row.sessionHashes.all isOptionalSha256 ∧ 0 ≤ row.sessionEpoch.getD 0)
      (valueError "industrial session identity is invalid")

def validateNative (contract : String) : Except Error Unit :=
  if contract ∈ budgetObservedWorkloadContracts then
    match row.nativeBinding with
    | none =>
      .error (valueError "serving runs require a complete native terminal artifact binding")
    | some binding =>
      require (nativePathValid binding.path ∧ 1 ≤ binding.size ∧ isLowerHex 64 binding.rawSha256 ∧
          isLowerHex 64 binding.terminalSha256 ∧
          isLowerHex 64 binding.trustedAttesterPolicySha256)
        (valueError "native terminal artifact binding is invalid")
  else
    require (row.nativePresent.all fun present => !present)
      (valueError "only serving runs may bind a native terminal artifact")

def validateMethod (contract : String) : Except Error Unit :=
  if row.method = "target_only" then
    require (contract ∈ ["industrial_target_only", "industrial_preflight_target_only"])
      (valueError "industrial workload contract disagrees with method")
  else if row.method = "static" then
    require (contract ∈ ["industrial_static", "industrial_preflight_static"])
      (valueError "industrial workload contract disagrees with method")
  else
    require (contract = "industrial_adapted")
      (valueError "adapted methods require industrial_adapted")

def isPreflight (contract : String) : Prop :=
  contract ∈ ["industrial_preflight_target_only", "industrial_preflight_static"]

instance (contract : String) : Decidable (isPreflight contract) :=
  inferInstanceAs (Decidable (contract ∈ _))

/-- The rank configuration and the attestation of a preflight run. -/
def validatePreflight (contract : String) : Except Error Unit :=
  if isPreflight contract then do
    require (row.rankConfigSha256 = none)
      (valueError "preflight runs cannot claim a serving RunConfig")
  else
    require (isOptionalSha256 row.rankConfigSha256)
      (valueError "serving runs require a lowercase rank-config SHA-256")

def validateAttestation (contract : String) : Except Error Unit :=
  if isPreflight contract then
    require (isOptionalSha256 row.preflightAttestationSha256)
      (valueError "preflight runs require a bound attestation")
  else
    require (row.preflightAttestationSha256 = none)
      (valueError "only preflight runs may bind a preflight attestation")

/-- The part of `_validate_row` that is about a run with a workload contract. -/
def validateIndustrial (contract : String) : Except Error Unit := do
  require (contract ∈ industrialWorkloadContracts) (valueError "unknown industrial workload contract")
  row.validateMethod contract
  forEach (fun (name, value) => require (isOptionalSha256 value)
      (valueError ("run." ++ name ++ " must be a lowercase SHA-256")))
    (industrialHashFields.zip row.industrialHashes)
  row.validatePreflight contract
  require (row.patchedSglangTree.any (isLowerHex 40))
    (valueError "run.patched_sglang_tree must be a lowercase Git tree")
  require (row.counters.all fun counter => counter.any fun value => decide (0 ≤ value))
    (valueError "industrial run topology and row counts must be integers")
  require (1 ≤ row.tensorParallelSize.getD 0 ∧ 1 ≤ row.dataParallelSize.getD 0 ∧
      1 ≤ row.worldSize.getD 0 ∧ row.rank.getD 0 < row.worldSize.getD 0 ∧
      1 ≤ row.expectedRequestRows.getD 0 ∧ 1 ≤ row.expectedPerformanceRows.getD 0)
    (valueError "industrial run topology or required row counts are invalid")
  row.validateAttestation contract
  require (row.experimentBudgetSha256 = none ∨ isOptionalSha256 row.experimentBudgetSha256)
    (valueError "run.experiment_budget_sha256 must be a lowercase SHA-256")
  row.validateSession
  row.validateNative contract
  let expected := expectedTables row.method (some contract)
  require (.round ∈ expected ↔ 0 < row.expectedRoundRows.getD 0)
    (valueError "industrial round coverage disagrees with workload contract")
  require (.update ∈ expected ↔ 0 < row.expectedUpdateRows.getD 0)
    (valueError "industrial update coverage disagrees with workload contract")

def validate : Except Error Unit :=
  match row.workloadContract with
  | none =>
    require (row.industrialPresent.all fun present => !present)
      (valueError "industrial run identities require an explicit workload contract")
  | some contract => row.validateIndustrial contract

end RunRecord

def RequestRecord.validate (row : RequestRecord) : Except Error Unit := do
  require (row.tokenTimingCoverage.all fun coverage => decide (0 ≤ coverage ∧ coverage ≤ 1))
    (valueError "request token_timing_coverage must be within [0, 1]")
  require (row.coalescedIntervals.all fun value => decide (0 ≤ value))
    (valueError "request coalesced_intervals cannot be negative")
  require (row.retryAttempt.all fun value => decide (0 ≤ value))
    (valueError "request retry_attempt cannot be negative")

/-- The checks of `_validate_row` that depend on the table. -/
def EvidenceRecord.validateTable : EvidenceRecord → Except Error Unit
  | .run row => row.validate
  | .request row => row.validate
  | _ => pure ()

/-- `_validate_row`. -/
def EvidenceRecord.validate (record : EvidenceRecord) : Except Error Unit :=
  match record.nonFinite with
  | name :: _ => .error (valueError (record.table.name ++ "." ++ name
      ++ " must be finite when measured"))
  | [] => record.validateTable

/-! ## Cells of a column -/

/-- The ints of a record; their columns are `pa.int64`. -/
def EvidenceRecord.integers : EvidenceRecord → List (Option ℤ)
  | .run row =>
    row.completedNs :: row.sessionEpoch :: row.nativeTerminalArtifactSize :: row.counters
  | .request row => [row.outputTokens, row.coalescedIntervals, row.retryAttempt]
  | .round row => [row.roundIndex, row.requestEpoch]
  | .update row => [row.updateIndex, row.requestEpoch]
  | .performance row =>
    [row.repetitionBlock, row.concurrency, row.generatedBucketStart, row.generatedBucketEnd]

/-- The schema of its table can store the record. -/
def EvidenceRecord.fits (record : EvidenceRecord) : Bool :=
  record.unstorable.isEmpty && record.integers.all fun value =>
    value.all fun value => decide (-0x8000000000000000 ≤ value ∧ value < 0x8000000000000000)

/-! ## Policies and counters -/

/-- `EvidenceWriterPolicy`; claimable evidence has the overflow policy
`backpressure`. -/
structure EvidenceWriterPolicy where
  asyncQueueRows : ℕ
  asyncBatchRows : ℕ
  writerQueueRows : ℕ
  parquetRowGroupRows : ℕ
  checkpointIntervalMs : ℕ
deriving DecidableEq

inductive OverflowPolicy
  | backpressure
  | drop
deriving DecidableEq

structure Counters where
  backpressureEvents : ℕ
  backpressuredRows : ℕ
  droppedRows : ℕ
  droppedByTable : List (Table × ℕ)
  flushes : ℕ
  fsyncTimeNs : ℤ
  maxObservedQueuedRows : ℕ
deriving DecidableEq

inductive WriterState
  | opened
  | publishing
  | prepared
  | aborted
  | complete
deriving DecidableEq

/-- `EvidenceWriter._checkpoint_value`; the digest of the policy is that of its
value. -/
structure Checkpoint where
  runId : String
  rank : ℕ
  processId : ℕ
  attemptId : String
  stem : String
  state : WriterState
  durableRows : List (Table × ℕ)
  walRowGroups : List (Table × ℕ)
  queuedRows : ℕ
  counters : Counters
  nativeTerminalArtifact : Option NativeBinding
  writerPolicy : Option EvidenceWriterPolicy
deriving DecidableEq

/-! ## Files -/

/-- A Parquet file: its rows by row group, and the columns it has of those that the
current schema of its table has. -/
structure Shard where
  table : Table
  columns : List String
  rowGroups : List (List EvidenceRecord)
deriving DecidableEq

def Shard.rows (shard : Shard) : List EvidenceRecord := shard.rowGroups.flatten

/-- The entry of a table in a receipt. -/
structure FileEntry where
  name : String
  sha256 : String
  size : ℕ
  rows : ℕ
  rowGroups : ℕ
  schemaSha256 : String
deriving DecidableEq

structure CheckpointBinding where
  name : String
  sha256 : String
  size : ℕ
deriving DecidableEq

/-- The binding of a budget observation in a terminal receipt. -/
structure ObservationBinding where
  directory : String
  receiptSha256 : String
  receiptSize : ℕ
  sidecarSha256 : String
  sidecarSize : ℕ
  budgetObservationSha256 : String
deriving DecidableEq

/-- What a terminal receipt adds to the prepared one. -/
structure PostBinding where
  preparedReceiptName : String
  preparedReceiptSha256 : String
  preparedReceiptSize : ℕ
  budgetObservation : ObservationBinding
deriving DecidableEq

/-- A completion receipt, prepared or terminal. -/
structure Receipt where
  schemaVersion : ℕ
  runId : String
  rank : ℕ
  processId : ℕ
  attemptId : String
  stem : Option String
  files : List (Table × FileEntry)
  checkpoint : Option CheckpointBinding
  coverage : Option (List (Table × ℕ × ℕ))
  counters : Option Counters
  writerPolicy : Option EvidenceWriterPolicy
  writerPolicySha256 : Option String
  experimentBudgetSha256 : Option String
  nativeTerminalArtifact : Option NativeBinding
  postBinding : Option PostBinding
deriving DecidableEq

/-- What a native terminal artifact says. `exact` is that it has the fields
`_NATIVE_TERMINAL_ARTIFACT_FIELDS`, `strict` that it can be written as JSON, and
`rest` stands for its other fields. -/
structure NativeArtifact where
  schemaVersion : ℤ
  artifactKind : String
  runId : String
  rank : ℤ
  terminalSha256 : Option String
  trustedAttesterPolicySha256 : Option String
  exact : Bool
  strict : Bool
  rest : String
deriving DecidableEq

structure ObservedBudget where
  gpuCount : ℤ
  measuredGpuMs : Option ℤ
  registeredMs : List (String × ℤ)
deriving DecidableEq

structure BudgetObservation where
  schemaVersion : ℤ
  artifactKind : String
  experimentBudgetSha256 : String
  budgetObservationSha256 : String
  budget : ObservedBudget
  observedComponentMs : List (String × ℤ)
  measuredGpuMs : ℤ
  fixedInstanceBilledGpuMs : ℤ
  terminalEvidenceSha256 : String
  observedWallMs : ℤ
  registeredWallDeltaMs : ℤ
  registeredGpuDeltaMs : ℤ
  registeredBilledDeltaMs : ℤ
  gpuMeasurementSemantics : String
  fixedInstanceBillingSemantics : String
deriving DecidableEq

/-- The files of an evidence directory. A receipt may be written in another way than
the canonical one, and reading any other file as JSON or Parquet raises `error`. -/
inductive File
  | parquet (shard : Shard)
  | checkpoint (value : Checkpoint)
  | aborted (value : Checkpoint) (reason : Option String)
  | receipt (value : Receipt) (canonical : Bool)
  | native (value : NativeArtifact)
  | observation (value : BudgetObservation)
  | sidecar (sha256 : String)
  | index
  | publishLock
  | other (bytes : String) (error : Error)
deriving DecidableEq

/-- An evidence directory; what stands in a directory inside it has a name with a
slash. -/
abbrev Directory := Dict String File

/-- The digests of files and values, and the sizes of files. -/
structure Hashing where
  file : File → String
  size : File → ℕ
  policy : EvidenceWriterPolicy → String
  schema : Shard → String
  budget : ObservedBudget → String
  observation : BudgetObservation → String
  text : String → String

end Telemetry

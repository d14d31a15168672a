import Mathlib.Algebra.Ring.Int.Defs
import LightConeSpec.Telemetry.Records

/-!
# Completed evidence

A completion receipt binds the shards and the checkpoint of one attempt by digest.
`loadReceipt` checks everything that a receipt binds, `loadCompletedEvidence` finds
the receipts of a run and a rank by their names, and `publishPreparedCompletion`
publishes the terminal receipt over a prepared one.

Digests and sizes are parameters (`Hashing`).
-/

namespace Telemetry

open Python

/-! ## Names of receipts -/

def preparedName (runId : String) (rank : ℕ) : String := runStem runId rank ++ ".prepared.json"

def completeName (runId : String) (rank : ℕ) : String := runStem runId rank ++ ".complete.json"

def lockName (name : String) : String := "." ++ name ++ ".publish.lock"

def observationDirectory (runId : String) (rank : ℕ) : String :=
  runStem runId rank ++ ".budget-observation"

def observationName (runId : String) (rank : ℕ) : String :=
  observationDirectory runId rank ++ "/observation.json"

def sidecarName (runId : String) (rank : ℕ) : String :=
  observationDirectory runId rank ++ "/observation.json.sha256"

/-- `Path(name).name == name`. -/
def isPlainName (name : String) : Bool := name ≠ "" && name ≠ "." && '/' ∉ name.toList

def boundNames (receipt : Receipt) : List String :=
  (receipt.checkpoint.map CheckpointBinding.name).toList
    ++ receipt.files.map (fun row => row.2.name)
    ++ (receipt.nativeTerminalArtifact.map NativeBinding.path).toList

section

variable (hash : Hashing) (files : Directory)

/-! ## Reading files -/

def readReceipt (name : String) : Except Error (Receipt × Bool) :=
  match files.get? name with
  | some (.receipt value canonical) => .ok (value, canonical)
  | some (.other _ error) => .error error
  | _ => .error (runtimeError ("invalid completion receipt " ++ name))

/-- A Parquet file of this digest and size. -/
def readShard (receiptName name sha256 : String) (size : ℕ) : Except Error Shard :=
  match files.get? name with
  | none => .error (runtimeError ("completion receipt does not bind " ++ name))
  | some file => do
      require (hash.size file = size ∧ hash.file file = sha256)
        (runtimeError ("completion receipt does not bind " ++ name))
      match file with
      | .parquet shard => pure shard
      | .other _ error => .error error
      | _ => .error (runtimeError ("invalid completed evidence table " ++ receiptName))

/-- `_validate_native_terminal_artifact_binding`. -/
def validateNativeBinding (binding : NativeBinding) (runId : String) (rank : ℕ)
    (expectedStem : String) : Except Error Unit := do
  require (isPlainName binding.path ∧ isSafeComponent binding.path ∧
      binding.path = fileName expectedStem .nativeTerminal ∧ 1 ≤ binding.size ∧
      isLowerHex 64 binding.rawSha256 ∧ isLowerHex 64 binding.terminalSha256 ∧
      isLowerHex 64 binding.trustedAttesterPolicySha256)
    (runtimeError "native terminal artifact binding is malformed")
  match files.get? binding.path with
  | none => .error (runtimeError "native terminal artifact path is not a regular file")
  | some file =>
    match file with
    | .native value =>
      require ((hash.size file : ℤ) = binding.size ∧ hash.file file = binding.rawSha256 ∧
          value.exact ∧
          (value.schemaVersion, value.artifactKind) ∈
            [((1 : ℤ), "native_terminal_evidence_bundle_v1"),
              (2, "native_terminal_evidence_bundle_v2")] ∧
          value.runId = runId ∧ value.rank = rank ∧
          value.terminalSha256 = some binding.terminalSha256 ∧
          value.trustedAttesterPolicySha256 = some binding.trustedAttesterPolicySha256)
        (runtimeError "native terminal artifact content binding is invalid")
    | .other _ error => .error error
    | _ => .error (runtimeError "native terminal artifact content binding is invalid")

/-! ## Output tokens -/

/-- `json.dumps(token_ids, separators=(",", ":"))`. -/
def tokenIdsText (tokenIds : List ℕ) : String :=
  "[" ++ ",".intercalate (tokenIds.map toString) ++ "]"

def parseTokenIds (text : String) : Option (List ℕ) :=
  let inner := ((text.toList.drop 1).dropLast)
  let parts := if inner = [] then [] else inner.splitOn ','
  let tokenIds := parts.map fun part =>
    part.foldl (fun value c => 10 * value + (c.toNat - '0'.toNat)) 0
  if tokenIdsText tokenIds = text then some tokenIds else none

/-- `_validate_output_token_identity`. -/
def validateOutputTokens (row : RequestRecord) : Except Error Unit := do
  require (row.outputHashFormat = some outputHashFormat)
    (runtimeError "request evidence has a wrong output hash format")
  match row.outputTokenIds with
  | none => .error (typeError "request evidence lacks ordered output token IDs")
  | some serialized =>
    match parseTokenIds serialized with
    | none => .error (runtimeError "request evidence has non-canonical output token IDs")
    | some tokenIds => do
        require (row.outputTokens = tokenIds.length)
          (runtimeError "request evidence token IDs do not cover its output")
        require (row.outputTokenIdsSha256 = some (hash.text serialized) ∧
            row.outputSha256 = some (hash.text serialized))
          (runtimeError "request evidence token-ID digest is inconsistent")

def EvidenceRecord.asRequest : EvidenceRecord → Option RequestRecord
  | .request row => some row
  | _ => none

def EvidenceRecord.asRun : EvidenceRecord → Option RunRecord
  | .run row => some row
  | _ => none

/-- The columns of `_NATIVE_TERMINAL_RUN_FIELDS`. -/
def nativeColumns : List String :=
  ["native_terminal_artifact_path", "native_terminal_artifact_size",
    "native_terminal_raw_sha256", "native_terminal_sha256", "trusted_attester_policy_sha256"]

def readIdentityColumns (name : String) (shard : Shard) (runId method : String) :
    Except Error Unit := do
  require (shard.rows ≠ []) (runtimeError ("empty completed evidence table " ++ name))
  require (∀ row ∈ shard.rows, row.runId = runId)
    (runtimeError ("cross-run row in completed evidence " ++ name))
  require (∀ row ∈ shard.rows, row.method = none ∨ row.method = some method)
    (runtimeError ("cross-method row in completed evidence " ++ name))
  require (∀ row ∈ shard.rows, row.asRun.all fun run => run.status = "complete")
    (runtimeError ("nonterminal run row in completed evidence " ++ name))
  require (shard.table = .run → shard.rows.length = 1)
    (runtimeError ("completed evidence must contain one run row: " ++ name))

/-! ## `_load_receipt` -/

def runRow (name : String) (shard : Shard) : Except Error RunRecord :=
  match shard.rows.head?.bind EvidenceRecord.asRun with
  | none => .error (runtimeError ("receipt binds invalid run evidence " ++ name))
  | some row =>
    .ok { row with
      workloadContract := if "workload_contract" ∈ shard.columns then row.workloadContract else none
      experimentBudgetSha256 :=
        if "experiment_budget_sha256" ∈ shard.columns then row.experimentBudgetSha256 else none }

/-- The shards of a receipt, checked against their entries. -/
def resolveEntry (name : String) (receipt : Receipt) (row : Table × FileEntry) :
    Except Error (Table × String × Shard) := do
  let (table, entry) := row
  require (isPlainName entry.name ∧ (receipt.schemaVersion = 3 →
      (receipt.stem.getD "" ++ ".").toList <+: entry.name.toList))
    (runtimeError ("unsafe or cross-attempt evidence path in " ++ name))
  let shard ← readShard hash files name entry.name entry.sha256 entry.size
  require (receipt.schemaVersion = 3 → shard.rows.length = entry.rows ∧
      shard.rowGroups.length = entry.rowGroups ∧ hash.schema shard = entry.schemaSha256)
    (runtimeError ("completion receipt has wrong row coverage for " ++ entry.name))
  pure (table, entry.name, shard)

def checkNativeBinding (name : String) (receipt : Receipt) (shard : Shard) (run : RunRecord)
    (runId : String) (rank : ℕ) : Except Error Unit :=
  if nativeColumns.any (· ∈ shard.columns) then
    if run.workloadContract.any (· ∈ budgetObservedWorkloadContracts) then
      match run.nativeBinding with
      | none =>
        .error (runtimeError ("receipt lacks its native terminal artifact binding " ++ name))
      | some binding => do
          require (receipt.nativeTerminalArtifact = some binding)
            (runtimeError ("receipt lacks its native terminal artifact binding " ++ name))
          validateNativeBinding hash files binding runId rank (receipt.stem.getD "")
    else
      require ((run.nativePresent.all fun present => !present) ∧
          receipt.nativeTerminalArtifact = none)
        (runtimeError ("non-serving evidence carries a native terminal binding " ++ name))
  else
    require (receipt.nativeTerminalArtifact = none)
      (runtimeError ("legacy run evidence cannot bind a native terminal artifact " ++ name))

def checkBudget (name : String) (receipt : Receipt) (run : RunRecord) : Except Error Unit :=
  match run.experimentBudgetSha256 with
  | some budget =>
    require (isLowerHex 64 budget ∧ receipt.experimentBudgetSha256 = some budget)
      (runtimeError ("completion receipt has a wrong experiment budget " ++ name))
  | none =>
    require (receipt.experimentBudgetSha256 = none)
      (runtimeError ("completion receipt has an unbound experiment budget " ++ name))

def checkCheckpoint (name : String) (receipt : Receipt) : Except Error Unit :=
  match receipt.checkpoint with
  | none => .error (runtimeError ("receipt lacks a checkpoint binding " ++ name))
  | some binding => do
      require (binding.name = fileName (receipt.stem.getD "") .checkpoint)
        (runtimeError ("receipt has an invalid checkpoint path " ++ name))
      match files.get? binding.name with
      | none => .error (runtimeError ("completion receipt does not bind " ++ binding.name))
      | some file => do
          require (hash.size file = binding.size ∧ hash.file file = binding.sha256)
            (runtimeError ("completion receipt does not bind " ++ binding.name))
          match file with
          | .checkpoint value => do
              require (receipt.writerPolicy.isSome ↔ receipt.writerPolicySha256.isSome)
                (runtimeError ("completion receipt has a partial writer policy " ++ name))
              match receipt.writerPolicy with
              | none =>
                require (value.writerPolicy = none)
                  (runtimeError ("completion checkpoint changes the writer policy " ++ name))
              | some policy =>
                require (receipt.writerPolicySha256 = some (hash.policy policy) ∧
                    value.writerPolicy = some policy)
                  (runtimeError ("completion receipt writer policy binding differs " ++ name))
          | .other _ error => .error error
          | _ => .error (runtimeError ("completion checkpoint is not an object " ++ binding.name))

/-- The checks on a receipt of schema 3 between its shards and their columns. -/
def checkSchema3 (name : String) (receipt : Receipt) (shard : Shard) (run : RunRecord)
    (runId : String) (rank : ℕ) (expected : List Table) (shards : List (Table × String × Shard)) :
    Except Error Unit := do
  checkNativeBinding hash files name receipt shard run runId rank
  checkBudget name receipt run
  require (receipt.coverage.any fun coverage =>
      decide (∀ table, table ∈ coverage.map Prod.fst ↔ table ∈ expected))
    (runtimeError ("receipt lacks exact table coverage " ++ name))
  require receipt.counters.isSome (runtimeError ("receipt lacks evidence counters " ++ name))
  checkCheckpoint hash files name receipt
  require (receipt.counters.all fun counters =>
      expected.all fun table => decide ((table, 0) ∈ counters.droppedByTable))
    (runtimeError ("completed receipt reports evidence loss " ++ name))
  require (∀ row ∈ shards, (row.1, row.2.2.rows.length, row.2.2.rowGroups.length)
      ∈ receipt.coverage.getD [])
    (runtimeError "receipt has inconsistent coverage")

/-- The output identities of the requests of a receipt of schema 3. -/
def checkRequests (name : String) (run : RunRecord) (shard : Shard) : Except Error Unit := do
  require (shard.rows ≠ []) (runtimeError ("completed request evidence is empty " ++ name))
  if run.workloadContract.any (· ∈ industrialWorkloadContracts) then
    forEach (validateOutputTokens hash) (shard.rows.filterMap EvidenceRecord.asRequest)
  else
    require (∀ row ∈ shard.rows.filterMap EvidenceRecord.asRequest,
        row.outputHashFormat = some outputHashFormat)
      (runtimeError ("completed request evidence has a wrong hash format " ++ name))

def shardOf (name : String) (shards : List (Table × String × Shard)) (table : Table) :
    Except Error Shard :=
  match shards.find? fun row => row.1 = table with
  | some row => .ok row.2.2
  | none => .error (runtimeError ("incomplete completion receipt " ++ name))

/-- What a receipt binds: the names of its shards by table. -/
abbrev Resolved := List (Table × String)

def loadReceipt (name : String) (runId : String) (rank : ℕ) : Except Error Resolved := do
  let (receipt, _) ← readReceipt files name
  require ((receipt.schemaVersion = 2 ∨ receipt.schemaVersion = 3) ∧ receipt.runId = runId ∧
      receipt.rank = rank)
    (runtimeError ("invalid completion receipt " ++ name))
  require (.run ∈ receipt.files.map Prod.fst ∧ .performance ∈ receipt.files.map Prod.fst)
    (runtimeError ("incomplete completion receipt " ++ name))
  require (receipt.schemaVersion = 3 → receipt.stem.any isSafeComponent)
    (runtimeError ("invalid attempt identity in " ++ name))
  let shards ← collect (receipt.files.map (resolveEntry hash files name receipt))
  require (shards.map fun row => row.2.1).Nodup
    (runtimeError ("duplicate evidence shard in " ++ name))
  let shard ← shardOf name shards .run
  require (nativeColumns.any (· ∈ shard.columns) → nativeColumns.all (· ∈ shard.columns))
    (runtimeError ("run evidence has a partial native binding " ++ name))
  let run ← runRow name shard
  require (receipt.schemaVersion = 2 →
      ¬ run.workloadContract.any (· ∈ industrialWorkloadContracts) ∧
        run.experimentBudgetSha256 = none ∧ receipt.experimentBudgetSha256 = none)
    (runtimeError ("schema-v2 receipt cannot wrap schema-v3 industrial evidence " ++ name))
  let expected :=
    if run.method ∈ evidenceMethods then expectedTables run.method run.workloadContract else []
  require (∀ table, table ∈ shards.map Prod.fst ↔ table ∈ expected)
    (runtimeError ("receipt binds invalid run evidence " ++ name))
  if receipt.schemaVersion = 3 then do
    checkSchema3 hash files name receipt shard run runId rank expected shards
    forEach (fun row => readIdentityColumns row.2.1 row.2.2 runId run.method) shards
    require ("workload_contract" ∈ shard.columns)
      (runtimeError ("completed run evidence lacks its workload contract " ++ name))
    let requests ← shardOf name shards .request
    checkRequests hash name run requests
    pure (shards.map fun row => (row.1, row.2.1))
  else do
    forEach (fun row => readIdentityColumns row.2.1 row.2.2 runId run.method) shards
    pure (shards.map fun row => (row.1, row.2.1))

/-! ## Budget observations -/

def budgetObservationComponents : List String :=
  ["startup_model_load", "compile_jit_graph_prewarm", "excluded_warmup", "scored_arrival", "drain",
    "reset_finalization", "evidence_flush_shutdown", "soak", "failure_injection", "retry",
    "profiler", "download_compile_reservation"]

def registeredMilliseconds (budget : ObservedBudget) (name : String) : Except Error ℤ :=
  match budget.registeredMs.lookup name with
  | none =>
    .error (runtimeError "budget observation contains a malformed registered budget")
  | some registered => do
      require (0 ≤ registered)
        (runtimeError "budget observation contains a negative registered budget")
      pure registered

def checkObservation (artifact : BudgetObservation) : Except Error Unit := do
  let budget := artifact.budget
  require (artifact.observedComponentMs.map Prod.fst = budgetObservationComponents ∧
      ∀ row ∈ artifact.observedComponentMs, 0 ≤ row.2)
    (runtimeError "industrial budget observation has malformed components")
  require (1 ≤ budget.gpuCount)
    (runtimeError "industrial budget observation has a malformed GPU count")
  require (budget.measuredGpuMs = none)
    (runtimeError "industrial observation does not bind a pre-run budget")
  let observedWallMs := (artifact.observedComponentMs.map Prod.snd).sum
  let registered ← collect (budgetObservationComponents.map (registeredMilliseconds budget))
  let registeredBilledMs ← registeredMilliseconds budget "fixed_instance_billed_gpu_ms"
  let registeredWallMs := registered.sum
  require (0 < registeredWallMs ∧ registeredBilledMs % registeredWallMs = 0)
    (runtimeError "industrial budget does not identify its fixed-instance billing size")
  let fixedInstanceGpuCount := registeredBilledMs / registeredWallMs
  require (0 ≤ artifact.measuredGpuMs ∧
      artifact.measuredGpuMs ≤ artifact.fixedInstanceBilledGpuMs ∧
      budget.gpuCount ≤ fixedInstanceGpuCount ∧
      artifact.measuredGpuMs = observedWallMs * budget.gpuCount ∧
      artifact.fixedInstanceBilledGpuMs = observedWallMs * fixedInstanceGpuCount ∧
      artifact.observedWallMs = observedWallMs ∧
      artifact.registeredWallDeltaMs = observedWallMs - registeredWallMs ∧
      artifact.registeredGpuDeltaMs = artifact.measuredGpuMs - registeredWallMs * budget.gpuCount ∧
      artifact.registeredBilledDeltaMs = artifact.fixedInstanceBilledGpuMs - registeredBilledMs)
    (runtimeError "industrial budget observation accounting is inconsistent")

/-- `_validate_budget_observation_binding`. -/
def validateObservation (runId : String) (rank : ℕ)
    (experimentBudgetSha256 terminalEvidenceSha256 : String) : Except Error ObservationBinding := do
  require (isLowerHex 64 experimentBudgetSha256)
    (runtimeError "industrial evidence lacks its ExperimentBudget binding")
  match files.get? (observationName runId rank), files.get? (sidecarName runId rank) with
  | some receipt, some sidecar =>
    match receipt with
    | .observation artifact => do
        require (artifact.schemaVersion = 1 ∧
            artifact.artifactKind = "industrial_budget_observation_receipt_v1" ∧
            artifact.gpuMeasurementSemantics = "exclusive_reserved_gang_wall_ms_x_gpu_count" ∧
            artifact.fixedInstanceBillingSemantics = "whole_inventory_wall_clock_v1" ∧
            isLowerHex 64 artifact.experimentBudgetSha256 ∧
            isLowerHex 64 artifact.budgetObservationSha256 ∧
            isLowerHex 64 artifact.terminalEvidenceSha256)
          (runtimeError "industrial budget observation has malformed identities")
        require (artifact.experimentBudgetSha256 = experimentBudgetSha256 ∧
            artifact.terminalEvidenceSha256 = terminalEvidenceSha256)
          (runtimeError "industrial budget observation has the wrong content binding")
        require (hash.budget artifact.budget = experimentBudgetSha256)
          (runtimeError "industrial budget observation has a foreign budget")
        checkObservation artifact
        require (artifact.budgetObservationSha256 = hash.observation artifact ∧
            sidecar = .sidecar (hash.observation artifact))
          (runtimeError "budget observation content binding is invalid")
        pure {
          directory := observationDirectory runId rank
          receiptSha256 := hash.file receipt
          receiptSize := hash.size receipt
          sidecarSha256 := hash.file sidecar
          sidecarSize := hash.size sidecar
          budgetObservationSha256 := hash.observation artifact }
    | .other _ error => .error error
    | _ => .error (runtimeError "industrial budget observation has the wrong schema")
  | _, _ => .error (runtimeError "industrial evidence requires a durable budget observation")

/-! ## Loading and publishing -/

def runCompletionBinding (resolved : Resolved) : Except Error (Option String × Option String) :=
  match (resolved.lookup .run).bind files.get? with
  | some (.parquet shard) =>
    match shard.rows with
    | [.run row] => do
        require ("workload_contract" ∈ shard.columns ∧
            "experiment_budget_sha256" ∈ shard.columns)
          (runtimeError "completed evidence lacks its completion binding")
        pure (row.workloadContract, row.experimentBudgetSha256)
    | _ => .error (runtimeError "completed evidence has invalid run coverage")
  | _ => .error (runtimeError "completed evidence lacks its completion binding")

/-- `_validate_industrial_terminal_binding`. -/
def validateTerminalBinding (runId : String) (rank : ℕ) (terminal : Receipt) (resolved : Resolved)
    (experimentBudgetSha256 : String) : Except Error Unit :=
  match terminal.postBinding with
  | none => .error (runtimeError "industrial terminal receipt lacks its exact post-binding")
  | some binding => do
      require (binding.preparedReceiptName = preparedName runId rank ∧
          isLowerHex 64 binding.preparedReceiptSha256 ∧ 1 ≤ binding.preparedReceiptSize)
        (runtimeError "industrial terminal receipt lacks its exact post-binding")
      match files.get? (preparedName runId rank) with
      | none => .error (runtimeError "industrial terminal receipt does not bind its preparation")
      | some prepared => do
          require (hash.size prepared = binding.preparedReceiptSize ∧
              hash.file prepared = binding.preparedReceiptSha256)
            (runtimeError "industrial terminal receipt does not bind its preparation")
          let (receipt, canonical) ← readReceipt files (preparedName runId rank)
          require canonical (runtimeError "industrial prepared receipt is not canonical")
          let preparedResolved ← loadReceipt hash files (preparedName runId rank) runId rank
          require (preparedResolved = resolved)
            (runtimeError "industrial preparation differs from terminal evidence")
          require ({ terminal with postBinding := none } = receipt)
            (runtimeError "industrial terminal envelope changed prepared evidence")
          let expected ← validateObservation hash files runId rank experimentBudgetSha256
            binding.preparedReceiptSha256
          require (binding.budgetObservation = expected)
            (runtimeError "industrial terminal receipt does not bind its observation")

/-- The body of the loop of `load_completed_evidence`. -/
def loadOne (runId : String) (rank : ℕ) (name : String) : Except Error Resolved := do
  let resolved ← loadReceipt hash files name runId rank
  let (receipt, canonical) ← readReceipt files name
  if receipt.schemaVersion = 3 then do
    require canonical (runtimeError "schema-v3 completion receipt is not canonical")
    let (contract, budget) ← runCompletionBinding files resolved
    if contract.any (· ∈ budgetObservedWorkloadContracts) then
      match budget with
      | none => .error (runtimeError "industrial evidence lacks its ExperimentBudget binding")
      | some budget => do
          validateTerminalBinding hash files runId rank receipt resolved budget
          pure resolved
    else pure resolved
  else pure resolved

/-- The receipts of a run and a rank: the canonical one, and those of the legacy
name of an attempt. -/
def receiptNames (runId : String) (rank : ℕ) : List String :=
  (if (files.get? (completeName runId rank)).isSome then [completeName runId rank] else [])
    ++ sortedBy id (glob files (runStem runId rank ++ ".pid") ".complete.json")

def loadCompletedEvidence (runId : String) (rank : ℕ) : Except Error (Option Resolved) := do
  require (isSafeComponent runId) (valueError "run_id must be a safe non-empty path component")
  let completed ← collect ((receiptNames files runId rank).map (loadOne hash files runId rank))
  match completed with
  | [] => pure none
  | [resolved] => pure (some resolved)
  | _ => .error (runtimeError ("multiple completed attempts exist for run " ++ runId))

/-- The lock file of a publication, which stays in the directory. -/
def withLock (name : String) : Directory :=
  if (files.get? (lockName name)).isSome then files else files.set (lockName name) .publishLock

/-- `_publish_receipt_exclusive`. -/
def publishExclusive (name : String) (file : File) (runId : String) : Except Error Unit × Directory :=
  if (files.get? name).isSome then
    (.error (runtimeError ("completed evidence already exists for run " ++ runId)),
      withLock files name)
  else (.ok (), (withLock files name).set name file)

/-- What `publish_prepared_evidence_completion` checks before it publishes, and the
terminal receipt. `validate` and `validatePostBinding` are the callbacks of its caller. -/
def prepareTerminal (runId : String) (rank : ℕ) (expectedReceiptSha256 : Option String)
    (validate : Resolved → Except Error Unit) (validatePostBinding : Except Error Unit) :
    Except Error (Receipt × Resolved × Option String) := do
  require (isSafeComponent runId) (valueError "run_id must be a safe non-empty path component")
  require ((files.get? (completeName runId rank)).isNone)
    (runtimeError ("completed evidence already exists for run " ++ runId))
  match files.get? (preparedName runId rank) with
  | none => .error (runtimeError ("invalid prepared receipt " ++ preparedName runId rank))
  | some prepared => do
      let (receipt, canonical) ← readReceipt files (preparedName runId rank)
      require canonical (runtimeError "prepared evidence receipt is not canonical")
      require (expectedReceiptSha256.all (· = hash.file prepared))
        (runtimeError "prepared evidence receipt has the wrong content binding")
      let resolved ← loadReceipt hash files (preparedName runId rank) runId rank
      validate resolved
      let (contract, budget) ← runCompletionBinding files resolved
      if contract.any (· ∈ budgetObservedWorkloadContracts) then
        match budget with
        | none => .error (runtimeError "industrial evidence lacks its ExperimentBudget binding")
        | some budget => do
            let observation ← validateObservation hash files runId rank budget (hash.file prepared)
            validatePostBinding
            pure ({ receipt with
              postBinding := some ⟨preparedName runId rank, hash.file prepared,
                hash.size prepared, observation⟩ }, resolved, some budget)
      else do
        validatePostBinding
        pure (receipt, resolved, none)

end

/-- `publish_prepared_evidence_completion`. -/
def publishPreparedCompletion (hash : Hashing) (runId : String) (rank : ℕ)
    (expectedReceiptSha256 : Option String) (validate : Resolved → Except Error Unit)
    (validatePostBinding : Except Error Unit) (files : Directory) :
    Except Error Resolved × Directory :=
  match prepareTerminal hash files runId rank expectedReceiptSha256 validate validatePostBinding with
  | .error e => (.error e, files)
  | .ok (terminal, resolved, budget) =>
    match publishExclusive files (completeName runId rank) (.receipt terminal true) runId with
    | (.error e, files) => (.error e, files)
    | (.ok (), files) =>
      (do
        let loaded ← loadReceipt hash files (completeName runId rank) runId rank
        require (loaded = resolved)
          (runtimeError "published completion changed prepared evidence bindings")
        match budget with
        | none => pure loaded
        | some budget => do
            validateTerminalBinding hash files runId rank terminal loaded budget
            pure loaded,
        files)

end Telemetry

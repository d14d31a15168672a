import Mathlib.Data.Rat.Init
import LightConeSpec.Lib.Dict
import LightConeSpec.Fleet.Records

/-!
# Executing and reconciling a fleet wave

`execute_remote_host_wave` runs one host and turns whatever happens into a
result; `execute_fleet_wave` checks a retry against the previous receipt, runs
the requested hosts and keeps the results of the others;
`reconcile_fleet_wave_receipt` replaces UNKNOWN results.

What lies outside is data of a call: for each host a `HostAttempt` says how the
canonical request, the prepared route, the transport and the clean-up behave.
The hosts of a call run concurrently and share nothing, so the call is the list
of their attempts.
-/

namespace Fleet

open Python

variable {D : Type} [LinearOrder D]

attribute [local instance] lawfulBEq

/-! ## One host -/

/-- The size and the digest of a byte stream, `_stream_identity`. -/
structure Stream (D : Type) where
  sizeBytes : ℕ
  sha256 : D

/-- `SshProcessResult`. Of the standard output the coordinator also reads whether
it ends in exactly one newline, and what decoding the line before it as a
canonical response gives. -/
structure SshProcessResult (D : Type) where
  exitCode : ℤ
  stdout : Stream D
  stdoutOneNewline : Bool
  response : Except Error (RemoteHostWaveResponse D)
  stderr : Stream D

/-- How the outside behaves in one attempt on one host. -/
structure HostAttempt (D : Type) where
  /-- `request.canonical_stdin()`. -/
  canonicalStdin : Except Error Unit
  /-- Entering `_prepared_ssh_route`: the authority of the route. -/
  preparedRoute : Except Error D
  /-- `runner.run(..)`; nothing for a value of another type. -/
  run : Except Error (Option (SshProcessResult D))
  /-- Leaving `_prepared_ssh_route`. -/
  cleanup : Except Error Unit

/-- Whether an attempt invoked the transport, and what it returned. -/
structure AttemptRun (D : Type) where
  dispatched : Bool
  result : Except Error (RemoteHostWaveResult D)
deriving DecidableEq

variable (sha : FleetSha D) (request : RemoteHostWaveRequest D)

def emptyResult (outcome : RemoteTransportOutcome) (exitCode : Option ℤ)
    (stdout stderr : Stream D) : Except Error (RemoteHostWaveResult D) :=
  validated (RemoteHostWaveResult.postInit sha.empty) {
    schemaVersion := 1
    hostId := request.binding.hostId
    fleetInventorySha256 := request.binding.fleetInventorySha256
    hostInventorySha256 := request.binding.hostInventorySha256
    fleetDispatchPlanSha256 := request.binding.fleetDispatchPlanSha256
    hostDispatchPlanSha256 := request.binding.hostDispatchPlanSha256
    fleetWaveIndex := request.binding.fleetWaveIndex
    fleetWaveSha256 := request.binding.fleetWaveSha256
    hostWaveIndex := request.binding.hostWaveIndex
    hostWaveSha256 := request.binding.hostWaveSha256
    executionBundleManifestSha256 := request.binding.executionBundleManifestSha256
    assignmentSha256 := request.binding.assignmentSha256
    requestSha256 := sha.request request
    bindingSha256 := sha.binding request.binding
    sshRouteAuthoritySha256 := request.sshRouteAuthoritySha256
    transportOutcome := outcome
    reasonCode := outcomeReason outcome
    exitCode := exitCode
    stdoutSizeBytes := stdout.sizeBytes
    stdoutSha256 := stdout.sha256
    stderrSizeBytes := stderr.sizeBytes
    stderrSha256 := stderr.sha256
    remoteReasonSha256 := none
    dispatchScheduleReceiptSha256 := none
    dispatchScheduleReceiptEnvelopeSha256 := none
    completedAssignmentSha256 := []
    failedAssignmentSha256 := []
    reconciliationEvidenceSha256 := none
    reconcilesUnknownResultSha256 := none }

/-- The result of an attempt without output. -/
def silentResult (outcome : RemoteTransportOutcome) : Except Error (RemoteHostWaveResult D) :=
  emptyResult sha request outcome none ⟨0, sha.empty⟩ ⟨0, sha.empty⟩

def unknownResult (process : SshProcessResult D) : Except Error (RemoteHostWaveResult D) :=
  emptyResult sha request .remoteOutcomeUnknown (some process.exitCode) process.stdout
    process.stderr

def responseOutcome (status : RemoteWorkerStatus) (exitCode : ℤ) :
    Except Error RemoteTransportOutcome :=
  let disagree := valueError "remote response status and exit code disagree"
  match status with
  | .succeeded => if exitCode = 0 then .ok .remoteSucceeded else .error disagree
  | .blocked => if exitCode = 42 then .ok .remoteBlocked else .error disagree
  | .failed => if exitCode = 42 then .ok .remoteFailed else .error disagree

/-- The statements inside the `try` of `_decode_remote_response`: the response
and the outcome it stands for. -/
def decodeResponse (process : SshProcessResult D) :
    Except Error (RemoteHostWaveResponse D × RemoteTransportOutcome) := do
  let response ← process.response
  response.postInit
  require (response.hostId = request.binding.hostId ∧
      response.requestSha256 = sha.request request ∧
      response.bindingSha256 = sha.binding request.binding)
    (valueError "remote response authority mismatch")
  let outcome ← responseOutcome response.status process.exitCode
  let claimed := response.completedAssignmentSha256 ++ response.failedAssignmentSha256
  require ((∀ a ∈ claimed, a ∈ request.binding.assignmentSha256) ∧
      (outcome = .remoteFailed → ∀ a ∈ request.binding.assignmentSha256, a ∈ claimed))
    (valueError "remote assignment outcome coverage is invalid")
  require (outcome = .remoteSucceeded →
      response.completedAssignmentSha256 = request.binding.assignmentSha256 ∧
        response.failedAssignmentSha256 = [] ∧ response.dispatchScheduleReceiptSha256 ≠ none)
    (valueError "successful remote response is incomplete")
  pure (response, outcome)

def decodeRemoteResponse (process : SshProcessResult D) : Except Error (RemoteHostWaveResult D) :=
  if process.exitCode = 255 then unknownResult sha request process
  else if !process.stdoutOneNewline then unknownResult sha request process
  else
    match decodeResponse sha request process with
    | .error e =>
      -- `except (TypeError, ValueError)`
      if e.kind = .typeError ∨ e.kind = .valueError then unknownResult sha request process
      else .error e
    | .ok (response, outcome) =>
      validated (RemoteHostWaveResult.postInit sha.empty) {
        schemaVersion := 1
        hostId := request.binding.hostId
        fleetInventorySha256 := request.binding.fleetInventorySha256
        hostInventorySha256 := request.binding.hostInventorySha256
        fleetDispatchPlanSha256 := request.binding.fleetDispatchPlanSha256
        hostDispatchPlanSha256 := request.binding.hostDispatchPlanSha256
        fleetWaveIndex := request.binding.fleetWaveIndex
        fleetWaveSha256 := request.binding.fleetWaveSha256
        hostWaveIndex := request.binding.hostWaveIndex
        hostWaveSha256 := request.binding.hostWaveSha256
        executionBundleManifestSha256 := request.binding.executionBundleManifestSha256
        assignmentSha256 := request.binding.assignmentSha256
        requestSha256 := sha.request request
        bindingSha256 := sha.binding request.binding
        sshRouteAuthoritySha256 := request.sshRouteAuthoritySha256
        transportOutcome := outcome
        reasonCode := outcomeReason outcome
        exitCode := some process.exitCode
        stdoutSizeBytes := process.stdout.sizeBytes
        stdoutSha256 := process.stdout.sha256
        stderrSizeBytes := process.stderr.sizeBytes
        stderrSha256 := process.stderr.sha256
        remoteReasonSha256 :=
          if outcome = .remoteSucceeded then none else some (sha.reason response.reasonCode)
        dispatchScheduleReceiptSha256 := response.dispatchScheduleReceiptSha256
        dispatchScheduleReceiptEnvelopeSha256 := response.dispatchScheduleReceiptEnvelopeSha256
        completedAssignmentSha256 := response.completedAssignmentSha256
        failedAssignmentSha256 := response.failedAssignmentSha256
        reconciliationEvidenceSha256 := none
        reconcilesUnknownResultSha256 := none }

/-- The limits that `execute_fleet_wave` hands to every host. -/
structure TransportLimits where
  timeoutSeconds : ℚ
  stdoutLimitBytes : ℤ
  stderrLimitBytes : ℤ

/-- What the body of the `with` statement and the clean-up after it raise: the
error of the clean-up replaces that of the body. -/
def leaveRoute {α : Type} (cleanup : Except Error Unit) (body : Except Error α) : Except Error α :=
  match cleanup with
  | .error e => .error e
  | .ok () => body

/-- The two `except` clauses of `execute_remote_host_wave`, which do the same. A
`BaseException` passes. -/
def caughtAttempt (dispatched : Bool) (e : Error) : AttemptRun D where
  dispatched := dispatched
  result :=
    if e.isException then
      silentResult sha request (if dispatched then .remoteOutcomeUnknown else .sshFailed)
    else .error e

def executeRemoteHostWave (limits : TransportLimits) (routeHostId : String)
    (request : RemoteHostWaveRequest D) (attempt : HostAttempt D) : AttemptRun D :=
  let checks : Except Error Unit := do
    require (routeHostId = request.binding.hostId)
      (valueError "SSH route host differs from remote execution binding")
    require (0 < limits.timeoutSeconds) (valueError "remote timeout must be finite and positive")
    require (1 ≤ limits.stdoutLimitBytes)
      (valueError "stdout_limit_bytes must be a positive integer")
    require (1 ≤ limits.stderrLimitBytes)
      (valueError "stderr_limit_bytes must be a positive integer")
  match checks with
  | .error e => ⟨false, .error e⟩
  | .ok () =>
    match attempt.canonicalStdin with
    | .error e =>
      if e.kind = .osError ∨ e.kind = .runtimeError ∨ e.kind = .typeError ∨ e.kind = .valueError
      then ⟨false, silentResult sha request .sshFailed⟩
      else ⟨false, .error e⟩
    | .ok () =>
      match attempt.preparedRoute with
      | .error e => caughtAttempt sha request false e
      | .ok routeAuthority =>
        if routeAuthority ≠ request.sshRouteAuthoritySha256 then
          match leaveRoute attempt.cleanup (silentResult sha request .sshFailed) with
          | .error e => caughtAttempt sha request false e
          | .ok result => ⟨false, .ok result⟩
        else
          match leaveRoute attempt.cleanup attempt.run with
          | .error e => caughtAttempt sha request true e
          | .ok none => ⟨true, silentResult sha request .remoteOutcomeUnknown⟩
          | .ok (some process) =>
            if limits.stdoutLimitBytes < process.stdout.sizeBytes ∨
                limits.stderrLimitBytes < process.stderr.sizeBytes then
              ⟨true, unknownResult sha request process⟩
            else ⟨true, decodeRemoteResponse sha request process⟩

/-! ## All hosts -/

/-- The arguments of one `execute_fleet_wave`, its previous receipt apart, and
how the outside behaves for each host. -/
structure FleetWaveCall (D : Type) where
  routeHostIds : List String
  requests : List (RemoteHostWaveRequest D)
  limits : TransportLimits
  maxConcurrency : ℤ
  attempts : String → HostAttempt D

/-- `RemoteFleetWaveReceipt.from_dict(receipt.to_dict())`: every constructor
checks its record again. -/
def replayReceipt (receipt : RemoteFleetWaveReceipt D) : Except Error Unit := do
  forEach (RemoteHostWaveResult.postInit sha.empty) receipt.hostResults
  receipt.postInit

/-- `{result.host_id: result for result in results}`. -/
def byHost (results : List (RemoteHostWaveResult D)) : Dict String (RemoteHostWaveResult D) :=
  results.foldl (fun d result => d.set result.hostId result) Dict.empty

/-- `updated`: a dictionary after `update`. -/
def updateByHost (d : Dict String (RemoteHostWaveResult D))
    (results : List (RemoteHostWaveResult D)) : Dict String (RemoteHostWaveResult D) :=
  results.foldl (fun d result => d.set result.hostId result) d

/-- `tuple(d[key] for key in sorted(d))`, where every result is filed under its
host. -/
def inHostOrder (d : Dict String (RemoteHostWaveResult D)) : List (RemoteHostWaveResult D) :=
  sortedBy (·.hostId) d.values

def checkRetry (priorSha256 : D) (priorByHost : Dict String (RemoteHostWaveResult D))
    (request : RemoteHostWaveRequest D) : Except Error Unit := do
  let binding := request.binding
  match priorByHost.get? binding.hostId with
  | none => .error (keyError binding.hostId)
  | some previous => do
    require (previous.succeeded = false)
      (valueError "fleet retry cannot re-execute a successful host")
    require (previous.outcomeUnknown = false)
      (valueError "UNKNOWN remote outcome requires exact evidence reconciliation")
    require (previous.retryable = true)
      (valueError "fleet host result is not directly retryable")
    require (request.priorFleetWaveReceiptSha256 = some priorSha256)
      (valueError "fleet retry authority differs from its host request")
    require (binding.hostInventorySha256 = previous.hostInventorySha256 ∧
        binding.hostDispatchPlanSha256 = previous.hostDispatchPlanSha256 ∧
        binding.hostWaveIndex = previous.hostWaveIndex ∧
        binding.hostWaveSha256 = previous.hostWaveSha256 ∧
        binding.executionBundleManifestSha256 = previous.executionBundleManifestSha256 ∧
        binding.assignmentSha256 = previous.assignmentSha256 ∧
        request.sshRouteAuthoritySha256 = previous.sshRouteAuthoritySha256)
      (valueError "fleet retry changes a host-local execution identity")
    require (previous.dispatchScheduleReceiptSha256.isSome = binding.resumeReceiptPath.isSome)
      (valueError "fleet retry resume path differs from prior remote receipt authority")
    require (binding.resumeReceiptSha256 = previous.dispatchScheduleReceiptSha256)
      (valueError "fleet retry resume content differs from prior remote receipt")
    require (binding.resumeReceiptEnvelopeSha256 = previous.dispatchScheduleReceiptEnvelopeSha256)
      (valueError "fleet retry resume envelope differs from prior remote receipt")
    require (sha.request request ≠ previous.requestSha256)
      (valueError "fleet retry must create a new receipt-bound attempt")

/-- The checks of a call against the previous receipt. -/
def checkPrior (authority : RemoteHostExecutionBinding D)
    (ordered : List (RemoteHostWaveRequest D)) :
    Option (RemoteFleetWaveReceipt D) → Except Error Unit
  | none =>
    require (∀ request ∈ ordered, request.priorFleetWaveReceiptSha256 = none ∧
        request.binding.resumeReceiptPath = none)
      (valueError "initial fleet execution cannot claim retry authority")
  | some prior => do
      replayReceipt sha prior
      require (prior.fleetInventorySha256 = authority.fleetInventorySha256 ∧
          prior.fleetDispatchPlanSha256 = authority.fleetDispatchPlanSha256 ∧
          prior.fleetWaveIndex = authority.fleetWaveIndex ∧
          prior.fleetWaveSha256 = authority.fleetWaveSha256)
        (valueError "fleet retry belongs to another fleet wave")
      require (∀ request ∈ ordered, request.binding.hostId ∈ prior.hostIds)
        (valueError "fleet retry introduces a host outside the prior receipt")
      forEach (checkRetry sha (sha.receipt prior) (byHost prior.hostResults)) ordered

/-- The statements of `execute_fleet_wave` before the hosts are run: the requests
in the order of their hosts, with the authority they share. -/
def acceptFleetWave (call : FleetWaveCall D) (prior : Option (RemoteFleetWaveReceipt D)) :
    Except Error (RemoteHostExecutionBinding D × List (RemoteHostWaveRequest D)) := do
  require (call.routeHostIds ≠ [] ∧ call.requests ≠ [])
    (valueError "fleet execution requires at least one host")
  require (1 ≤ call.maxConcurrency) (valueError "max_concurrency must be a positive integer")
  let requestHosts := call.requests.map (·.binding.hostId)
  require (call.routeHostIds.Nodup ∧ requestHosts.Nodup)
    (valueError "fleet routes and requests must have unique host IDs")
  require ((∀ host ∈ call.routeHostIds, host ∈ requestHosts) ∧
      ∀ host ∈ requestHosts, host ∈ call.routeHostIds)
    (valueError "fleet routes do not exactly cover remote requests")
  match sortedBy (·.binding.hostId) call.requests with
  | [] => .error (indexError "tuple index out of range")
  | first :: rest => do
    let ordered := first :: rest
    let authority := first.binding
    require (∀ request ∈ ordered,
        request.binding.fleetInventorySha256 = authority.fleetInventorySha256 ∧
        request.binding.fleetDispatchPlanSha256 = authority.fleetDispatchPlanSha256 ∧
        request.binding.fleetWaveIndex = authority.fleetWaveIndex ∧
        request.binding.fleetWaveSha256 = authority.fleetWaveSha256)
      (valueError "fleet remote requests mix fleet execution authorities")
    require (ordered.flatMap (·.binding.assignmentSha256)).Nodup
      (valueError "fleet remote requests migrate or duplicate an assignment")
    checkPrior sha authority ordered prior
    pure (authority, ordered)

/-- `run_bounded`: the route filed under the host of the request. -/
def runHost (call : FleetWaveCall D) (request : RemoteHostWaveRequest D) : AttemptRun D :=
  executeRemoteHostWave sha call.limits request.binding.hostId request
    (call.attempts request.binding.hostId)

/-- `execute_fleet_wave` after its checks: the results of the run hosts over the
retained ones. `asyncio.gather` gives the results in the order of the requests, or
raises the error of one of them. -/
def mergeFleetWave (authority : RemoteHostExecutionBinding D)
    (prior : Option (RemoteFleetWaveReceipt D)) (runs : List (AttemptRun D)) :
    Except Error (RemoteFleetWaveReceipt D) := do
  let results ← collect (runs.map (·.result))
  let retained := byHost ((prior.map (·.hostResults)).getD [])
  validated RemoteFleetWaveReceipt.postInit {
    schemaVersion := 1
    fleetInventorySha256 := authority.fleetInventorySha256
    fleetDispatchPlanSha256 := authority.fleetDispatchPlanSha256
    fleetWaveIndex := authority.fleetWaveIndex
    fleetWaveSha256 := authority.fleetWaveSha256
    hostResults := inHostOrder (updateByHost retained results)
    priorFleetWaveReceiptSha256 := prior.map sha.receipt }

def executeFleetWave (call : FleetWaveCall D) (prior : Option (RemoteFleetWaveReceipt D)) :
    Except Error (RemoteFleetWaveReceipt D) := do
  let (authority, ordered) ← acceptFleetWave sha call prior
  mergeFleetWave sha authority prior (ordered.map (runHost sha call))

/-! ## Reconciliation -/

def checkReplacement (priorByHost : Dict String (RemoteHostWaveResult D))
    (replacement : RemoteHostWaveResult D) : Except Error Unit :=
  match priorByHost.get? replacement.hostId with
  | none => .error (keyError replacement.hostId)
  | some previous => do
    require (previous.outcomeUnknown = true)
      (valueError "fleet reconciliation can replace only UNKNOWN hosts")
    require (replacement.transportOutcome.reconciled = true)
      (valueError "fleet reconciliation result lacks remote evidence")
    require (replacement.reconcilesUnknownResultSha256 = some (sha.result previous) ∧
        replacement.hostId = previous.hostId ∧
        replacement.fleetInventorySha256 = previous.fleetInventorySha256 ∧
        replacement.hostInventorySha256 = previous.hostInventorySha256 ∧
        replacement.fleetDispatchPlanSha256 = previous.fleetDispatchPlanSha256 ∧
        replacement.hostDispatchPlanSha256 = previous.hostDispatchPlanSha256 ∧
        replacement.fleetWaveIndex = previous.fleetWaveIndex ∧
        replacement.fleetWaveSha256 = previous.fleetWaveSha256 ∧
        replacement.hostWaveIndex = previous.hostWaveIndex ∧
        replacement.hostWaveSha256 = previous.hostWaveSha256 ∧
        replacement.executionBundleManifestSha256 = previous.executionBundleManifestSha256 ∧
        replacement.assignmentSha256 = previous.assignmentSha256 ∧
        replacement.requestSha256 = previous.requestSha256 ∧
        replacement.bindingSha256 = previous.bindingSha256 ∧
        replacement.sshRouteAuthoritySha256 = previous.sshRouteAuthoritySha256)
      (valueError "fleet reconciliation changes host execution identity")

def reconcileFleetWaveReceipt (prior : RemoteFleetWaveReceipt D)
    (reconciled : List (RemoteHostWaveResult D)) : Except Error (RemoteFleetWaveReceipt D) := do
  replayReceipt sha prior
  require (reconciled ≠ [])
    (valueError "fleet reconciliation requires at least one host result")
  require (reconciled.map (·.hostId)).Nodup
    (valueError "fleet reconciliation contains duplicate host results")
  require (∀ result ∈ reconciled, result.hostId ∈ prior.hostIds)
    (valueError "fleet reconciliation introduces a foreign host")
  forEach (checkReplacement sha (byHost prior.hostResults)) reconciled
  validated RemoteFleetWaveReceipt.postInit {
    schemaVersion := 1
    fleetInventorySha256 := prior.fleetInventorySha256
    fleetDispatchPlanSha256 := prior.fleetDispatchPlanSha256
    fleetWaveIndex := prior.fleetWaveIndex
    fleetWaveSha256 := prior.fleetWaveSha256
    hostResults := inHostOrder (updateByHost (byHost prior.hostResults) reconciled)
    priorFleetWaveReceiptSha256 := some (sha.receipt prior) }

end Fleet

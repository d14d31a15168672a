import Mathlib.Data.Prod.Lex
import LightConeSpec.Lib.Raising

/-!
# Records of a remote fleet wave

What the coordinator sends to a host, what it keeps of the host's answer and the
receipt that aggregates all hosts of one wave. Each record has the source's
fields and the checks of its constructor.

Digests are values of an ordered type `D`: digests are texts in the source, and
lists of them are kept sorted. That a digest is 64 hexadecimal digits is left to
the type.
-/

namespace Fleet

open Python

variable {D : Type} [LinearOrder D]

theorem lawfulBEq : LawfulBEq D := inferInstance

attribute [local instance] lawfulBEq

/-! ## Texts -/

def isSafeId (value : String) : Bool :=
  match value.toList with
  | [] => false
  | first :: rest =>
    first.isAlphanum && rest.length ≤ 255 &&
      rest.all fun c => c.isAlphanum || "._:@+-".toList.contains c

def isReasonCode (value : String) : Bool :=
  match value.toList with
  | [] => false
  | first :: rest =>
    first.isLower && rest.length ≤ 127 && rest.all fun c => c.isLower || c.isDigit || c == '_'

/-- An absolute path that `PurePosixPath` prints unchanged and that has no `..`
part. Two leading slashes are a root of their own. -/
def isCanonicalPosixPath (value : String) : Bool :=
  let parts : Option (List Char) :=
    match value.toList with
    | '/' :: '/' :: '/' :: _ => none
    | '/' :: '/' :: rest => some rest
    | '/' :: rest => some rest
    | _ => none
  match parts with
  | none => false
  | some [] => true
  | some rest => (rest.splitOn '/').all fun part => part != [] && part != ['.'] && part != ['.', '.']

def requireId (name value : String) : Except Error Unit :=
  require (isSafeId value) (valueError s!"{name} must be a canonical opaque identifier")

def requireReason (name value : String) : Except Error Unit :=
  require (isReasonCode value) (valueError s!"{name} must be a stable lower-case reason code")

def isSingleLine (value : String) : Bool :=
  value.toList.all fun c => c != '\n' && c != '\r'

def requireHostLocalPath (name value : String) : Except Error Unit := do
  require (value ≠ "" ∧ hasNul value = false) (valueError s!"{name} must be non-empty text")
  require (isSingleLine value) (valueError s!"{name} must be single-line text")
  require (isCanonicalPosixPath value)
    (valueError s!"{name} must be an absolute canonical POSIX path")

def requireNamespace (name value : String) : Except Error Unit :=
  require (isNonBlank value = true ∧ isSingleLine value = true)
    (valueError s!"{name} must be non-empty single-line text")

/-! ## What one host is asked to run -/

/-- `HostAssignmentBinding`: where one assignment runs and what it must not
share. -/
structure HostAssignmentBinding (D : Type) where
  assignmentSha256 : D
  gpuHostBindings : List (String × String)
  ports : List ℕ
  cacheNamespace : String
  evidenceNamespace : String
deriving DecidableEq

namespace HostAssignmentBinding

variable (b : HostAssignmentBinding D)

def hostId : String := (b.gpuHostBindings.head?.map Prod.snd).getD ""

def gpuUuids : List String := b.gpuHostBindings.map Prod.fst

def postInit : Except Error Unit := do
  require (b.gpuHostBindings ≠ []) (valueError "host assignment must bind at least one GPU")
  require (b.gpuHostBindings = sortedBy toLex b.gpuHostBindings)
    (valueError "GPU host bindings must be canonically sorted")
  require b.gpuUuids.Nodup (valueError "host assignment contains duplicate GPU UUIDs")
  forEach (fun binding => do
    requireId "GPU UUID" binding.1
    requireId "GPU host_id" binding.2) b.gpuHostBindings
  require ((b.gpuHostBindings.map Prod.snd).dedup.length = 1)
    (valueError "cross_host_collectives_unvalidated")
  require (b.ports ≠ [] ∧ b.ports.Nodup)
    (valueError "host assignment ports must be non-empty and unique")
  require (∀ port ∈ b.ports, 1024 ≤ port ∧ port ≤ 65535)
    (valueError "host assignment ports must be in [1024, 65535]")
  requireNamespace "cache_namespace" b.cacheNamespace
  requireNamespace "evidence_namespace" b.evidenceNamespace

end HostAssignmentBinding

/-- `RemoteHostExecutionBinding`: the part of one fleet wave that one host
runs. -/
structure RemoteHostExecutionBinding (D : Type) where
  schemaVersion : ℕ
  hostId : String
  fleetInventorySha256 : D
  hostInventorySha256 : D
  fleetDispatchPlanSha256 : D
  hostDispatchPlanSha256 : D
  fleetWaveIndex : ℕ
  fleetWaveSha256 : D
  hostWaveIndex : ℕ
  hostWaveSha256 : D
  executionBundleManifestPath : String
  executionBundleManifestSha256 : D
  receiptOutputPath : String
  resumeReceiptPath : Option String
  resumeReceiptSha256 : Option D
  resumeReceiptEnvelopeSha256 : Option D
  assignments : List (HostAssignmentBinding D)
deriving DecidableEq

namespace RemoteHostExecutionBinding

variable (b : RemoteHostExecutionBinding D)

def assignmentSha256 : List D := b.assignments.map (·.assignmentSha256)

def postInit : Except Error Unit := do
  require (b.schemaVersion = 1)
    (valueError "only host-execution binding schema version 1 is supported")
  requireId "binding host_id" b.hostId
  requireHostLocalPath "host-local manifest path" b.executionBundleManifestPath
  requireHostLocalPath "host-local receipt output path" b.receiptOutputPath
  forEach (requireHostLocalPath "host-local resume receipt path") b.resumeReceiptPath.toList
  require (b.resumeReceiptPath.isSome = b.resumeReceiptSha256.isSome ∧
      b.resumeReceiptSha256.isSome = b.resumeReceiptEnvelopeSha256.isSome)
    (valueError "host-local resume receipt path and identities must be complete")
  require (b.receiptOutputPath ≠ b.executionBundleManifestPath ∧
      some b.receiptOutputPath ≠ b.resumeReceiptPath)
    (valueError "host receipt output path must be a distinct artifact")
  require (b.assignments ≠ []) (valueError "host execution binding requires exact assignments")
  require (b.assignmentSha256 = sortedSet b.assignmentSha256)
    (valueError "host assignments must be sorted and unique")
  require (∀ item ∈ b.assignments, item.hostId = b.hostId)
    (valueError "host assignment differs from execution binding host")
  require (b.assignments.flatMap (·.gpuUuids)).Nodup
    (valueError "host execution binding overlaps a GPU")
  require (b.assignments.flatMap (·.ports)).Nodup
    (valueError "host execution binding overlaps a host-local port")
  require (b.assignments.map (·.cacheNamespace)).Nodup
    (valueError "host execution binding overlaps a cache namespace")
  require (b.assignments.map (·.evidenceNamespace)).Nodup
    (valueError "host execution binding overlaps an evidence namespace")

end RemoteHostExecutionBinding

/-- `RemoteHostWaveRequest`: what is written to the standard input of one
host. -/
structure RemoteHostWaveRequest (D : Type) where
  schemaVersion : ℕ
  challengeNonceSha256 : D
  sshRouteAuthoritySha256 : D
  binding : RemoteHostExecutionBinding D
  priorFleetWaveReceiptSha256 : Option D
deriving DecidableEq

/-- `RemoteHostWaveRequest.__post_init__`, after that of its binding and of the
binding's assignments. -/
def RemoteHostWaveRequest.postInit (r : RemoteHostWaveRequest D) : Except Error Unit := do
  forEach HostAssignmentBinding.postInit r.binding.assignments
  r.binding.postInit
  require (r.schemaVersion = 1)
    (valueError "only remote host-wave request schema version 1 is supported")
  require (r.binding.resumeReceiptPath = none ∨ r.priorFleetWaveReceiptSha256 ≠ none)
    (valueError "host-local resume requires a prior fleet-wave receipt identity")

/-- A request that its constructors accept, as the standard input of a worker decodes to. -/
structure CanonicalWaveRequest (D : Type) [LinearOrder D] where
  request : RemoteHostWaveRequest D
  valid : request.postInit = .ok ()

theorem CanonicalWaveRequest.safeHostId (r : CanonicalWaveRequest D) :
    isSafeId r.request.binding.hostId = true := by
  have h := r.valid
  unfold RemoteHostWaveRequest.postInit RemoteHostExecutionBinding.postInit requireId at h
  simp only [bind_eq_ok, require_eq_ok] at h
  rcases h with ⟨_, -, _, ⟨_, -, _, hid, -⟩, -⟩
  exact hid

/-! ## What one host answers -/

inductive RemoteWorkerStatus
  | succeeded
  | blocked
  | failed
deriving DecidableEq

/-- `RemoteHostWaveResponse`: what a host prints. -/
structure RemoteHostWaveResponse (D : Type) where
  schemaVersion : ℕ
  hostId : String
  requestSha256 : D
  bindingSha256 : D
  status : RemoteWorkerStatus
  reasonCode : Option String
  dispatchScheduleReceiptSha256 : Option D
  dispatchScheduleReceiptEnvelopeSha256 : Option D
  completedAssignmentSha256 : List D
  failedAssignmentSha256 : List D
deriving DecidableEq

def RemoteHostWaveResponse.postInit (r : RemoteHostWaveResponse D) : Except Error Unit := do
  require (r.schemaVersion = 1)
    (valueError "only remote host-wave response schema version 1 is supported")
  requireId "response host_id" r.hostId
  forEach (requireReason "remote response reason_code") r.reasonCode.toList
  require (r.dispatchScheduleReceiptSha256.isNone =
      r.dispatchScheduleReceiptEnvelopeSha256.isNone)
    (valueError "receipt and envelope identities must be paired")
  require (r.completedAssignmentSha256 = sortedSet r.completedAssignmentSha256)
    (valueError "completed_assignment_sha256 must be sorted and unique")
  require (r.failedAssignmentSha256 = sortedSet r.failedAssignmentSha256)
    (valueError "failed_assignment_sha256 must be sorted and unique")
  require (∀ a ∈ r.completedAssignmentSha256, a ∉ r.failedAssignmentSha256)
    (valueError "remote response assignment outcomes overlap")
  match r.status with
  | .succeeded =>
    require (r.reasonCode = none ∧ r.dispatchScheduleReceiptSha256 ≠ none ∧
        r.dispatchScheduleReceiptEnvelopeSha256 ≠ none ∧ r.failedAssignmentSha256 = [])
      (valueError "successful remote response is incomplete")
  | .blocked =>
    require (r.reasonCode ≠ none ∧ r.dispatchScheduleReceiptSha256 = none ∧
        r.dispatchScheduleReceiptEnvelopeSha256 = none ∧ r.completedAssignmentSha256 = [] ∧
        r.failedAssignmentSha256 = [])
      (valueError "blocked remote response cannot claim execution")
  | .failed =>
    require (r.reasonCode ≠ none ∧ r.dispatchScheduleReceiptSha256 ≠ none ∧
        r.dispatchScheduleReceiptEnvelopeSha256 ≠ none)
      (valueError "failed remote response requires receipt authority")

theorem response_raises (r : RemoteHostWaveResponse D) : RaisesOnly Caught r.postInit := by
  unfold RemoteHostWaveResponse.postInit
  refine raisesOnly_check fun _ => ?_
  refine raisesOnly_bind (raisesOnly_require rfl) fun _ _ => ?_
  refine raisesOnly_bind (raisesOnly_forEach fun _ _ => raisesOnly_require rfl) fun _ _ => ?_
  repeat refine raisesOnly_check fun _ => ?_
  cases r.status with
  | succeeded => exact raisesOnly_require rfl
  | blocked => exact raisesOnly_require rfl
  | failed => exact raisesOnly_require rfl

/-! ## What the coordinator keeps of one attempt -/

inductive RemoteTransportOutcome
  | remoteSucceeded
  | remoteBlocked
  | remoteFailed
  | reconciledSucceeded
  | reconciledFailed
  | remoteOutcomeUnknown
  | sshFailed
deriving DecidableEq

def outcomeReason : RemoteTransportOutcome → String
  | .remoteSucceeded => "remote_wave_succeeded"
  | .remoteBlocked => "remote_wave_blocked"
  | .remoteFailed => "remote_wave_failed"
  | .reconciledSucceeded => "remote_wave_reconciled_succeeded"
  | .reconciledFailed => "remote_wave_reconciled_failed"
  | .remoteOutcomeUnknown => "remote_wave_outcome_unknown"
  | .sshFailed => "ssh_transport_failed"

/-- `transport_outcome in {RECONCILED_SUCCEEDED, RECONCILED_FAILED}`. -/
def RemoteTransportOutcome.reconciled : RemoteTransportOutcome → Bool
  | .reconciledSucceeded | .reconciledFailed => true
  | _ => false

/-- `RemoteHostWaveResult`: one attempt on one host. -/
structure RemoteHostWaveResult (D : Type) where
  schemaVersion : ℕ
  hostId : String
  fleetInventorySha256 : D
  hostInventorySha256 : D
  fleetDispatchPlanSha256 : D
  hostDispatchPlanSha256 : D
  fleetWaveIndex : ℕ
  fleetWaveSha256 : D
  hostWaveIndex : ℕ
  hostWaveSha256 : D
  executionBundleManifestSha256 : D
  assignmentSha256 : List D
  requestSha256 : D
  bindingSha256 : D
  sshRouteAuthoritySha256 : D
  transportOutcome : RemoteTransportOutcome
  reasonCode : String
  exitCode : Option ℤ
  stdoutSizeBytes : ℕ
  stdoutSha256 : D
  stderrSizeBytes : ℕ
  stderrSha256 : D
  remoteReasonSha256 : Option D
  dispatchScheduleReceiptSha256 : Option D
  dispatchScheduleReceiptEnvelopeSha256 : Option D
  completedAssignmentSha256 : List D
  failedAssignmentSha256 : List D
  reconciliationEvidenceSha256 : Option D
  reconcilesUnknownResultSha256 : Option D
deriving DecidableEq

namespace RemoteHostWaveResult

variable (r : RemoteHostWaveResult D)

def succeeded : Bool :=
  match r.transportOutcome with
  | .remoteSucceeded | .reconciledSucceeded => true
  | _ => false

def outcomeUnknown : Bool :=
  match r.transportOutcome with
  | .remoteOutcomeUnknown => true
  | _ => false

def retryable : Bool :=
  match r.transportOutcome with
  | .remoteBlocked | .remoteFailed | .reconciledFailed | .sshFailed => true
  | _ => false

/-- `set(completed) | set(failed) == set(assignment_sha256)`. -/
def Covered : Prop :=
  (∀ a ∈ r.completedAssignmentSha256 ++ r.failedAssignmentSha256, a ∈ r.assignmentSha256) ∧
    ∀ a ∈ r.assignmentSha256, a ∈ r.completedAssignmentSha256 ++ r.failedAssignmentSha256

instance : Decidable r.Covered := inferInstanceAs (Decidable (_ ∧ _))

/-- Neither a schedule receipt nor the outcome of an assignment. -/
def ClaimsNothing : Prop :=
  r.dispatchScheduleReceiptSha256 = none ∧ r.dispatchScheduleReceiptEnvelopeSha256 = none ∧
    r.completedAssignmentSha256 = [] ∧ r.failedAssignmentSha256 = []

instance : Decidable r.ClaimsNothing := inferInstanceAs (Decidable (_ ∧ _))

/-- Both identities of a schedule receipt. -/
def HasReceipt : Prop :=
  r.dispatchScheduleReceiptSha256 ≠ none ∧ r.dispatchScheduleReceiptEnvelopeSha256 ≠ none

instance : Decidable r.HasReceipt := inferInstanceAs (Decidable (_ ∧ _))

/-- The branch of the checks for the transport outcome. -/
def outcomeCheck (emptySha256 : D) : Except Error Unit :=
  match r.transportOutcome with
  | .remoteSucceeded =>
    require (r.exitCode = some 0 ∧ r.remoteReasonSha256 = none ∧ r.HasReceipt ∧
        r.completedAssignmentSha256 = r.assignmentSha256 ∧ r.failedAssignmentSha256 = [])
      (valueError "successful remote result is incomplete")
  | .reconciledSucceeded =>
    require (r.exitCode = none ∧ r.remoteReasonSha256 = none ∧ r.HasReceipt ∧
        r.completedAssignmentSha256 = r.assignmentSha256 ∧ r.failedAssignmentSha256 = [])
      (valueError "reconciled successful result is incomplete")
  | .remoteBlocked => do
      require (r.exitCode = some 42 ∧ r.remoteReasonSha256 ≠ none)
        (valueError "negative remote result lacks valid remote authority")
      require r.ClaimsNothing (valueError "blocked remote result cannot claim execution")
  | .remoteFailed => do
      require (r.exitCode = some 42 ∧ r.remoteReasonSha256 ≠ none)
        (valueError "negative remote result lacks valid remote authority")
      require (r.HasReceipt ∧ r.Covered)
        (valueError "failed remote result has incomplete assignment coverage")
  | .sshFailed =>
    require (r.exitCode = none ∧ r.stdoutSizeBytes = 0 ∧ r.stdoutSha256 = emptySha256 ∧
        r.stderrSizeBytes = 0 ∧ r.stderrSha256 = emptySha256 ∧ r.remoteReasonSha256 = none ∧
        r.ClaimsNothing)
      (valueError "SSH failure must precede remote request dispatch")
  | .reconciledFailed =>
    require (r.exitCode = none ∧ r.remoteReasonSha256 ≠ none ∧ r.HasReceipt ∧ r.Covered)
      (valueError "reconciled failed result is incomplete")
  | .remoteOutcomeUnknown =>
    require (r.remoteReasonSha256 = none ∧ r.ClaimsNothing)
      (valueError "transport failure cannot claim remote completion")

end RemoteHostWaveResult

def RemoteHostWaveResult.postInit (emptySha256 : D) (r : RemoteHostWaveResult D) :
    Except Error Unit := do
  require (r.schemaVersion = 1)
    (valueError "only remote host-wave result schema version 1 is supported")
  requireId "result host_id" r.hostId
  require (r.reasonCode = outcomeReason r.transportOutcome)
    (valueError "result reason code differs from transport outcome")
  require (r.assignmentSha256 = sortedSet r.assignmentSha256)
    (valueError "assignment_sha256 must be sorted and unique")
  require (r.completedAssignmentSha256 = sortedSet r.completedAssignmentSha256)
    (valueError "completed_assignment_sha256 must be sorted and unique")
  require (r.failedAssignmentSha256 = sortedSet r.failedAssignmentSha256)
    (valueError "failed_assignment_sha256 must be sorted and unique")
  require (∀ a ∈ r.completedAssignmentSha256, a ∉ r.failedAssignmentSha256)
    (valueError "completed and failed assignment identities overlap")
  require (r.assignmentSha256 ≠ [])
    (valueError "remote result requires expected assignment identities")
  require (∀ a ∈ r.completedAssignmentSha256 ++ r.failedAssignmentSha256, a ∈ r.assignmentSha256)
    (valueError "remote result claims an assignment outside its binding")
  require (if r.transportOutcome.reconciled then
        r.reconciliationEvidenceSha256 ≠ none ∧ r.reconcilesUnknownResultSha256 ≠ none
      else r.reconciliationEvidenceSha256 = none ∧ r.reconcilesUnknownResultSha256 = none)
    (valueError "reconciled result lacks exact prior/evidence authority")
  r.outcomeCheck emptySha256

/-! ## The receipt of one fleet wave -/

structure RemoteFleetWaveReceipt (D : Type) where
  schemaVersion : ℕ
  fleetInventorySha256 : D
  fleetDispatchPlanSha256 : D
  fleetWaveIndex : ℕ
  fleetWaveSha256 : D
  hostResults : List (RemoteHostWaveResult D)
  priorFleetWaveReceiptSha256 : Option D
deriving DecidableEq

namespace RemoteFleetWaveReceipt

variable (r : RemoteFleetWaveReceipt D)

def hostIds : List String := r.hostResults.map (·.hostId)

def postInit : Except Error Unit := do
  require (r.schemaVersion = 1)
    (valueError "only fleet-wave receipt schema version 1 is supported")
  require (r.hostResults ≠ []) (valueError "fleet-wave receipt requires exact host results")
  require (r.hostIds = sortedSet r.hostIds)
    (valueError "fleet host results must be sorted and unique")
  require (∀ result ∈ r.hostResults, result.fleetInventorySha256 = r.fleetInventorySha256 ∧
      result.fleetDispatchPlanSha256 = r.fleetDispatchPlanSha256 ∧
      result.fleetWaveIndex = r.fleetWaveIndex ∧ result.fleetWaveSha256 = r.fleetWaveSha256)
    (valueError "fleet-wave receipt mixes fleet execution authorities")
  require (r.hostResults.flatMap (·.assignmentSha256)).Nodup
    (valueError "fleet-wave receipt migrates or duplicates an assignment")

end RemoteFleetWaveReceipt

/-! ## Digests -/

/-- `canonical_sha256` of the records, and the digest of no bytes. -/
structure FleetSha (D : Type) where
  binding : RemoteHostExecutionBinding D → D
  request : RemoteHostWaveRequest D → D
  result : RemoteHostWaveResult D → D
  receipt : RemoteFleetWaveReceipt D → D
  reason : Option String → D
  empty : D

end Fleet

import LightConeSpec.Lib.Digest
import LightConeSpec.Fleet.Records

/-!
# Free digests of the fleet records

The digest functions of the fleet records over free digests. They are injective
and can be computed, so closed chains of calls can be run.
-/

namespace Fleet

open Content

instance : Content (HostAssignmentBinding Digest) :=
  ofFields (fun b => (b.assignmentSha256, b.gpuHostBindings, b.ports, b.cacheNamespace,
      b.evidenceNamespace))

instance : Content (RemoteHostExecutionBinding Digest) :=
  ofFields (fun b => ((b.schemaVersion, b.hostId, b.fleetInventorySha256, b.hostInventorySha256,
      b.fleetDispatchPlanSha256, b.hostDispatchPlanSha256, b.fleetWaveIndex, b.fleetWaveSha256,
      b.hostWaveIndex, b.hostWaveSha256), b.executionBundleManifestPath,
      b.executionBundleManifestSha256, b.receiptOutputPath, b.resumeReceiptPath,
      b.resumeReceiptSha256, b.resumeReceiptEnvelopeSha256, b.assignments))

instance : Content (RemoteHostWaveRequest Digest) :=
  ofFields (fun r => (r.schemaVersion, r.challengeNonceSha256, r.sshRouteAuthoritySha256,
      r.binding, r.priorFleetWaveReceiptSha256))

instance : Content RemoteTransportOutcome :=
  ofFields outcomeReason (by rintro ⟨⟩ ⟨⟩ h <;> first | rfl | simp [outcomeReason] at h)

instance : Content (RemoteHostWaveResult Digest) :=
  ofFields (fun r => ((r.schemaVersion, r.hostId, r.fleetInventorySha256, r.hostInventorySha256,
      r.fleetDispatchPlanSha256, r.hostDispatchPlanSha256, r.fleetWaveIndex, r.fleetWaveSha256,
      r.hostWaveIndex, r.hostWaveSha256), (r.executionBundleManifestSha256, r.assignmentSha256,
      r.requestSha256, r.bindingSha256, r.sshRouteAuthoritySha256, r.transportOutcome,
      r.reasonCode, r.exitCode), r.stdoutSizeBytes, r.stdoutSha256, r.stderrSizeBytes,
      r.stderrSha256, r.remoteReasonSha256, r.dispatchScheduleReceiptSha256,
      r.dispatchScheduleReceiptEnvelopeSha256, r.completedAssignmentSha256,
      r.failedAssignmentSha256, r.reconciliationEvidenceSha256, r.reconcilesUnknownResultSha256))

instance : Content (RemoteFleetWaveReceipt Digest) :=
  ofFields (fun r => (r.schemaVersion, r.fleetInventorySha256, r.fleetDispatchPlanSha256,
      r.fleetWaveIndex, r.fleetWaveSha256, r.hostResults, r.priorFleetWaveReceiptSha256))

def freeFleetSha : FleetSha Digest where
  binding := digest
  request := digest
  result := digest
  receipt := digest
  reason := digest
  empty := .text ""

end Fleet

import LightConeSpec.Lib.Digest
import LightConeSpec.Pool.Journal

/-!
# Free digests of the records

The digest functions of the receipts and of the journal's events over free
digests. They are injective, so what is proved of every `JournalSha` is about
something, and closed runs of the journal can be computed.
-/

namespace Pool

open Content

instance : Content AssignmentExecutionStatus :=
  ofFields (β := ℕ)
    (fun | .succeeded => 0 | .failed => 1)
    (by rintro ⟨⟩ ⟨⟩ h <;> first | rfl | cases h)

instance : Content DispatchExecutionPhase :=
  ofFields (β := ℕ)
    (fun | .planned => 0 | .running => 1 | .failed => 2 | .complete => 3)
    (by rintro ⟨⟩ ⟨⟩ h <;> first | rfl | cases h)

instance : Content (AssignmentTerminalBinding Digest) :=
  ofFields (fun b => (b.authoritySha256, b.cellId, b.assignmentSha256, b.budgetSha256,
      b.inventorySha256, b.physicalGpuUuids, b.executionPlanSha256, b.dispatchPlanSha256, b.runId,
      b.runNonceSha256, b.files, b.evidence))

instance : Content (FailureEvidence Digest) :=
  ofFields (fun f => (f.exceptionType, f.message, f.assignmentSha256, f.budgetSha256, f.attempt,
      f.startedMonotonicNs, f.finishedMonotonicNs))

instance : Content (AssignmentExecutionReceipt Digest) :=
  ofFields (fun r => (r.planSha256, r.waveSha256, r.assignmentSha256, r.budgetSha256, r.attempt,
      r.status, r.terminalReceiptSha256, r.terminalBinding, r.failureSha256,
      r.priorAttemptReceiptSha256, r.gpuCount, r.fixedInstanceGpuCount,
      r.attemptIntervalsMonotonicNs, r.attributedGpuNs, r.attributedFixedInstanceGpuNs,
      r.accountingSemantics))

instance : Content (DispatchWaveExecutionReceipt Digest) :=
  ofFields (fun r => (r.planSha256, r.waveIndex, r.waveSha256, r.assignmentReceipts,
      r.inventorySha256, r.fixedInstanceGpuCount, r.activeIntervalsMonotonicNs,
      r.fixedInstanceActualBilledGpuNs, r.perAssignmentAttributedGpuNs,
      r.perAssignmentAttributedFixedInstanceGpuNs, r.accountingSemantics))

instance : Content (DispatchScheduleReceipt Digest) :=
  ofFields (fun r => (r.planSha256, r.phase, r.waveReceipts, r.inventorySha256,
      r.fixedInstanceGpuCount, r.activeIntervalsMonotonicNs, r.fixedInstanceActualBilledGpuNs,
      r.perAssignmentAttributedGpuNs, r.perAssignmentAttributedFixedInstanceGpuNs,
      r.priorScheduleReceiptSha256, r.accountingSemantics))

instance : Content (AttemptIdentity Digest) :=
  ofFields (fun i => (i.assignmentSha256, i.budgetSha256, i.retryAllowance, i.gpuUuids,
      i.fixedInstanceGpuCount, i.attempt, i.priorAttemptReceiptSha256))

instance : Content (WavePayload Digest) :=
  ofFields (fun p => (p.priorScheduleReceiptSha256, p.pendingAttempts))

instance : Content NumberType :=
  ofFields (β := ℕ)
    (fun | .int => 0 | .float => 1 | .bool => 2)
    (by rintro ⟨⟩ ⟨⟩ h <;> first | rfl | cases h)

instance : Content AttributedTypes :=
  ofFields (fun t => (t.gpuNs, t.fixedInstanceGpuNs))

instance : Content (AttemptPayload Digest) :=
  ofFields (fun p => (p.identity, p.waveEventSha256, p.startedMonotonicNs, p.finishedMonotonicNs,
      p.intentEventSha256, p.assignmentReceipt, p.attributedTypes))

/-- The type of an event stands before its payload. -/
instance : Content (EventPayload Digest) :=
  ofFields (β := String × Digest)
    (fun
      | .wave payload => ("WAVE", digest payload)
      | .intent payload => ("INTENT", digest payload)
      | .finish payload => ("FINISH", digest payload))
    (by
      rintro (p | p | p) (q | q | q) h <;>
        simp only [Prod.mk.injEq, injective.eq_iff, String.reduceEq, false_and, true_and] at h
      · rw [h]
      · rw [h]
      · rw [h])

instance : Content (JournalEvent Digest) :=
  ofFields (fun e => ((e.schemaVersion, e.kind, e.manifestSha256, e.sequence,
      e.previousEventSha256), e.planSha256, e.executionContextSha256, e.inventorySha256,
      e.waveIndex, e.waveSha256, e.payload))

def freeSha : JournalSha Digest where
  terminalBinding := digest
  failure := digest
  assignmentReceipt := digest
  waveReceipt := digest
  scheduleReceipt := digest
  event := digest
  event_injective := injective

end Pool

import LightConeSpec.Lib.Python

/-!
# Identities of the all-rank publication protocol

The frozen dataclasses of `runtime/distributed.py` that the publication
coordinator reads: topology receipts, update and candidate identities, rank
votes, prepared publications, decisions and decision receipts.

A dataclass whose `__post_init__` rejects values is a structure that carries
the accepted condition; the constructors that the coordinator itself calls
(`PreparedPublication.new`, `PublicationDecision.new`) run the checks in the
order of the source and raise its errors.

`_sha256` of a payload is a constructor of `Digest` applied to that payload:
two digests agree exactly when the hashed payloads do. A digest that this
module did not compute is `Digest.hex`.
-/

namespace Publication

open Python

/-! ## Topology -/

/-- `_REGISTERED_RUNTIME_TOPOLOGIES`, keyed by (tensor, data) parallel size. -/
inductive RuntimeTopologyMode
  | tp1Dp1
  | tp2Dp1
  | tp1Dp2
deriving DecidableEq

/-- `registered_runtime_topology_mode` without its error texts. -/
def registeredRuntimeTopologyMode (tensorParallelSize dataParallelSize nodeCount : Nat) :
    Option RuntimeTopologyMode :=
  if nodeCount ≠ 1 then none
  else match tensorParallelSize, dataParallelSize with
    | 1, 1 => some .tp1Dp1
    | 2, 1 => some .tp2Dp1
    | 1, 2 => some .tp1Dp2
    | _, _ => none

/-- `TopologyIdentity`: the declared identity of one rank. -/
structure TopologyIdentity where
  tensorParallelSize : Nat
  dataParallelSize : Nat
  nodeCount : Nat
  nodeId : String
  nodeRank : Nat
  globalRank : Nat
  localRank : Nat
  tensorParallelRank : Nat
  dataParallelRank : Nat
  deviceId : String
  rendezvousId : String
  routerId : String
  clockId : String
  texts : [nodeId, deviceId, rendezvousId, routerId, clockId].all isCanonicalText = true
  node_rank_lt : nodeRank < nodeCount
  global_rank_lt : globalRank < tensorParallelSize * dataParallelSize
  tensor_rank_lt : tensorParallelRank < tensorParallelSize
  data_rank_lt : dataParallelRank < dataParallelSize
  registered :
    (registeredRuntimeTopologyMode tensorParallelSize dataParallelSize nodeCount).isSome = true
  global_rank_eq : globalRank = dataParallelRank * tensorParallelSize + tensorParallelRank
  host_local : nodeRank = 0 ∧ localRank = globalRank
deriving DecidableEq

def TopologyIdentity.worldSize (t : TopologyIdentity) : Nat :=
  t.tensorParallelSize * t.dataParallelSize

def TopologyIdentity.commonIdentity (t : TopologyIdentity) :
    Nat × Nat × Nat × String × String × String :=
  (t.tensorParallelSize, t.dataParallelSize, t.nodeCount, t.rendezvousId, t.routerId, t.clockId)

/-- `RankTopologyReceipt`: a process-bound observation of one rank identity. -/
@[ext] structure RankTopologyReceipt where
  topology : TopologyIdentity
  processId : String
  observedWorldSize : Nat
  process_text : isCanonicalText processId = true
  observed_eq : observedWorldSize = topology.worldSize

instance : DecidableEq RankTopologyReceipt := fun _ _ =>
  decidable_of_iff' _ RankTopologyReceipt.ext_iff

/-- What `TopologyReceiptSet.__post_init__` accepts. -/
structure CoversTopology (receipts : List RankTopologyReceipt) (first : TopologyIdentity) :
    Prop where
  rank_nodup : (receipts.map (·.topology.globalRank)).Nodup
  rank_mem : ∀ rank, rank ∈ receipts.map (·.topology.globalRank) ↔ rank ∈ List.range first.worldSize
  process_nodup : (receipts.map (·.processId)).Nodup
  common : ∀ r ∈ receipts, r.topology.commonIdentity = first.commonIdentity
  device_nodup : (receipts.map (·.topology.deviceId)).Nodup
  node_ranks : (receipts.map (·.topology.nodeRank)).dedup.length = first.nodeCount
  node_ids : (receipts.map (·.topology.nodeId)).dedup.length = first.nodeCount
  local_nodup : (receipts.map fun r => (r.topology.nodeRank, r.topology.localRank)).Nodup

/-- `TopologyReceiptSet`: exact all-rank topology coverage. The tuple is
non-empty, so its first receipt is a field. -/
structure TopologyReceiptSet where
  first : RankTopologyReceipt
  rest : List RankTopologyReceipt
  covers : CoversTopology (first :: rest) first.topology

variable {rank : Nat} {t : TopologyReceiptSet}

namespace TopologyReceiptSet

/-- The tuple `receipts`. -/
def receipts (t : TopologyReceiptSet) : List RankTopologyReceipt := t.first :: t.rest

def worldSize (t : TopologyReceiptSet) : Nat := t.first.topology.worldSize

/-- `tuple(range(world_size))`. -/
def ranks (t : TopologyReceiptSet) : List Nat := List.range t.worldSize

def receiptForRank (t : TopologyReceiptSet) (rank : Nat) : Except Error RankTopologyReceipt :=
  match t.receipts.find? fun r => r.topology.globalRank == rank with
  | some receipt => .ok receipt
  | none => .error (keyError s!"rank {rank} is outside the topology")

@[simp] theorem mem_ranks : rank ∈ t.ranks ↔ rank < t.worldSize := by
  simp [ranks]

theorem worldSize_pos (t : TopologyReceiptSet) : 0 < t.worldSize := by
  have h := t.first.topology.global_rank_lt
  unfold worldSize TopologyIdentity.worldSize
  omega

/-- Every rank of the topology has its receipt. -/
theorem exists_receiptForRank (t : TopologyReceiptSet) (h : rank < t.worldSize) :
    ∃ receipt, t.receiptForRank rank = .ok receipt := by
  have hmem : rank ∈ t.receipts.map (·.topology.globalRank) :=
    (t.covers.rank_mem rank).mpr (List.mem_range.mpr h)
  obtain ⟨r, hr, hrank⟩ := List.mem_map.mp hmem
  have hsome : (t.receipts.find? fun r => r.topology.globalRank == rank).isSome := by
    rw [List.find?_isSome]
    exact ⟨r, hr, by simp [hrank]⟩
  obtain ⟨receipt, hreceipt⟩ := Option.isSome_iff_exists.mp hsome
  exact ⟨receipt, by simp [receiptForRank, hreceipt]⟩

/-- A receipt that `receipt_for_rank` finds is one of the topology's, and it
has the rank asked for. -/
theorem receiptForRank_ok {receipt : RankTopologyReceipt}
    (h : t.receiptForRank rank = .ok receipt) :
    receipt ∈ t.receipts ∧ receipt.topology.globalRank = rank := by
  unfold receiptForRank at h
  cases hf : t.receipts.find? fun r => r.topology.globalRank == rank with
  | none => simp [hf] at h
  | some r =>
    simp only [hf, Except.ok.injEq] at h
    subst h
    exact ⟨List.mem_of_find?_eq_some hf, by simpa using List.find?_some hf⟩

theorem rank_lt_of_receiptForRank {receipt : RankTopologyReceipt}
    (h : t.receiptForRank rank = .ok receipt) : rank < t.worldSize := by
  obtain ⟨hmem, rfl⟩ := receiptForRank_ok h
  exact List.mem_range.mp ((t.covers.rank_mem _).mp (List.mem_map_of_mem hmem))

end TopologyReceiptSet

/-! ## Digests -/

inductive PrepareDisposition
  | commitReady
  | abortStatic
  | processGroupFailure
deriving DecidableEq

inductive PublicationOutcome
  | commit
  | abortStatic
  | processGroupFailure
deriving DecidableEq

/-- SHA-256 digests of canonical JSON payloads, one constructor for each shape
of payload that `distributed.py` hashes. -/
inductive Digest
  | hex (text : String)
  | rankTopologyReceipt (receipt : RankTopologyReceipt)
  | topology (identities : List TopologyIdentity)
  | updateIdentity (cohort : Digest) (sourceVersion cohortEpoch sequenceNumber : Nat)
      (sourceRows : Digest)
  | publicationCandidate (update : Digest) (bufferGeneration optimizerGeneration : Nat)
  | preparedPublication (update candidate topology : Digest) (disposition : PrepareDisposition)
      (reasons : List String) (ranks : List Nat)
  | publicationDecision (update candidate topology : Digest) (outcome : PublicationOutcome)
      (reasons : List String) (ranks : List Nat)
      (serviceReady admissionAllowed restartRequired : Bool)
deriving DecidableEq

def RankTopologyReceipt.sha256 (r : RankTopologyReceipt) : Digest := .rankTopologyReceipt r

/-- `TopologyReceiptSet.topology_sha256`: it hashes the declared identities in
rank order, not the processes that observed them. -/
def TopologyReceiptSet.topologySha256 (t : TopologyReceiptSet) : Digest :=
  .topology ((sortedBy (fun r : RankTopologyReceipt => r.topology.globalRank) t.receipts).map
    (·.topology))

/-! ## Updates, candidates and votes -/

/-- `UpdateIdentity`: the retry-stable identity of one source update. -/
structure UpdateIdentity where
  cohortSha256 : Digest
  sourceVersion : Nat
  cohortEpoch : Nat
  sequenceNumber : Nat
  sourceRowsSha256 : Digest

def UpdateIdentity.sha256 (u : UpdateIdentity) : Digest :=
  .updateIdentity u.cohortSha256 u.sourceVersion u.cohortEpoch u.sequenceNumber u.sourceRowsSha256

structure PublicationCandidate where
  update : UpdateIdentity
  bufferGeneration : Nat
  optimizerGeneration : Nat

def PublicationCandidate.sha256 (c : PublicationCandidate) : Digest :=
  .publicationCandidate c.update.sha256 c.bufferGeneration c.optimizerGeneration

/-- `RankPrepare`: the prepare vote of one rank. -/
structure RankPrepare where
  rank : Nat
  topologyReceiptSha256 : Digest
  candidateSha256 : Digest
  sourceVersion : Nat
  cohortEpoch : Nat
  bufferGeneration : Nat
  optimizerGeneration : Nat
  ready : Bool
  finite : Bool
  memoryReserved : Bool
  safeBoundary : Bool
  processGroupHealthy : Bool := true
deriving DecidableEq

/-! ## Prepared publications and decisions -/

/-- The reasons of a publication are non-empty, sorted and without duplicates. -/
def CanonicalReasons (reasons : List String) : Prop :=
  reasons ≠ [] ∧ reasons = sortedSet reasons

instance (reasons : List String) : Decidable (CanonicalReasons reasons) :=
  inferInstanceAs (Decidable (_ ∧ _))

/-- The ranks of a publication are `0, .., n - 1` for some `n > 0`. -/
def AllRanks (ranks : List Nat) : Prop :=
  ranks = List.range ranks.length ∧ ranks ≠ []

instance (ranks : List Nat) : Decidable (AllRanks ranks) :=
  inferInstanceAs (Decidable (_ ∧ _))

theorem TopologyReceiptSet.allRanks_ranks (t : TopologyReceiptSet) : AllRanks t.ranks := by
  refine ⟨by simp [ranks], ?_⟩
  have h := t.worldSize_pos
  simp [ranks]
  omega

structure PreparedPublication where
  updateSha256 : Digest
  candidateSha256 : Digest
  topologySha256 : Digest
  disposition : PrepareDisposition
  reasons : List String
  ranks : List Nat
  canonical : CanonicalReasons reasons
  all_ranks : AllRanks ranks
deriving DecidableEq

/-- `PreparedPublication.__post_init__`. -/
def PreparedPublication.new (updateSha256 candidateSha256 topologySha256 : Digest)
    (disposition : PrepareDisposition) (reasons : List String) (ranks : List Nat) :
    Except Error PreparedPublication :=
  if hreasons : CanonicalReasons reasons then
    if hranks : AllRanks ranks then
      .ok ⟨updateSha256, candidateSha256, topologySha256, disposition, reasons, ranks,
        hreasons, hranks⟩
    else .error (valueError "prepared publication requires exact all-rank coverage")
  else .error (valueError "prepared publication reasons must be canonical")

def PreparedPublication.sha256 (p : PreparedPublication) : Digest :=
  .preparedPublication p.updateSha256 p.candidateSha256 p.topologySha256 p.disposition p.reasons
    p.ranks

theorem PreparedPublication.sha256_injective : Function.Injective PreparedPublication.sha256 := by
  rintro ⟨⟩ ⟨⟩ h
  simpa [PreparedPublication.sha256] using h

/-- The service state that a decision may declare: closed, and asking for a
restart exactly when the process group failed. -/
def FailClosed (outcome : PublicationOutcome) (serviceReady admissionAllowed restartRequired : Bool) :
    Prop :=
  (serviceReady, admissionAllowed, restartRequired) =
    if outcome = .processGroupFailure then (false, false, true) else (false, false, false)

instance (o : PublicationOutcome) (a b c : Bool) : Decidable (FailClosed o a b c) :=
  inferInstanceAs (Decidable (_ = _))

structure PublicationDecision where
  updateSha256 : Digest
  candidateSha256 : Digest
  topologySha256 : Digest
  outcome : PublicationOutcome
  reasons : List String
  ranks : List Nat
  serviceReady : Bool
  admissionAllowed : Bool
  restartRequired : Bool
  canonical : CanonicalReasons reasons
  all_ranks : AllRanks ranks
  fail_closed : FailClosed outcome serviceReady admissionAllowed restartRequired
deriving DecidableEq

/-- `PublicationDecision.__post_init__`. -/
def PublicationDecision.new (updateSha256 candidateSha256 topologySha256 : Digest)
    (outcome : PublicationOutcome) (reasons : List String) (ranks : List Nat)
    (serviceReady admissionAllowed restartRequired : Bool) : Except Error PublicationDecision :=
  if hreasons : CanonicalReasons reasons then
    if hranks : AllRanks ranks then
      if hclosed : FailClosed outcome serviceReady admissionAllowed restartRequired then
        .ok ⟨updateSha256, candidateSha256, topologySha256, outcome, reasons, ranks, serviceReady,
          admissionAllowed, restartRequired, hreasons, hranks, hclosed⟩
      else .error (valueError "publication decision service state is not fail-closed")
    else .error (valueError "publication decision requires exact all-rank coverage")
  else .error (valueError "publication decision reasons must be canonical")

def PublicationDecision.sha256 (d : PublicationDecision) : Digest :=
  .publicationDecision d.updateSha256 d.candidateSha256 d.topologySha256 d.outcome d.reasons
    d.ranks d.serviceReady d.admissionAllowed d.restartRequired

theorem PublicationDecision.sha256_injective : Function.Injective PublicationDecision.sha256 := by
  rintro ⟨⟩ ⟨⟩ h
  simpa [PublicationDecision.sha256] using h

/-- `RankDecisionReceipt`: what one rank did with the decision. -/
structure RankDecisionReceipt where
  rank : Nat
  topologyReceiptSha256 : Digest
  decisionSha256 : Digest
  applied : Bool
deriving DecidableEq

end Publication

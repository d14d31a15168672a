import LightConeSpec.Publication.Identity
import LightConeSpec.Lib.Machine
import Mathlib.Data.Finset.Basic

/-!
# The all-rank publication coordinator

`AllRankPublicationCoordinator` of `runtime/distributed.py` as a state machine.
A method takes the coordinator and returns what the call returned or raised,
with the coordinator it leaves behind. `Call` and `step` put the five public
methods into one step function, so that a run is a list of calls with
arbitrary arguments, the raising ones included.
-/

namespace Publication

open Python

/-! ## Decision receipts -/

/-- The body of the receipt loop of `validate_decision_receipts`. -/
def checkReceipt (decision : PublicationDecision) (topology : TopologyReceiptSet)
    (receipt : RankDecisionReceipt) : Except Error Unit :=
  match topology.receiptForRank receipt.rank with
  | .error e => .error e
  | .ok topologyReceipt =>
    if receipt.topologyReceiptSha256 ≠ topologyReceipt.sha256 then
      .error (valueError "publication receipt binds another rank topology")
    else if receipt.decisionSha256 ≠ decision.sha256 then
      .error (valueError "ranks did not observe one publication decision")
    else if receipt.applied ≠ (decision.outcome == .commit) then
      .error (valueError "publication receipt would create a partial model")
    else .ok ()

/-- The receipt loop of `validate_decision_receipts`. -/
def checkReceipts (decision : PublicationDecision) (topology : TopologyReceiptSet) :
    List RankDecisionReceipt → Except Error Unit
  | [] => .ok ()
  | receipt :: rest =>
    match checkReceipt decision topology receipt with
    | .error e => .error e
    | .ok () => checkReceipts decision topology rest

def validateDecisionReceipts (decision : PublicationDecision)
    (receipts : List RankDecisionReceipt) (topology : TopologyReceiptSet) : Except Error Unit :=
  if decision.topologySha256 ≠ topology.topologySha256 then
    .error (valueError "publication decision belongs to another topology")
  else if decision.ranks ≠ topology.ranks then
    .error (valueError "publication decision lacks exact all-rank coverage")
  else if (receipts.map (·.rank)).length ≠ (receipts.map (·.rank)).dedup.length then
    .error (valueError "duplicate publication decision receipt")
  else if (receipts.map (·.rank)).toFinset ≠ topology.ranks.toFinset then
    .error (valueError "publication decision receipts lack all-rank coverage")
  else checkReceipts decision topology receipts

/-! ## The coordinator -/

/-- The attributes of an `AllRankPublicationCoordinator`. -/
structure Coordinator where
  topology : TopologyReceiptSet
  serviceReady : Bool
  admissionAllowed : Bool
  restartRequired : Bool
  pending : Option PreparedPublication
  pendingDecision : Option PublicationDecision
  consumedUpdates : Finset Digest

/-- The nine checks of one vote against the candidate, with their reasons. -/
def voteChecks (candidate : PublicationCandidate) (vote : RankPrepare) : List (Bool × String) :=
  [(vote.candidateSha256 == candidate.sha256, "candidate_identity"),
   (vote.sourceVersion == candidate.update.sourceVersion, "source_version"),
   (vote.cohortEpoch == candidate.update.cohortEpoch, "cohort_epoch"),
   (vote.bufferGeneration == candidate.bufferGeneration, "buffer_generation"),
   (vote.optimizerGeneration == candidate.optimizerGeneration, "optimizer_generation"),
   (vote.ready, "readiness"),
   (vote.finite, "finiteness"),
   (vote.memoryReserved, "memory_reservation"),
   (vote.safeBoundary, "safe_boundary")]

def voteProcessFailures (receipt : RankTopologyReceipt) (vote : RankPrepare) : List String :=
  (if vote.topologyReceiptSha256 ≠ receipt.sha256 then
    [s!"rank_{vote.rank}:topology_receipt_mismatch"] else []) ++
  (if vote.processGroupHealthy then [] else [s!"rank_{vote.rank}:process_group_failed"])

def voteInvalid (candidate : PublicationCandidate) (vote : RankPrepare) : List String :=
  ((voteChecks candidate vote).filter fun check => !check.1).map fun check =>
    s!"rank_{vote.rank}:{check.2}"

/-- The vote loop of `prepare`: process failures and invalid checks, in the
order of the votes. Votes of unknown ranks are skipped. -/
def inspectVotes (topology : TopologyReceiptSet) (candidate : PublicationCandidate) :
    List RankPrepare → Except Error (List String × List String)
  | [] => .ok ([], [])
  | vote :: rest =>
    if vote.rank ∉ topology.ranks then inspectVotes topology candidate rest
    else match topology.receiptForRank vote.rank with
      | .error e => .error e
      | .ok receipt =>
        match inspectVotes topology candidate rest with
        | .error e => .error e
        | .ok (failures, invalid) =>
          .ok (voteProcessFailures receipt vote ++ failures, voteInvalid candidate vote ++ invalid)

/-- The missing and unexpected ranks that `prepare` reports before it looks at
single votes. -/
def coverageFailures (expected voted : List Nat) : List String :=
  let missing := sortedSet (expected.filter fun rank => rank ∉ voted)
  let unexpected := sortedSet (voted.filter fun rank => rank ∉ expected)
  (if missing = [] then [] else ["missing_ranks:" ++ ",".intercalate (missing.map toString)]) ++
  (if unexpected = [] then []
    else ["unexpected_ranks:" ++ ",".intercalate (unexpected.map toString)])

/-- The precedence at the end of `prepare`: process failures before invalid
votes before readiness. -/
def dispositionOf (processFailures invalid : List String) : PrepareDisposition × List String :=
  if processFailures ≠ [] then (.processGroupFailure, sortedSet processFailures)
  else if invalid ≠ [] then (.abortStatic, sortedSet invalid)
  else (.commitReady, ["all_ranks_prepared"])

/-- `PrepareDisposition` to `PublicationOutcome`, the table of `decide`. -/
def outcomeOf : PrepareDisposition → PublicationOutcome
  | .commitReady => .commit
  | .abortStatic => .abortStatic
  | .processGroupFailure => .processGroupFailure

variable (s : Coordinator)

namespace Coordinator

def init (topology : TopologyReceiptSet) : Coordinator where
  topology := topology
  serviceReady := true
  admissionAllowed := true
  restartRequired := false
  pending := none
  pendingDecision := none
  consumedUpdates := ∅

/-- The prepared publication that `prepare` builds from the votes. -/
def prepared (candidate : PublicationCandidate) (votes : List RankPrepare) :
    Except Error PreparedPublication :=
  match inspectVotes s.topology candidate (sortedBy (·.rank) votes) with
  | .error e => .error e
  | .ok (failures, invalid) =>
    let duplicate :=
      if candidate.update.sha256 ∈ s.consumedUpdates then ["duplicate_update_identity"] else []
    let result := dispositionOf
      (coverageFailures s.topology.ranks (votes.map (·.rank)) ++ failures) (duplicate ++ invalid)
    PreparedPublication.new candidate.update.sha256 candidate.sha256 s.topology.topologySha256
      result.1 result.2 s.topology.ranks

def prepare (s : Coordinator) (candidate : PublicationCandidate) (votes : List RankPrepare) :
    Except Error PreparedPublication × Coordinator :=
  if s.restartRequired then
    (.error (runtimeError "process group restart is required before preparation"), s)
  else if s.pending.isSome ∨ s.pendingDecision.isSome then
    (.error (runtimeError "a publication decision is already pending"), s)
  else if (votes.map (·.rank)).length ≠ (votes.map (·.rank)).dedup.length then
    (.error (valueError "duplicate rank prepare vote"), s)
  else match s.prepared candidate votes with
    | .error e => (.error e, s)
    | .ok p => (.ok p, { s with pending := some p })

/-- `AllRankPublicationCoordinator.decide`. The decision is built from the
argument, not from the stored publication. -/
def decide (prepared : PreparedPublication) : Except Error PublicationDecision × Coordinator :=
  if s.pending.map (·.sha256) ≠ some prepared.sha256 then
    (.error (runtimeError "prepared publication is not the active collective"), s)
  else
    let outcome := outcomeOf prepared.disposition
    let processFailed := outcome == .processGroupFailure
    match PublicationDecision.new prepared.updateSha256 prepared.candidateSha256
        prepared.topologySha256 outcome prepared.reasons prepared.ranks false false
        processFailed with
    | .error e => (.error e, s)
    | .ok decision =>
      (.ok decision,
        { s with
          serviceReady := decision.serviceReady
          admissionAllowed := decision.admissionAllowed
          restartRequired := decision.restartRequired
          pending := none
          pendingDecision := if processFailed then none else some decision
          consumedUpdates :=
            if processFailed then insert prepared.updateSha256 s.consumedUpdates
            else s.consumedUpdates })

def markCollectiveFailed : Coordinator :=
  { s with
    pending := none
    pendingDecision := none
    serviceReady := false
    admissionAllowed := false
    restartRequired := true }

/-- `AllRankPublicationCoordinator.finalize`. Only a `ValueError` of the
receipt validation marks the collective failed; any error is raised again. -/
def finalize (decision : PublicationDecision) (receipts : List RankDecisionReceipt) :
    Except Error Unit × Coordinator :=
  if s.pendingDecision.map (·.sha256) ≠ some decision.sha256 then
    (.error (runtimeError "publication decision is not awaiting finalization"), s)
  else match validateDecisionReceipts decision receipts s.topology with
    | .error e => (.error e, if e.isValueError then s.markCollectiveFailed else s)
    | .ok () =>
      (.ok (),
        { s with
          consumedUpdates := insert decision.updateSha256 s.consumedUpdates
          pendingDecision := none
          serviceReady := true
          admissionAllowed := true
          restartRequired := false })

def markProcessGroupRestarted (topology : TopologyReceiptSet) : Except Error Unit × Coordinator :=
  if ¬ s.restartRequired then
    (.error (runtimeError "no process-group restart is pending"), s)
  else if topology.topologySha256 ≠ s.topology.topologySha256 then
    (.error (valueError "restart topology differs from the failed topology"), s)
  else
    (.ok (),
      { s with
        topology := topology
        serviceReady := true
        admissionAllowed := true
        restartRequired := false
        pendingDecision := none })

end Coordinator

/-! ## Runs -/

/-- One call of a public method, with its arguments. -/
inductive Call
  | prepare (candidate : PublicationCandidate) (votes : List RankPrepare)
  | decide (prepared : PreparedPublication)
  | finalize (decision : PublicationDecision) (receipts : List RankDecisionReceipt)
  | markProcessGroupRestarted (topology : TopologyReceiptSet)
  | markCollectiveFailed

/-- What a call that did not raise returned. -/
inductive Answer
  | prepared (p : PreparedPublication)
  | decided (d : PublicationDecision)
  | done
deriving DecidableEq

def step : Call → Except Error Answer × Coordinator
  | .prepare candidate votes => ((s.prepare candidate votes).1.map .prepared,
      (s.prepare candidate votes).2)
  | .decide p => ((s.decide p).1.map .decided, (s.decide p).2)
  | .finalize d receipts => ((s.finalize d receipts).1.map fun _ => .done, (s.finalize d receipts).2)
  | .markProcessGroupRestarted t => ((s.markProcessGroupRestarted t).1.map fun _ => .done,
      (s.markProcessGroupRestarted t).2)
  | .markCollectiveFailed => (.ok .done, s.markCollectiveFailed)

/-- The steps of a run that begins with a new coordinator. -/
abbrev history (topology : TopologyReceiptSet) (calls : List Call) :
    List (Machine.Event Coordinator Call (Except Error Answer)) :=
  Machine.trace step (Coordinator.init topology) calls

/-! ## What the methods can do

One lemma for each function, so that the proofs about runs never unfold a
method again. -/

variable {topology : TopologyReceiptSet} {receipts : List RankDecisionReceipt}

theorem checkReceipts_ok_iff {decision : PublicationDecision} :
    checkReceipts decision topology receipts = .ok () ↔
      ∀ r ∈ receipts, ∃ t, topology.receiptForRank r.rank = .ok t ∧
        r.topologyReceiptSha256 = t.sha256 ∧ r.decisionSha256 = decision.sha256 ∧
        r.applied = (decision.outcome == .commit) := by
  induction receipts with
  | nil => simp [checkReceipts]
  | cons r rest ih =>
    have hone : checkReceipt decision topology r = .ok () ↔
        ∃ t, topology.receiptForRank r.rank = .ok t ∧ r.topologyReceiptSha256 = t.sha256 ∧
          r.decisionSha256 = decision.sha256 ∧ r.applied = (decision.outcome == .commit) := by
      unfold checkReceipt
      cases ht : topology.receiptForRank r.rank with
      | error e => simp
      | ok t =>
        simp only [Except.ok.injEq]
        split_ifs with h1 h2 h3 <;> simp_all
    rw [List.forall_mem_cons, ← hone, ← ih, checkReceipts]
    cases hc : checkReceipt decision topology r with
    | error e => simp
    | ok u => simp

/-- The receipts that `validate_decision_receipts` accepts. -/
structure AcceptedReceipts (decision : PublicationDecision) (receipts : List RankDecisionReceipt)
    (topology : TopologyReceiptSet) : Prop where
  topology_eq : decision.topologySha256 = topology.topologySha256
  ranks_eq : decision.ranks = topology.ranks
  rank_nodup : (receipts.map (·.rank)).Nodup
  rank_mem : ∀ rank, rank ∈ receipts.map (·.rank) ↔ rank < topology.worldSize
  bound : ∀ r ∈ receipts, ∃ t, topology.receiptForRank r.rank = .ok t ∧
    r.topologyReceiptSha256 = t.sha256 ∧ r.decisionSha256 = decision.sha256 ∧
    r.applied = (decision.outcome == .commit)

theorem validateDecisionReceipts_ok_iff {decision : PublicationDecision} :
    validateDecisionReceipts decision receipts topology = .ok () ↔
      AcceptedReceipts decision receipts topology := by
  have hfin : (receipts.map (·.rank)).toFinset = topology.ranks.toFinset ↔
      ∀ rank, rank ∈ receipts.map (·.rank) ↔ rank < topology.worldSize := by
    simp only [Finset.ext_iff, List.mem_toFinset, TopologyReceiptSet.mem_ranks]
  unfold validateDecisionReceipts
  constructor
  · intro h
    split_ifs at h with h1 h2 h3 h4
    push Not at h1 h2 h3 h4
    exact ⟨h1, h2, length_eq_length_dedup_iff.mp h3, hfin.mp h4, checkReceipts_ok_iff.mp h⟩
  · rintro ⟨h1, h2, h3, h4, h5⟩
    rw [if_neg (by simpa using h1), if_neg (by simpa using h2), 
      if_neg (not_not.mpr (length_eq_length_dedup_iff.mpr h3)), if_neg (not_not.mpr (hfin.mpr h4))]
    exact checkReceipts_ok_iff.mpr h5

theorem checkReceipts_error {decision : PublicationDecision} {e : Error}
    (hranks : ∀ r ∈ receipts, r.rank < topology.worldSize)
    (h : checkReceipts decision topology receipts = .error e) : e.isValueError = true := by
  induction receipts with
  | nil => simp [checkReceipts] at h
  | cons r rest ih =>
    have hrest := fun h => ih (fun x hx => hranks x (by simp [hx])) h
    unfold checkReceipts checkReceipt at h
    obtain ⟨t, ht⟩ := topology.exists_receiptForRank (hranks r (by simp))
    rw [ht] at h
    dsimp only at h
    split_ifs at h with h1 h2 h3
    · cases h; rfl
    · cases h; rfl
    · cases h; rfl
    · exact hrest h

/-- A rejection is always a `ValueError`: the ranks are compared with the
topology before a receipt is looked up. -/
theorem validateDecisionReceipts_error {decision : PublicationDecision} {e : Error}
    (h : validateDecisionReceipts decision receipts topology = .error e) :
    e.isValueError = true := by
  unfold validateDecisionReceipts at h
  split_ifs at h with h1 h2 h3 h4
  · cases h; rfl
  · cases h; rfl
  · cases h; rfl
  · cases h; rfl
  · refine checkReceipts_error ?_ h
    intro r hr
    push Not at h4
    have hmem : r.rank ∈ (receipts.map (·.rank)).toFinset :=
      List.mem_toFinset.mpr (List.mem_map_of_mem hr)
    rw [h4] at hmem
    simpa using hmem

def processFailuresOf (topology : TopologyReceiptSet) (vote : RankPrepare) : List String :=
  match topology.receiptForRank vote.rank with
  | .error _ => []
  | .ok receipt => voteProcessFailures receipt vote

/-- The failed checks of one vote; a vote of an unknown rank is not checked. -/
def invalidOf (topology : TopologyReceiptSet) (candidate : PublicationCandidate)
    (vote : RankPrepare) : List String :=
  if vote.rank < topology.worldSize then voteInvalid candidate vote else []

/-- The vote loop never raises: a rank of the topology has its receipt. -/
theorem inspectVotes_eq (topology : TopologyReceiptSet) (candidate : PublicationCandidate)
    (votes : List RankPrepare) : inspectVotes topology candidate votes =
      .ok (votes.flatMap (processFailuresOf topology),
        votes.flatMap (invalidOf topology candidate)) := by
  induction votes with
  | nil => rfl
  | cons vote rest ih =>
    unfold inspectVotes
    by_cases hrank : vote.rank < topology.worldSize
    · obtain ⟨receipt, hreceipt⟩ := topology.exists_receiptForRank hrank
      rw [if_neg (by simpa using hrank), hreceipt, ih]
      simp [List.flatMap_cons, processFailuresOf, invalidOf, hreceipt, hrank]
    · have hnone : processFailuresOf topology vote = [] := by
        unfold processFailuresOf
        cases hr : topology.receiptForRank vote.rank with
        | error e => rfl
        | ok receipt => exact absurd (TopologyReceiptSet.rank_lt_of_receiptForRank hr) hrank
      rw [if_pos (by simpa using hrank), ih]
      simp [List.flatMap_cons, hnone, invalidOf, hrank]

/-- All process failures that `prepare` collects. -/
def Coordinator.processFailures (votes : List RankPrepare) : List String :=
  coverageFailures s.topology.ranks (votes.map (·.rank)) ++
    (sortedBy (·.rank) votes).flatMap (processFailuresOf s.topology)

/-- All reasons against a commit that `prepare` collects beside the process
failures. -/
def Coordinator.invalidReasons (candidate : PublicationCandidate) (votes : List RankPrepare) :
    List String :=
  (if candidate.update.sha256 ∈ s.consumedUpdates then ["duplicate_update_identity"] else []) ++
    (sortedBy (·.rank) votes).flatMap (invalidOf s.topology candidate)

theorem canonicalReasons_dispositionOf (failures invalid : List String) :
    CanonicalReasons (dispositionOf failures invalid).2 := by
  unfold dispositionOf CanonicalReasons
  split_ifs with hf hi
  · exact ⟨by simpa using hf, (sortedSet_idem failures).symm⟩
  · exact ⟨by simpa using hi, (sortedSet_idem invalid).symm⟩
  · exact ⟨by simp, by decide⟩

/-- The publication that `prepare` builds; its construction never raises. -/
theorem Coordinator.prepared_spec (candidate : PublicationCandidate) (votes : List RankPrepare) :
    ∃ p, s.prepared candidate votes = .ok p ∧ p.updateSha256 = candidate.update.sha256 ∧
      p.candidateSha256 = candidate.sha256 ∧ p.topologySha256 = s.topology.topologySha256 ∧
      p.ranks = s.topology.ranks ∧ (p.disposition, p.reasons) =
        dispositionOf (s.processFailures votes) (s.invalidReasons candidate votes) := by
  unfold prepared
  rw [inspectVotes_eq]
  dsimp only
  unfold PreparedPublication.new
  rw [dif_pos (canonicalReasons_dispositionOf _ _), dif_pos s.topology.allRanks_ranks]
  exact ⟨_, rfl, rfl, rfl, rfl, rfl, rfl⟩

/-! ## The transitions

Every call is one of seven transitions. A raising call leaves the coordinator
as it was, except a `finalize` whose receipts are rejected. -/

/-- The decision that `decide` builds from a prepared publication. -/
def PreparedPublication.decision (p : PreparedPublication) : PublicationDecision where
  updateSha256 := p.updateSha256
  candidateSha256 := p.candidateSha256
  topologySha256 := p.topologySha256
  outcome := outcomeOf p.disposition
  reasons := p.reasons
  ranks := p.ranks
  serviceReady := false
  admissionAllowed := false
  restartRequired := outcomeOf p.disposition == .processGroupFailure
  canonical := p.canonical
  all_ranks := p.all_ranks
  fail_closed := by cases p.disposition <;> rfl

namespace Coordinator

/-- The coordinator after the decision on `p`. -/
def decided (p : PreparedPublication) : Coordinator :=
  { s with
    serviceReady := false
    admissionAllowed := false
    restartRequired := p.decision.outcome == .processGroupFailure
    pending := none
    pendingDecision := if p.decision.outcome = .processGroupFailure then none else some p.decision
    consumedUpdates :=
      if p.decision.outcome = .processGroupFailure then insert p.updateSha256 s.consumedUpdates
      else s.consumedUpdates }

/-- The coordinator after the accepted finalization of `d`. -/
def finalized (d : PublicationDecision) : Coordinator :=
  { s with
    consumedUpdates := insert d.updateSha256 s.consumedUpdates
    pendingDecision := none
    serviceReady := true
    admissionAllowed := true
    restartRequired := false }

def restarted (topology : TopologyReceiptSet) : Coordinator :=
  { s with
    topology := topology
    serviceReady := true
    admissionAllowed := true
    restartRequired := false
    pendingDecision := none }

/-- `prepare` passes its three guards. -/
structure AdmitsPrepare (s : Coordinator) : Prop where
  no_restart : s.restartRequired = false
  no_pending : s.pending = none
  no_decision : s.pendingDecision = none

theorem prepare_eq_of_admits {s : Coordinator} {candidate : PublicationCandidate}
    {votes : List RankPrepare} (hs : s.AdmitsPrepare) (hnd : (votes.map (·.rank)).Nodup) :
    s.prepare candidate votes =
      match s.prepared candidate votes with
      | .error e => (.error e, s)
      | .ok p => (.ok p, { s with pending := some p }) := by
  unfold prepare
  rw [if_neg (by simp [hs.no_restart]), if_neg (by simp [hs.no_pending, hs.no_decision]),
    if_neg (not_not.mpr (length_eq_length_dedup_iff.mpr hnd))]

/-- `prepare` raises and changes nothing, or it stores what it returns. -/
theorem prepare_cases (candidate : PublicationCandidate) (votes : List RankPrepare) :
    (∃ e, e.isException = true ∧ s.prepare candidate votes = (.error e, s)) ∨
    ∃ p, s.AdmitsPrepare ∧ (votes.map (·.rank)).Nodup ∧ s.prepared candidate votes = .ok p ∧
      s.prepare candidate votes = (.ok p, { s with pending := some p }) := by
  by_cases hs : s.AdmitsPrepare
  · by_cases hnd : (votes.map (·.rank)).Nodup
    · obtain ⟨p, hp, _⟩ := s.prepared_spec candidate votes
      right
      refine ⟨p, hs, hnd, hp, ?_⟩
      rw [prepare_eq_of_admits hs hnd, hp]
    · left
      unfold prepare
      rw [if_neg (by simp [hs.no_restart]), if_neg (by simp [hs.no_pending, hs.no_decision]),
        if_pos (fun h => hnd (length_eq_length_dedup_iff.mp h))]
      exact ⟨_, rfl, rfl⟩
  · left
    unfold prepare
    by_cases hr : s.restartRequired
    · rw [if_pos hr]
      exact ⟨_, rfl, rfl⟩
    · -- one of the two slots is taken, or `AdmitsPrepare` would hold
      have hp : s.pending.isSome ∨ s.pendingDecision.isSome := by
        by_contra hnone
        simp only [not_or, Bool.not_eq_true, Option.isSome_eq_false_iff,
          Option.isNone_iff_eq_none] at hnone
        exact hs ⟨by simpa using hr, hnone.1, hnone.2⟩
      rw [if_neg hr, if_pos hp]
      exact ⟨_, rfl, rfl⟩

/-- `decide` accepts exactly the stored publication. -/
theorem decide_eq (p : PreparedPublication) :
    s.decide p = if s.pending = some p then (.ok p.decision, s.decided p)
      else (.error (runtimeError "prepared publication is not the active collective"), s) := by
  have hsame : s.pending.map (·.sha256) = some p.sha256 ↔ s.pending = some p := by
    cases s.pending with
    | none => simp
    | some q =>
      simp only [Option.map_some, Option.some.injEq]
      exact PreparedPublication.sha256_injective.eq_iff
  unfold decide
  by_cases h : s.pending = some p
  · rw [if_neg (not_not.mpr (hsame.mpr h)), if_pos h]
    have hnew : PublicationDecision.new p.updateSha256 p.candidateSha256 p.topologySha256
        (outcomeOf p.disposition) p.reasons p.ranks false false
        (outcomeOf p.disposition == .processGroupFailure) = .ok p.decision := by
      have hclosed := p.decision.fail_closed
      unfold PreparedPublication.decision at hclosed
      unfold PublicationDecision.new
      rw [dif_pos p.canonical, dif_pos p.all_ranks, dif_pos hclosed]
      rfl
    dsimp only
    rw [hnew]
    cases hd : p.disposition <;> simp [decided, PreparedPublication.decision, hd, outcomeOf]
  · rw [if_pos (fun hc => h (hsame.mp hc)), if_neg h]

/-- The three outcomes of `finalize`. -/
theorem finalize_cases (d : PublicationDecision) (receipts : List RankDecisionReceipt) :
    (s.pendingDecision ≠ some d ∧
      ∃ e, e.isException = true ∧ s.finalize d receipts = (.error e, s)) ∨
    (s.pendingDecision = some d ∧ ¬ AcceptedReceipts d receipts s.topology ∧
      ∃ e, e.isException = true ∧ s.finalize d receipts = (.error e, s.markCollectiveFailed)) ∨
    (s.pendingDecision = some d ∧ AcceptedReceipts d receipts s.topology ∧
      s.finalize d receipts = (.ok (), s.finalized d)) := by
  have hsame : s.pendingDecision.map (·.sha256) = some d.sha256 ↔ s.pendingDecision = some d := by
    cases s.pendingDecision with
    | none => simp
    | some q =>
      simp only [Option.map_some, Option.some.injEq]
      exact PublicationDecision.sha256_injective.eq_iff
  unfold finalize
  by_cases h : s.pendingDecision = some d
  · rw [if_neg (not_not.mpr (hsame.mpr h))]
    cases hv : validateDecisionReceipts d receipts s.topology with
    | error e =>
      have he := validateDecisionReceipts_error hv
      refine .inr (.inl ⟨h, ?_, e, isException_of_isValueError he, ?_⟩)
      · intro hacc
        rw [validateDecisionReceipts_ok_iff.mpr hacc] at hv
        cases hv
      · simp [he]
    | ok u => exact .inr (.inr ⟨h, validateDecisionReceipts_ok_iff.mp hv, rfl⟩)
  · rw [if_pos (fun hc => h (hsame.mp hc))]
    exact .inl ⟨h, _, rfl, rfl⟩

/-- `mark_process_group_restarted` raises and changes nothing, or restarts. -/
theorem markProcessGroupRestarted_cases (topology : TopologyReceiptSet) :
    (∃ e, s.markProcessGroupRestarted topology = (.error e, s)) ∨
    (s.restartRequired = true ∧ topology.topologySha256 = s.topology.topologySha256 ∧
      s.markProcessGroupRestarted topology = (.ok (), s.restarted topology)) := by
  unfold markProcessGroupRestarted
  by_cases hr : s.restartRequired
  · by_cases ht : topology.topologySha256 = s.topology.topologySha256
    · rw [if_neg (not_not.mpr hr), if_neg (not_not.mpr ht)]
      exact .inr ⟨hr, ht, rfl⟩
    · rw [if_neg (not_not.mpr hr), if_pos ht]
      exact .inl ⟨_, rfl⟩
  · rw [if_pos hr]
    exact .inl ⟨_, rfl⟩

end Coordinator

inductive Transition (s : Coordinator) : Call → Except Error Answer → Coordinator → Prop
  | raised (c : Call) (e : Error) : Transition s c (.error e) s
  | prepared (candidate : PublicationCandidate) (votes : List RankPrepare)
      (p : PreparedPublication) (admits : s.AdmitsPrepare)
      (nodup : (votes.map (·.rank)).Nodup) (eq : s.prepared candidate votes = .ok p) :
      Transition s (.prepare candidate votes) (.ok (.prepared p)) { s with pending := some p }
  | decided (p : PreparedPublication) (pending : s.pending = some p) :
      Transition s (.decide p) (.ok (.decided p.decision)) (s.decided p)
  | finalized (d : PublicationDecision) (receipts : List RankDecisionReceipt)
      (pending : s.pendingDecision = some d) (accepted : AcceptedReceipts d receipts s.topology) :
      Transition s (.finalize d receipts) (.ok .done) (s.finalized d)
  | rejected (d : PublicationDecision) (receipts : List RankDecisionReceipt) (e : Error)
      (pending : s.pendingDecision = some d)
      (rejected : ¬ AcceptedReceipts d receipts s.topology) :
      Transition s (.finalize d receipts) (.error e) s.markCollectiveFailed
  | restarted (topology : TopologyReceiptSet) (required : s.restartRequired = true)
      (same : topology.topologySha256 = s.topology.topologySha256) :
      Transition s (.markProcessGroupRestarted topology) (.ok .done) (s.restarted topology)
  | markedFailed : Transition s .markCollectiveFailed (.ok .done) s.markCollectiveFailed

/-- The step function takes only these transitions. -/
theorem step_transition (c : Call) : Transition s c (step s c).1 (step s c).2 := by
  cases c with
  | prepare candidate votes =>
    simp only [step]
    rcases s.prepare_cases candidate votes with ⟨e, _, h⟩ | ⟨p, hs, hnd, hp, h⟩
    · rw [h]; exact .raised _ e
    · rw [h]; exact .prepared candidate votes p hs hnd hp
  | decide p =>
    simp only [step, s.decide_eq p]
    by_cases h : s.pending = some p
    · rw [if_pos h]; exact .decided p h
    · rw [if_neg h]; exact .raised _ _
  | finalize d receipts =>
    simp only [step]
    rcases s.finalize_cases d receipts with ⟨_, e, _, h⟩ | ⟨hd, hr, e, _, h⟩ | ⟨hd, ha, h⟩
    · rw [h]; exact .raised _ e
    · rw [h]; exact .rejected d receipts e hd hr
    · rw [h]; exact .finalized d receipts hd ha
  | markProcessGroupRestarted topology =>
    simp only [step]
    rcases s.markProcessGroupRestarted_cases topology with ⟨e, h⟩ | ⟨hr, ht, h⟩
    · rw [h]; exact .raised _ e
    · rw [h]; exact .restarted topology hr ht
  | markCollectiveFailed => exact .markedFailed

end Publication

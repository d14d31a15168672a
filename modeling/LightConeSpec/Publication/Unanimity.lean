import LightConeSpec.Publication.Admission

/-!
# Commit only on unanimity

`prepare` folds many independent conditions over the votes into two reason
lists; `decide` turns the precedence of the lists into an outcome. The lemmas
here say when each list is empty, and from that when `prepare` followed by
`decide` yields COMMIT and when it yields PROCESS_GROUP_FAILURE.
-/

namespace Publication

open Python List

/-- `coordinator.decide(coordinator.prepare(candidate, votes))`. -/
def Coordinator.prepareThenDecide (s : Coordinator) (candidate : PublicationCandidate)
    (votes : List RankPrepare) : Except Error PublicationDecision × Coordinator :=
  match s.prepare candidate votes with
  | (.error e, s') => (.error e, s')
  | (.ok p, s') => s'.decide p

/-- The vote carries the candidate's identity and generations and reports
itself ready on all four counts. -/
structure VoteAgrees (candidate : PublicationCandidate) (vote : RankPrepare) : Prop where
  candidate_identity : vote.candidateSha256 = candidate.sha256
  source_version : vote.sourceVersion = candidate.update.sourceVersion
  cohort_epoch : vote.cohortEpoch = candidate.update.cohortEpoch
  buffer_generation : vote.bufferGeneration = candidate.bufferGeneration
  optimizer_generation : vote.optimizerGeneration = candidate.optimizerGeneration
  readiness : vote.ready = true
  finiteness : vote.finite = true
  memory_reservation : vote.memoryReserved = true
  safe_boundary : vote.safeBoundary = true

def BindsReceipt (topology : TopologyReceiptSet) (vote : RankPrepare) : Prop :=
  ∃ receipt, topology.receiptForRank vote.rank = .ok receipt ∧
    vote.topologyReceiptSha256 = receipt.sha256

/-- The votes on which the coordinator commits. -/
structure Unanimous (s : Coordinator) (candidate : PublicationCandidate)
    (votes : List RankPrepare) : Prop where
  ranks : (votes.map (·.rank)).Perm s.topology.ranks
  binds : ∀ vote ∈ votes, BindsReceipt s.topology vote
  healthy : ∀ vote ∈ votes, vote.processGroupHealthy = true
  agrees : ∀ vote ∈ votes, VoteAgrees candidate vote
  fresh : candidate.update.sha256 ∉ s.consumedUpdates

/-- Some rank is missing, unexpected, unhealthy or foreign to the topology. -/
inductive ProcessFault (topology : TopologyReceiptSet) (votes : List RankPrepare) : Prop
  | missing (rank : Nat) (lt : rank < topology.worldSize) (absent : rank ∉ votes.map (·.rank))
  | unexpected (vote : RankPrepare) (mem : vote ∈ votes) (out : topology.worldSize ≤ vote.rank)
  | unhealthy (vote : RankPrepare) (mem : vote ∈ votes) (bad : vote.processGroupHealthy = false)
  | foreign (vote : RankPrepare) (mem : vote ∈ votes) (receipt : RankTopologyReceipt)
      (found : topology.receiptForRank vote.rank = .ok receipt)
      (other : vote.topologyReceiptSha256 ≠ receipt.sha256)

/-! ## When the reason lists are empty -/

theorem coverageFailures_eq_nil_iff {expected voted : List Nat} :
    coverageFailures expected voted = [] ↔ ∀ rank, rank ∈ voted ↔ rank ∈ expected := by
  have hmissing : sortedSet (expected.filter fun rank => rank ∉ voted) = [] ↔
      ∀ rank ∈ expected, rank ∈ voted := by
    simp
  have hunexpected : sortedSet (voted.filter fun rank => rank ∉ expected) = [] ↔
      ∀ rank ∈ voted, rank ∈ expected := by
    simp
  unfold coverageFailures
  dsimp only
  rw [append_eq_nil_iff]
  constructor
  · rintro ⟨h1, h2⟩ rank
    have hm : ∀ rank ∈ expected, rank ∈ voted := by
      by_contra hne
      rw [if_neg (fun h => hne (hmissing.mp h))] at h1
      cases h1
    have hu : ∀ rank ∈ voted, rank ∈ expected := by
      by_contra hne
      rw [if_neg (fun h => hne (hunexpected.mp h))] at h2
      cases h2
    exact ⟨hu rank, hm rank⟩
  · intro h
    rw [if_pos (hmissing.mpr fun rank => (h rank).mpr),
      if_pos (hunexpected.mpr fun rank => (h rank).mp)]
    exact ⟨rfl, rfl⟩

theorem voteProcessFailures_eq_nil_iff {receipt : RankTopologyReceipt} {vote : RankPrepare} :
    voteProcessFailures receipt vote = [] ↔
      vote.topologyReceiptSha256 = receipt.sha256 ∧ vote.processGroupHealthy = true := by
  unfold voteProcessFailures
  by_cases h1 : vote.topologyReceiptSha256 = receipt.sha256 <;>
    cases h2 : vote.processGroupHealthy <;> simp [h1]

variable {votes : List RankPrepare} {candidate : PublicationCandidate}

theorem voteInvalid_eq_nil_iff {vote : RankPrepare} :
    voteInvalid candidate vote = [] ↔ VoteAgrees candidate vote := by
  unfold voteInvalid
  rw [map_eq_nil_iff, filter_eq_nil_iff]
  constructor
  · intro h
    simp only [voteChecks, forall_mem_cons, Bool.not_eq_true', Bool.not_eq_false,
      beq_iff_eq] at h
    obtain ⟨h1, h2, h3, h4, h5, h6, h7, h8, h9, _⟩ := h
    exact ⟨h1, h2, h3, h4, h5, h6, h7, h8, h9⟩
  · rintro ⟨h1, h2, h3, h4, h5, h6, h7, h8, h9⟩
    simp [voteChecks, h1, h2, h3, h4, h5, h6, h7, h8, h9]

variable {s : Coordinator}

/-- There is a process failure exactly when there is a fault. -/
theorem processFailures_eq_nil_iff :
    s.processFailures votes = [] ↔ ¬ ProcessFault s.topology votes := by
  unfold Coordinator.processFailures
  rw [append_eq_nil_iff, coverageFailures_eq_nil_iff, flatMap_eq_nil_iff]
  constructor
  · rintro ⟨hcover, hvotes⟩ hfault
    -- full coverage leaves every vote a receipt of its own rank
    have hvote : ∀ vote ∈ votes, ∃ receipt, s.topology.receiptForRank vote.rank = .ok receipt ∧
        vote.topologyReceiptSha256 = receipt.sha256 ∧ vote.processGroupHealthy = true := by
      intro vote hmem
      have hlt := (hcover vote.rank).mp (mem_map_of_mem hmem)
      obtain ⟨receipt, hreceipt⟩ := s.topology.exists_receiptForRank (by simpa using hlt)
      have hnil := hvotes vote (mem_sortedBy.mpr hmem)
      simp only [processFailuresOf, hreceipt] at hnil
      exact ⟨receipt, hreceipt, voteProcessFailures_eq_nil_iff.mp hnil⟩
    cases hfault with
    | missing rank lt absent => exact absent ((hcover rank).mpr (by simpa using lt))
    | unexpected vote mem out =>
      obtain ⟨receipt, hreceipt, _⟩ := hvote vote mem
      have hlt := TopologyReceiptSet.rank_lt_of_receiptForRank hreceipt
      omega
    | unhealthy vote mem bad =>
      obtain ⟨receipt, _, _, hhealthy⟩ := hvote vote mem
      rw [bad] at hhealthy
      cases hhealthy
    | foreign vote mem receipt found other =>
      obtain ⟨receipt', hreceipt, hsame, _⟩ := hvote vote mem
      rw [found, Except.ok.injEq] at hreceipt
      subst hreceipt
      exact other hsame
  · intro hsound
    constructor
    · intro rank
      rw [TopologyReceiptSet.mem_ranks]
      constructor
      · intro hmem
        obtain ⟨vote, hvote, rfl⟩ := mem_map.mp hmem
        by_contra hge
        exact hsound (.unexpected vote hvote (by omega))
      · intro hlt
        by_contra habsent
        exact hsound (.missing rank hlt habsent)
    · intro vote hmem
      rw [mem_sortedBy] at hmem
      unfold processFailuresOf
      cases hr : s.topology.receiptForRank vote.rank with
      | error e => rfl
      | ok receipt =>
        rw [voteProcessFailures_eq_nil_iff]
        constructor
        · by_contra hother
          exact hsound (.foreign vote hmem receipt hr hother)
        · by_contra hbad
          exact hsound (.unhealthy vote hmem (by simpa using hbad))

/-- When all votes come from the topology, nothing speaks against the commit
exactly when the update is fresh and every vote agrees. -/
theorem invalidReasons_eq_nil_iff (hranks : ∀ vote ∈ votes, vote.rank < s.topology.worldSize) :
    s.invalidReasons candidate votes = [] ↔
      candidate.update.sha256 ∉ s.consumedUpdates ∧ ∀ vote ∈ votes, VoteAgrees candidate vote := by
  unfold Coordinator.invalidReasons
  rw [append_eq_nil_iff, flatMap_eq_nil_iff]
  have hdup : (if candidate.update.sha256 ∈ s.consumedUpdates then ["duplicate_update_identity"]
      else []) = [] ↔ candidate.update.sha256 ∉ s.consumedUpdates := by
    by_cases h : candidate.update.sha256 ∈ s.consumedUpdates <;> simp [h]
  rw [hdup]
  constructor
  · rintro ⟨hfresh, hvotes⟩
    refine ⟨hfresh, ?_⟩
    intro vote hmem
    have hnil := hvotes vote (mem_sortedBy.mpr hmem)
    rw [invalidOf, if_pos (hranks vote hmem)] at hnil
    exact voteInvalid_eq_nil_iff.mp hnil
  · rintro ⟨hfresh, hvotes⟩
    refine ⟨hfresh, ?_⟩
    intro vote hmem
    rw [mem_sortedBy] at hmem
    rw [invalidOf, if_pos (hranks vote hmem)]
    exact voteInvalid_eq_nil_iff.mpr (hvotes vote hmem)

/-- Unanimity is the absence of both kinds of reasons. -/
theorem unanimous_iff (hnd : (votes.map (·.rank)).Nodup) : Unanimous s candidate votes ↔
      s.processFailures votes = [] ∧ s.invalidReasons candidate votes = [] := by
  have hrange : s.topology.ranks.Nodup := nodup_range
  rw [processFailures_eq_nil_iff]
  constructor
  · intro h
    have hranks : ∀ vote ∈ votes, vote.rank < s.topology.worldSize := by
      intro vote hmem
      simpa using h.ranks.mem_iff.mp (mem_map_of_mem hmem)
    refine ⟨?_, (invalidReasons_eq_nil_iff hranks).mpr ⟨h.fresh, h.agrees⟩⟩
    intro hfault
    cases hfault with
    | missing rank lt absent => exact absent (h.ranks.mem_iff.mpr (by simpa using lt))
    | unexpected vote mem out =>
      have hlt := hranks vote mem
      omega
    | unhealthy vote mem bad =>
      rw [h.healthy vote mem] at bad
      cases bad
    | foreign vote mem receipt found other =>
      obtain ⟨receipt', hreceipt, hsame⟩ := h.binds vote mem
      rw [found, Except.ok.injEq] at hreceipt
      subst hreceipt
      exact other hsame
  · rintro ⟨hsound, hinvalid⟩
    have hranks : ∀ vote ∈ votes, vote.rank < s.topology.worldSize := by
      intro vote hmem
      by_contra hge
      exact hsound (.unexpected vote hmem (by omega))
    obtain ⟨hfresh, hagrees⟩ := (invalidReasons_eq_nil_iff hranks).mp hinvalid
    refine ⟨?_, ?_, ?_, hagrees, hfresh⟩
    · rw [perm_ext_iff_of_nodup hnd hrange]
      intro rank
      rw [TopologyReceiptSet.mem_ranks]
      constructor
      · intro hmem
        obtain ⟨vote, hvote, rfl⟩ := mem_map.mp hmem
        exact hranks vote hvote
      · intro hlt
        by_contra habsent
        exact hsound (.missing rank hlt habsent)
    · intro vote hmem
      obtain ⟨receipt, hreceipt⟩ := s.topology.exists_receiptForRank (hranks vote hmem)
      refine ⟨receipt, hreceipt, ?_⟩
      by_contra hother
      exact hsound (.foreign vote hmem receipt hreceipt hother)
    · intro vote hmem
      by_contra hbad
      exact hsound (.unhealthy vote hmem (by simpa using hbad))

/-! ## The outcome -/

theorem outcomeOf_dispositionOf (failures invalid : List String) :
    outcomeOf (dispositionOf failures invalid).1 = if failures ≠ [] then .processGroupFailure
      else if invalid ≠ [] then .abortStatic else .commit := by
  unfold dispositionOf
  split_ifs <;> rfl

/-- With distinct ranks the two calls always return, with the decision that
the reason lists determine. -/
theorem prepareThenDecide_spec (candidate : PublicationCandidate) (hs : s.AdmitsPrepare)
    (hnd : (votes.map (·.rank)).Nodup) : ∃ p, s.prepared candidate votes = .ok p ∧
      s.prepareThenDecide candidate votes =
        (.ok p.decision, ({ s with pending := some p } : Coordinator).decided p) ∧
      p.decision.outcome =
        if s.processFailures votes ≠ [] then .processGroupFailure
        else if s.invalidReasons candidate votes ≠ [] then .abortStatic else .commit := by
  obtain ⟨p, hp, _, _, _, _, hdisp⟩ := s.prepared_spec candidate votes
  refine ⟨p, hp, ?_, ?_⟩
  · unfold Coordinator.prepareThenDecide
    rw [Coordinator.prepare_eq_of_admits hs hnd, hp]
    dsimp only
    rw [Coordinator.decide_eq, if_pos rfl]
  · rw [← outcomeOf_dispositionOf, ← hdisp]
    rfl

/-- The order of the votes does not matter to `prepare`. -/
theorem Coordinator.prepare_perm (s : Coordinator) (candidate : PublicationCandidate)
    {votes' : List RankPrepare} (hperm : votes.Perm votes') :
    s.prepare candidate votes = s.prepare candidate votes' := by
  have hranks := hperm.map (·.rank)
  have hlen : (votes.map (·.rank)).length = (votes.map (·.rank)).dedup.length ↔
      (votes'.map (·.rank)).length = (votes'.map (·.rank)).dedup.length := by
    rw [length_eq_length_dedup_iff, length_eq_length_dedup_iff]
    exact hranks.nodup_iff
  unfold Coordinator.prepare
  by_cases hnd : (votes.map (·.rank)).Nodup
  · -- distinct ranks: sorting forgets the order, the rank sets are equal
    have hcover : coverageFailures s.topology.ranks (votes.map (·.rank)) =
        coverageFailures s.topology.ranks (votes'.map (·.rank)) := by
      have hmissing : sortedSet (s.topology.ranks.filter fun rank => rank ∉ votes.map (·.rank)) =
          sortedSet (s.topology.ranks.filter fun rank => rank ∉ votes'.map (·.rank)) := by
        apply sortedSet_congr
        intro rank
        simp only [mem_filter, hranks.mem_iff]
      have hunexpected : sortedSet ((votes.map (·.rank)).filter fun rank => rank ∉ s.topology.ranks)
          = sortedSet ((votes'.map (·.rank)).filter fun rank => rank ∉ s.topology.ranks) := by
        apply sortedSet_congr
        intro rank
        simp only [mem_filter, hranks.mem_iff]
      unfold coverageFailures
      dsimp only
      rw [hmissing, hunexpected]
    have hprepared : s.prepared candidate votes = s.prepared candidate votes' := by
      unfold Coordinator.prepared
      rw [sortedBy_congr hnd hperm, hcover]
    simp only [hlen, ne_eq, hprepared]
  · have hnd' : ¬ (votes.map (·.rank)).length = (votes.map (·.rank)).dedup.length :=
      fun h => hnd (length_eq_length_dedup_iff.mp h)
    have hnd'' : ¬ (votes'.map (·.rank)).length = (votes'.map (·.rank)).dedup.length :=
      fun h => hnd' (hlen.mpr h)
    rw [if_pos hnd', if_pos hnd'']

/-- The law of `prepare` followed by `decide`, for every admitting state and
every tuple of votes. -/
theorem commit_iff_unanimous (s : Coordinator) (hs : s.AdmitsPrepare)
    (candidate : PublicationCandidate) (votes : List RankPrepare) :
    ((∃ d, (s.prepareThenDecide candidate votes).1 = .ok d ∧ d.outcome = .commit) ↔
      Unanimous s candidate votes) ∧
    ((votes.map (·.rank)).Nodup →
      ((∃ d, (s.prepareThenDecide candidate votes).1 = .ok d ∧
          d.outcome = .processGroupFailure) ↔ ProcessFault s.topology votes) ∧
      ((s.prepareThenDecide candidate votes).2.restartRequired = true ↔
        ProcessFault s.topology votes)) ∧
    (¬ (votes.map (·.rank)).Nodup →
      s.prepareThenDecide candidate votes =
        (.error (valueError "duplicate rank prepare vote"), s)) ∧
    ∀ votes', votes.Perm votes' →
      s.prepareThenDecide candidate votes' = s.prepareThenDecide candidate votes := by
  have hraise : ¬ (votes.map (·.rank)).Nodup → s.prepareThenDecide candidate votes =
      (.error (valueError "duplicate rank prepare vote"), s) := by
    intro hnd
    unfold Coordinator.prepareThenDecide Coordinator.prepare
    rw [if_neg (by simp [hs.no_restart]), if_neg (by simp [hs.no_pending, hs.no_decision]),
      if_pos (fun h => hnd (length_eq_length_dedup_iff.mp h))]
  refine ⟨?_, ?_, hraise, ?_⟩
  · -- a repeated rank raises, and is no unanimity either
    by_cases hnd : (votes.map (·.rank)).Nodup
    · obtain ⟨p, _, hrun, houtcome⟩ := prepareThenDecide_spec candidate hs hnd
      rw [unanimous_iff hnd, hrun]
      simp only [Except.ok.injEq, exists_eq_left', houtcome]
      split_ifs with h1 h2 <;> simp_all
    · constructor
      · rintro ⟨d, hd, _⟩
        rw [hraise hnd] at hd
        cases hd
      · intro h
        exact absurd (h.ranks.nodup_iff.mpr List.nodup_range) hnd
  · intro hnd
    obtain ⟨p, _, hrun, houtcome⟩ := prepareThenDecide_spec candidate hs hnd
    have hfault : p.decision.outcome = .processGroupFailure ↔ ProcessFault s.topology votes := by
      rw [houtcome, ← not_iff_not, ← processFailures_eq_nil_iff]
      split_ifs with h1 h2 <;> simp_all
    rw [hrun]
    constructor
    · simpa using hfault
    · simpa [Coordinator.decided] using hfault
  · intro votes' hperm
    unfold Coordinator.prepareThenDecide
    rw [s.prepare_perm candidate hperm]

theorem commit_iff_unanimous_pair :
    (Coordinator.init pairTopology).AdmitsPrepare ∧
      Unanimous (Coordinator.init pairTopology) firstCandidate pairVotes := by
  have hs : (Coordinator.init pairTopology).AdmitsPrepare := ⟨rfl, rfl, rfl⟩
  refine ⟨hs, ?_⟩
  rw [← (commit_iff_unanimous _ hs firstCandidate pairVotes).1]
  exact ⟨pairPrepared.decision, by decide, by decide⟩

end Publication

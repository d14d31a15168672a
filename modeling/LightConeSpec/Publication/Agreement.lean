import LightConeSpec.Publication.Transport

/-!
# Agreement of the replicated coordinators

Between two rounds the ranks are synchronized: either no rank has a decision
awaiting finalization, or all ranks have the same one and their topology
receipts agree. The second half is what the votes establish: a decision other
than PROCESS_GROUP_FAILURE means that each vote binds the receipt of its rank
on every rank.
-/

namespace Publication

open Python Machine

variable {n : Nat}

structure SameReceipts (t t' : TopologyReceiptSet) : Prop where
  topology : t.topologySha256 = t'.topologySha256
  world_size : t.worldSize = t'.worldSize
  receipt : ∀ rank, t.receiptForRank rank = t'.receiptForRank rank

theorem SameReceipts.accepted {t t' : TopologyReceiptSet} (h : SameReceipts t t')
    {d : PublicationDecision} {receipts : List RankDecisionReceipt}
    (ha : AcceptedReceipts d receipts t) : AcceptedReceipts d receipts t' := by
  constructor
  · rw [ha.topology_eq, h.topology]
  · rw [ha.ranks_eq]
    unfold TopologyReceiptSet.ranks
    rw [h.world_size]
  · exact ha.rank_nodup
  · intro rank
    rw [ha.rank_mem rank, h.world_size]
  · intro r hr
    rw [← h.receipt]
    exact ha.bound r hr

variable {votes : List RankPrepare}

/-- Votes without a process fault on two topologies bind the receipts of both. -/
theorem sameReceipts_of_not_fault {t t' : TopologyReceiptSet}
    (htopology : t.topologySha256 = t'.topologySha256) (hsize : t.worldSize = t'.worldSize)
    (hvotes : ¬ ProcessFault t votes) (hvotes' : ¬ ProcessFault t' votes) : SameReceipts t t' := by
  refine ⟨htopology, hsize, ?_⟩
  intro rank
  by_cases hlt : rank < t.worldSize
  · obtain ⟨r, hr⟩ := t.exists_receiptForRank hlt
    obtain ⟨r', hr'⟩ := t'.exists_receiptForRank (hsize ▸ hlt)
    have hvoted : rank ∈ votes.map (·.rank) := by
      by_contra habsent
      exact hvotes (.missing rank hlt habsent)
    obtain ⟨vote, hmem, rfl⟩ := List.mem_map.mp hvoted
    have hbinds : vote.topologyReceiptSha256 = r.sha256 := by
      by_contra hother
      exact hvotes (.foreign vote hmem r hr hother)
    have hbinds' : vote.topologyReceiptSha256 = r'.sha256 := by
      by_contra hother
      exact hvotes' (.foreign vote hmem r' hr' hother)
    have hreceipt : r = r' := by
      have hsha := hbinds.symm.trans hbinds'
      simpa [RankTopologyReceipt.sha256] using hsha
    rw [hr, hr', hreceipt]
  · -- outside the topology both lookups raise the same error
    have houtside : ∀ t : TopologyReceiptSet, ¬ rank < t.worldSize →
        t.receiptForRank rank = .error (keyError s!"rank {rank} is outside the topology") := by
      intro t hge
      cases hr : t.receiptForRank rank with
      | ok r => exact absurd (TopologyReceiptSet.rank_lt_of_receiptForRank hr) hge
      | error e =>
        unfold TopologyReceiptSet.receiptForRank at hr
        cases hf : t.receipts.find? fun r => r.topology.globalRank == rank with
        | some r => simp [hf] at hr
        | none => simpa [hf] using hr.symm
    rw [houtside t hlt, houtside t' (hsize ▸ hlt)]

/-- The state of the ranks between two rounds. -/
structure Synchronized
    (past : List (RoundEvent n))
    (ts : Fin n → Transport) : Prop where
  world_size : ∀ i, (ts i).topology.worldSize = n
  local_rank : ∀ i, (ts i).localRank = i
  topology : ∀ i, (ts i).coordinator.topology = (ts i).topology
  admission : ∀ i, AdmissionInvariant (ts i).coordinator
  idle : ∀ i, (ts i).coordinator.pending = none
  shared : ∀ i d, (ts i).coordinator.pendingDecision = some d →
    ∀ j, (ts j).coordinator.pendingDecision = some d ∧
      SameReceipts (ts i).topology (ts j).topology
  logs : ∀ i j, (ts i).coordinator.restartRequired = false →
    (ts j).coordinator.restartRequired = false → finalizedBy i past = finalizedBy j past

theorem synchronized_start (deployment : Deployment n) : Synchronized [] deployment.start where
  world_size := deployment.world_size
  local_rank _ := rfl
  topology _ := rfl
  admission i := admissionInvariant_init (deployment.topology i)
  idle _ := rfl
  shared i d h := by cases h
  logs _ _ _ _ := rfl

theorem finalizedBy_concat (i : Fin n) (past : List (RoundEvent n)) (e : RoundEvent n) :
    finalizedBy i (past ++ [e]) = finalizedBy i past ++ (finalizedIn i e).toList := by
  unfold finalizedBy
  rw [List.filterMap_append]
  cases h : finalizedIn i e <;> simp [h]

variable {past : List (RoundEvent n)} {ts : Fin n → Transport}

/-- A round after which no decision is pending and each rank is closed or was
left as it was keeps the ranks synchronized, if it finalized nothing. -/
theorem Synchronized.of_left (h : Synchronized past ts) {e : RoundEvent n}
    {out : Fin n → Coordinator}
    (hleft : ∀ i, out i = (ts i).coordinator ∧ (ts i).coordinator.pendingDecision = none ∨
      Closed (out i) ∧ (out i).topology = (ts i).coordinator.topology)
    (hnone : ∀ i, finalizedIn i e = none) :
    Synchronized (past ++ [e]) fun i => (ts i).setCoordinator (out i) := by
  have hdecision : ∀ i, (out i).pendingDecision = none := by
    intro i
    rcases hleft i with ⟨heq, hd⟩ | ⟨hc, _⟩
    · rw [heq, hd]
    · exact hc.no_decision
  -- a rank that has left was not waiting for a restart before
  have hopen : ∀ i, (out i).restartRequired = false →
      (ts i).coordinator.restartRequired = false := by
    intro i hr
    rcases hleft i with ⟨heq, _⟩ | ⟨hc, _⟩
    · rw [← heq]
      exact hr
    · rw [hc.restart] at hr
      cases hr
  constructor
  · exact h.world_size
  · exact h.local_rank
  · intro i
    rcases hleft i with ⟨heq, _⟩ | ⟨_, ht⟩
    · simp only [Transport.setCoordinator_coordinator, Transport.setCoordinator_topology, heq]
      exact h.topology i
    · simp only [Transport.setCoordinator_coordinator, Transport.setCoordinator_topology, ht]
      exact h.topology i
  · intro i
    rcases hleft i with ⟨heq, _⟩ | ⟨hc, _⟩
    · rw [Transport.setCoordinator_coordinator, heq]
      exact h.admission i
    · exact hc.admissionInvariant
  · intro i
    rcases hleft i with ⟨heq, _⟩ | ⟨hc, _⟩
    · rw [Transport.setCoordinator_coordinator, heq]
      exact h.idle i
    · exact hc.no_pending
  · intro i d hd
    rw [Transport.setCoordinator_coordinator, hdecision i] at hd
    cases hd
  · intro i j hi hj
    -- no rank finalizes in this event
    rw [finalizedBy_concat, finalizedBy_concat, hnone i, hnone j]
    rw [h.logs i j (hopen i hi) (hopen j hj)]

/-! ## Prepare rounds -/

/-- A decision that leaves no restart due was made without a process fault. -/
theorem not_fault_of_prepared {s : Coordinator} {candidate : PublicationCandidate}
    {p : PreparedPublication} (hp : s.prepared candidate votes = .ok p)
    (hd : p.decision.outcome ≠ .processGroupFailure) :
    p.topologySha256 = s.topology.topologySha256 ∧ ¬ ProcessFault s.topology votes := by
  obtain ⟨q, hq, _, _, htopology, _, hdisp⟩ := s.prepared_spec candidate votes
  rw [hp, Except.ok.injEq] at hq
  subst hq
  refine ⟨htopology, ?_⟩
  rw [← processFailures_eq_nil_iff]
  by_contra hfail
  apply hd
  show outcomeOf p.disposition = .processGroupFailure
  rw [show p.disposition =
    (dispositionOf (s.processFailures votes) (s.invalidReasons candidate votes)).1 by rw [← hdisp]]
  rw [outcomeOf_dispositionOf, if_pos hfail]

/-- A round in which all ranks made one decision leaves it pending on all of
them, or on none. -/
theorem Synchronized.of_decided {ts' : Fin n → Transport} (h : Synchronized past ts)
    {e : RoundEvent n} (hlog : ∀ i, finalizedIn i e = none) {args : Fin n → PrepareArgs}
    {p : Fin n → PreparedPublication} (hsame : ∀ i j, (p i).decision = (p j).decision)
    (hadmits : ∀ i, (ts i).coordinator.AdmitsPrepare)
    (hprepared : ∀ i, (ts i).coordinator.prepared (args i).candidate votes = .ok (p i))
    (hpost : ∀ i, ts' i = (ts i).setCoordinator ((ts i).coordinator.decided (p i))) :
    Synchronized (past ++ [e]) ts' := by
  constructor
  · intro i
    simpa [hpost i] using h.world_size i
  · intro i
    simpa [hpost i] using h.local_rank i
  · intro i
    simpa [hpost i, Coordinator.decided] using h.topology i
  · intro i
    rw [hpost i]
    exact admissionInvariant_decided _ _
  · intro i
    rw [hpost i]
    rfl
  · intro i d hd j
    rw [hpost i, Transport.setCoordinator_coordinator] at hd
    have houtcome : (p i).decision.outcome ≠ .processGroupFailure := by
      intro hfail
      simp [Coordinator.decided, hfail] at hd
    have hdecision : (p i).decision = d := by
      simpa [Coordinator.decided, houtcome] using hd
    constructor
    · rw [hpost j, Transport.setCoordinator_coordinator]
      simp only [Coordinator.decided, hsame j i]
      rw [if_neg houtcome, hdecision]
    · -- the same votes bind the receipts of both ranks
      obtain ⟨hi, hfi⟩ := not_fault_of_prepared (hprepared i) houtcome
      obtain ⟨hj, hfj⟩ := not_fault_of_prepared (hprepared j) (hsame i j ▸ houtcome)
      rw [h.topology i] at hi hfi
      rw [h.topology j] at hj hfj
      have htopology : (p i).topologySha256 = (p j).topologySha256 :=
        congrArg PublicationDecision.topologySha256 (hsame i j)
      rw [hi, hj] at htopology
      have hsize : (ts i).topology.worldSize = (ts j).topology.worldSize := by
        rw [h.world_size i, h.world_size j]
      rw [hpost i, hpost j]
      exact sameReceipts_of_not_fault htopology hsize hfi hfj
  · intro i j _ _
    rw [finalizedBy_concat, finalizedBy_concat, hlog i, hlog j,
      h.logs i j (hadmits i).no_restart (hadmits j).no_restart]

/-- A prepare round keeps the ranks synchronized and returns one decision. -/
theorem Synchronized.prepare (h : Synchronized past ts) (args : Fin n → PrepareArgs)
    (votes digests : Bool) (henter : EntersRound ts (.prepareAndDecide args votes digests)) :
    AgreedRound (event roundStep ts (.prepareAndDecide args votes digests)) ∧
    Synchronized (past ++ [event roundStep ts (.prepareAndDecide args votes digests)])
      (roundStep ts (.prepareAndDecide args votes digests)).2 := by
  have hlog : ∀ i, finalizedIn i (event roundStep ts (.prepareAndDecide args votes digests)) =
      none := by
    intro i
    simp only [finalizedIn, event, roundStep]
    cases (prepareRound ts args votes digests i).1 <;> rfl
  rcases prepareRound_cases ts args votes digests with ⟨p, hsame, hall⟩ | hleft
  · constructor
    · intro i d hd j
      refine ⟨(p j).decision, ?_, ?_⟩
      · simp [event, roundStep, (hall j).2.2, Except.map]
      · simp only [event, roundStep, (hall i).2.2, Except.map, Except.ok.injEq,
          Returned.decided.injEq] at hd
        rw [← hd, hsame i j]
    · exact h.of_decided hlog hsame (fun i => (hall i).1) (fun i => (hall i).2.1)
        (fun i => by simp [roundStep, (hall i).2.2])
  · constructor
    · intro i d hd
      obtain ⟨⟨e, he⟩, _⟩ := hleft i
      simp [event, roundStep, he, Except.map] at hd
    · apply h.of_left _ hlog
      intro i
      obtain ⟨_, ⟨hout, heq⟩ | hclosed⟩ := hleft i
      · left
        refine ⟨heq, ?_⟩
        by_contra hpending
        exact hout (henter i hpending)
      · exact .inr hclosed

/-! ## Finalize rounds -/

/-- When one rank finalizes, all ranks do, and the same decision. -/
theorem Synchronized.finalizes_all (h : Synchronized past ts) {args : Fin n → FinalizeArgs}
    {delivered : Bool} {i : Fin n} {r : Fin n → RankDecisionReceipt}
    (hi : Finalizes ts args delivered i r) (j : Fin n) :
    (args j).decision = (args i).decision ∧ Finalizes ts args delivered j r := by
  obtain ⟨hpending, hreceipts⟩ := h.shared i (args i).decision hi.pending j
  have hdecision : (args j).decision = (args i).decision := by
    apply PublicationDecision.sha256_injective
    obtain ⟨_, _, _, hbinds, _⟩ := hi.accepted.bound (r j) (List.mem_ofFn.mpr ⟨j, rfl⟩)
    rw [← hbinds]
    exact (enterFinalize_ok (hi.sent j)).2.symm
  refine ⟨hdecision, hi.delivered, hi.sent, ?_, ?_⟩
  · rw [hpending, hdecision]
  · have haccepted := hi.accepted
    rw [h.topology i] at haccepted
    rw [h.topology j, hdecision]
    exact hreceipts.accepted haccepted

/-- A finalize round finalizes one decision on all ranks or closes them all. -/
theorem Synchronized.finalize (h : Synchronized past ts) (args : Fin n → FinalizeArgs)
    (delivered : Bool) (henter : EntersRound ts (.finalize args delivered)) :
    AgreedRound (event roundStep ts (.finalize args delivered)) ∧
    Synchronized (past ++ [event roundStep ts (.finalize args delivered)])
      (roundStep ts (.finalize args delivered)).2 := by
  by_cases hsome : ∃ i r, Finalizes ts args delivered i r
  · -- one rank finalizes, so all of them do
    obtain ⟨i₀, r, hi₀⟩ := hsome
    have hround : ∀ j, ∃ receipts, finalizeRound ts args delivered j =
        (.ok receipts, (ts j).coordinator.finalized (args j).decision) := by
      intro j
      rcases finalizeRound_cases ts args delivered j with ⟨r', _, hr'⟩ | ⟨hnone, _⟩
      · exact ⟨_, hr'⟩
      · exact absurd ⟨r, (h.finalizes_all hi₀ j).2⟩ hnone
    have hlog : ∀ j, finalizedIn j (event roundStep ts (.finalize args delivered)) =
        some (args i₀).decision.sha256 := by
      intro j
      obtain ⟨receipts, hj⟩ := hround j
      simp [finalizedIn, event, roundStep, hj, Except.map, (h.finalizes_all hi₀ j).1]
    have hpost : ∀ j, (roundStep ts (.finalize args delivered)).2 j =
        (ts j).setCoordinator ((ts j).coordinator.finalized (args j).decision) := by
      intro j
      obtain ⟨receipts, hj⟩ := hround j
      simp [roundStep, hj]
    constructor
    · intro j x hx
      obtain ⟨receipts, hj⟩ := hround j
      simp [event, roundStep, hj, Except.map] at hx
    · constructor
      · intro j
        rw [hpost j]
        exact h.world_size j
      · intro j
        rw [hpost j]
        exact h.local_rank j
      · intro j
        rw [hpost j]
        exact h.topology j
      · intro j
        rw [hpost j]
        exact admissionInvariant_finalized _
      · intro j
        rw [hpost j]
        exact h.idle j
      · intro j d hd
        rw [hpost j] at hd
        cases hd
      · -- every rank had the decision pending, so none needed a restart
        have hopen : ∀ j, (ts j).coordinator.restartRequired = false := by
          intro j
          have hpending := (h.finalizes_all hi₀ j).2.pending
          by_contra hr
          have hnone := ((h.admission j).restart_clears (by simpa using hr)).2
          rw [hpending] at hnone
          cases hnone
        intro j k _ _
        rw [finalizedBy_concat, finalizedBy_concat, hlog j, hlog k, h.logs j k (hopen j) (hopen k)]
  · -- no rank finalizes: the ranks without a live group were closed before
    have hraise : ∀ j, ∃ x, (finalizeRound ts args delivered j).1 = .error x := by
      intro j
      rcases finalizeRound_cases ts args delivered j with ⟨r, hr, _⟩ | ⟨_, e, he, _⟩
      · exact absurd ⟨j, r, hr⟩ hsome
      · exact ⟨e, he⟩
    have hrestart : ∀ j, (ts j).distributed (args j).view n j ≠ .ok () →
        (ts j).coordinator.restartRequired = true := by
      intro j hdown
      by_contra hr
      exact hdown (henter j (by simpa using hr))
    constructor
    · intro i x _ j
      rcases finalizeRound_cases ts args delivered j with ⟨r, hr, _⟩ | ⟨_, e, _, hleft⟩
      · exact absurd ⟨j, r, hr⟩ hsome
      · simp only [event, roundStep, Transport.setCoordinator_coordinator]
        rcases hleft with ⟨hdown, heq⟩ | ⟨hclosed, _⟩
        · have hr := hrestart j hdown
          rw [heq]
          refine ⟨hr, ?_⟩
          by_contra hready
          have hiff := (h.admission j).ready_iff.mp (by simpa using hready)
          rw [hr] at hiff
          cases hiff.2
        · exact ⟨hclosed.restart, hclosed.not_ready⟩
    · apply h.of_left
      · intro j
        rcases finalizeRound_cases ts args delivered j with ⟨r, hr, _⟩ | ⟨_, e, _, hleft⟩
        · exact absurd ⟨j, r, hr⟩ hsome
        · rcases hleft with ⟨hdown, heq⟩ | hclosed
          · exact .inl ⟨heq, ((h.admission j).restart_clears (hrestart j hdown)).2⟩
          · exact .inr hclosed
      · intro j
        obtain ⟨x, hx⟩ := hraise j
        simp [finalizedIn, event, roundStep, hx, Except.map]

/-! ## Runs -/

/-- The ranks of a run agree when no rank is left behind by a round that it
did not enter. -/
theorem rank_agreement (deployment : Deployment n) (inputs : List (Round n))
    (henter : ∀ e ∈ deployment.rounds inputs, EntersRound e.pre e.input) :
    RankAgreement deployment inputs := by
  have hstep : ∀ (past : List (RoundEvent n)) (ts : Fin n → Transport) (i : Round n),
      ((∀ e ∈ past, AgreedRound e) ∧ Synchronized past ts) →
      EntersRound ts i → (∀ e ∈ past ++ [event roundStep ts i], AgreedRound e) ∧
        Synchronized (past ++ [event roundStep ts i]) (roundStep ts i).2 := by
    rintro past ts i ⟨hpast, hsync⟩ hi
    have hround : AgreedRound (event roundStep ts i) ∧
        Synchronized (past ++ [event roundStep ts i]) (roundStep ts i).2 := by
      cases i with
      | prepareAndDecide args votes digests => exact hsync.prepare args votes digests hi
      | finalize args delivered => exact hsync.finalize args delivered hi
    refine ⟨?_, hround.2⟩
    intro e he
    rcases List.mem_append.mp he with hp | hl
    · exact hpast e hp
    · rw [List.mem_singleton] at hl
      rw [hl]
      exact hround.1
  have hrun := @trace_induction _ _ _ roundStep
    (fun past ts => (∀ e ∈ past, AgreedRound e) ∧ Synchronized past ts)
    (fun ts i => EntersRound ts i) hstep deployment.start []
    ⟨by simp, synchronized_start deployment⟩ inputs henter
  rw [List.nil_append] at hrun
  refine ⟨hrun.1, ?_⟩
  intro i j hi hj
  have hsync := hrun.2
  exact hsync.logs i j ((hsync.admission i).ready_iff.mp hi).2
    ((hsync.admission j).ready_iff.mp hj).2

/-! ### Two ranks -/

def pairDeployment : Deployment 2 where
  topology _ := pairTopology
  world_size _ := rfl

def liveView : GroupView := ⟨true, true, "gloo"⟩

/-- The arguments of a rank that votes for the update as rank `voter`. -/
def pairArgs (voter : Fin 2) : PrepareArgs where
  candidate := firstCandidate
  localVote := pairVote voter
  view := liveView

/-- Both ranks decide and finalize. -/
def agreeingRun : List (Round 2) :=
  [.prepareAndDecide pairArgs true true,
    .finalize (fun _ => ⟨pairPrepared.decision, true, liveView⟩) true]

theorem rank_agreement_pair :
    RankAgreement pairDeployment agreeingRun ∧
      finalizedBy 0 (pairDeployment.rounds agreeingRun) = [pairPrepared.decision.sha256] := by
  constructor
  · refine rank_agreement pairDeployment agreeingRun ?_
    intro e he
    simp only [agreeingRun, Deployment.rounds, trace_cons, trace_nil, List.mem_cons,
      List.not_mem_nil, or_false] at he
    rcases he with rfl | rfl
    · intro i _
      exact ⟨(pairArgs i).localVote, by revert i; decide⟩
    · intro i _
      revert i
      decide
  · decide

/-- Both ranks decide; then rank 0 enters a prepare round with the vote of
rank 1, keeps its pending decision, and finalizes it alone. -/
def splitRun : List (Round 2) :=
  [.prepareAndDecide pairArgs true true,
    .prepareAndDecide (fun _ => pairArgs (Fin.last 1)) true true,
    .finalize (fun _ => ⟨pairPrepared.decision, true, liveView⟩) true]

/-- The last round of that run. -/
def splitEvent : RoundEvent 2 :=
  event roundStep (final roundStep pairDeployment.start (splitRun.take 2))
    (.finalize (fun _ => ⟨pairPrepared.decision, true, liveView⟩) true)

theorem rank_agreement_fails_after_foreign_vote :
    ¬ ∀ (n : Nat) (deployment : Deployment n) (inputs : List (Round n)),
      RankAgreement deployment inputs := by
  intro h
  have hagreed : AgreedRound splitEvent := by
    apply (h 2 pairDeployment splitRun).1
    simp [splitEvent, splitRun, Deployment.rounds]
  -- the last round raises on rank 1 and opens the service on rank 0
  have hraised : splitEvent.output 1 =
      .error (runtimeError "publication decision is not awaiting finalization") := by decide
  have hready : (splitEvent.post 0).coordinator.serviceReady = true := by decide
  rw [(hagreed 1 _ hraised 0).2] at hready
  cases hready

end Publication

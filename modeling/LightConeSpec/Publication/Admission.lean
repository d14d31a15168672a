import LightConeSpec.Publication.Coordinator

/-!
# Fail-closed admission

The readiness fields of a coordinator are coupled: admission follows service
readiness, readiness means that nothing awaits finalization and no restart is
due, and a pending preparation excludes a pending decision. The coupling holds
in every state that any sequence of calls reaches. After a COMMIT decision the
service opens again only by the complete finalization of that decision or by
an explicit restart on the same topology.
-/

namespace Publication

open Python Machine

/-- The coupling of the readiness fields. -/
structure AdmissionInvariant (s : Coordinator) : Prop where
  admission_eq : s.serviceReady = s.admissionAllowed
  ready_iff : s.serviceReady = true ↔ s.pendingDecision = none ∧ s.restartRequired = false
  one_pending : s.pending = none ∨ s.pendingDecision = none
  restart_clears : s.restartRequired = true → s.pending = none ∧ s.pendingDecision = none

theorem admissionInvariant_init (topology : TopologyReceiptSet) :
    AdmissionInvariant (Coordinator.init topology) := by
  constructor
  · rfl
  · simp [Coordinator.init]
  · exact .inl rfl
  · intro h
    cases h

theorem admissionInvariant_markCollectiveFailed (s : Coordinator) :
    AdmissionInvariant s.markCollectiveFailed := by
  constructor
  · rfl
  · simp [Coordinator.markCollectiveFailed]
  · exact .inl rfl
  · intro _
    exact ⟨rfl, rfl⟩

/-- A decision closes the service: it is pending, or the restart is due. -/
theorem admissionInvariant_decided (s : Coordinator) (p : PreparedPublication) :
    AdmissionInvariant (s.decided p) := by
  constructor
  · rfl
  · by_cases hp : p.decision.outcome = .processGroupFailure <;> simp [Coordinator.decided, hp]
  · exact .inl rfl
  · intro hr
    refine ⟨rfl, ?_⟩
    have hp : p.decision.outcome = .processGroupFailure := by
      simpa [Coordinator.decided] using hr
    simp [Coordinator.decided, hp]

variable {s : Coordinator} {d : PublicationDecision}

theorem admissionInvariant_finalized (d : PublicationDecision) :
    AdmissionInvariant (s.finalized d) := by
  constructor
  · rfl
  · simp [Coordinator.finalized]
  · exact .inr rfl
  · intro hr
    cases hr

/-- Each transition keeps the coupling. -/
theorem Transition.admissionInvariant {s' : Coordinator} {c : Call} {out : Except Error Answer}
    (ht : Transition s c out s') (hs : AdmissionInvariant s) : AdmissionInvariant s' := by
  cases ht with
  | raised e => exact hs
  | prepared candidate votes p admits nodup eq =>
    constructor
    · exact hs.admission_eq
    · exact hs.ready_iff
    · exact .inr admits.no_decision
    · intro hr
      exact absurd (show s.restartRequired = true from hr) (by simp [admits.no_restart])
  | decided p pending => exact admissionInvariant_decided s p
  | finalized d receipts pending accepted => exact admissionInvariant_finalized d
  | rejected d receipts e pending rejected => exact admissionInvariant_markCollectiveFailed s
  | restarted topology required same =>
    constructor
    · rfl
    · simp [Coordinator.restarted]
    · exact .inr rfl
    · intro hr
      cases hr
  | markedFailed => exact admissionInvariant_markCollectiveFailed s

def reached (topology : TopologyReceiptSet) (calls : List Call) : Coordinator :=
  final step (Coordinator.init topology) calls

theorem reached_append (topology : TopologyReceiptSet) (calls later : List Call) :
    reached topology (calls ++ later) = final step (reached topology calls) later := by
  unfold reached
  exact final_append _ calls later

theorem reached_concat (topology : TopologyReceiptSet) (calls : List Call) (c : Call) :
    reached topology (calls ++ [c]) = (step (reached topology calls) c).2 := by
  rw [reached_append]
  rfl

theorem admissionInvariant_reached (topology : TopologyReceiptSet) (calls : List Call) :
    AdmissionInvariant (reached topology calls) := by
  have hstep : ∀ s c, AdmissionInvariant s → True → AdmissionInvariant (step s c).2 := by
    intro s c hs _
    exact (step_transition s c).admissionInvariant hs
  exact (trace_invariant hstep (admissionInvariant_init topology) (fun _ _ => trivial)).2

/-! ## Reopening after a COMMIT decision -/

/-- Receipts that open admission after a COMMIT: one for each rank, each bound
to the decision and to its own rank's topology receipt, all applied. -/
structure FullyApplied (d : PublicationDecision) (receipts : List RankDecisionReceipt)
    (topology : TopologyReceiptSet) : Prop where
  rank_nodup : (receipts.map (·.rank)).Nodup
  rank_mem : ∀ rank, rank ∈ receipts.map (·.rank) ↔ rank < topology.worldSize
  binds_decision : ∀ r ∈ receipts, r.decisionSha256 = d.sha256
  binds_topology : ∀ r ∈ receipts, ∃ t, topology.receiptForRank r.rank = .ok t ∧
    r.topologyReceiptSha256 = t.sha256
  applied : ∀ r ∈ receipts, r.applied = true

theorem AcceptedReceipts.fullyApplied {receipts : List RankDecisionReceipt}
    {topology : TopologyReceiptSet} (h : AcceptedReceipts d receipts topology)
    (hd : d.outcome = .commit) : FullyApplied d receipts topology := by
  refine ⟨h.rank_nodup, h.rank_mem, ?_, ?_, ?_⟩
  · intro r hr
    obtain ⟨t, _, _, hdec, _⟩ := h.bound r hr
    exact hdec
  · intro r hr
    obtain ⟨t, ht, hsha, _⟩ := h.bound r hr
    exact ⟨t, ht, hsha⟩
  · intro r hr
    obtain ⟨t, _, _, _, happ⟩ := h.bound r hr
    rw [happ, hd]
    rfl

/-- The two calls that may open the service after the COMMIT decision `d`. -/
inductive Reopens (s : Coordinator) (d : PublicationDecision) : Call → Prop
  | finalize (receipts : List RankDecisionReceipt)
      (returned : (step s (.finalize d receipts)).1 = .ok .done)
      (applied : FullyApplied d receipts s.topology) : Reopens s d (.finalize d receipts)
  | restart (topology : TopologyReceiptSet)
      (returned : (step s (.markProcessGroupRestarted topology)).1 = .ok .done)
      (same : topology.topologySha256 = s.topology.topologySha256) :
      Reopens s d (.markProcessGroupRestarted topology)

/-- What is known between the COMMIT decision `d` and the reopening. -/
def AwaitsReopening (d : PublicationDecision) (s : Coordinator) : Prop :=
  s.serviceReady = false ∧ s.pending = none ∧
    (s.pendingDecision = some d ∨ s.pendingDecision = none)

/-- A call either opens the service by one of the two ways or keeps waiting. -/
theorem Transition.awaitsReopening {s' : Coordinator} {c : Call} {out : Except Error Answer}
    (hd : d.outcome = .commit) (ht : Transition s c out s') (hout : (step s c).1 = out)
    (hinv : AdmissionInvariant s) (hs : AwaitsReopening d s) :
    (s'.serviceReady = true ∧ Reopens s d c) ∨ AwaitsReopening d s' := by
  obtain ⟨hready, hpending, hdecision⟩ := hs
  cases ht with
  | raised e => exact .inr ⟨hready, hpending, hdecision⟩
  | prepared candidate votes p admits nodup eq =>
    -- a coordinator that admits `prepare` is ready
    have : s.serviceReady = true := hinv.ready_iff.mpr ⟨admits.no_decision, admits.no_restart⟩
    rw [hready] at this
    cases this
  | decided p pending =>
    rw [hpending] at pending
    cases pending
  | finalized d' receipts pending accepted =>
    left
    rcases hdecision with hsome | hnone
    · rw [hsome, Option.some.injEq] at pending
      subst pending
      exact ⟨rfl, .finalize receipts hout (accepted.fullyApplied hd)⟩
    · rw [hnone] at pending
      cases pending
  | rejected d' receipts e pending rejected => exact .inr ⟨rfl, rfl, .inr rfl⟩
  | restarted topology required same => exact .inl ⟨rfl, .restart topology hout same⟩
  | markedFailed => exact .inr ⟨rfl, rfl, .inr rfl⟩

/-- As long as the service has not opened again, the coordinator waits. -/
theorem awaitsReopening_final (hd : d.outcome = .commit) {calls : List Call}
    (hinv : AdmissionInvariant s) (hs : AwaitsReopening d s)
    (hclosed : ∀ e ∈ trace step s calls, e.post.serviceReady = false) :
    AdmissionInvariant (final step s calls) ∧ AwaitsReopening d (final step s calls) := by
  induction calls generalizing s with
  | nil => exact ⟨hinv, hs⟩
  | cons c calls ih =>
    have ht := step_transition s c
    rcases ht.awaitsReopening hd rfl hinv hs with ⟨hready, _⟩ | hwait
    · have hfalse := hclosed (event step s c) (by simp)
      rw [show (event step s c).post = (step s c).2 from rfl, hready] at hfalse
      cases hfalse
    · exact ih (ht.admissionInvariant hinv) hwait (fun e he => hclosed e (by simp [he]))

/-- The admission law of the coordinator over all runs. -/
theorem admission_fail_closed (topology : TopologyReceiptSet) (calls : List Call) :
    AdmissionInvariant (reached topology calls) ∧
    ∀ (p : PreparedPublication) (d : PublicationDecision),
      (step (reached topology calls) (.decide p)).1 = .ok (.decided d) → d.outcome = .commit →
      (reached topology (calls ++ [.decide p])).serviceReady = false ∧
      ∀ (later : List Call) (c : Call),
        (∀ e ∈ trace step (reached topology (calls ++ [.decide p])) later,
          e.post.serviceReady = false) →
        (reached topology (calls ++ [.decide p] ++ later ++ [c])).serviceReady = true →
        Reopens (reached topology (calls ++ [.decide p] ++ later)) d c := by
  refine ⟨admissionInvariant_reached topology calls, ?_⟩
  intro p d hreturn hd
  have hinv := admissionInvariant_reached topology (calls ++ [.decide p])
  -- the state right after the decision waits for its reopening
  have hwait : AwaitsReopening d (reached topology (calls ++ [.decide p])) := by
    rw [reached_concat]
    generalize reached topology calls = s at hreturn
    simp only [step, s.decide_eq p] at hreturn ⊢
    by_cases hp : s.pending = some p
    · simp only [if_pos hp, Except.map, Except.ok.injEq, Answer.decided.injEq] at hreturn ⊢
      subst hreturn
      refine ⟨rfl, rfl, .inl ?_⟩
      simp [Coordinator.decided, hd]
    · simp [if_neg hp, Except.map] at hreturn
  refine ⟨hwait.1, ?_⟩
  intro later c hclosed hready
  obtain ⟨hinv', hwait'⟩ := awaitsReopening_final hd hinv hwait hclosed
  rw [← reached_append] at hinv' hwait'
  rw [reached_concat] at hready
  rcases (step_transition _ c).awaitsReopening hd rfl hinv' hwait' with ⟨_, h⟩ | hstill
  · exact h
  · rw [hstill.1] at hready
    cases hready

/-! ### One publication on two ranks -/

/-- The declared identity of one of two tensor-parallel ranks. -/
def pairIdentity (rank : Fin 2) : TopologyIdentity where
  tensorParallelSize := 2
  dataParallelSize := 1
  nodeCount := 1
  nodeId := "node-0"
  nodeRank := 0
  globalRank := rank
  localRank := rank
  tensorParallelRank := rank
  dataParallelRank := 0
  deviceId := s!"gpu-{rank.val}"
  rendezvousId := "rendezvous"
  routerId := "router"
  clockId := "clock"
  texts := by revert rank; decide
  node_rank_lt := Nat.one_pos
  global_rank_lt := rank.isLt
  tensor_rank_lt := rank.isLt
  data_rank_lt := Nat.one_pos
  registered := by decide
  global_rank_eq := by simp
  host_local := ⟨rfl, rfl⟩

def pairReceipt (rank : Fin 2) : RankTopologyReceipt where
  topology := pairIdentity rank
  processId := s!"process-{rank.val}"
  observedWorldSize := 2
  process_text := by revert rank; decide
  observed_eq := rfl

/-- Two ranks that share one topology receipt set. -/
def pairTopology : TopologyReceiptSet where
  first := pairReceipt 0
  rest := [pairReceipt 1]
  covers := by
    refine ⟨by decide, ?_, by decide, ?_, by decide, by decide, by decide, by decide⟩
    · intro rank
      simp [pairReceipt, pairIdentity, TopologyIdentity.worldSize, List.range_succ]
    · simp [pairReceipt, pairIdentity, TopologyIdentity.commonIdentity]

/-- The first update of a cohort. -/
def firstCandidate : PublicationCandidate where
  update := ⟨.hex "cohort", 0, 0, 0, .hex "rows"⟩
  bufferGeneration := 0
  optimizerGeneration := 0

def pairVote (rank : Fin 2) : RankPrepare where
  rank := rank
  topologyReceiptSha256 := (pairReceipt rank).sha256
  candidateSha256 := firstCandidate.sha256
  sourceVersion := 0
  cohortEpoch := 0
  bufferGeneration := 0
  optimizerGeneration := 0
  ready := true
  finite := true
  memoryReserved := true
  safeBoundary := true

def pairVotes : List RankPrepare :=
  [pairVote 0, pairVote 1]

/-- What `prepare` returns for those votes. -/
def pairPrepared : PreparedPublication where
  updateSha256 := firstCandidate.update.sha256
  candidateSha256 := firstCandidate.sha256
  topologySha256 := pairTopology.topologySha256
  disposition := .commitReady
  reasons := ["all_ranks_prepared"]
  ranks := [0, 1]
  canonical := by decide
  all_ranks := by decide

/-- The receipts of the two ranks; `applied` is what rank 1 reports. -/
def pairReceipts (applied : Bool) : List RankDecisionReceipt :=
  [⟨0, (pairReceipt 0).sha256, pairPrepared.decision.sha256, true⟩,
    ⟨1, (pairReceipt 1).sha256, pairPrepared.decision.sha256, applied⟩]

theorem admission_fail_closed_pair :
    AdmissionInvariant (reached pairTopology [.prepare firstCandidate pairVotes]) ∧
    Reopens (reached pairTopology [.prepare firstCandidate pairVotes, .decide pairPrepared])
      pairPrepared.decision (.finalize pairPrepared.decision (pairReceipts true)) := by
  obtain ⟨hinv, hreopen⟩ :=
    admission_fail_closed pairTopology [.prepare firstCandidate pairVotes]
  obtain ⟨_, hlater⟩ := hreopen pairPrepared pairPrepared.decision (by decide) (by decide)
  exact ⟨hinv, hlater [] (.finalize pairPrepared.decision (pairReceipts true)) (by simp)
    (by decide)⟩

end Publication

import LightConeSpec.Publication.Unanimity

/-!
# Replicated coordinators over a gloo process group

`GlooPublicationTransport` runs one coordinator on each of `n` ranks. The
ranks call `prepare_and_decide` and `finalize` in rounds and exchange votes,
decision digests and receipts through `all_gather_object`. The collective is
code of torch: all that is assumed of it is that one exchange delivers the
same list of per-rank objects to every rank or raises on every rank, and that
it cannot complete while a rank stays away.

A rank that raises inside a round marks its coordinator failed, except when it
raises before the `try` block: a vote of another rank, or no live gloo group.
A rank that left such a round with a decision still awaiting finalization can
later finalize it alone.
-/

namespace Publication

open Python Machine

/-! ## One rank -/

/-- What `torch.distributed` reports to one rank, beside its world size and
its rank in the group. -/
structure GroupView where
  available : Bool
  initialized : Bool
  backend : String

/-- `GlooPublicationTransport` with the check of its constructor. -/
structure Transport where
  topology : TopologyReceiptSet
  localRank : Nat
  coordinator : Coordinator
  rank_lt : localRank < topology.worldSize

/-- The local arguments of `prepare_and_decide`. -/
structure PrepareArgs where
  candidate : PublicationCandidate
  localVote : RankPrepare
  view : GroupView

/-- The local arguments of `finalize`. -/
structure FinalizeArgs where
  decision : PublicationDecision
  applied : Bool
  view : GroupView

namespace Transport

/-- The transport with the coordinator that a method left behind. -/
def setCoordinator (t : Transport) (s : Coordinator) : Transport := { t with coordinator := s }

@[simp] theorem setCoordinator_topology (t : Transport) (s : Coordinator) :
    (t.setCoordinator s).topology = t.topology := rfl

@[simp] theorem setCoordinator_localRank (t : Transport) (s : Coordinator) :
    (t.setCoordinator s).localRank = t.localRank := rfl

@[simp] theorem setCoordinator_coordinator (t : Transport) (s : Coordinator) :
    (t.setCoordinator s).coordinator = s := rfl

def distributed (t : Transport) (view : GroupView) (worldSize rank : Nat) : Except Error Unit :=
  if ¬ view.available ∨ ¬ view.initialized then
    .error (runtimeError "a live gloo process group is required")
  else if view.backend ≠ "gloo" then
    .error (runtimeError "CPU publication harness requires the gloo backend")
  else if worldSize ≠ t.topology.worldSize then
    .error (runtimeError "process-group world size differs from topology receipts")
  else if rank ≠ t.localRank then
    .error (runtimeError "process-group rank differs from the local topology rank")
  else .ok ()

/-- `prepare_and_decide` up to its `try` block: the vote it is about to send. -/
def enterPrepare (t : Transport) (worldSize rank : Nat) (args : PrepareArgs) :
    Except Error RankPrepare :=
  if args.localVote.rank ≠ t.localRank then
    .error (valueError "local prepare vote belongs to another rank")
  else match t.distributed args.view worldSize rank with
    | .error e => .error e
    | .ok () => .ok args.localVote

/-- `finalize` up to its `try` block: the receipt it is about to send. -/
def enterFinalize (t : Transport) (worldSize rank : Nat) (args : FinalizeArgs) :
    Except Error RankDecisionReceipt :=
  match t.distributed args.view worldSize rank with
  | .error e => .error e
  | .ok () =>
    match t.topology.receiptForRank t.localRank with
    | .error e => .error e
    | .ok receipt => .ok ⟨t.localRank, receipt.sha256, args.decision.sha256, args.applied⟩

end Transport

/-- The handler `except Exception: mark_collective_failed(); raise`. -/
def Coordinator.failWith {α : Type} (s : Coordinator) (e : Error) : Except Error α × Coordinator :=
  (.error e, if e.isException then s.markCollectiveFailed else s)

/-- The `try` block of `prepare_and_decide` up to the second exchange. -/
def Coordinator.tryDecide (s : Coordinator) (candidate : PublicationCandidate)
    (gathered : Except Error (List RankPrepare)) : Except Error PublicationDecision × Coordinator :=
  match gathered with
  | .error e => s.failWith e
  | .ok votes =>
    match s.prepareThenDecide candidate votes with
    | (.error e, s') => s'.failWith e
    | (.ok decision, s') => (.ok decision, s')

/-- The rest of the block: the comparison of the decision digests. -/
def Coordinator.tryAgree (s : Coordinator) (worldSize : Nat) (decision : PublicationDecision)
    (gathered : Except Error (List Digest)) : Except Error PublicationDecision × Coordinator :=
  match gathered with
  | .error e => s.failWith e
  | .ok decisions =>
    if decisions ≠ List.replicate worldSize decision.sha256 then
      s.failWith (runtimeError "ranks derived different publication decisions")
    else (.ok decision, s)

/-- The `try` block of `finalize`. -/
def Coordinator.tryFinalize (s : Coordinator) (decision : PublicationDecision)
    (gathered : Except Error (List RankDecisionReceipt)) :
    Except Error (List RankDecisionReceipt) × Coordinator :=
  match gathered with
  | .error e => s.failWith e
  | .ok receipts =>
    match s.finalize decision receipts with
    | (.error e, s') => s'.failWith e
    | (.ok (), s') => (.ok receipts, s')

/-! ## Rounds -/

variable {t : Transport} {rank worldSize : Nat}

section Rounds

variable {n : Nat}

/-- `all_gather_object`, seen from every rank at once. A rank that does not
take part offers nothing, and the exchange then fails on all others. -/
def allGather {α : Type} (delivers : Bool) (offered : Fin n → Option α) : Except Error (List α) :=
  if delivers ∧ ∀ i, (offered i).isSome then .ok (List.ofFn offered).reduceOption
  else .error (runtimeError "all_gather_object failed")

/-- One round: the method that every rank calls, the arguments of each rank,
and which of the exchanges deliver. -/
inductive Round (n : Nat)
  | prepareAndDecide (args : Fin n → PrepareArgs) (votesDelivered digestsDelivered : Bool)
  | finalize (args : Fin n → FinalizeArgs) (receiptsDelivered : Bool)

/-- What a rank returned from a round. -/
inductive Returned
  | decided (decision : PublicationDecision)
  | finalized (decision : PublicationDecision) (receipts : List RankDecisionReceipt)
deriving DecidableEq

/-- `prepare_and_decide` on all ranks, up to the second exchange. -/
def localDecisions (ts : Fin n → Transport) (args : Fin n → PrepareArgs) (votesDelivered : Bool)
    (i : Fin n) : Except Error PublicationDecision × Coordinator :=
  match (ts i).enterPrepare n i (args i) with
  | .error e => (.error e, (ts i).coordinator)
  | .ok _ => (ts i).coordinator.tryDecide (args i).candidate
      (allGather votesDelivered fun j => ((ts j).enterPrepare n j (args j)).toOption)

/-- `prepare_and_decide` on all ranks. -/
def prepareRound (ts : Fin n → Transport) (args : Fin n → PrepareArgs)
    (votesDelivered digestsDelivered : Bool) (i : Fin n) :
    Except Error PublicationDecision × Coordinator :=
  match localDecisions ts args votesDelivered i with
  | (.error e, s) => (.error e, s)
  | (.ok decision, s) => s.tryAgree (ts i).topology.worldSize decision
      (allGather digestsDelivered fun j =>
        ((localDecisions ts args votesDelivered j).1.map (·.sha256)).toOption)

/-- `finalize` on all ranks. -/
def finalizeRound (ts : Fin n → Transport) (args : Fin n → FinalizeArgs) (receiptsDelivered : Bool)
    (i : Fin n) : Except Error (List RankDecisionReceipt) × Coordinator :=
  match (ts i).enterFinalize n i (args i) with
  | .error e => (.error e, (ts i).coordinator)
  | .ok _ => (ts i).coordinator.tryFinalize (args i).decision
      (allGather receiptsDelivered fun j => ((ts j).enterFinalize n j (args j)).toOption)

/-- One round of all ranks. -/
def roundStep (ts : Fin n → Transport) :
    Round n → (Fin n → Except Error Returned) × (Fin n → Transport)
  | .prepareAndDecide args votes digests =>
    (fun i => (prepareRound ts args votes digests i).1.map .decided,
      fun i => (ts i).setCoordinator (prepareRound ts args votes digests i).2)
  | .finalize args receipts =>
    (fun i => (finalizeRound ts args receipts i).1.map (.finalized (args i).decision),
      fun i => (ts i).setCoordinator (finalizeRound ts args receipts i).2)

/-- One topology receipt set for each rank, all of the world size `n`. The
sets may still differ from rank to rank. -/
structure Deployment (n : Nat) where
  topology : Fin n → TopologyReceiptSet
  world_size : ∀ i, (topology i).worldSize = n

/-- The transports right after their constructors ran. -/
def Deployment.start (deployment : Deployment n) (i : Fin n) : Transport where
  topology := deployment.topology i
  localRank := i
  coordinator := Coordinator.init (deployment.topology i)
  rank_lt := by
    rw [deployment.world_size i]
    exact i.isLt

/-- One round of a run, with what each rank returned and the ranks around it. -/
abbrev RoundEvent (n : Nat) : Type :=
  Event (Fin n → Transport) (Round n) (Fin n → Except Error Returned)

abbrev Deployment.rounds (deployment : Deployment n) (inputs : List (Round n)) :
    List (RoundEvent n) :=
  trace roundStep deployment.start inputs

/-! ## Agreement -/

/-- A prepare round that returns on one rank returns the same decision digest
on all ranks; a finalize round that raises on one rank closes all ranks. -/
def AgreedRound (e : RoundEvent n) : Prop :=
  match e.input with
  | .prepareAndDecide _ _ _ =>
    ∀ i d, e.output i = .ok (.decided d) →
      ∀ j, ∃ d', e.output j = .ok (.decided d') ∧ d'.sha256 = d.sha256
  | .finalize _ _ =>
    ∀ i x, e.output i = .error x →
      ∀ j, (e.post j).coordinator.restartRequired = true ∧
        (e.post j).coordinator.serviceReady = false

/-- The decision that rank `i` finalized in a round. -/
def finalizedIn (i : Fin n)
    (e : RoundEvent n) : Option Digest :=
  match e.output i with
  | .ok (.finalized d _) => some d.sha256
  | _ => none

/-- The decisions that rank `i` finalized so far, oldest first. -/
def finalizedBy (i : Fin n)
    (past : List (RoundEvent n)) :
    List Digest :=
  past.filterMap (finalizedIn i)

/-- The agreement law of a run: every round agrees, and any two ranks that are
ready finalized the same decisions. -/
def RankAgreement (deployment : Deployment n) (inputs : List (Round n)) : Prop :=
  (∀ e ∈ deployment.rounds inputs, AgreedRound e) ∧
  ∀ i j, (final roundStep deployment.start inputs i).coordinator.serviceReady = true →
    (final roundStep deployment.start inputs j).coordinator.serviceReady = true →
    finalizedBy i (deployment.rounds inputs) = finalizedBy j (deployment.rounds inputs)

/-- No rank raises in front of a `try` block where that leaves it behind: a
rank whose decision awaits finalization enters every prepare round, and a rank
that needs no restart enters every finalize round. -/
def EntersRound (ts : Fin n → Transport) : Round n → Prop
  | .prepareAndDecide args _ _ =>
    ∀ i, (ts i).coordinator.pendingDecision ≠ none →
      ∃ vote, (ts i).enterPrepare n i (args i) = .ok vote
  | .finalize args _ =>
    ∀ i, (ts i).coordinator.restartRequired = false →
      (ts i).distributed (args i).view n i = .ok ()

/-! ## What a rank does in a round -/

/-- The coordinator was closed by `mark_collective_failed`. -/
structure Closed (s : Coordinator) : Prop where
  restart : s.restartRequired = true
  not_ready : s.serviceReady = false
  not_admitted : s.admissionAllowed = false
  no_pending : s.pending = none
  no_decision : s.pendingDecision = none

theorem closed_markCollectiveFailed (s : Coordinator) : Closed s.markCollectiveFailed :=
  ⟨rfl, rfl, rfl, rfl, rfl⟩

theorem Closed.admissionInvariant {s : Coordinator} (h : Closed s) : AdmissionInvariant s := by
  constructor
  · rw [h.not_ready, h.not_admitted]
  · rw [h.not_ready, h.restart]
    simp
  · exact .inl h.no_pending
  · intro _
    exact ⟨h.no_pending, h.no_decision⟩

theorem failWith_eq {α : Type} {s : Coordinator} {e : Error} (he : e.isException = true) :
    (s.failWith e : Except Error α × Coordinator) = (.error e, s.markCollectiveFailed) := by
  simp [Coordinator.failWith, he]

/-- The exchange delivers what all ranks offered, or raises. -/
theorem allGather_cases {α : Type} (delivers : Bool) (offered : Fin n → Option α) :
    (∃ f : Fin n → α, (∀ i, offered i = some (f i)) ∧ delivers = true ∧
      allGather delivers offered = .ok (List.ofFn f)) ∨
    (∃ e, e.isException = true ∧ allGather delivers offered = .error e) := by
  unfold allGather
  by_cases h : delivers = true ∧ ∀ i, (offered i).isSome = true
  · left
    refine ⟨fun i => (offered i).get (h.2 i), fun i => by simp, h.1, ?_⟩
    have hsome : offered = fun i => some ((offered i).get (h.2 i)) := by
      funext i
      simp
    rw [if_pos h]
    conv_lhs => rw [hsome]
    rw [show (fun i => some ((offered i).get (h.2 i))) =
      some ∘ fun i => (offered i).get (h.2 i) from rfl, ← List.map_ofFn]
    delta List.reduceOption
    simp [List.filterMap_map]
  · right
    rw [if_neg h]
    exact ⟨_, rfl, rfl⟩

theorem distributed_ok {view : GroupView} (h : t.distributed view worldSize rank = .ok ()) :
    worldSize = t.topology.worldSize ∧ rank = t.localRank := by
  unfold Transport.distributed at h
  split_ifs at h with h1 h2 h3 h4
  exact ⟨not_not.mp h3, not_not.mp h4⟩

theorem enterPrepare_ok {args : PrepareArgs} {vote : RankPrepare}
    (h : t.enterPrepare worldSize rank args = .ok vote) :
    worldSize = t.topology.worldSize ∧ rank = t.localRank ∧ vote = args.localVote := by
  unfold Transport.enterPrepare at h
  split_ifs at h with h1
  cases hd : t.distributed args.view worldSize rank with
  | error e => simp [hd] at h
  | ok u =>
    obtain ⟨hworld, hrank⟩ := distributed_ok hd
    simp only [hd, Except.ok.injEq] at h
    exact ⟨hworld, hrank, h.symm⟩

/-- With a live group a rank always has a receipt to send. -/
theorem enterFinalize_of_distributed {args : FinalizeArgs}
    (h : t.distributed args.view worldSize rank = .ok ()) :
    ∃ receipt, t.topology.receiptForRank t.localRank = .ok receipt ∧
      t.enterFinalize worldSize rank args =
        .ok ⟨t.localRank, receipt.sha256, args.decision.sha256, args.applied⟩ := by
  obtain ⟨receipt, hreceipt⟩ := t.topology.exists_receiptForRank t.rank_lt
  refine ⟨receipt, hreceipt, ?_⟩
  simp [Transport.enterFinalize, h, hreceipt]

theorem enterFinalize_ok {args : FinalizeArgs} {r : RankDecisionReceipt}
    (h : t.enterFinalize worldSize rank args = .ok r) :
    t.distributed args.view worldSize rank = .ok () ∧ r.decisionSha256 = args.decision.sha256 := by
  cases hd : t.distributed args.view worldSize rank with
  | error e => simp [Transport.enterFinalize, hd] at h
  | ok u =>
    obtain ⟨receipt, _, heq⟩ := enterFinalize_of_distributed hd
    rw [heq, Except.ok.injEq] at h
    exact ⟨rfl, by rw [← h]⟩

/-- The `try` block closes the coordinator or leaves the decision pending. -/
theorem tryDecide_cases (s : Coordinator) (candidate : PublicationCandidate)
    (gathered : Except Error (List RankPrepare))
    (hgathered : ∀ e, gathered = .error e → e.isException = true) :
    (∃ e, s.tryDecide candidate gathered = (.error e, s.markCollectiveFailed)) ∨
    (∃ votes p, gathered = .ok votes ∧ s.AdmitsPrepare ∧ s.prepared candidate votes = .ok p ∧
      s.tryDecide candidate gathered = (.ok p.decision, s.decided p)) := by
  unfold Coordinator.tryDecide
  cases gathered with
  | error e => exact .inl ⟨e, failWith_eq (hgathered e rfl)⟩
  | ok votes =>
    dsimp only
    unfold Coordinator.prepareThenDecide
    rcases s.prepare_cases candidate votes with ⟨e, he, h⟩ | ⟨p, hs, hnd, hp, h⟩
    · rw [h]
      exact .inl ⟨e, failWith_eq he⟩
    · rw [h]
      dsimp only
      rw [Coordinator.decide_eq, if_pos rfl]
      exact .inr ⟨votes, p, rfl, hs, hp, rfl⟩

/-- The comparison of the digests returns the decision or closes the
coordinator. -/
theorem tryAgree_cases (s : Coordinator) (worldSize : Nat) (d : PublicationDecision)
    (gathered : Except Error (List Digest))
    (hgathered : ∀ e, gathered = .error e → e.isException = true) :
    (gathered = .ok (List.replicate worldSize d.sha256) ∧
      s.tryAgree worldSize d gathered = (.ok d, s)) ∨
    (gathered ≠ .ok (List.replicate worldSize d.sha256) ∧
      ∃ e, s.tryAgree worldSize d gathered = (.error e, s.markCollectiveFailed)) := by
  unfold Coordinator.tryAgree
  cases gathered with
  | error e => exact .inr ⟨by simp, e, failWith_eq (hgathered e rfl)⟩
  | ok decisions =>
    by_cases h : decisions = List.replicate worldSize d.sha256
    · left
      simp [h]
    · right
      refine ⟨by simpa using h, runtimeError "ranks derived different publication decisions", ?_⟩
      simp only [ne_eq, h, not_false_eq_true, if_true]
      exact failWith_eq rfl

theorem allGather_error {α : Type} {delivers : Bool} {offered : Fin n → Option α} {e : Error}
    (h : allGather delivers offered = .error e) : e.isException = true := by
  rcases allGather_cases delivers offered with ⟨f, _, _, hok⟩ | ⟨e', he', herr⟩
  · rw [hok] at h
    cases h
  · rw [herr, Except.error.injEq] at h
    exact h ▸ he'

/-- What a rank holds when the digests are exchanged: it stayed away, it
closed, or it decided on the votes of all ranks. -/
theorem localDecisions_cases (ts : Fin n → Transport) (args : Fin n → PrepareArgs)
    (votesDelivered : Bool) (i : Fin n) : ((¬ ∃ vote, (ts i).enterPrepare n i (args i) = .ok vote) ∧
      ∃ e, localDecisions ts args votesDelivered i = (.error e, (ts i).coordinator)) ∨
    (∃ e, localDecisions ts args votesDelivered i =
      (.error e, (ts i).coordinator.markCollectiveFailed)) ∨
    (∃ p, (ts i).topology.worldSize = n ∧ (ts i).coordinator.AdmitsPrepare ∧
      (ts i).coordinator.prepared (args i).candidate (List.ofFn fun j => (args j).localVote) =
        .ok p ∧ localDecisions ts args votesDelivered i =
        (.ok p.decision, (ts i).coordinator.decided p)) := by
  unfold localDecisions
  cases henter : (ts i).enterPrepare n i (args i) with
  | error e => exact .inl ⟨by simp, e, rfl⟩
  | ok vote =>
    right
    dsimp only
    rcases tryDecide_cases (ts i).coordinator (args i).candidate _
        (fun e he => allGather_error he) with hclosed | ⟨votes, p, hvotes, hs, hp, h⟩
    · exact .inl hclosed
    · right
      refine ⟨p, (enterPrepare_ok henter).1.symm, hs, ?_, h⟩
      -- the delivered list is the list of the local votes
      rcases allGather_cases votesDelivered
          (fun j => ((ts j).enterPrepare n j (args j)).toOption) with
        ⟨f, hf, _, hok⟩ | ⟨e, _, herr⟩
      · rw [hok, Except.ok.injEq] at hvotes
        have hlocal : (fun j => (args j).localVote) = f := by
          funext j
          have hj := hf j
          cases hx : (ts j).enterPrepare n j (args j) with
          | error e => simp [hx, Except.toOption] at hj
          | ok v =>
            simp only [hx, Except.toOption, Option.some.injEq] at hj
            rw [← hj]
            exact (enterPrepare_ok hx).2.2.symm
        rw [hlocal, hvotes]
        exact hp
      · rw [herr] at hvotes
        cases hvotes

/-- A rank leaves a round without an answer: it raised in front of the `try`
block and kept its coordinator, or it closed it. -/
def LeftBehind (entered : Prop) (s : Coordinator)
    (out : Except Error PublicationDecision × Coordinator) : Prop :=
  (∃ e, out.1 = .error e) ∧
    ((¬ entered ∧ out.2 = s) ∨ (Closed out.2 ∧ out.2.topology = s.topology))

/-- All ranks return one decision, or no rank returns. -/
theorem prepareRound_cases (ts : Fin n → Transport) (args : Fin n → PrepareArgs)
    (votesDelivered digestsDelivered : Bool) :
    (∃ p : Fin n → PreparedPublication, (∀ i j, (p i).decision = (p j).decision) ∧
      ∀ i, (ts i).coordinator.AdmitsPrepare ∧
        (ts i).coordinator.prepared (args i).candidate (List.ofFn fun j => (args j).localVote) =
          .ok (p i) ∧ prepareRound ts args votesDelivered digestsDelivered i =
          (.ok (p i).decision, (ts i).coordinator.decided (p i))) ∨
    (∀ i, LeftBehind (∃ vote, (ts i).enterPrepare n i (args i) = .ok vote) (ts i).coordinator
      (prepareRound ts args votesDelivered digestsDelivered i)) := by
  set digests := allGather digestsDelivered fun j =>
    ((localDecisions ts args votesDelivered j).1.map (·.sha256)).toOption with hdigests
  by_cases hagree : ∀ i, ∃ p, (ts i).topology.worldSize = n ∧ (ts i).coordinator.AdmitsPrepare ∧
      (ts i).coordinator.prepared (args i).candidate (List.ofFn fun j => (args j).localVote) =
        .ok p ∧
      localDecisions ts args votesDelivered i =
        (.ok p.decision, (ts i).coordinator.decided p) ∧
      digests = .ok (List.replicate n p.decision.sha256)
  · left
    choose p hworld hadmits hprepared hlocal hall using hagree
    refine ⟨p, ?_, ?_⟩
    · intro i j
      apply PublicationDecision.sha256_injective
      have hij := hall i
      rw [hall j, Except.ok.injEq] at hij
      have hpos : n ≠ 0 := by
        rintro rfl
        exact i.elim0
      exact ((List.replicate_right_inj hpos).mp hij).symm
    · intro i
      refine ⟨hadmits i, hprepared i, ?_⟩
      unfold prepareRound
      rw [hlocal i]
      dsimp only
      rw [← hdigests, hworld i]
      rcases tryAgree_cases ((ts i).coordinator.decided (p i)) n (p i).decision digests
          (fun e he => allGather_error he) with ⟨_, h⟩ | ⟨hne, _⟩
      · exact h
      · exact absurd (hall i) hne
  · -- some rank disagrees; if the digests are constant, they arrived everywhere
    right
    have hnone : ∀ i p, (ts i).topology.worldSize = n → localDecisions ts args votesDelivered i =
        (.ok p.decision, (ts i).coordinator.decided p) →
        digests ≠ .ok (List.replicate n p.decision.sha256) := by
      intro i p _ hi hconst
      apply hagree
      intro k
      rcases allGather_cases digestsDelivered (fun j =>
          ((localDecisions ts args votesDelivered j).1.map (·.sha256)).toOption) with
        ⟨f, hf, _, hok⟩ | ⟨e, _, herr⟩
      · rw [← hdigests, hconst, Except.ok.injEq] at hok
        have hk := hf k
        rcases localDecisions_cases ts args votesDelivered k with
          ⟨_, e, h⟩ | ⟨e, h⟩ | ⟨q, hw, hs, hq, h⟩
        · simp [h, Except.map, Except.toOption] at hk
        · simp [h, Except.map, Except.toOption] at hk
        · simp only [h, Except.map, Except.toOption, Option.some.injEq] at hk
          have hmem : f k ∈ List.replicate n p.decision.sha256 := by
            rw [hok]
            exact List.mem_ofFn.mpr ⟨k, rfl⟩
          refine ⟨q, hw, hs, hq, h, ?_⟩
          rw [hk, List.eq_of_mem_replicate hmem]
          exact hconst
      · rw [← hdigests, hconst] at herr
        cases herr
    intro i
    unfold prepareRound
    rcases localDecisions_cases ts args votesDelivered i with
      ⟨hout, e, h⟩ | ⟨e, h⟩ | ⟨p, hworld, _, _, h⟩
    · rw [h]
      exact ⟨⟨e, rfl⟩, .inl ⟨hout, rfl⟩⟩
    · rw [h]
      exact ⟨⟨e, rfl⟩, .inr ⟨closed_markCollectiveFailed _, rfl⟩⟩
    · rw [h]
      dsimp only
      rw [← hdigests, hworld]
      rcases tryAgree_cases ((ts i).coordinator.decided p) n p.decision digests
          (fun e he => allGather_error he) with ⟨heq, _⟩ | ⟨_, e, hclosed⟩
      · exact absurd heq (hnone i p hworld h)
      · rw [hclosed]
        exact ⟨⟨e, rfl⟩, .inr ⟨closed_markCollectiveFailed _, rfl⟩⟩

/-- Rank `i` finalizes: every rank sent its receipt, the exchange delivered,
and the rank accepts the receipts for its pending decision. -/
structure Finalizes (ts : Fin n → Transport) (args : Fin n → FinalizeArgs)
    (delivered : Bool) (i : Fin n) (r : Fin n → RankDecisionReceipt) : Prop where
  delivered : delivered = true
  sent : ∀ j, (ts j).enterFinalize n j (args j) = .ok (r j)
  pending : (ts i).coordinator.pendingDecision = some (args i).decision
  accepted : AcceptedReceipts (args i).decision (List.ofFn r) (ts i).coordinator.topology

/-- A rank finalizes, or it raises: with its coordinator as it was when it has
no live group, and with a closed one otherwise. -/
theorem finalizeRound_cases (ts : Fin n → Transport) (args : Fin n → FinalizeArgs)
    (delivered : Bool) (i : Fin n) :
    (∃ r, Finalizes ts args delivered i r ∧ finalizeRound ts args delivered i =
      (.ok (List.ofFn r), (ts i).coordinator.finalized (args i).decision)) ∨
    ((¬ ∃ r, Finalizes ts args delivered i r) ∧
      ∃ e, (finalizeRound ts args delivered i).1 = .error e ∧
      (((ts i).distributed (args i).view n i ≠ .ok () ∧
          (finalizeRound ts args delivered i).2 = (ts i).coordinator) ∨
        (Closed (finalizeRound ts args delivered i).2 ∧
          (finalizeRound ts args delivered i).2.topology = (ts i).coordinator.topology))) := by
  unfold finalizeRound
  cases henter : (ts i).enterFinalize n i (args i) with
  | error e =>
    right
    refine ⟨?_, e, rfl, .inl ⟨?_, rfl⟩⟩
    · rintro ⟨r, hr⟩
      have hi := hr.sent i
      rw [henter] at hi
      cases hi
    · intro hd
      obtain ⟨receipt, _, h⟩ := enterFinalize_of_distributed hd
      rw [henter] at h
      cases h
  | ok own =>
    dsimp only
    rcases allGather_cases delivered (fun j => ((ts j).enterFinalize n j (args j)).toOption) with
      ⟨r, hr, hdel, hgather⟩ | ⟨e, he, hgather⟩
    · have hsent : ∀ j, (ts j).enterFinalize n j (args j) = .ok (r j) := by
        intro j
        have hj := hr j
        cases hx : (ts j).enterFinalize n j (args j) with
        | error e => simp [hx, Except.toOption] at hj
        | ok x =>
          simp only [hx, Except.toOption, Option.some.injEq] at hj
          rw [hj]
      have hunique : ∀ r', (∀ j, (ts j).enterFinalize n j (args j) = .ok (r' j)) → r' = r := by
        intro r' hr'
        funext j
        have hj := hr' j
        rw [hsent j, Except.ok.injEq] at hj
        exact hj.symm
      rw [hgather]
      simp only [Coordinator.tryFinalize]
      rcases (ts i).coordinator.finalize_cases (args i).decision (List.ofFn r) with
        ⟨hne, e, he, h⟩ | ⟨_, hrej, e, he, h⟩ | ⟨hp, hacc, h⟩
      · -- another decision is pending
        right
        rw [h]
        dsimp only
        rw [failWith_eq he]
        refine ⟨?_, e, rfl, .inr ⟨closed_markCollectiveFailed _, rfl⟩⟩
        rintro ⟨r', hr'⟩
        exact hne hr'.pending
      · -- the receipts are rejected
        right
        rw [h]
        dsimp only
        rw [failWith_eq he]
        refine ⟨?_, e, rfl, .inr ⟨closed_markCollectiveFailed _, rfl⟩⟩
        rintro ⟨r', hr'⟩
        rw [hunique r' hr'.sent] at hr'
        exact hrej hr'.accepted
      · left
        rw [h]
        exact ⟨r, ⟨hdel, hsent, hp, hacc⟩, rfl⟩
    · -- the gather fails
      right
      rw [hgather]
      simp only [Coordinator.tryFinalize]
      rw [failWith_eq he]
      refine ⟨?_, e, rfl, .inr ⟨closed_markCollectiveFailed _, rfl⟩⟩
      rintro ⟨r, hr⟩
      have hall : ∀ j, (((ts j).enterFinalize n j (args j)).toOption).isSome = true := by
        intro j
        rw [hr.sent j]
        rfl
      simp [allGather, hr.delivered, hall] at hgather

end Rounds

end Publication

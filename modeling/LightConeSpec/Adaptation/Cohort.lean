import LightConeSpec.Adaptation.Governor
import LightConeSpec.Lib.Machine
import Mathlib.Data.Rat.Defs

/-!
# Supervision of one cohort

`CohortRuntime` of `cohort.py` with the publication rules of `methods/core.py`:
verification offers supervision signals, a drain hands the newest one of each
request to training, and the candidate that training makes is published or
discarded under version and generation checks.

A signal is checked against the active version and the slot generation when it
is offered. A publication moves the version and a cancellation the generation,
and neither looks at the signals that are queued, so the drain returns current
signals exactly as long as both find nothing else in the queue.

Candidates are Python objects that are compared with `is`. An object is a
number here: a caller names a candidate by its number, and the fields that are
read are those of the object with that number.
-/

namespace Adaptation

open Python Machine Method

/-! ## Signals -/

/-- `SupervisionSignal`; `τ` is the type of the tensors. -/
structure SupervisionSignal (τ : Type) where
  cohortSha256 : String
  requestId : String
  sequenceNumber : Int
  sourceVersion : Int
  slotGeneration : Int
  tensors : List τ
  validPositions : Int
  cohort_sha256 : isSha256 cohortSha256 = true
  request_ne : requestId ≠ ""
  counters : 0 ≤ sequenceNumber ∧ 0 ≤ sourceVersion ∧ 0 ≤ slotGeneration ∧ 1 ≤ validPositions
  tensors_ne : tensors ≠ []

structure LatestSignalBatch (τ : Type) where
  cohortSha256 : String
  signals : Dict String (SupervisionSignal τ)

variable {τ : Type}

namespace LatestSignalBatch

def new (cohortSha256 : String) : LatestSignalBatch τ := ⟨cohortSha256, Dict.empty⟩

def offer (signal : SupervisionSignal τ) : Method (LatestSignalBatch τ) Bool := do
  let batch ← Method.read id
  if signal.cohortSha256 ≠ batch.cohortSha256 then
    Method.raise (valueError "cross-cohort supervision is forbidden")
  else
    match batch.signals.get? signal.requestId with
    | some previous =>
      if signal.sequenceNumber ≤ previous.sequenceNumber then pure false
      else do
        Method.assign fun b => { b with signals := b.signals.set signal.requestId signal }
        pure true
    | none => do
      Method.assign fun b => { b with signals := b.signals.set signal.requestId signal }
      pure true

/-- `drain`: the signals in the order of their requests, and the weight of each. -/
def drain : Method (LatestSignalBatch τ) (List (SupervisionSignal τ) × ℚ) := do
  let batch ← Method.read id
  if batch.signals.values = [] then pure ([], 0)
  else do
    let ordered := sortedBy
      (fun item : SupervisionSignal τ => toLex (item.requestId, item.sequenceNumber))
      batch.signals.values
    Method.assign fun b => { b with signals := Dict.empty }
    pure (ordered, 1 / (ordered.length : ℚ))

def discardRequest (requestId : String) : Method (LatestSignalBatch τ) Unit :=
  Method.assign fun b => { b with signals := b.signals.erase requestId }

/-- An offer is refused, or becomes the signal of its request. -/
theorem offer_leaves (signal : SupervisionSignal τ) (batch : LatestSignalBatch τ) :
    LeavesAt (offer signal) batch fun batch' => batch' = batch ∨
      batch' = { batch with signals := batch.signals.set signal.requestId signal } := by
  refine leavesAt_read ?_
  split
  · exact .inl rfl
  · split
    · split
      · exact .inl rfl
      · exact .inr rfl
    · exact .inr rfl

theorem drain_leaves (batch : LatestSignalBatch τ) :
    LeavesAt drain batch fun batch' => batch' = batch ∨ batch'.signals.values = [] := by
  refine leavesAt_read ?_
  split
  · exact .inl rfl
  · exact .inr rfl

/-- A drain returns the queued signals. -/
theorem mem_of_drain {batch : LatestSignalBatch τ} {signals : List (SupervisionSignal τ)}
    {weight : ℚ} (h : (drain batch).1 = .ok (signals, weight)) {signal : SupervisionSignal τ}
    (hsignal : signal ∈ signals) : signal ∈ batch.signals.values := by
  unfold drain at h
  rw [read_bind] at h
  split at h
  · cases h
    cases hsignal
  · cases h
    exact mem_sortedBy.mp hsignal

end LatestSignalBatch

/-! ## Candidates -/

inductive MethodPolicy
  | static
  | fixedBarrier
  | firstReadyBoundary
deriving DecidableEq

/-- `CandidateUpdate`, the object with number `object`. -/
structure CandidateUpdate (τ : Type) where
  object : Nat
  payload : List τ
  sourceRound : Int
  sourceVersion : Int
  cohortEpoch : Int
  slotGeneration : Int
  readyRound : Int
  bufferGeneration : Int
  optimizerStateGeneration : Int
  readyEventId : String := "logical-ready"
  numericallyValid : Bool := true
  memoryReservationBytes : Int := 0
  payload_ne : payload ≠ []
  counters : 0 ≤ sourceRound ∧ 0 ≤ sourceVersion ∧ 0 ≤ cohortEpoch ∧ 0 ≤ slotGeneration ∧
    0 ≤ readyRound ∧ 0 ≤ bufferGeneration ∧ 0 ≤ optimizerStateGeneration ∧
    0 ≤ memoryReservationBytes
  ready_after_source : sourceRound ≤ readyRound
  readyEvent_ne : readyEventId ≠ ""

/-- `CandidateUpdate(..)` with the defaults that `begin_candidate` leaves. -/
def CandidateUpdate.new (object : Nat) (payload : List τ)
    (sourceRound sourceVersion cohortEpoch slotGeneration readyRound bufferGeneration
      optimizerStateGeneration : Int) : Except Error (CandidateUpdate τ) :=
  if hpayload : payload ≠ [] then
    if hcounters : 0 ≤ sourceRound ∧ 0 ≤ sourceVersion ∧ 0 ≤ cohortEpoch ∧ 0 ≤ slotGeneration ∧
        0 ≤ readyRound ∧ 0 ≤ bufferGeneration ∧ 0 ≤ optimizerStateGeneration ∧ (0 : Int) ≤ 0 then
      if hready : sourceRound ≤ readyRound then
        .ok {
          object := object
          payload := payload
          sourceRound := sourceRound
          sourceVersion := sourceVersion
          cohortEpoch := cohortEpoch
          slotGeneration := slotGeneration
          readyRound := readyRound
          bufferGeneration := bufferGeneration
          optimizerStateGeneration := optimizerStateGeneration
          payload_ne := hpayload
          counters := hcounters
          ready_after_source := hready
          readyEvent_ne := by decide }
      else .error (valueError "candidate cannot be ready before its source round")
    else .error (valueError "candidate counters must be non-negative")
  else .error (valueError "candidate payload must be non-empty")

inductive CandidateOutcome
  | published
  | discarded
deriving DecidableEq

structure CandidateTermination (τ : Type) where
  candidate : CandidateUpdate τ
  outcome : CandidateOutcome
  reason : String
  publishedVersion : Option Int
  reason_ne : reason ≠ ""
  published_versioned : outcome = .published → publishedVersion ≠ none
  discarded_unversioned : outcome = .discarded → publishedVersion = none

def CandidateTermination.new (candidate : CandidateUpdate τ) (outcome : CandidateOutcome)
    (reason : String) (publishedVersion : Option Int) : Except Error (CandidateTermination τ) :=
  if hreason : reason ≠ "" then
    if hpublished : outcome = .published → publishedVersion ≠ none then
      if hdiscarded : outcome = .discarded → publishedVersion = none then
        .ok ⟨candidate, outcome, reason, publishedVersion, hreason, hpublished, hdiscarded⟩
      else .error (valueError "discarded candidate cannot carry a published version")
    else .error (valueError "published candidate requires its committed version")
  else .error (valueError "candidate termination requires a reason code")

def publicationRound (policy : MethodPolicy) (candidate : CandidateUpdate τ)
    (stride extraLogicalDelay : Int) : Except Error (Option Int) :=
  match policy with
  | .static => .ok none
  | .fixedBarrier | .firstReadyBoundary => do
    require (1 ≤ stride) (valueError "stride must be positive")
    require (0 ≤ extraLogicalDelay) (valueError "extra logical delay must be non-negative")
    let delayedReady := candidate.readyRound + extraLogicalDelay
    if policy = .firstReadyBoundary then pure (some delayedReady)
    else
      let nextBoundary := (candidate.sourceRound / stride + 1) * stride
      pure (some (max delayedReady nextBoundary))

/-! ## The runtime -/

/-- `CohortRuntime`; `nextObject` is the number of the next candidate object. -/
structure CohortRuntime (τ : Type) where
  identitySha256 : String
  epoch : Int := 0
  activeVersion : Int := 0
  slotGeneration : Int := 0
  bufferGeneration : Int := 0
  optimizerStateGeneration : Int := 0
  signals : LatestSignalBatch τ
  inFlight : Option (CandidateUpdate τ) := none
  disabledReason : Option String := none
  lastTermination : Option (CandidateTermination τ) := none
  nextObject : Nat := 0

namespace CohortRuntime

def postInit (r : CohortRuntime τ) : CohortRuntime τ :=
  { r with signals := LatestSignalBatch.new r.identitySha256 }

def enabled (r : CohortRuntime τ) : Bool := r.disabledReason.isNone

/-- A method of `self.signals`. -/
def onSignals {α : Type} (m : Method (LatestSignalBatch τ) α) : Method (CohortRuntime τ) α :=
  Method.onAttribute (·.signals) (fun batch r => { r with signals := batch }) m

def offerSignal (signal : SupervisionSignal τ) : Method (CohortRuntime τ) Bool := do
  let r ← Method.read id
  if r.enabled = false then pure false
  else if signal.sourceVersion ≠ r.activeVersion then pure false
  else if signal.slotGeneration ≠ r.slotGeneration then pure false
  else onSignals (LatestSignalBatch.offer signal)

def beginCandidate (payload : List τ) (sourceRound readyRound : Int) :
    Method (CohortRuntime τ) (CandidateUpdate τ) := do
  let r ← Method.read id
  match r.disabledReason, r.inFlight with
  | some reason, _ => Method.raise (runtimeError s!"cohort adaptation disabled: {reason}")
  | none, some _ => Method.raise (runtimeError "max_in_flight=1")
  | none, none => do
    let candidate ← Method.check (CandidateUpdate.new r.nextObject payload sourceRound
      r.activeVersion r.epoch r.slotGeneration readyRound r.bufferGeneration
      r.optimizerStateGeneration)
    Method.assign fun r => { r with inFlight := some candidate, nextObject := r.nextObject + 1 }
    pure candidate

/-- The candidate in flight, if it is the object with the number. -/
def activeCandidate (r : CohortRuntime τ) (object : Nat) : Option (CandidateUpdate τ) :=
  r.inFlight.filter fun candidate => candidate.object = object

/-- The part of `can_publish` after the checks of the candidate. -/
def atBoundary (candidate : CandidateUpdate τ) (policy : MethodPolicy)
    (currentRound stride extraLogicalDelay : Int) : Except Error (Bool × String) := do
  match ← publicationRound policy candidate stride extraLogicalDelay with
  | none => pure (false, "static_disabled")
  | some boundary =>
    if currentRound < boundary then
      if currentRound < candidate.readyRound + extraLogicalDelay then
        pure (false, "waiting_extra_logical_delay")
      else pure (false, "waiting_fixed_boundary")
    else pure (true, "ready")

def canPublish (r : CohortRuntime τ) (object : Nat) (policy : MethodPolicy)
    (currentRound stride extraLogicalDelay : Int) : Except Error (Bool × String) := do
  require (1 ≤ stride) (valueError "stride must be positive")
  match r.activeCandidate object with
  | none => pure (false, "not_active_candidate")
  | some candidate =>
    if candidate.cohortEpoch ≠ r.epoch then pure (false, "stale_epoch")
    else if candidate.slotGeneration ≠ r.slotGeneration then
      pure (false, "stale_slot_generation")
    else if candidate.sourceVersion ≠ r.activeVersion then
      pure (false, "source_version_conflict")
    else if candidate.bufferGeneration ≠ r.bufferGeneration then
      pure (false, "stale_buffer_generation")
    else if candidate.optimizerStateGeneration ≠ r.optimizerStateGeneration then
      pure (false, "stale_optimizer_state_generation")
    else if candidate.numericallyValid = false then pure (false, "nonfinite_candidate")
    else if currentRound < candidate.readyRound then pure (false, "side_stream_not_ready")
    else if policy = .static then pure (false, "static_disabled")
    else atBoundary candidate policy currentRound stride extraLogicalDelay

def terminate (object : Nat) (outcome : CandidateOutcome) (reason : String)
    (publishedVersion : Option Int) : Method (CohortRuntime τ) (CandidateTermination τ) := do
  let r ← Method.read id
  if r.lastTermination.any (fun last => last.candidate.object = object) then
    Method.raise (runtimeError "candidate was already terminated")
  else
    match r.activeCandidate object with
    | none => Method.raise (runtimeError "candidate is not active")
    | some candidate => do
      let termination ← Method.check
        (CandidateTermination.new candidate outcome reason publishedVersion)
      Method.assign fun r => { r with inFlight := none, lastTermination := some termination }
      pure termination

def commit (object : Nat) (policy : MethodPolicy) (currentRound stride extraLogicalDelay : Int) :
    Method (CohortRuntime τ) Int := do
  let r ← Method.read id
  let verdict ← Method.check (r.canPublish object policy currentRound stride extraLogicalDelay)
  if verdict.1 = false then
    Method.raise (runtimeError ("candidate lacks publication authority: " ++ verdict.2))
  else do
    Method.assign fun r => { r with
      activeVersion := r.activeVersion + 1
      optimizerStateGeneration := r.optimizerStateGeneration + 1 }
    let version ← Method.read (·.activeVersion)
    let _ ← terminate object .published "committed" (some version)
    Method.read (·.activeVersion)

def discard (object : Nat) (reason : String) :
    Method (CohortRuntime τ) (CandidateTermination τ) :=
  terminate object .discarded reason none

/-- `if self.in_flight is not None: self.discard(self.in_flight, reason)`. -/
def discardInFlight (reason : String) : Method (CohortRuntime τ) Unit := do
  match ← Method.read (·.inFlight) with
  | none => pure ()
  | some candidate => do
    let _ ← discard candidate.object reason
    pure ()

def cancelRequest (requestId : String) : Method (CohortRuntime τ) Unit := do
  onSignals (LatestSignalBatch.discardRequest requestId)
  discardInFlight "request_cancelled"
  Method.assign fun r => { r with
    slotGeneration := r.slotGeneration + 1
    bufferGeneration := r.bufferGeneration + 1 }

def reset : Method (CohortRuntime τ) Unit := do
  discardInFlight "cohort_reset"
  Method.assign fun r => { r with
    epoch := r.epoch + 1
    activeVersion := 0
    slotGeneration := r.slotGeneration + 1
    bufferGeneration := r.bufferGeneration + 1
    optimizerStateGeneration := 0
    signals := LatestSignalBatch.new r.identitySha256
    disabledReason := none }

def disable (reason : String) : Method (CohortRuntime τ) Unit := do
  Method.check (require (reason ≠ "") (valueError "disabled cohorts require an evidence reason"))
  discardInFlight reason
  Method.assign fun r => { r with disabledReason := some reason }

end CohortRuntime

/-! ## Calls -/

/-- A call on the runtime with its arguments. -/
inductive CohortCall (τ : Type)
  | offerSignal (signal : SupervisionSignal τ)
  | drain
  | beginCandidate (payload : List τ) (sourceRound readyRound : Int)
  | commit (object : Nat) (policy : MethodPolicy) (currentRound stride extraLogicalDelay : Int)
  | discard (object : Nat) (reason : String)
  | cancelRequest (requestId : String)
  | reset
  | disable (reason : String)

def CohortCall.Reply : CohortCall τ → Type
  | .offerSignal _ => Bool
  | .drain => List (SupervisionSignal τ) × ℚ
  | .beginCandidate .. => CandidateUpdate τ
  | .commit .. => Int
  | .discard .. => CandidateTermination τ
  | .cancelRequest _ | .reset | .disable _ => Unit

/-- The signals that a reply hands to training. -/
def CohortCall.drained : (call : CohortCall τ) → Except Error call.Reply →
    List (SupervisionSignal τ)
  | .drain, .ok (signals, _) => signals
  | _, _ => []

variable {r : CohortRuntime τ}

variable (object : Nat)

namespace CohortRuntime

def method : (call : CohortCall τ) → Method (CohortRuntime τ) call.Reply
  | .offerSignal signal => offerSignal signal
  | .drain => onSignals LatestSignalBatch.drain
  | .beginCandidate payload sourceRound readyRound => beginCandidate payload sourceRound readyRound
  | .commit object policy currentRound stride extraLogicalDelay =>
    commit object policy currentRound stride extraLogicalDelay
  | .discard object reason => discard object reason
  | .cancelRequest requestId => cancelRequest requestId
  | .reset => reset
  | .disable reason => disable reason

/-- One call: the signals that it hands to training, and the runtime after it. -/
def step (r : CohortRuntime τ) (call : CohortCall τ) :
    List (SupervisionSignal τ) × CohortRuntime τ :=
  (call.drained (method call r).1, (method call r).2)

/-! ## Current signals -/

/-- The signal was taken from the active version in the current slot. -/
def Fresh (r : CohortRuntime τ) (signal : SupervisionSignal τ) : Prop :=
  signal.sourceVersion = r.activeVersion ∧ signal.slotGeneration = r.slotGeneration

instance (r : CohortRuntime τ) (signal : SupervisionSignal τ) : Decidable (Fresh r signal) :=
  inferInstanceAs (Decidable (_ ∧ _))

def Current (r : CohortRuntime τ) : Prop := ∀ signal ∈ r.signals.signals.values, Fresh r signal

/-- Nothing that a publication or a cancellation makes stale is queued: a commit
that `can_publish` allows finds the queue empty, and a cancellation finds
signals of the cancelled request only. -/
def Settled (r : CohortRuntime τ) : CohortCall τ → Prop
  | .commit object policy currentRound stride extraLogicalDelay =>
    r.canPublish object policy currentRound stride extraLogicalDelay = .ok (true, "ready") →
      r.signals.signals.values = []
  | .cancelRequest requestId => ∀ signal ∈ r.signals.signals.values, signal.requestId = requestId
  | _ => True

instance (r : CohortRuntime τ) (call : CohortCall τ) : Decidable (Settled r call) := by
  unfold Settled
  split <;> infer_instance

/-- The queue holds current signals, each under its own request. -/
structure QueueInvariant (r : CohortRuntime τ) : Prop where
  current : Current r
  keyed : ∀ id signal, r.signals.signals.get? id = some signal → signal.requestId = id

/-- The queue and what its signals are compared with are the same. -/
structure SameQueue (r r' : CohortRuntime τ) : Prop where
  signals : r'.signals = r.signals
  activeVersion : r'.activeVersion = r.activeVersion
  slotGeneration : r'.slotGeneration = r.slotGeneration

theorem SameQueue.refl (r : CohortRuntime τ) : SameQueue r r := ⟨rfl, rfl, rfl⟩

theorem QueueInvariant.same {r' : CohortRuntime τ} (hr : QueueInvariant r) (h : SameQueue r r') :
    QueueInvariant r' := by
  refine ⟨fun signal hsignal => ?_, fun id signal hget => ?_⟩
  · rw [h.signals] at hsignal
    unfold Fresh
    rw [h.activeVersion, h.slotGeneration]
    exact hr.current signal hsignal
  · rw [h.signals] at hget
    exact hr.keyed id signal hget

/-- An empty queue is current whatever the version and the generation are. -/
theorem QueueInvariant.of_empty (h : r.signals.signals.values = []) : QueueInvariant r := by
  refine ⟨fun signal hsignal => ?_, fun id signal hget => ?_⟩
  · rw [h] at hsignal
    cases hsignal
  · have hmem := Dict.mem_values_iff.mpr ⟨id, hget⟩
    rw [h] at hmem
    cases hmem

theorem QueueInvariant.postInit (r : CohortRuntime τ) : QueueInvariant r.postInit :=
  .of_empty rfl

/-! ### One call -/

theorem terminate_leaves (outcome : CandidateOutcome) (reason : String)
    (publishedVersion : Option Int) (r : CohortRuntime τ) :
    LeavesAt (terminate object outcome reason publishedVersion) r (SameQueue r) := by
  refine leavesAt_read ?_
  split
  · exact SameQueue.refl r
  · split
    · exact SameQueue.refl r
    · exact leavesAt_check (SameQueue.refl r) fun _ _ => ⟨rfl, rfl, rfl⟩

theorem discardInFlight_leaves (reason : String) (r : CohortRuntime τ) :
    LeavesAt (discardInFlight reason) r (SameQueue r) := by
  refine leavesAt_read ?_
  split
  · exact SameQueue.refl r
  · exact leavesAt_bind (terminate_leaves _ _ _ _ r) (fun _ h => h) fun _ _ h => h

/-- An offer that is accepted compares the signal with the version and the
generation that are current. -/
theorem offerSignal_leaves (signal : SupervisionSignal τ) (hr : QueueInvariant r) :
    LeavesAt (offerSignal signal) r QueueInvariant := by
  refine leavesAt_read ?_
  split
  · exact hr
  · split
    · exact hr
    · split
      · exact hr
      · rename_i _ hversion hslot
        have hfresh : Fresh r signal := ⟨not_not.mp hversion, not_not.mp hslot⟩
        have hset : QueueInvariant { r with signals :=
            { r.signals with signals := r.signals.signals.set signal.requestId signal } } := by
          refine ⟨Dict.forall_values_set hr.current hfresh, fun id s hget => ?_⟩
          rw [Dict.get?_set] at hget
          split at hget
          · rename_i hid
            cases hget
            exact hid.symm
          · exact hr.keyed id s hget
        refine leavesAt_onAttribute
          ((LatestSignalBatch.offer_leaves signal r.signals).mono fun batch hbatch => ?_)
        rcases hbatch with rfl | rfl
        · exact hr
        · exact hset

theorem drain_leaves (hr : QueueInvariant r) :
    LeavesAt (onSignals LatestSignalBatch.drain) r QueueInvariant := by
  refine leavesAt_onAttribute
    ((LatestSignalBatch.drain_leaves r.signals).mono fun batch hbatch => ?_)
  rcases hbatch with rfl | hempty
  · exact hr
  · exact .of_empty hempty

theorem beginCandidate_leaves (payload : List τ) (sourceRound readyRound : Int)
    (r : CohortRuntime τ) :
    LeavesAt (beginCandidate payload sourceRound readyRound) r (SameQueue r) := by
  refine leavesAt_read ?_
  split
  · exact SameQueue.refl r
  · exact SameQueue.refl r
  · exact leavesAt_check (SameQueue.refl r) fun _ _ => ⟨rfl, rfl, rfl⟩

theorem atBoundary_allowed {candidate : CandidateUpdate τ} {policy : MethodPolicy}
    {currentRound stride extraLogicalDelay : Int} {verdict : Bool × String}
    (h : atBoundary candidate policy currentRound stride extraLogicalDelay = .ok verdict)
    (hallowed : verdict.1 ≠ false) : verdict = (true, "ready") := by
  obtain ⟨boundary, -, h⟩ := bind_eq_ok.mp h
  split at h
  · cases h
    exact absurd rfl hallowed
  · split at h
    · split at h
      · cases h
        exact absurd rfl hallowed
      · cases h
        exact absurd rfl hallowed
    · cases h
      rfl

/-- A verdict that allows the publication is `(True, "ready")`. -/
theorem canPublish_allowed {object : Nat} {policy : MethodPolicy}
    {currentRound stride extraLogicalDelay : Int} {verdict : Bool × String}
    (h : r.canPublish object policy currentRound stride extraLogicalDelay = .ok verdict)
    (hallowed : verdict.1 ≠ false) : verdict = (true, "ready") := by
  obtain ⟨_, -, h⟩ := bind_eq_ok.mp h
  split at h
  · cases h
    exact absurd rfl hallowed
  · iterate 8
      split at h
      · cases h
        exact absurd rfl hallowed
    exact atBoundary_allowed h hallowed

/-- A commit raises before it assigns anything, or finds the queue empty. -/
theorem commit_leaves (hr : QueueInvariant r) (object : Nat) (policy : MethodPolicy)
    (currentRound stride extraLogicalDelay : Int)
    (hsettled : Settled r (.commit object policy currentRound stride extraLogicalDelay)) :
    LeavesAt (commit object policy currentRound stride extraLogicalDelay) r
      QueueInvariant := by
  refine leavesAt_read (leavesAt_check hr fun verdict hverdict => ?_)
  split
  · exact hr
  · rename_i hallowed
    have hempty := hsettled (by rw [← canPublish_allowed hverdict hallowed]; exact hverdict)
    have hpublished : QueueInvariant { r with
        activeVersion := r.activeVersion + 1
        optimizerStateGeneration := r.optimizerStateGeneration + 1 } := .of_empty hempty
    refine leavesAt_assign (leavesAt_read ?_)
    exact leavesAt_bind (terminate_leaves _ _ _ _ _) (fun _ h => hpublished.same h)
      fun _ _ h => hpublished.same h

/-- A cancellation finds signals of the cancelled request only, so none is left. -/
theorem cancelRequest_leaves (hr : QueueInvariant r) (requestId : String)
    (hsettled : Settled r (.cancelRequest requestId)) :
    LeavesAt (cancelRequest requestId) r QueueInvariant := by
  have hempty : (r.signals.signals.erase requestId).values = [] := by
    rw [List.eq_nil_iff_forall_not_mem]
    intro signal hsignal
    obtain ⟨id, hget⟩ := Dict.mem_values_iff.mp hsignal
    rw [Dict.get?_erase] at hget
    split at hget
    · cases hget
    · rename_i hother
      exact hother ((hr.keyed id signal hget).symm.trans
        (hsettled signal (Dict.mem_values_iff.mpr ⟨id, hget⟩)))
  let erased : CohortRuntime τ := { r with signals :=
    { r.signals with signals := r.signals.signals.erase requestId } }
  show LeavesAt (discardInFlight "request_cancelled" >>= fun _ => _) erased _
  refine leavesAt_bind (discardInFlight_leaves _ erased) (fun t h => ?_) fun _ t h => ?_
  · exact QueueInvariant.of_empty (by rw [h.signals]; exact hempty)
  · refine QueueInvariant.of_empty ?_
    show t.signals.signals.values = []
    rw [h.signals]
    exact hempty

theorem reset_leaves (hr : QueueInvariant r) : LeavesAt reset r QueueInvariant :=
  leavesAt_bind (discardInFlight_leaves _ r) (fun _ h => hr.same h)
    fun _ _ _ => QueueInvariant.of_empty rfl

theorem disable_leaves (reason : String) (hr : QueueInvariant r) :
    LeavesAt (disable reason) r QueueInvariant :=
  leavesAt_check hr fun _ _ => leavesAt_bind (discardInFlight_leaves _ r)
    (fun _ h => hr.same h) fun _ _ h => (hr.same h).same ⟨rfl, rfl, rfl⟩

theorem QueueInvariant.step (hr : QueueInvariant r) (call : CohortCall τ)
    (hsettled : Settled r call) : QueueInvariant (step r call).2 := by
  cases call with
  | offerSignal signal => exact offerSignal_leaves signal hr
  | drain => exact drain_leaves hr
  | beginCandidate payload sourceRound readyRound =>
    exact hr.same (beginCandidate_leaves payload sourceRound readyRound r)
  | commit object policy currentRound stride extraLogicalDelay =>
    exact commit_leaves hr object policy currentRound stride extraLogicalDelay hsettled
  | discard object reason => exact hr.same (terminate_leaves object _ reason _ r)
  | cancelRequest requestId => exact cancelRequest_leaves hr requestId hsettled
  | reset => exact reset_leaves hr
  | disable reason => exact disable_leaves reason hr

/-- What is handed to training was queued. -/
theorem mem_signals_of_drained {call : CohortCall τ} {signal : SupervisionSignal τ}
    (h : signal ∈ (CohortRuntime.step r call).1) : signal ∈ r.signals.signals.values := by
  cases call with
  | drain =>
    change signal ∈ CohortCall.drained .drain (LatestSignalBatch.drain r.signals).1 at h
    cases hdrain : (LatestSignalBatch.drain r.signals).1 with
    | error e =>
      rw [hdrain] at h
      cases h
    | ok reply =>
      rw [hdrain] at h
      exact LatestSignalBatch.mem_of_drain hdrain h
  | offerSignal | beginCandidate | commit | discard | cancelRequest | reset | disable =>
    cases h

/-! ### Every run -/

/-- In every run whose publications find the queue empty and whose
cancellations find nothing of another request in it, training receives signals
of the current version and the current slot generation only. -/
theorem drained_signals_current (r : CohortRuntime τ) (calls : List (CohortCall τ))
    (hsettled : ∀ ev ∈ trace step r.postInit calls, Settled ev.pre ev.input) :
    ∀ ev ∈ trace step r.postInit calls, ∀ signal ∈ ev.output, Fresh ev.pre signal := by
  have hstep : ∀ (s : CohortRuntime τ) (call : CohortCall τ), QueueInvariant s →
      Settled s call → QueueInvariant (step s call).2 := fun s call hs h => hs.step call h
  have hall := (trace_invariant hstep (QueueInvariant.postInit r) hsettled).1
  intro ev hev signal hsignal
  rw [eq_event_of_mem_trace hev] at hsignal
  exact (hall ev hev).1.current signal (mem_signals_of_drained hsignal)

def Sample.signal (requestId : String) (hrequest : requestId ≠ "") : SupervisionSignal Unit where
  cohortSha256 := "0000000000000000000000000000000000000000000000000000000000000000"
  requestId := requestId
  sequenceNumber := 0
  sourceVersion := 0
  slotGeneration := 0
  tensors := [()]
  validPositions := 1
  cohort_sha256 := by decide
  request_ne := hrequest
  counters := by decide
  tensors_ne := by decide

/-- A cohort that was just created. -/
def Sample.runtime : CohortRuntime Unit where
  identitySha256 := "0000000000000000000000000000000000000000000000000000000000000000"
  signals := LatestSignalBatch.new
    "0000000000000000000000000000000000000000000000000000000000000000"

/-- The signals are drained before the candidate made of them is published. -/
def Sample.drainFirst : List (CohortCall Unit) :=
  [.offerSignal (Sample.signal "a" (by decide)), .offerSignal (Sample.signal "b" (by decide)),
    .drain, .beginCandidate [()] 0 0, .commit 0 .firstReadyBoundary 0 1 0, .drain]

theorem drained_signals_current_drainFirst :
    ((trace step Sample.runtime.postInit Sample.drainFirst).map fun ev => ev.output.length) =
        [0, 0, 2, 0, 0, 0] ∧
      ∀ ev ∈ trace step Sample.runtime.postInit Sample.drainFirst,
        ∀ signal ∈ ev.output, Fresh ev.pre signal :=
  ⟨by decide +kernel, drained_signals_current Sample.runtime Sample.drainFirst (by decide +kernel)⟩

/-- A publication between the offer and the drain makes the queued signal stale,
and the drain returns it all the same. -/
theorem drained_signals_stale_after_commit :
    ¬ ∀ (r : CohortRuntime Unit) (calls : List (CohortCall Unit)),
      ∀ ev ∈ trace step r.postInit calls, ∀ signal ∈ ev.output, Fresh ev.pre signal := by
  intro h
  have hbad : (trace step Sample.runtime.postInit
      [.beginCandidate [()] 0 0, .offerSignal (Sample.signal "a" (by decide)),
        .commit 0 .firstReadyBoundary 0 1 0, .drain]).any (fun ev =>
          ev.output.any fun signal => decide (¬ Fresh ev.pre signal)) = true := by
    decide +kernel
  obtain ⟨ev, hev, hstale⟩ := List.any_eq_true.mp hbad
  obtain ⟨signal, hsignal, hstale⟩ := List.any_eq_true.mp hstale
  exact of_decide_eq_true hstale (h Sample.runtime _ ev hev signal hsignal)

end CohortRuntime

end Adaptation

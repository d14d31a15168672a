import Mathlib.Data.List.Range
import LightConeSpec.Adaptation.Cohort

/-!
# The lifecycle of a candidate

A candidate is begun, and then published or discarded, once. The version that a
publication is compared with starts again at every reset, so what makes a stale
candidate stay stale is not the counters alone: every call that moves one of them
also ends the candidate in flight, and an object that was ended is never in flight
again.

`Transition` lists what a call can do to the fields that matter, and
`LifecycleInvariant` relates them to the calls so far.
-/

namespace Adaptation

open Python Machine List Method

variable {τ : Type}

/-- A call on the runtime, or a query whether a candidate may be published. -/
inductive LifecycleCall (τ : Type)
  | call (call : CohortCall τ)
  | canPublish (object : Nat) (policy : MethodPolicy)
      (currentRound stride extraLogicalDelay : Int)

/-- What a caller sees of a reply: the candidate that was begun, the version that was
published, that the call raised, or that it returned. -/
inductive LifecycleReply
  | raised (error : Error)
  | began (object : Nat)
  | published (version : Int)
  | returned

def LifecycleReply.isRaised : LifecycleReply → Bool
  | .raised _ => true
  | .began _ | .published _ | .returned => false

/-- The call ends the candidate in flight when it returns. -/
def LifecycleCall.ends : LifecycleCall τ → Bool
  | .call (.commit ..) | .call (.discard ..) | .call (.cancelRequest _) | .call .reset
  | .call (.disable _) => true
  | .call (.offerSignal _) | .call .drain | .call (.beginCandidate ..) | .canPublish .. => false

def CohortCall.lifecycle : (call : CohortCall τ) → Except Error call.Reply → LifecycleReply
  | _, .error e => .raised e
  | .beginCandidate .., .ok candidate => .began (CandidateUpdate.object candidate)
  | .commit .., .ok version => .published version
  | .offerSignal _, .ok _ | .drain, .ok _ | .discard .., .ok _ | .cancelRequest _, .ok _
  | .reset, .ok _ | .disable _, .ok _ => .returned

variable {r : CohortRuntime τ} {object : Nat} {candidate : CandidateUpdate τ} {reason : String}

theorem CandidateUpdate.new_object {payload : List τ}
    {sourceRound sourceVersion cohortEpoch slotGeneration readyRound bufferGeneration optimizerStateGeneration : Int}
    (h : CandidateUpdate.new object payload sourceRound sourceVersion cohortEpoch slotGeneration
      readyRound bufferGeneration optimizerStateGeneration = .ok candidate) :
    candidate.object = object := by
  unfold CandidateUpdate.new at h
  split at h
  · split at h
    · split at h
      · cases h
        rfl
      · cases h
    · cases h
  · cases h

variable {outcome : CandidateOutcome}

theorem CandidateTermination.new_eq_ok {version : Option Int} {termination : CandidateTermination τ}
    (h : CandidateTermination.new candidate outcome reason version = .ok termination) :
    termination.candidate = candidate ∧ termination.outcome = outcome := by
  unfold CandidateTermination.new at h
  split at h
  · split at h
    · split at h
      · cases h
        exact ⟨rfl, rfl⟩
      · cases h
    · cases h
  · cases h

namespace CohortRuntime

def fresh (identitySha256 : String) : CohortRuntime τ :=
  postInit { identitySha256 := identitySha256, signals := LatestSignalBatch.new identitySha256 }

def lifecycleStep (r : CohortRuntime τ) : LifecycleCall τ → LifecycleReply × CohortRuntime τ
  | .call call => (call.lifecycle (method call r).1, (method call r).2)
  | .canPublish object policy currentRound stride extraLogicalDelay =>
    match r.canPublish object policy currentRound stride extraLogicalDelay with
    | .ok _ => (.returned, r)
    | .error e => (.raised e, r)

/-! ## What a call does -/

structure SameLife (r r' : CohortRuntime τ) : Prop where
  inFlight : r'.inFlight = r.inFlight
  nextObject : r'.nextObject = r.nextObject
  epoch : r'.epoch = r.epoch
  activeVersion : r'.activeVersion = r.activeVersion
  lastTermination : r'.lastTermination = r.lastTermination

/-- The epoch and the version stay, or the next epoch starts at version 0. -/
def SameOrNextEpoch (r r' : CohortRuntime τ) : Prop :=
  (r'.epoch = r.epoch ∧ r'.activeVersion = r.activeVersion) ∨
    (r'.epoch = r.epoch + 1 ∧ r'.activeVersion = 0)

/-- The candidate in flight ends with the given outcome. -/
structure Terminates (r r' : CohortRuntime τ) (candidate : CandidateUpdate τ)
    (outcome : CandidateOutcome) : Prop where
  before : r.inFlight = some candidate
  after : r'.inFlight = none
  nextObject : r'.nextObject = r.nextObject
  last : ∃ t, r'.lastTermination = some t ∧ t.candidate = candidate ∧ t.outcome = outcome

/-- The candidate that a call ends when it returns. -/
def target (r : CohortRuntime τ) : LifecycleCall τ → Option Nat
  | .call (.commit object ..) | .call (.discard object _) => some object
  | .call (.cancelRequest _) | .call .reset | .call (.disable _) => r.inFlight.map (·.object)
  | .call (.offerSignal _) | .call .drain | .call (.beginCandidate ..) | .canPublish .. => none

/-- What a call can do. -/
inductive Transition (r : CohortRuntime τ) (c : LifecycleCall τ) :
    LifecycleReply → CohortRuntime τ → Prop
  | raised {r' : CohortRuntime τ} {e : Error} (h : SameLife r r') : Transition r c (.raised e) r'
  | returned {r' : CohortRuntime τ} (hends : c.ends = false) (h : SameLife r r') :
      Transition r c .returned r'
  | began {r' : CohortRuntime τ} {candidate : CandidateUpdate τ} (hends : c.ends = false)
      (hidle : r.inFlight = none) (hobject : candidate.object = r.nextObject)
      (hr' : r' = { r with inFlight := some candidate, nextObject := r.nextObject + 1 }) :
      Transition r c (.began r.nextObject) r'
  | published {r' : CohortRuntime τ} {candidate : CandidateUpdate τ}
      (htarget : r.target c = some candidate.object) (h : Terminates r r' candidate .published)
      (hepoch : r'.epoch = r.epoch) (hversion : r'.activeVersion = r.activeVersion + 1) :
      Transition r c (.published r'.activeVersion) r'
  | discarded {r' : CohortRuntime τ} {candidate : CandidateUpdate τ}
      (htarget : r.target c = some candidate.object) (h : Terminates r r' candidate .discarded)
      (hepoch : SameOrNextEpoch r r') : Transition r c .returned r'
  | idle {r' : CohortRuntime τ} (htarget : r.target c = none) (hidle : r.inFlight = none)
      (hidle' : r'.inFlight = none) (hnext : r'.nextObject = r.nextObject)
      (hlast : r'.lastTermination = r.lastTermination) (hepoch : SameOrNextEpoch r r') :
      Transition r c .returned r'

variable {c : LifecycleCall τ} {r' : CohortRuntime τ}

theorem target_of_ends (h : c.ends = false) (r : CohortRuntime τ) : r.target c = none := by
  cases c with
  | canPublish => rfl
  | call call => cases call <;> first | rfl | cases h

/-- The last candidate that was ended is not the one in flight. -/
def FlightOpen (r : CohortRuntime τ) : Prop :=
  ∀ t candidate, r.lastTermination = some t → r.inFlight = some candidate →
    t.candidate.object ≠ candidate.object

theorem activeCandidate_eq_some (h : r.activeCandidate object = some candidate) :
    r.inFlight = some candidate ∧ candidate.object = object := by
  simpa [activeCandidate, Option.filter_eq_some_iff] using h

/-- `_terminate` on the candidate in flight. -/
theorem terminate_active (hopen : FlightOpen r)
    (hactive : r.activeCandidate object = some candidate) {version : Option Int}
    {termination : CandidateTermination τ}
    (hnew : CandidateTermination.new candidate outcome reason version = .ok termination) :
    terminate object outcome reason version r =
      (.ok termination, { r with inFlight := none, lastTermination := some termination }) := by
  obtain ⟨hflight, hobject⟩ := activeCandidate_eq_some hactive
  have hfirst : ¬ (r.lastTermination.any fun last => last.candidate.object = object) = true := by
    rw [Option.any_eq_true]
    rintro ⟨last, hlast, heq⟩
    exact hopen last candidate hlast hflight ((of_decide_eq_true heq).trans hobject.symm)
  unfold terminate
  rw [read_bind]
  simp only [id]
  rw [if_neg hfirst, hactive]
  simp only []
  rw [check_bind_ok hnew]
  rfl

theorem new_discarded (candidate : CandidateUpdate τ) (hreason : reason ≠ "") : ∃ termination,
      CandidateTermination.new candidate .discarded reason none = .ok termination := by
  unfold CandidateTermination.new
  rw [dif_pos hreason, dif_pos (by decide), dif_pos (fun _ => rfl)]
  exact ⟨_, rfl⟩

theorem new_published (candidate : CandidateUpdate τ) (version : Int) : ∃ termination,
      CandidateTermination.new candidate .published "committed" (some version) =
        .ok termination := by
  unfold CandidateTermination.new
  rw [dif_pos (by decide), dif_pos (fun _ => nofun), dif_pos (fun h => by cases h)]
  exact ⟨_, rfl⟩

/-- The discard of the candidate in flight, if there is one. -/
theorem discardInFlight_spec (hopen : FlightOpen r) (hreason : reason ≠ "") :
    ∃ r', discardInFlight reason r = (.ok (), r') ∧
      r'.epoch = r.epoch ∧ r'.activeVersion = r.activeVersion ∧ r'.nextObject = r.nextObject ∧
      ((r.inFlight = none ∧ r' = r) ∨ ∃ candidate, Terminates r r' candidate .discarded) := by
  unfold discardInFlight
  rw [read_bind]
  cases hflight : r.inFlight with
  | none => exact ⟨r, rfl, rfl, rfl, rfl, .inl ⟨rfl, rfl⟩⟩
  | some candidate =>
    obtain ⟨termination, hnew⟩ := new_discarded candidate hreason
    obtain ⟨hcandidate, houtcome⟩ := CandidateTermination.new_eq_ok hnew
    have hactive : r.activeCandidate candidate.object = some candidate := by
      simp [activeCandidate, hflight]
    have hterminate := terminate_active hopen hactive hnew
    refine ⟨{ r with inFlight := none, lastTermination := some termination }, ?_, rfl, rfl, rfl,
      .inr ⟨candidate, hflight, rfl, rfl, termination, rfl, hcandidate, houtcome⟩⟩
    simp only []
    rw [bind_apply_ok (m := discard candidate.object reason) hterminate]
    rfl

theorem SameLife.refl (r : CohortRuntime τ) : SameLife r r := ⟨rfl, rfl, rfl, rfl, rfl⟩

theorem onSignals_leaves {α : Type} (m : Method (LatestSignalBatch τ) α) (r : CohortRuntime τ) :
    LeavesAt (onSignals m) r (SameLife r) :=
  leavesAt_onAttribute ⟨rfl, rfl, rfl, rfl, rfl⟩

theorem offerSignal_sameLife (signal : SupervisionSignal τ) (r : CohortRuntime τ) :
    LeavesAt (offerSignal signal) r (SameLife r) := by
  refine leavesAt_read ?_
  split
  · exact SameLife.refl r
  · split
    · exact SameLife.refl r
    · split
      · exact SameLife.refl r
      · exact onSignals_leaves _ r

/-- A call that leaves the lifecycle alone raises or returns. -/
theorem Transition.of_same {reply : LifecycleReply} (h : SameLife r r') (hends : c.ends = false)
    (hreply : reply = .returned ∨ ∃ e, reply = .raised e) : Transition r c reply r' := by
  rcases hreply with rfl | ⟨e, rfl⟩
  · exact .returned hends h
  · exact .raised h

theorem beginCandidate_performs (payload : List τ) (sourceRound readyRound : Int)
    (r : CohortRuntime τ) :
    PerformsAt (beginCandidate payload sourceRound readyRound) r fun candidate r' =>
      r.inFlight = none ∧ candidate.object = r.nextObject ∧
        r' = { r with inFlight := some candidate, nextObject := r.nextObject + 1 } := by
  refine performsAt_read ?_
  split
  · exact performsAt_raise
  · exact performsAt_raise
  · next hdisabled hflight =>
      refine performsAt_check fun candidate hnew => ?_
      exact performsAt_returns rfl ⟨hflight, CandidateUpdate.new_object hnew, rfl⟩

/-- A commit is allowed for the candidate in flight only. -/
theorem activeCandidate_of_canPublish {policy : MethodPolicy}
    {currentRound stride extraLogicalDelay : Int} {verdict : Bool × String}
    (h : r.canPublish object policy currentRound stride extraLogicalDelay = .ok verdict)
    (hallowed : verdict.1 ≠ false) : ∃ candidate, r.activeCandidate object = some candidate := by
  obtain ⟨_, -, h⟩ := bind_eq_ok.mp h
  split at h
  · cases h
    exact absurd rfl hallowed
  · next candidate hactive => exact ⟨candidate, hactive⟩

/-- A commit publishes the candidate in flight, or raises and changes nothing. -/
theorem commit_performs (hopen : FlightOpen r) (object : Nat) (policy : MethodPolicy)
    (currentRound stride extraLogicalDelay : Int) :
    PerformsAt (commit object policy currentRound stride extraLogicalDelay) r
      fun version r' => version = r'.activeVersion ∧ ∃ candidate, candidate.object = object ∧
        Terminates r r' candidate .published ∧ r'.epoch = r.epoch ∧
        r'.activeVersion = r.activeVersion + 1 := by
  refine performsAt_read (performsAt_check fun verdict hverdict => ?_)
  split
  · exact performsAt_raise
  · next hallowed =>
      obtain ⟨candidate, hactive⟩ := activeCandidate_of_canPublish hverdict hallowed
      obtain ⟨hflight, hobject⟩ := activeCandidate_eq_some hactive
      obtain ⟨termination, hnew⟩ := new_published candidate (r.activeVersion + 1)
      obtain ⟨hcandidate, houtcome⟩ := CandidateTermination.new_eq_ok hnew
      -- the version moves first, and the termination then finds its candidate
      have hterminate := terminate_active (r := { r with
          activeVersion := r.activeVersion + 1
          optimizerStateGeneration := r.optimizerStateGeneration + 1 }) hopen hactive hnew
      refine performsAt_returns (a := r.activeVersion + 1) (t := { r with
          activeVersion := r.activeVersion + 1
          optimizerStateGeneration := r.optimizerStateGeneration + 1
          inFlight := none
          lastTermination := some termination }) ?_
        ⟨rfl, candidate, hobject, ⟨hflight, rfl, rfl, termination, rfl, hcandidate, houtcome⟩,
          rfl, rfl⟩
      rw [assign_bind, read_bind, bind_apply_ok hterminate]
      rfl

theorem discard_performs (r : CohortRuntime τ) (object : Nat) (reason : String) :
    PerformsAt (discard object reason) r fun _ r' => ∃ candidate,
      candidate.object = object ∧ Terminates r r' candidate .discarded ∧ r'.epoch = r.epoch ∧
        r'.activeVersion = r.activeVersion := by
  refine performsAt_read ?_
  split
  · exact performsAt_raise
  · split
    · exact performsAt_raise
    · next candidate hactive =>
        refine performsAt_check fun termination hnew => ?_
        obtain ⟨hcandidate, houtcome⟩ := CandidateTermination.new_eq_ok hnew
        obtain ⟨hflight, hobject⟩ := activeCandidate_eq_some hactive
        exact performsAt_returns rfl ⟨candidate, hobject, ⟨hflight, rfl, rfl, termination,
          rfl, hcandidate, houtcome⟩, rfl, rfl⟩

/-- A method that raises without a change, or returns. -/
theorem Transition.of_performs {call : CohortCall τ} {R : call.Reply → CohortRuntime τ → Prop}
    (h : PerformsAt (method call) r R)
    (hreturns : ∀ a r', R a r' → Transition r (.call call) (call.lifecycle (.ok a)) r') :
    Transition r (.call call) (lifecycleStep r (.call call)).1
      (lifecycleStep r (.call call)).2 := by
  simp only [lifecycleStep]
  unfold PerformsAt at h
  cases hm : method call r with
  | mk result r' =>
    rw [hm] at h
    cases result with
    | error e =>
      obtain rfl : r' = r := h
      have hraised : call.lifecycle (.error e) = .raised e := by cases call <;> rfl
      rw [hraised]
      exact .raised (SameLife.refl r')
    | ok a => exact hreturns a r' h

theorem lifecycle_offerSignal (signal : SupervisionSignal τ)
    (x : Except Error (CohortCall.offerSignal signal).Reply) :
    (CohortCall.offerSignal signal).lifecycle x = .returned ∨
      ∃ e, (CohortCall.offerSignal signal).lifecycle x = .raised e := by
  cases x with
  | ok => exact .inl rfl
  | error e => exact .inr ⟨e, rfl⟩

theorem lifecycle_drain (x : Except Error (CohortCall.drain (τ := τ)).Reply) :
    (CohortCall.drain (τ := τ)).lifecycle x = .returned ∨
      ∃ e, (CohortCall.drain (τ := τ)).lifecycle x = .raised e := by
  cases x with
  | ok => exact .inl rfl
  | error e => exact .inr ⟨e, rfl⟩

/-- A call that discards the candidate in flight and then assigns, after changes
that are no part of the lifecycle. -/
theorem discards_returns (hopen : FlightOpen r) (c : LifecycleCall τ)
    (htarget : r.target c = r.inFlight.map (·.object)) (r₀ : CohortRuntime τ)
    (hsame : SameLife r r₀) (hreason : reason ≠ "") (f : CohortRuntime τ → CohortRuntime τ)
    (hlife : ∀ mid, (f mid).inFlight = mid.inFlight ∧
      (f mid).lastTermination = mid.lastTermination ∧ (f mid).nextObject = mid.nextObject)
    (hepoch : ∀ mid, SameOrNextEpoch mid (f mid)) :
    ∃ r', (discardInFlight reason >>= fun _ => Method.assign f) r₀ = (.ok (), r') ∧
      Transition r c .returned r' := by
  have hopen₀ : FlightOpen r₀ := by
    intro t candidate ht hflight
    rw [hsame.lastTermination] at ht
    rw [hsame.inFlight] at hflight
    exact hopen t candidate ht hflight
  obtain ⟨mid, hdiscard, hmidEpoch, hmidVersion, hmidNext, hmid⟩ :=
    discardInFlight_spec hopen₀ hreason
  refine ⟨f mid, by rw [bind_apply_ok hdiscard]; rfl, ?_⟩
  obtain ⟨hflight, hlast, hnext⟩ := hlife mid
  have hadvance : SameOrNextEpoch r (f mid) := by
    have h := hepoch mid
    unfold SameOrNextEpoch at h ⊢
    rw [hmidEpoch, hmidVersion, hsame.epoch, hsame.activeVersion] at h
    exact h
  have hobject : (f mid).nextObject = r.nextObject :=
    (hnext.trans hmidNext).trans hsame.nextObject
  rcases hmid with ⟨hidle, rfl⟩ | ⟨candidate, h⟩
  · rw [hsame.inFlight] at hidle
    exact .idle (by rw [htarget, hidle]; rfl) hidle (hflight.trans (hsame.inFlight.trans hidle)) hobject
      (hlast.trans hsame.lastTermination) hadvance
  · obtain ⟨t, ht, hcandidate, houtcome⟩ := h.last
    have hbefore : r.inFlight = some candidate := hsame.inFlight.symm.trans h.before
    exact .discarded (by rw [htarget, hbefore]; rfl)
      ⟨hbefore, hflight.trans h.after, hobject, t, hlast.trans ht, hcandidate, houtcome⟩ hadvance

/-- Every call is a transition. -/
theorem lifecycleStep_transition (hopen : FlightOpen r) (c : LifecycleCall τ) :
    Transition r c (lifecycleStep r c).1 (lifecycleStep r c).2 := by
  cases c with
  | canPublish object policy currentRound stride extraLogicalDelay =>
    simp only [lifecycleStep]
    split
    · exact .returned rfl (.refl r)
    · exact .raised (.refl r)
  | call call =>
    cases call with
    | offerSignal signal =>
      have hsame : SameLife r (offerSignal signal r).2 := offerSignal_sameLife signal r
      exact .of_same hsame rfl (lifecycle_offerSignal signal _)
    | drain =>
      have hsame : SameLife r (onSignals LatestSignalBatch.drain r).2 := onSignals_leaves _ r
      exact .of_same hsame rfl (lifecycle_drain _)
    | beginCandidate payload sourceRound readyRound =>
      refine .of_performs (beginCandidate_performs payload sourceRound readyRound r) ?_
      rintro candidate r' ⟨hidle, hobject, hr'⟩
      show Transition r _ (.began candidate.object) r'
      rw [hobject]
      exact .began rfl hidle hobject hr'
    | commit object policy currentRound stride extraLogicalDelay =>
      refine .of_performs
        (commit_performs hopen object policy currentRound stride extraLogicalDelay) ?_
      rintro version r' ⟨hversion, candidate, rfl, h, hepoch, hactive⟩
      show Transition r _ (.published version) r'
      rw [hversion]
      exact .published rfl h hepoch hactive
    | discard object reason =>
      refine .of_performs (discard_performs r object reason) ?_
      rintro _ r' ⟨candidate, rfl, h, hepoch, hversion⟩
      exact .discarded rfl h (.inl ⟨hepoch, hversion⟩)
    -- the next three discard the candidate and go on with a changed runtime
    | cancelRequest requestId =>
      obtain ⟨r', hr', h⟩ := discards_returns hopen (.call (.cancelRequest requestId)) rfl
        { r with signals := (LatestSignalBatch.discardRequest requestId r.signals).2 }
        ⟨rfl, rfl, rfl, rfl, rfl⟩ (show "request_cancelled" ≠ "" by decide)
        (fun r => { r with
          slotGeneration := r.slotGeneration + 1
          bufferGeneration := r.bufferGeneration + 1 })
        (fun _ => ⟨rfl, rfl, rfl⟩) (fun _ => .inl ⟨rfl, rfl⟩)
      exact .of_performs (performsAt_returns hr' h) fun _ _ h => h
    | reset =>
      obtain ⟨r', hr', h⟩ := discards_returns hopen (.call .reset) rfl r (.refl r)
        (show "cohort_reset" ≠ "" by decide)
        (fun r => { r with
          epoch := r.epoch + 1
          activeVersion := 0
          slotGeneration := r.slotGeneration + 1
          bufferGeneration := r.bufferGeneration + 1
          optimizerStateGeneration := 0
          signals := LatestSignalBatch.new r.identitySha256
          disabledReason := none })
        (fun _ => ⟨rfl, rfl, rfl⟩) fun _ => .inr ⟨rfl, rfl⟩
      exact .of_performs (performsAt_returns hr' h) fun _ _ h => h
    | disable reason =>
      refine .of_performs (R := fun _ r' => Transition r (.call (.disable reason)) .returned r')
        ?_ fun _ _ h => h
      -- a reason that is no text raises before anything changes
      refine performsAt_check fun _ hreason => ?_
      obtain ⟨r', hr', h⟩ := discards_returns hopen (.call (.disable reason)) rfl r (.refl r)
        (require_eq_ok.mp hreason)
        (fun r => { r with disabledReason := some reason })
        (fun _ => ⟨rfl, rfl, rfl⟩) fun _ => .inl ⟨rfl, rfl⟩
      exact performsAt_returns hr' h

/-! ## The calls so far -/

/-- A call of a run, with the runtimes around it. -/
abbrev LifeEvent (τ : Type) := Event (CohortRuntime τ) (LifecycleCall τ) LifecycleReply

variable {past : List (LifeEvent τ)} {ev : LifeEvent τ} {pairs : List (Int × Int)}

/-- The candidate that a call returned. -/
def begunBy (ev : LifeEvent τ) : Option Nat :=
  match ev.output with
  | .began object => some object
  | .raised _ | .published _ | .returned => none

/-- The epoch and the version that a call published. -/
def publishedBy (ev : LifeEvent τ) : Option (Int × Int) :=
  match ev.output with
  | .published version => some (ev.pre.epoch, version)
  | .raised _ | .began _ | .returned => none

/-- The candidate that a call gave its terminal outcome. -/
def endedBy (ev : LifeEvent τ) : Option Nat :=
  if ev.output.isRaised then none else ev.pre.target ev.input

/-- A commit, reset, cancellation, discard or disable that returned. -/
def Ending (ev : LifeEvent τ) : Prop := ev.input.ends = true ∧ ev.output.isRaised = false

/-- The candidate was begun, and none of the calls that end one returned since. -/
def SinceBegun (past : List (LifeEvent τ)) (object : Nat) : Prop :=
  ∃ before ev after, past = before ++ ev :: after ∧ begunBy ev = some object ∧
    ∀ e ∈ after, ¬ Ending e

theorem SinceBegun.snoc (h : SinceBegun past object) (hev : ¬ Ending ev) :
    SinceBegun (past ++ [ev]) object := by
  obtain ⟨before, first, after, rfl, hbegun, hafter⟩ := h
  refine ⟨before, first, after ++ [ev], by simp, hbegun, fun e he => ?_⟩
  rcases mem_append.mp he with he | he
  · exact hafter e he
  · rw [mem_singleton.mp he]
    exact hev

/-- The versions `1, .., n`. -/
def upTo (n : Nat) : List Int := (List.range n).map fun i : Nat => (i : Int) + 1

/-- The versions that were published in one epoch, in order. -/
def versionsOf (pairs : List (Int × Int)) (epoch : Int) : List Int :=
  (pairs.filter fun p => p.1 = epoch).map (·.2)

/-- The publications so far, up to the epoch and the version of the runtime. -/
structure Versions (pairs : List (Int × Int)) (epoch version : Int) : Prop where
  increasing : pairs.Pairwise fun p q => toLex p < toLex q
  bounded : ∀ p ∈ pairs, p.1 < epoch ∨ p.1 = epoch ∧ p.2 ≤ version
  nonneg : 0 ≤ version
  current : versionsOf pairs epoch = upTo version.toNat
  counted : ∀ e, ∃ n, versionsOf pairs e = upTo n

theorem Versions.empty : Versions [] 0 0 :=
  ⟨.nil, (fun _ h => by cases h), le_refl 0, rfl, fun _ => ⟨0, rfl⟩⟩

theorem Versions.nextEpoch {epoch version : Int} (h : Versions pairs epoch version) :
    Versions pairs (epoch + 1) 0 := by
  have hbefore : ∀ p ∈ pairs, p.1 < epoch + 1 := by
    intro p hp
    rcases h.bounded p hp with hlt | ⟨heq, -⟩ <;> omega
  refine ⟨h.increasing, fun p hp => .inl (hbefore p hp), le_refl 0, ?_, h.counted⟩
  have hnone : (pairs.filter fun p => decide (p.1 = epoch + 1)) = [] := by
    rw [filter_eq_nil_iff]
    intro p hp heq
    have := hbefore p hp
    have := of_decide_eq_true heq
    omega
  unfold versionsOf
  rw [hnone]
  rfl

theorem versionsOf_snoc (pairs : List (Int × Int)) (epoch version e : Int) :
    versionsOf (pairs ++ [(epoch, version)]) e =
      versionsOf pairs e ++ if epoch = e then [version] else [] := by
  unfold versionsOf
  rw [filter_append, map_append]
  split
  · next heq => simp [heq]
  · next hne => simp [hne]

/-- A publication is the next version of the epoch. -/
theorem Versions.publish {epoch version : Int} (h : Versions pairs epoch version) :
    Versions (pairs ++ [(epoch, version + 1)]) epoch (version + 1) := by
  have hnonneg := h.nonneg
  have hcurrent : versionsOf (pairs ++ [(epoch, version + 1)]) epoch =
      upTo (version + 1).toNat := by
    have hnat : (version + 1).toNat = version.toNat + 1 := by omega
    rw [versionsOf_snoc, if_pos rfl, h.current, hnat]
    unfold upTo
    rw [range_succ, map_append, map_singleton]
    congr 2
    omega
  refine ⟨?_, fun p hp => ?_, by omega, hcurrent, fun e => ?_⟩
  · refine pairwise_append.mpr ⟨h.increasing, pairwise_singleton _ _, ?_⟩
    intro p hp q hq
    rw [mem_singleton.mp hq, Prod.Lex.toLex_lt_toLex]
    rcases h.bounded p hp with hlt | ⟨heq, hle⟩
    · exact .inl hlt
    · exact .inr ⟨heq, by show p.2 < version + 1; omega⟩
  · rcases mem_append.mp hp with hp | hp
    · rcases h.bounded p hp with hlt | ⟨heq, hle⟩
      · exact .inl hlt
      · exact .inr ⟨heq, by omega⟩
    · rw [mem_singleton.mp hp]
      exact .inr ⟨rfl, le_refl _⟩
  · by_cases he : epoch = e
    · rw [← he]
      exact ⟨_, hcurrent⟩
    · obtain ⟨n, hn⟩ := h.counted e
      refine ⟨n, ?_⟩
      rw [versionsOf_snoc, if_neg he, append_nil, hn]

theorem Versions.same (h : Versions pairs r.epoch r.activeVersion) (hsame : SameOrNextEpoch r r') :
    Versions pairs r'.epoch r'.activeVersion := by
  rcases hsame with ⟨hepoch, hversion⟩ | ⟨hepoch, hversion⟩
  · rw [hepoch, hversion]
    exact h
  · rw [hepoch, hversion]
    exact h.nextEpoch

/-- What the fields of the runtime say about the calls so far. -/
structure LifecycleInvariant (past : List (LifeEvent τ)) (r : CohortRuntime τ) : Prop where
  begun : past.filterMap begunBy = List.range r.nextObject
  endedNodup : (past.filterMap endedBy).Nodup
  endedBegun : ∀ object ∈ past.filterMap endedBy, object < r.nextObject
  open_iff : ∀ object, object < r.nextObject ∧ object ∉ past.filterMap endedBy ↔
    ∃ candidate, r.inFlight = some candidate ∧ candidate.object = object
  last : ∀ t, r.lastTermination = some t → t.candidate.object ∈ past.filterMap endedBy
  since : ∀ candidate, r.inFlight = some candidate → SinceBegun past candidate.object
  versions : Versions (past.filterMap publishedBy) r.epoch r.activeVersion

theorem LifecycleInvariant.flightOpen (h : LifecycleInvariant past r) : FlightOpen r := by
  intro t candidate ht hflight heq
  have hended := h.last t ht
  have hopen := (h.open_iff candidate.object).mpr ⟨candidate, hflight, rfl⟩
  rw [heq] at hended
  exact hopen.2 hended

theorem LifecycleInvariant.fresh (identitySha256 : String) :
    LifecycleInvariant [] (fresh identitySha256 : CohortRuntime τ) where
  begun := rfl
  endedNodup := nodup_nil
  endedBegun := fun _ h => by cases h
  open_iff := by
    intro object
    constructor
    · rintro ⟨h, -⟩
      exact absurd h (Nat.not_lt_zero _)
    · rintro ⟨candidate, h, -⟩
      cases h
  last := fun _ h => by cases h
  since := fun _ h => by cases h
  versions := .empty

/-- A call that begins, publishes and ends nothing. -/
theorem LifecycleInvariant.quiet (h : LifecycleInvariant past ev.pre) (hbegun : begunBy ev = none)
    (hpublished : publishedBy ev = none) (hended : endedBy ev = none)
    (hflight : ev.post.inFlight = ev.pre.inFlight) (hnext : ev.post.nextObject = ev.pre.nextObject)
    (hlast : ev.post.lastTermination = ev.pre.lastTermination)
    (hepoch : SameOrNextEpoch ev.pre ev.post) (hends : ¬ Ending ev ∨ ev.pre.inFlight = none) :
    LifecycleInvariant (past ++ [ev]) ev.post := by
  have hended : (past ++ [ev]).filterMap endedBy = past.filterMap endedBy := by
    simp [hended]
  have hpub : (past ++ [ev]).filterMap publishedBy = past.filterMap publishedBy := by
    simp [hpublished]
  refine ⟨?_, ?_, ?_, ?_, ?_, ?_, ?_⟩
  · simp [hbegun, h.begun, hnext]
  · rw [hended]
    exact h.endedNodup
  · rw [hended, hnext]
    exact h.endedBegun
  · rw [hended, hnext, hflight]
    exact h.open_iff
  · rw [hended, hlast]
    exact h.last
  · intro candidate hcandidate
    rw [hflight] at hcandidate
    rcases hends with hends | hidle
    · exact (h.since candidate hcandidate).snoc hends
    · rw [hidle] at hcandidate
      cases hcandidate
  · rw [hpub]
    exact h.versions.same hepoch

/-- A call that begins a candidate. -/
theorem LifecycleInvariant.begin (h : LifecycleInvariant past ev.pre)
    (hends : ev.input.ends = false) (hidle : ev.pre.inFlight = none)
    (hobject : candidate.object = ev.pre.nextObject)
    (houtput : ev.output = .began ev.pre.nextObject)
    (hpost : ev.post = { ev.pre with inFlight := some candidate,
                                     nextObject := ev.pre.nextObject + 1 }) :
    LifecycleInvariant (past ++ [ev]) ev.post := by
  have hbegun : begunBy ev = some ev.pre.nextObject := by simp [begunBy, houtput]
  have hended : (past ++ [ev]).filterMap endedBy = past.filterMap endedBy := by
    simp [endedBy, target_of_ends hends]
  have hpub : (past ++ [ev]).filterMap publishedBy = past.filterMap publishedBy := by
    simp [publishedBy, houtput]
  have hnone : ∀ object, object < ev.pre.nextObject → object ∈ past.filterMap endedBy := by
    intro object hlt
    by_contra hopen
    obtain ⟨other, hother, -⟩ := (h.open_iff object).mp ⟨hlt, hopen⟩
    rw [hidle] at hother
    cases hother
  rw [hpost]
  refine ⟨?_, ?_, ?_, ?_, ?_, ?_, ?_⟩
  · simp [hbegun, h.begun, range_succ]
  · rw [hended]
    exact h.endedNodup
  · rw [hended]
    intro object hobject
    exact Nat.lt_succ_of_lt (h.endedBegun object hobject)
  · intro object
    rw [hended]
    simp only [Option.some.injEq, exists_eq_left']
    constructor
    · -- every earlier candidate has ended
      rintro ⟨hlt, hopen⟩
      rcases Nat.lt_succ_iff_lt_or_eq.mp hlt with hlt | rfl
      · exact absurd (hnone object hlt) hopen
      · exact hobject
    · rintro rfl
      rw [hobject]
      exact ⟨Nat.lt_succ_self _, fun hmem => lt_irrefl _ (h.endedBegun _ hmem)⟩
  · rw [hended]
    exact h.last
  · intro other hother
    obtain rfl : candidate = other := Option.some.inj hother
    exact ⟨past, ev, [], rfl, by rw [hbegun, hobject], fun _ he => by cases he⟩
  · rw [hpub]
    exact h.versions

/-- A call that ends the candidate in flight. -/
theorem LifecycleInvariant.terminate (h : LifecycleInvariant past ev.pre)
    (hterm : Terminates ev.pre ev.post candidate outcome) (hbegun : begunBy ev = none)
    (hby : endedBy ev = some candidate.object)
    (hversions : Versions ((past ++ [ev]).filterMap publishedBy) ev.post.epoch
      ev.post.activeVersion) : LifecycleInvariant (past ++ [ev]) ev.post := by
  obtain ⟨hlt, hopen⟩ := (h.open_iff candidate.object).mpr ⟨candidate, hterm.before, rfl⟩
  obtain ⟨t, ht, hcandidate, -⟩ := hterm.last
  have hended : (past ++ [ev]).filterMap endedBy =
      past.filterMap endedBy ++ [candidate.object] := by
    simp [hby]
  refine ⟨?_, ?_, ?_, ?_, ?_, ?_, hversions⟩
  · simp [hbegun, h.begun, hterm.nextObject]
  · rw [hended]
    exact nodup_append.mpr ⟨h.endedNodup, nodup_singleton _, fun a ha b hb hab =>
      hopen (by rw [← mem_singleton.mp hb, ← hab]; exact ha)⟩
  · rw [hended, hterm.nextObject]
    intro object hobject
    rcases mem_append.mp hobject with hobject | hobject
    · exact h.endedBegun object hobject
    · rw [mem_singleton.mp hobject]
      exact hlt
  · intro object
    rw [hended, hterm.nextObject, hterm.after]
    constructor
    · -- the only open candidate was the one in flight
      rintro ⟨hobject, hnot⟩
      rw [mem_append, not_or, mem_singleton] at hnot
      obtain ⟨other, hother, rfl⟩ := (h.open_iff object).mp ⟨hobject, hnot.1⟩
      rw [hterm.before] at hother
      obtain rfl := Option.some.inj hother
      exact absurd rfl hnot.2
    · rintro ⟨other, hother, -⟩
      cases hother
  · intro last hlast
    rw [ht] at hlast
    obtain rfl := Option.some.inj hlast
    rw [hended, hcandidate]
    exact mem_append_right _ (mem_singleton.mpr rfl)
  · intro other hother
    rw [hterm.after] at hother
    cases hother

/-- A transition keeps the invariant. -/
theorem LifecycleInvariant.transition (h : LifecycleInvariant past ev.pre)
    (ht : Transition ev.pre ev.input ev.output ev.post) :
    LifecycleInvariant (past ++ [ev]) ev.post := by
  obtain ⟨pre, input, output, post⟩ := ev
  dsimp only at h ht ⊢
  cases ht with
  | raised hs =>
    exact h.quiet rfl rfl rfl hs.inFlight hs.nextObject hs.lastTermination
      (.inl ⟨hs.epoch, hs.activeVersion⟩) (.inl fun hending => by cases hending.2)
  | returned hends hs =>
    exact h.quiet rfl rfl (target_of_ends hends pre) hs.inFlight hs.nextObject
      hs.lastTermination (.inl ⟨hs.epoch, hs.activeVersion⟩)
      (.inl fun hending => by rw [hending.1] at hends; cases hends)
  | began hends hidle hobject hr' => exact h.begin hends hidle hobject rfl hr'
  | published htarget hterm hepoch hversion =>
    refine h.terminate hterm rfl htarget ?_
    rw [filterMap_append, hepoch, hversion]
    exact h.versions.publish
  | discarded htarget hterm hepoch =>
    refine h.terminate hterm rfl htarget ?_
    rw [filterMap_append]
    show Versions (past.filterMap publishedBy ++ []) _ _
    rw [append_nil]
    exact h.versions.same hepoch
  | idle htarget hidle hidle' hnext hlast hepoch =>
    exact h.quiet rfl rfl htarget (hidle'.trans hidle.symm) hnext hlast hepoch (.inr hidle)

/-- Every call keeps the invariant. -/
theorem LifecycleInvariant.step (h : LifecycleInvariant past r) (c : LifecycleCall τ) :
    LifecycleInvariant (past ++ [event lifecycleStep r c]) (lifecycleStep r c).2 := by
  have hev : LifecycleInvariant past (event lifecycleStep r c).pre := h
  exact hev.transition (lifecycleStep_transition h.flightOpen c)

theorem lifecycle_invariant (identitySha256 : String) (calls : List (LifecycleCall τ)) :
    LifecycleInvariant (trace lifecycleStep (fresh identitySha256) calls)
      (final lifecycleStep (fresh identitySha256) calls) := by
  have hstep : ∀ past (r : CohortRuntime τ) c, LifecycleInvariant past r → True →
      LifecycleInvariant (past ++ [event lifecycleStep r c]) (lifecycleStep r c).2 :=
    fun past r c h _ => h.step c
  exact trace_induction hstep (LifecycleInvariant.fresh identitySha256) fun _ _ => trivial

/-- A refused publication changes nothing. -/
theorem refusal_unchanged (hopen : FlightOpen r) {policy : MethodPolicy}
    {currentRound stride extraLogicalDelay : Int}
    (h : (lifecycleStep r (.call (.commit object policy currentRound stride
      extraLogicalDelay))).1.isRaised = true) :
    (lifecycleStep r (.call (.commit object policy currentRound stride
      extraLogicalDelay))).2 = r := by
  have hcommit := commit_performs hopen object policy currentRound stride extraLogicalDelay
  simp only [lifecycleStep, method] at h ⊢
  cases hm : commit object policy currentRound stride extraLogicalDelay r with
  | mk result r' =>
    rw [hm] at h
    cases result with
    | error e => exact hcommit.of_error hm
    | ok version => cases h

/-- A commit that returned ended the candidate in flight. -/
theorem Transition.inFlight_of_target {reply : LifecycleReply} (h : Transition r c reply r')
    (hreturned : reply.isRaised = false) (htarget : r.target c = some object) :
    ∃ candidate, r.inFlight = some candidate ∧ candidate.object = object := by
  cases h with
  | raised _ => cases hreturned
  | returned hends _ =>
    rw [target_of_ends hends] at htarget
    cases htarget
  | began hends _ _ _ =>
    rw [target_of_ends hends] at htarget
    cases htarget
  | published hcandidate hterm _ _ =>
    exact ⟨_, hterm.before, Option.some.inj (hcandidate.symm.trans htarget)⟩
  | discarded hcandidate hterm _ =>
    exact ⟨_, hterm.before, Option.some.inj (hcandidate.symm.trans htarget)⟩
  | idle hnone _ _ _ _ _ =>
    rw [hnone] at htarget
    cases htarget

/-- Over every sequence of calls on a fresh runtime: the candidates that were begun
and have no outcome are the one in flight; no candidate gets two outcomes; a commit
that returns is of a candidate since whose begin no call that ends one returned; the
publications increase, by one from one in each epoch; and a refusal changes nothing. -/
theorem candidate_lifecycle_safe (identitySha256 : String) (calls : List (LifecycleCall τ)) :
    let run := trace lifecycleStep (fresh identitySha256) calls
    let r := final lifecycleStep (fresh identitySha256) calls
    ((run.filterMap begunBy).Nodup ∧ ∀ object,
      object ∈ run.filterMap begunBy ∧ object ∉ run.filterMap endedBy ↔
        ∃ candidate, r.inFlight = some candidate ∧ candidate.object = object) ∧
    ((run.filterMap endedBy).Nodup ∧
      ∀ object ∈ run.filterMap endedBy, object ∈ run.filterMap begunBy) ∧
    (∀ past ev rest, run = past ++ ev :: rest →
      ∀ object policy currentRound stride extraLogicalDelay,
        ev.input = .call (.commit object policy currentRound stride extraLogicalDelay) →
        ev.output.isRaised = false → SinceBegun past object) ∧
    ((run.filterMap publishedBy).Pairwise (fun p q => toLex p < toLex q) ∧
      ∀ epoch, ∃ n, versionsOf (run.filterMap publishedBy) epoch = upTo n) ∧
    (∀ ev ∈ run, (∀ object policy currentRound stride extraLogicalDelay,
      (ev.input = .call (.commit object policy currentRound stride extraLogicalDelay) ∧
        ev.output.isRaised = true) ∨
      ev.input = .canPublish object policy currentRound stride extraLogicalDelay →
        ev.post = ev.pre)) := by
  intro run r
  have hinv : LifecycleInvariant run r := lifecycle_invariant identitySha256 calls
  refine ⟨⟨?_, fun object => ?_⟩, ⟨hinv.endedNodup, fun object hobject => ?_⟩, ?_,
    ⟨hinv.versions.increasing, hinv.versions.counted⟩, ?_⟩
  · rw [hinv.begun]
    exact List.nodup_range
  · rw [hinv.begun, List.mem_range]
    exact hinv.open_iff object
  · rw [hinv.begun, List.mem_range]
    exact hinv.endedBegun object hobject
  · intro past ev rest hsplit object policy currentRound stride extraLogicalDelay hinput hreturned
    obtain ⟨first, rfl, hpre, hev⟩ := trace_split hsplit
    have hpast := lifecycle_invariant identitySha256 first
    rw [← hpre] at hpast
    rw [hev] at hreturned
    have htarget : ev.pre.target ev.input = some object := by rw [hinput]; rfl
    obtain ⟨candidate, hflight, rfl⟩ :=
      (lifecycleStep_transition hpast.flightOpen ev.input).inFlight_of_target hreturned htarget
    exact hpast.since candidate hflight
  · intro ev hev object policy currentRound stride extraLogicalDelay hrefused
    obtain ⟨past, rest, hsplit⟩ := List.append_of_mem hev
    obtain ⟨first, rfl, hpre, hevent⟩ := trace_split hsplit
    have hpast := lifecycle_invariant identitySha256 first
    rw [← hpre] at hpast
    rw [hevent] at hrefused ⊢
    rcases hrefused with ⟨hinput, hraised⟩ | hinput
    · have hinput : ev.input = _ := hinput
      simp only [event, hinput] at hraised ⊢
      exact refusal_unchanged hpast.flightOpen hraised
    · have hinput : ev.input = _ := hinput
      simp only [event, hinput, lifecycleStep]
      split <;> rfl

end CohortRuntime

end Adaptation

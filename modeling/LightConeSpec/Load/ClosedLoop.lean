import Mathlib.Data.List.Chain
import Mathlib.Data.Rat.Floor
import Mathlib.Tactic.Linarith
import LightConeSpec.Lib.Lanes
import LightConeSpec.Load.Plan

/-!
# Accounting of scored requests

`account_scored_requests` reads the outcomes in three passes: the lanes of a closed loop
must be prefixes, each outcome must fit the life of its request, and each lane must be
offered back to back. The third pass leaves a lane at its first unfinished request: a client
that lost the proof of a terminal goes on, and its producer offers the next request at the
effective deadline of the lost one. `closedLoopSound` is what the accounting promises of this.
-/

namespace Load

open Python Lanes List Option

/-! ## Outcomes -/

/-- The five registered statuses, and any other text. -/
inductive OutcomeStatus
  | rejected
  | completed
  | timedOut
  | cancelled
  | unfinished
  | other (name : String)
deriving DecidableEq

structure RequestOutcome (D : Type) where
  requestId : D
  status : OutcomeStatus
  admittedAtUs : Option ℤ
  terminalAtUs : Option ℤ
  code : String
  offeredAtUs : Option ℤ := none

structure LoadAccounting where
  offered : ℕ
  admitted : ℕ
  rejected : ℕ
  completed : ℕ
  timedOut : ℕ
  cancelled : ℕ
  unfinished : ℕ
  scoreStartedUs : ℤ
  scoreEndedUs : ℤ
  elapsedUs : ℤ

def LoadAccounting.validate (a : LoadAccounting) : Except Error Unit := do
  require (a.offered = a.rejected + a.completed + a.timedOut + a.cancelled + a.unfinished)
    (valueError "terminal accounting does not partition offered requests")
  require (a.admitted ≤ a.offered ∧ a.elapsedUs = a.scoreEndedUs - a.scoreStartedUs)
    (valueError "load accounting interval is inconsistent")

/-! ## The life of a request -/

/-- A member of `offered_requests` with its outcome. -/
structure Offered (D : Type) where
  request : ImmutableRequest D
  outcome : RequestOutcome D

namespace Offered

variable {D : Type} (o : Offered D) (window : ProductionWindow)

/-- `offered_at_us`, which `effective_arrivals` keeps for the request. -/
def offeredAtUs : ℤ := o.outcome.offeredAtUs.getD o.request.arrivalUs

def timeoutUs : ℤ := min (o.offeredAtUs + window.requestDeadlineUs) window.scoredGlobalEndUs

def cancelUs : Option ℤ := o.request.cancellationOffsetUs.map (o.offeredAtUs + ·)

def checkAdmission : Except Error Unit :=
  match o.outcome.admittedAtUs with
  | none => pure ()
  | some admitted => do
    requireNonnegativeInteger admitted "admission time"
    require (o.offeredAtUs ≤ admitted ∧ admitted ≤ o.timeoutUs window)
      (valueError "admission time lies outside request lifetime")

def checkTerminal (terminal : ℤ) : Except Error Unit := do
  requireNonnegativeInteger terminal "terminal time"
  require (o.offeredAtUs ≤ terminal ∧ terminal ≤ o.timeoutUs window)
    (valueError "terminal time lies outside request lifetime")
  require (∀ admitted ∈ o.outcome.admittedAtUs, admitted ≤ terminal)
    (valueError "request terminated before admission")
  require (¬ (o.outcome.status = .timedOut ∧ terminal ≠ o.timeoutUs window))
    (valueError "timeout must occur at the registered effective deadline")
  require (¬ (o.outcome.status = .cancelled ∧ o.cancelUs ≠ some terminal))
    (valueError "cancellation must match the hashed cancellation schedule")
  require (¬ (o.outcome.status = .completed ∧ ∃ cancel ∈ o.cancelUs, cancel < terminal))
    (valueError "completion cannot occur after a scheduled cancellation")
  require (¬ (o.outcome.status = .timedOut ∧ ∃ cancel ∈ o.cancelUs, cancel < o.timeoutUs window))
    (valueError "timeout cannot bypass an earlier scheduled cancellation")

/-- The checks of the loop over the offered requests. -/
def check (closedLoop : Bool) : Except Error Unit := do
  requireNonnegativeInteger o.offeredAtUs "request offer time"
  if closedLoop then
    require (0 ≤ o.offeredAtUs ∧ o.offeredAtUs < window.arrivalDurationUs)
      (valueError "closed-loop offer lies outside the arrival window")
  else
    require (o.offeredAtUs = o.request.arrivalUs)
      (valueError "open-loop offer differs from the registered trace")
  o.checkAdmission window
  require (¬ (o.outcome.status ∈ [OutcomeStatus.completed, .timedOut, .unfinished]
      ∧ o.outcome.admittedAtUs = none))
    (valueError "completed, timed-out, and unfinished requests must be admitted")
  require (¬ (o.outcome.status = .rejected ∧ o.outcome.admittedAtUs ≠ none))
    (valueError "rejected request cannot be admitted")
  if o.outcome.status = .unfinished then
    require (o.outcome.terminalAtUs = none)
      (valueError "unfinished request cannot have a terminal time")
    require (¬ ∃ cancel ∈ o.cancelUs, cancel ≤ o.timeoutUs window)
      (valueError "scheduled cancellation cannot remain unfinished")
  else
    match o.outcome.terminalAtUs with
    | none => .error (valueError "terminal request outcome requires a terminal time")
    | some terminal => o.checkTerminal window terminal

/-- The endpoint that the request has in the denominator. -/
def endpoint : Option ℤ :=
  if o.outcome.status = .unfinished then some (o.timeoutUs window) else o.outcome.terminalAtUs

end Offered

/-- `admitted` and `counts`. -/
structure Tally where
  admitted : ℕ := 0
  rejected : ℕ := 0
  completed : ℕ := 0
  timedOut : ℕ := 0
  cancelled : ℕ := 0
  unfinished : ℕ := 0

section

variable {D : Type}

/-- `counts[outcome.status] += 1`, and `admitted += 1` of an admitted request. -/
def Tally.add (tally : Tally) (o : Offered D) : Tally where
  admitted := tally.admitted + if o.outcome.admittedAtUs.isSome then 1 else 0
  rejected := tally.rejected + if o.outcome.status = .rejected then 1 else 0
  completed := tally.completed + if o.outcome.status = .completed then 1 else 0
  timedOut := tally.timedOut + if o.outcome.status = .timedOut then 1 else 0
  cancelled := tally.cancelled + if o.outcome.status = .cancelled then 1 else 0
  unfinished := tally.unfinished + if o.outcome.status = .unfinished then 1 else 0

/-- The body of the loop over the offered requests. -/
def countOffered (window : ProductionWindow) (closedLoop : Bool) (tally : Tally)
    (o : Offered D) : Except Error Tally := do
  o.check window closedLoop
  pure (tally.add o)

/-- The value of an expression that raises when there is none. -/
def present (value : Option ℤ) (error : Error) : Except Error ℤ :=
  match value with
  | none => .error error
  | some value => .ok value

theorem present_eq_ok {value : Option ℤ} {error : Error} {n : ℤ} :
    present value error = .ok n ↔ value = some n := by
  cases value <;> simp [present]

/-- The denominator, from the first offer to the last endpoint. -/
def scoreInterval (window : ProductionWindow) (offered : List (Offered D)) :
    Except Error (ℤ × ℤ) := do
  let started ← present (offered.map (·.offeredAtUs)).min?
    (valueError "min() iterable argument is empty")
  require (∀ endpoint ∈ offered.map (·.endpoint window), endpoint ≠ none)
    ⟨.assertionError, "validated terminal accounting produced no endpoint"⟩
  let ended ← present (offered.filterMap (·.endpoint window)).max?
    (valueError "max() iterable argument is empty")
  pure (started, ended)

/-- The request is offered at the instant, not terminated and before its effective timeout, at
which the next of its client may be offered. -/
def Offered.InFlight (o : Offered D) (window : ProductionWindow) (t : ℚ) : Prop :=
  o.offeredAtUs ≤ t ∧ (∀ terminal ∈ o.outcome.terminalAtUs, t < terminal) ∧
    t < o.timeoutUs window

instance (o : Offered D) (window : ProductionWindow) (t : ℚ) : Decidable (o.InFlight window t) :=
  inferInstanceAs (Decidable (_ ∧ _ ∧ _))

end

/-! ## The first pass: which requests were offered -/

section

variable {D : Type} [DecidableEq D]

/-- `by_id.get(request_id)`. -/
def outcome? (outcomes : List (RequestOutcome D)) (requestId : D) : Option (RequestOutcome D) :=
  outcomes.find? fun outcome => outcome.requestId = requestId

/-- The loop that fills `by_id`, of which the keys are carried. -/
def checkOutcomes : List D → List (RequestOutcome D) → Except Error Unit
  | _, [] => pure ()
  | seen, outcome :: rest => do
    require (outcome.requestId ∉ seen) (valueError "duplicate request outcome")
    require (outcome.status ∈ [OutcomeStatus.rejected, .completed, .timedOut, .cancelled,
        .unfinished])
      (valueError "request outcome status is invalid")
    require (outcome.code ≠ "") (valueError "request outcome code must not be empty")
    checkOutcomes (outcome.requestId :: seen) rest

/-- The loop over one lane, with `seen_gap`. -/
def checkPrefix (outcomes : List (RequestOutcome D)) :
    Bool → List (ImmutableRequest D) → Except Error Unit
  | _, [] => pure ()
  | seenGap, request :: rest => do
    let present := (outcome? outcomes request.requestId).isSome
    require (¬ (seenGap ∧ present))
      (valueError "closed-loop outcomes are not a per-client prefix")
    checkPrefix outcomes (seenGap || !present) rest

def checkLane (outcomes : List (RequestOutcome D)) (planned : List (ImmutableRequest D)) :
    Except Error Unit := do
  require (∃ first ∈ planned.head?, (outcome? outcomes first.requestId).isSome)
    (valueError "closed-loop outcomes omit a registered client lane")
  checkPrefix outcomes false planned

/-- `range(concurrency)`. -/
def ProductionLoadPlan.clients (plan : ProductionLoadPlan D) : ℕ :=
  (plan.scored.concurrency?.getD 0).toNat

/-- `plan.scored.requests[lane::concurrency]`. -/
def ProductionLoadPlan.lane (plan : ProductionLoadPlan D) (i : ℕ) : List (ImmutableRequest D) :=
  Lanes.lane plan.clients i plan.scored.requests

def checkCoverage (plan : ProductionLoadPlan D) (outcomes : List (RequestOutcome D)) :
    Except Error Unit := do
  require (outcomes ≠ []
      ∧ ∀ outcome ∈ outcomes, outcome.requestId ∈ plan.scored.requests.map (·.requestId))
    (valueError "request outcome coverage does not match offered requests")
  if plan.scored.sourceKind = .closedLoop then
    require (plan.scored.concurrency? ≠ none)
      (valueError "closed-loop accounting lacks its population size")
    forEach (fun i => checkLane outcomes (plan.lane i)) (List.range plan.clients)
  else
    require (∀ request ∈ plan.scored.requests, (outcome? outcomes request.requestId).isSome)
      (valueError "request outcome coverage does not match offered requests")

/-! ## The second pass: each offered request -/

def offered? (outcomes : List (RequestOutcome D)) (request : ImmutableRequest D) :
    Option (Offered D) :=
  (outcome? outcomes request.requestId).map (⟨request, ·⟩)

def offeredRequests (plan : ProductionLoadPlan D) (outcomes : List (RequestOutcome D)) :
    List (Offered D) :=
  plan.scored.requests.filterMap (offered? outcomes)

/-! ## The third pass: lanes are offered back to back -/

/-- The loop over one lane, with `previous_terminal`. -/
def replayLane (outcomes : List (RequestOutcome D)) :
    Option ℤ → List (ImmutableRequest D) → Except Error Unit
  | _, [] => pure ()
  | previousTerminal, request :: rest =>
    match offered? outcomes request with
    | none => pure ()
    | some o => do
      require (¬ (previousTerminal = none ∧ o.offeredAtUs ≠ 0))
        (valueError "closed-loop client did not begin at the score boundary")
      require (∀ terminal ∈ previousTerminal, o.offeredAtUs = terminal)
        (valueError "closed-loop client was not replenished at its prior terminal")
      match o.outcome.terminalAtUs with
      | none => pure ()
      | some terminal => replayLane outcomes (some terminal) rest

/-- Account every offered request exactly once, including unfinished work. -/
def accountScoredRequests (sha256 : LoadContent → D) (plan : ProductionLoadPlan D)
    (outcomes : List (RequestOutcome D)) : Except Error LoadAccounting := do
  plan.validate sha256
  checkOutcomes [] outcomes
  checkCoverage plan outcomes
  let closedLoop : Bool := plan.scored.sourceKind = .closedLoop
  let offered := offeredRequests plan outcomes
  let tally ← offered.foldlM (countOffered plan.window closedLoop) {}
  if closedLoop then
    forEach (fun i => replayLane outcomes none (plan.lane i)) (List.range plan.clients)
  let interval ← scoreInterval plan.window offered
  validated LoadAccounting.validate
    { offered := offered.length
      admitted := tally.admitted
      rejected := tally.rejected
      completed := tally.completed
      timedOut := tally.timedOut
      cancelled := tally.cancelled
      unfinished := tally.unfinished
      scoreStartedUs := interval.1
      scoreEndedUs := interval.2
      elapsedUs := interval.2 - interval.1 }

/-! ## What the accounting is for -/

def laneOffered (plan : ProductionLoadPlan D) (outcomes : List (RequestOutcome D)) (i : ℕ) :
    List (Offered D) :=
  (plan.lane i).filterMap (offered? outcomes)

/-- How many requests were offered and got the status. -/
def statusCount (plan : ProductionLoadPlan D) (outcomes : List (RequestOutcome D))
    (status : OutcomeStatus) : ℕ :=
  (offeredRequests plan outcomes).countP fun o => o.outcome.status = status

/-- The request that follows is offered at the terminal time of the one before. -/
def Replenishes (o next : Offered D) : Prop := o.outcome.terminalAtUs = some next.offeredAtUs

/-- The request that follows is not offered before the one before has ended: terminated, or
unfinished and past its effective timeout. -/
def Awaits (window : ProductionWindow) (o next : Offered D) : Prop :=
  ∀ e ∈ o.endpoint window, e ≤ next.offeredAtUs

/-- The requests of a lane up to its first unfinished one. -/
def untilUnfinished : List (Offered D) → List (Offered D)
  | [] => []
  | o :: rest => if o.outcome.status = .unfinished then [o] else o :: untilUnfinished rest

/-- What a closed-loop accounting promises. Behind the first unfinished request of a lane it
compares no offers, so that the bound on what is in flight is left to who offers them. -/
structure ClosedLoopSound (plan : ProductionLoadPlan D) (outcomes : List (RequestOutcome D))
    (accounting : LoadAccounting) : Prop where
  inFlight : (∀ i < plan.clients, (laneOffered plan outcomes i).IsChain (Awaits plan.window)) →
    ∀ t : ℚ, ((offeredRequests plan outcomes).filter (·.InFlight plan.window t)).length ≤
      plan.clients
  lanePrefix : ∀ i < plan.clients,
    (laneOffered plan outcomes i).map (·.request) <+: plan.lane i
  laneStart : ∀ i < plan.clients, ∀ first ∈ (laneOffered plan outcomes i).head?,
    first.offeredAtUs = 0
  backToBack : ∀ i < plan.clients,
    (untilUnfinished (laneOffered plan outcomes i)).IsChain Replenishes
  counts : accounting.rejected = statusCount plan outcomes .rejected ∧
    accounting.completed = statusCount plan outcomes .completed ∧
    accounting.timedOut = statusCount plan outcomes .timedOut ∧
    accounting.cancelled = statusCount plan outcomes .cancelled ∧
    accounting.unfinished = statusCount plan outcomes .unfinished
  partition : accounting.offered = (offeredRequests plan outcomes).length ∧
    accounting.offered = accounting.rejected + accounting.completed + accounting.timedOut +
      accounting.cancelled + accounting.unfinished
  interval : 0 ≤ accounting.scoreStartedUs ∧
    accounting.scoreStartedUs ≤ accounting.scoreEndedUs ∧
    accounting.scoreEndedUs ≤ plan.window.scoredGlobalEndUs

end

/-! ## What the checks of a request say -/

section

variable {D : Type} {window : ProductionWindow} {o : Offered D} {closedLoop : Bool}

/-- What the checks of an offered request of a closed loop say. -/
structure Offered.Lives (o : Offered D) (window : ProductionWindow) : Prop where
  offered_nonneg : 0 ≤ o.offeredAtUs
  offered_lt : o.offeredAtUs < window.arrivalDurationUs
  unfinished : o.outcome.status = .unfinished ↔ o.outcome.terminalAtUs = none
  terminal : ∀ terminal ∈ o.outcome.terminalAtUs,
    o.offeredAtUs ≤ terminal ∧ terminal ≤ o.timeoutUs window

theorem lives_of_check (h : o.check window true = .ok ()) : o.Lives window := by
  unfold Offered.check at h
  simp only [bind_eq_ok, requireNonnegativeInteger_eq_ok, require_eq_ok, exists_const, if_true,
    ] at h
  rcases h with ⟨hnonneg, ⟨-, hlt⟩, ⟨⟩, -, -, -, hrest⟩
  by_cases hunfinished : o.outcome.status = .unfinished
  · rw [if_pos hunfinished] at hrest
    simp only [bind_eq_ok, require_eq_ok, exists_const] at hrest
    refine ⟨hnonneg, hlt, ⟨fun _ => hrest.1, fun _ => hunfinished⟩, ?_⟩
    intro terminal hterminal
    rw [hrest.1] at hterminal
    cases hterminal
  · rw [if_neg hunfinished] at hrest
    cases hterminal : o.outcome.terminalAtUs with
    | none =>
      rw [hterminal] at hrest
      cases hrest
    | some terminal =>
      rw [hterminal] at hrest
      unfold Offered.checkTerminal at hrest
      simp only [bind_eq_ok, requireNonnegativeInteger_eq_ok, require_eq_ok, exists_const,
        ] at hrest
      refine ⟨hnonneg, hlt, ?_, ?_⟩
      · rw [hterminal]
        exact ⟨fun h => absurd h hunfinished, fun h => by cases h⟩
      · intro terminal' hterminal'
        rw [hterminal, mem_some_iff] at hterminal'
        subst hterminal'
        exact hrest.2.1

/-- The endpoint of a request lies between its offer and the end of the window. -/
theorem Offered.Lives.endpoint (h : o.Lives window) (hdeadline : 1 ≤ window.requestDeadlineUs)
    (hdrain : 1 ≤ window.drainDurationUs) : ∃ e, o.endpoint window = some e ∧
      o.offeredAtUs ≤ e ∧ e ≤ window.scoredGlobalEndUs := by
  have hlt := h.offered_lt
  have htimeout : o.timeoutUs window ≤ window.scoredGlobalEndUs := min_le_right _ _
  unfold Offered.endpoint
  split
  · refine ⟨_, rfl, ?_, htimeout⟩
    unfold Offered.timeoutUs ProductionWindow.scoredGlobalEndUs
    omega
  · rename_i hfinished
    cases hterminal : o.outcome.terminalAtUs with
    | none => exact absurd (h.unfinished.mpr hterminal) hfinished
    | some terminal =>
      have hbounds := h.terminal terminal hterminal
      exact ⟨terminal, rfl, hbounds.1, hbounds.2.trans htimeout⟩

variable {offered : List (Offered D)}

/-- The denominator of a closed loop. -/
theorem scoreInterval_bounds {interval : ℤ × ℤ} (hlives : ∀ o ∈ offered, o.Lives window)
    (hdeadline : 1 ≤ window.requestDeadlineUs) (hdrain : 1 ≤ window.drainDurationUs)
    (h : scoreInterval window offered = .ok interval) :
    0 ≤ interval.1 ∧ interval.1 ≤ interval.2 ∧ interval.2 ≤ window.scoredGlobalEndUs := by
  unfold scoreInterval at h
  simp only [bind_eq_ok, pure_eq_ok, check_eq_ok, present_eq_ok] at h
  rcases h with ⟨started, hmin, -, ended, hmax, rfl⟩
  rcases mem_map.mp (min?_mem hmin) with ⟨first, hfirst, rfl⟩
  rcases mem_filterMap.mp (max?_mem hmax) with ⟨last, hlast, hended⟩
  rcases (hlives first hfirst).endpoint hdeadline hdrain with ⟨e, he, hle, -⟩
  rcases (hlives last hlast).endpoint hdeadline hdrain with ⟨e', he', -, hend⟩
  have hupper : e ≤ ended :=
    (max?_eq_some_iff.mp hmax).2 e (mem_filterMap.mpr ⟨first, hfirst, he⟩)
  rw [he'] at hended
  cases hended
  exact ⟨(hlives first hfirst).offered_nonneg, hle.trans hupper, hend⟩

/-- A request that is in flight has not ended. -/
theorem Offered.InFlight.lt_endpoint {t : ℚ} (h : o.InFlight window t) :
    ∀ e ∈ o.endpoint window, t < e := by
  intro e he
  unfold Offered.endpoint at he
  split at he
  · cases he
    exact h.2.2
  · exact h.2.1 e he

/-- In a lane that waits for each request, what was over before. -/
theorem pairwise_of_chain (hends : ∀ o ∈ offered, ∃ e ∈ o.endpoint window, o.offeredAtUs ≤ e)
    (h : offered.IsChain (Awaits window)) : offered.Pairwise fun o next =>
      ∃ e ∈ o.endpoint window, e ≤ next.offeredAtUs := by
  induction offered with
  | nil => exact List.Pairwise.nil
  | cons o rest ih =>
    rw [isChain_cons] at h
    rw [forall_mem_cons] at hends
    have hrest := ih hends.2 h.2
    refine pairwise_cons.mpr ⟨?_, hrest⟩
    intro next hnext
    rcases hends.1 with ⟨e, he, -⟩
    cases rest with
    | nil => cases hnext
    | cons second others =>
      have hsecond : e ≤ second.offeredAtUs := h.1 second rfl e he
      refine ⟨e, he, ?_⟩
      rcases mem_cons.mp hnext with rfl | hlater
      · exact hsecond
      · -- the second request ends no earlier than it is offered
        rcases (pairwise_cons.mp hrest).1 next hlater with ⟨e', he', hle⟩
        rcases hends.2 second mem_cons_self with ⟨e'', he'', hoffered⟩
        rw [mem_unique he' he''] at hle
        exact (hsecond.trans hoffered).trans hle

/-- At most one request of such a lane is in flight. -/
theorem length_inFlight_le_one
    (hends : ∀ o ∈ offered, ∃ e ∈ o.endpoint window, o.offeredAtUs ≤ e)
    (h : offered.IsChain (Awaits window)) (t : ℚ) :
    (offered.filter (·.InFlight window t)).length ≤ 1 := by
  have hpairs := (pairwise_of_chain hends h).filter (·.InFlight window t)
  cases hflying : offered.filter (·.InFlight window t) with
  | nil => exact Nat.zero_le 1
  | cons o rest =>
    cases rest with
    | nil => exact le_refl 1
    | cons next others =>
      exfalso
      have hin : ∀ o' ∈ o :: next :: others, o'.InFlight window t := by
        intro o' ho'
        rw [← hflying] at ho'
        simpa using (mem_filter.mp ho').2
      rw [hflying, pairwise_cons] at hpairs
      rcases hpairs.1 next mem_cons_self with ⟨e, he, hle⟩
      have hbefore := (hin o mem_cons_self).lt_endpoint e he
      have hafter := (hin next (mem_cons_of_mem _ mem_cons_self)).1
      have hcast : (e : ℚ) ≤ next.offeredAtUs := by exact_mod_cast hle
      linarith

theorem head?_untilUnfinished : (untilUnfinished offered).head? = offered.head? := by
  cases offered with
  | nil => rfl
  | cons o rest =>
    unfold untilUnfinished
    split <;> rfl

theorem foldlM_countOffered {tally final : Tally}
    (h : offered.foldlM (countOffered window closedLoop) tally = .ok final) :
    (∀ o ∈ offered, o.check window closedLoop = .ok ()) ∧ offered.foldl Tally.add tally = final := by
  induction offered generalizing tally with
  | nil =>
    rw [List.foldlM_nil, pure_eq_ok] at h
    exact ⟨fun o ho => absurd ho not_mem_nil, h⟩
  | cons o rest ih =>
    rw [List.foldlM_cons, bind_eq_ok] at h
    rcases h with ⟨next, hnext, hrest⟩
    unfold countOffered at hnext
    rw [bind_eq_ok] at hnext
    rcases hnext with ⟨⟨⟩, hcheck, hadd⟩
    rw [pure_eq_ok] at hadd
    rcases ih hrest with ⟨hall, hfold⟩
    refine ⟨forall_mem_cons.mpr ⟨hcheck, hall⟩, ?_⟩
    rw [foldl_cons, hadd, hfold]

/-- The tally counts the statuses. -/
theorem foldl_add (offered : List (Offered D)) (tally : Tally) :
    let count := fun status => offered.countP fun o => o.outcome.status = status
    (offered.foldl Tally.add tally).rejected = tally.rejected + count .rejected ∧
      (offered.foldl Tally.add tally).completed = tally.completed + count .completed ∧
      (offered.foldl Tally.add tally).timedOut = tally.timedOut + count .timedOut ∧
      (offered.foldl Tally.add tally).cancelled = tally.cancelled + count .cancelled ∧
      (offered.foldl Tally.add tally).unfinished = tally.unfinished + count .unfinished := by
  induction offered generalizing tally with
  | nil => simp
  | cons o rest ih =>
    have hrest := ih (tally.add o)
    simp only [foldl_cons, countP_cons, decide_eq_true_eq, Tally.add] at hrest ⊢
    omega

end

/-! ## What is accepted -/

section

variable {D : Type} [DecidableEq D] {sha256 : LoadContent → D} {plan : ProductionLoadPlan D}
  {outcomes : List (RequestOutcome D)} {accounting : LoadAccounting} {window : ProductionWindow}

theorem accountScoredRequests_eq_ok :
    accountScoredRequests sha256 plan outcomes = .ok accounting ↔
      plan.validate sha256 = .ok () ∧ checkOutcomes [] outcomes = .ok () ∧
        checkCoverage plan outcomes = .ok () ∧
        ∃ tally, (offeredRequests plan outcomes).foldlM
            (countOffered plan.window (plan.scored.sourceKind = .closedLoop)) {} = .ok tally ∧
          (plan.scored.sourceKind = .closedLoop →
            ∀ i < plan.clients, replayLane outcomes none (plan.lane i) = .ok ()) ∧
          ∃ interval, scoreInterval plan.window (offeredRequests plan outcomes) = .ok interval ∧
            validated LoadAccounting.validate
              { offered := (offeredRequests plan outcomes).length
                admitted := tally.admitted
                rejected := tally.rejected
                completed := tally.completed
                timedOut := tally.timedOut
                cancelled := tally.cancelled
                unfinished := tally.unfinished
                scoreStartedUs := interval.1
                scoreEndedUs := interval.2
                elapsedUs := interval.2 - interval.1 } = .ok accounting := by
  unfold accountScoredRequests
  by_cases hclosed : plan.scored.sourceKind = .closedLoop
  · simp only [hclosed, decide_true, if_true, bind_eq_ok, forEach_eq_ok, mem_range,
      exists_and_left, exists_const, true_implies]
    constructor
    · rintro ⟨⟨⟩, hplan, ⟨⟩, hout, ⟨⟩, hcover, h⟩
      exact ⟨hplan, hout, hcover, h⟩
    · rintro ⟨hplan, hout, hcover, h⟩
      exact ⟨(), hplan, (), hout, (), hcover, h⟩
  · simp only [hclosed, decide_false, Bool.false_eq_true, if_false, bind_eq_ok, false_implies,
      true_and]
    constructor
    · rintro ⟨⟨⟩, hplan, ⟨⟩, hout, ⟨⟩, hcover, tally, htally, h⟩
      exact ⟨hplan, hout, hcover, tally, htally, h⟩
    · rintro ⟨hplan, hout, hcover, tally, htally, h⟩
      exact ⟨(), hplan, (), hout, (), hcover, tally, htally, h⟩

/-- The window of a plan that is valid. -/
theorem window_of_validate (h : plan.validate sha256 = .ok ()) :
    1 ≤ plan.window.arrivalDurationUs ∧ 1 ≤ plan.window.requestDeadlineUs ∧
      1 ≤ plan.window.drainDurationUs := by
  unfold ProductionLoadPlan.validate at h
  rw [bind_eq_ok] at h
  rcases h with ⟨⟨⟩, hwindow, -⟩
  unfold ProductionWindow.validate at hwindow
  rw [bind_eq_ok] at hwindow
  rcases hwindow with ⟨⟨⟩, -, hall⟩
  simpa using hall

/-! ## One lane -/

variable {requests : List (ImmutableRequest D)}

/-- Behind a gap there is nothing. -/
theorem nil_of_checkPrefix (h : checkPrefix outcomes true requests = .ok ()) :
    requests.filterMap (offered? outcomes) = [] := by
  induction requests with
  | nil => rfl
  | cons request rest ih =>
    simp only [checkPrefix, bind_eq_ok, check_eq_ok, Bool.true_or, true_and,
      isSome_iff_ne_none, ne_eq, not_not] at h
    have hnone : offered? outcomes request = none := by
      unfold offered?
      rw [h.1]
      rfl
    rw [filterMap_cons_none hnone, ih h.2]

/-- A lane whose first request is offered goes on behind it; one whose first is not is empty. -/
theorem checkPrefix_cons {request : ImmutableRequest D} {rest : List (ImmutableRequest D)}
    (h : checkPrefix outcomes false (request :: rest) = .ok ()) :
    (∃ o, offered? outcomes request = some o ∧ o.request = request ∧
      checkPrefix outcomes false rest = .ok ()) ∨
    offered? outcomes request = none ∧ rest.filterMap (offered? outcomes) = [] := by
  simp only [checkPrefix, bind_eq_ok, check_eq_ok, Bool.false_or] at h
  cases hout : outcome? outcomes request.requestId with
  | none =>
    have hnone : offered? outcomes request = none := by
      unfold offered?
      rw [hout]
      rfl
    rw [hout] at h
    exact .inr ⟨hnone, nil_of_checkPrefix h.2⟩
  | some outcome =>
    have hsome : offered? outcomes request = some ⟨request, outcome⟩ := by
      unfold offered?
      rw [hout]
      rfl
    rw [hout] at h
    exact .inl ⟨⟨request, outcome⟩, hsome, rfl, h.2⟩

theorem prefix_of_checkPrefix (h : checkPrefix outcomes false requests = .ok ()) :
    (requests.filterMap (offered? outcomes)).map (·.request) <+: requests := by
  induction requests with
  | nil => exact prefix_refl _
  | cons request rest ih =>
    rcases checkPrefix_cons h with ⟨o, hsome, hrequest, hrest⟩ | ⟨hnone, hrest⟩
    · rw [filterMap_cons_some hsome, map_cons, hrequest]
      exact (prefix_cons_inj request).mpr (ih hrest)
    · rw [filterMap_cons_none hnone, hrest]
      exact nil_prefix

/-- A lane is offered back to back up to its first unfinished request. The induction is on the
lane, and `previous` is the terminal time of the request in front of it. -/
theorem chain_of_replayLane {previous : Option ℤ}
    (hlead : checkPrefix outcomes false requests = .ok ())
    (hreplay : replayLane outcomes previous requests = .ok ())
    (hlives : ∀ o ∈ requests.filterMap (offered? outcomes), o.Lives window) :
    (∀ first ∈ (requests.filterMap (offered? outcomes)).head?,
      first.offeredAtUs = previous.getD 0) ∧
      (untilUnfinished (requests.filterMap (offered? outcomes))).IsChain Replenishes := by
  induction requests generalizing previous with
  | nil => exact ⟨fun _ hfirst => (not_mem_none _ hfirst).elim, isChain_nil⟩
  | cons request rest ih =>
    rcases checkPrefix_cons hlead with ⟨o, hsome, -, hrest⟩ | ⟨hnone, hrest⟩
    · rw [filterMap_cons_some hsome] at hlives ⊢
      simp only [replayLane, hsome, bind_eq_ok, check_eq_ok] at hreplay
      rcases hreplay with ⟨hfirst, hnext, hreplay⟩
      constructor
      · intro first hhead
        rw [head?_cons, mem_some_iff] at hhead
        subst hhead
        -- the head of a lane is offered at zero, a later one where the previous ended
        cases previous with
        | none =>
          by_contra hne
          exact hfirst ⟨rfl, hne⟩
        | some terminal => exact hnext terminal rfl
      · have hlife := hlives o mem_cons_self
        unfold untilUnfinished
        cases hterminal : o.outcome.terminalAtUs with
        | none =>
          -- the chain ends at an unfinished request
          rw [if_pos (hlife.unfinished.mpr hterminal)]
          exact isChain_singleton o
        | some terminal =>
          rw [hterminal] at hreplay
          have hfinished : o.outcome.status ≠ .unfinished := by
            intro hunfinished
            rw [hlife.unfinished.mp hunfinished] at hterminal
            cases hterminal
          have htail := ih hrest hreplay fun o' ho' => hlives o' (mem_cons_of_mem _ ho')
          rw [if_neg hfinished, isChain_cons, head?_untilUnfinished]
          refine ⟨?_, htail.2⟩
          intro next hhead
          rw [Replenishes, hterminal, htail.1 next hhead]
          rfl
    · rw [filterMap_cons_none hnone, hrest]
      exact ⟨fun _ hfirst => (not_mem_none _ hfirst).elim, isChain_nil⟩

/-! ## Accepted closed loops -/

/-- What is counted over the offered requests is counted over the requests. -/
theorem length_filterMap_filter {p : Offered D → Bool} :
    ((requests.filterMap (offered? outcomes)).filter p).length =
      (requests.filter fun request => ((offered? outcomes request).map p).getD false).length := by
  induction requests with
  | nil => rfl
  | cons request rest ih =>
    cases hoffered : offered? outcomes request with
    | none =>
      rw [filterMap_cons_none hoffered, filter_cons_of_neg (by simp [hoffered]), ih]
    | some o =>
      rw [filterMap_cons_some hoffered]
      cases hp : p o with
      | true =>
        rw [filter_cons_of_pos hp, filter_cons_of_pos (by simp [hoffered, hp]),
          length_cons, length_cons, ih]
      | false =>
        rw [filter_cons_of_neg (by simp [hp]),
          filter_cons_of_neg (by simp [hoffered, hp]), ih]

/-- The population of an accepted closed loop, and its lanes. -/
theorem lanes_of_checkCoverage (hclosed : plan.scored.sourceKind = .closedLoop)
    (h : checkCoverage plan outcomes = .ok ()) :
    0 < plan.clients ∧ ∀ i < plan.clients, checkPrefix outcomes false (plan.lane i) = .ok () := by
  unfold checkCoverage at h
  rw [if_pos hclosed] at h
  simp only [bind_eq_ok, check_eq_ok, forEach_eq_ok, mem_range] at h
  rcases h with ⟨-, hsome, hlanes⟩
  constructor
  · cases hconcurrency : plan.scored.concurrency? with
    | none => exact absurd hconcurrency hsome
    | some concurrency =>
      have hpos : 1 ≤ concurrency := by
        unfold RequestCorpus.concurrency? at hconcurrency
        split at hconcurrency
        · split at hconcurrency
          · rename_i hle
            cases hconcurrency
            exact hle
          · cases hconcurrency
        · cases hconcurrency
      unfold ProductionLoadPlan.clients
      rw [hconcurrency, getD_some]
      omega
  · intro i hi
    have hlane := hlanes i hi
    unfold checkLane at hlane
    simp only [bind_eq_ok, check_eq_ok] at hlane
    exact hlane.2

/-- A request of a lane that has an outcome is one that was offered. -/
theorem mem_offered_of_mem_lane {i : ℕ} {o : Offered D} (h : o ∈ laneOffered plan outcomes i) :
    o ∈ offeredRequests plan outcomes := by
  rcases mem_filterMap.mp h with ⟨request, hrequest, ho⟩
  exact mem_filterMap.mpr ⟨request, (lane_sublist _ _ _).subset hrequest, ho⟩

/-- Every accepted accounting of a closed loop is sound. -/
theorem closedLoopSound (sha256 : LoadContent → D) (plan : ProductionLoadPlan D)
    (outcomes : List (RequestOutcome D)) (accounting : LoadAccounting)
    (hclosed : plan.scored.sourceKind = .closedLoop)
    (h : accountScoredRequests sha256 plan outcomes = .ok accounting) :
    ClosedLoopSound plan outcomes accounting := by
  rcases accountScoredRequests_eq_ok.mp h with
    ⟨hplan, -, hcover, tally, htally, hreplay, interval, hinterval, haccounting⟩
  rcases window_of_validate hplan with ⟨-, hdeadline, hdrain⟩
  rcases lanes_of_checkCoverage hclosed hcover with ⟨hclients, hlead⟩
  simp only [hclosed, decide_true] at htally
  rcases foldlM_countOffered htally with ⟨hchecks, hfold⟩
  have hlives : ∀ o ∈ offeredRequests plan outcomes, o.Lives plan.window :=
    fun o ho => lives_of_check (hchecks o ho)
  have hlane : ∀ i, ∀ o ∈ laneOffered plan outcomes i, o.Lives plan.window :=
    fun i o ho => hlives o (mem_offered_of_mem_lane ho)
  have hends : ∀ i, ∀ o ∈ laneOffered plan outcomes i,
      ∃ e ∈ o.endpoint plan.window, o.offeredAtUs ≤ e := by
    intro i o ho
    rcases (hlane i o ho).endpoint hdeadline hdrain with ⟨e, he, hle, -⟩
    exact ⟨e, he, hle⟩
  have hchains := fun i hi => chain_of_replayLane (hlead i hi) (hreplay hclosed i hi) (hlane i)
  have hcounts := foldl_add (offeredRequests plan outcomes) {}
  simp only [Nat.zero_add] at hcounts
  rw [hfold] at hcounts
  rcases validated_eq_ok.mp haccounting with ⟨hvalid, rfl⟩
  constructor
  · intro hawaits t
    unfold offeredRequests
    rw [length_filterMap_filter]
    apply length_filter_le_lanes hclients
    intro i hi
    -- a lane has one request in flight, and there are as many lanes as clients
    have hone := length_inFlight_le_one (hends i) (hawaits i hi) t
    rw [laneOffered, length_filterMap_filter] at hone
    exact hone
  · exact fun i hi => prefix_of_checkPrefix (hlead i hi)
  · exact fun i hi => (hchains i hi).1
  · exact fun i hi => (hchains i hi).2
  · exact hcounts
  · unfold LoadAccounting.validate at hvalid
    simp only [bind_eq_ok, check_eq_ok] at hvalid
    exact ⟨rfl, hvalid.1⟩
  · exact scoreInterval_bounds hlives hdeadline hdrain hinterval

end

/-! ## Two clients -/

def loopRequest (ordinal : ℤ) : ImmutableRequest LoadContent :=
  let content : RequestContent :=
    ⟨"loop", .tuning, ordinal, ⟨[1], 1, ⟨[("seed", .integer 0)]⟩, none⟩, 0, "cohort"⟩
  ⟨.request content, content⟩

/-- Two clients with two requests each, ten microseconds of arrivals, a deadline of five. -/
def loopPlan : ProductionLoadPlan LoadContent :=
  let parameters : List (String × JsonScalar) := [("concurrency", .integer 2),
    ("generator", .text "closed_loop_zero_think_v1"), ("request_count", .integer 4)]
  { warmup := none
    scored := ⟨"loop", .closedLoop, .source parameters, parameters, true, .tuning,
      [loopRequest 0, loopRequest 1, loopRequest 2, loopRequest 3]⟩
    window := ⟨0, 10, 5, 5⟩ }

/-- The first request of one client is lost, and the next is offered at its deadline; the other
client goes on at the terminal time of its first. -/
def loopOutcomes : List (RequestOutcome LoadContent) :=
  [⟨(loopRequest 0).requestId, .unfinished, some 0, none, "lost", some 0⟩,
   ⟨(loopRequest 1).requestId, .completed, some 0, some 3, "ok", some 0⟩,
   ⟨(loopRequest 2).requestId, .completed, some 5, some 8, "ok", some 5⟩,
   ⟨(loopRequest 3).requestId, .unfinished, some 3, none, "open", some 3⟩]

theorem closedLoopSound_loop :
    ClosedLoopSound loopPlan loopOutcomes ⟨4, 4, 0, 2, 0, 0, 2, 0, 8, 8⟩ :=
  closedLoopSound id loopPlan loopOutcomes _ rfl rfl

/-- The outcomes are accepted, with a request behind an unfinished one of its lane. -/
theorem closedLoop_goes_on : ¬ ∀ accounting,
    accountScoredRequests id loopPlan loopOutcomes = .ok accounting →
      ∀ i < loopPlan.clients, (laneOffered loopPlan loopOutcomes i).Pairwise fun o _ =>
        o.outcome.status ≠ .unfinished := by
  intro h
  have hlane := h ⟨4, 4, 0, 2, 0, 0, 2, 0, 8, 8⟩ rfl 0 (by decide)
  revert hlane
  decide

end Load

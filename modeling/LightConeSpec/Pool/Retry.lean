import LightConeSpec.Pool.Execution

/-!
# Receipts of retries

A retry adds its interval behind those of the receipt it retries, and the
constructor of the new receipt accepts the intervals only if merging returns them.
Merging makes one interval of two that touch, so the receipt of a retry exists
exactly when the retry starts strictly after the attempt before it finished.
-/

namespace Pool

open Python Intervals

variable {D J : Type} [DecidableEq D]

/-! ## How an attempt ends -/

/-- What the `try` statement of `_run_assignment` has made of the runner's result
when it reads the clock. -/
def terminalOutcome (scope : WaveScope D) (p : PendingAttempt D) (outcome : RunnerOutcome D) :
    Except Error (AssignmentTerminalBinding D) := do
  match ← outcome with
  | none =>
    .error (typeError ("assignment runner must return an exact AssignmentTerminalAuthority; " ++
      "a digest cannot authorize success"))
  | some terminal =>
    terminal.revalidate scope.ctx.registrySha256 scope.ctx.inventorySha256
      p.assignment.assignmentId p.budget.sha256 p.assignment.gpuUuids

/-- The status of a completed attempt. An attempt that ends with an error that is
no `Exception` was interrupted. -/
def endStatus (scope : WaveScope D) (p : PendingAttempt D) (outcome : RunnerOutcome D) :
    Option AssignmentExecutionStatus :=
  match terminalOutcome scope p outcome with
  | .ok _ => some .succeeded
  | .error error => if error.isException then some .failed else none

/-- The end of an attempt is journaled: a valid receipt with its status is
constructed and passed to `finish_attempt`. -/
def Journaled (sha : ContentSha D) (journal : AttemptJournalSink D J) (scope : WaveScope D)
    (p : PendingAttempt D) (token : DispatchAttemptJournalToken D) (outcome : RunnerOutcome D)
    (started finished finishedAfterError : ℕ) (g : Group D J)
    (status : AssignmentExecutionStatus) : Prop :=
  ∃ receipt, terminalReceipt sha scope p outcome started finished finishedAfterError = .ok receipt ∧
    receipt.postInit sha = .ok () ∧ receipt.status = status ∧
    (finishTask sha (some journal) scope p (some token) started outcome finished
        finishedAfterError g).session.journal =
      (journal.finishAttempt token receipt g.session.journal).2

/-- What a retry knows of the receipt it retries, and what the plan says of its
gang. -/
structure Retries (sha : ContentSha D) (scope : WaveScope D) (p : PendingAttempt D)
    (prior : AssignmentExecutionReceipt D) : Prop where
  retried : p.prior = some prior
  valid : prior.postInit sha = .ok ()
  attempt : p.attempt = prior.attempt + 1
  gang : 1 ≤ p.assignment.gpuUuids.length
  devices : p.assignment.gpuUuids.length ≤ scope.ctx.deviceCount

/-! ## Constructing a receipt -/

namespace AssignmentExecutionReceipt

variable {sha : ContentSha D} {receipt : AssignmentExecutionReceipt D}

/-- All that the constructor checks, except that the intervals are canonical. -/
structure Billed (sha : ContentSha D) (receipt : AssignmentExecutionReceipt D) : Prop where
  positive : 1 ≤ receipt.attempt
  covers : receipt.attempt = receipt.attemptIntervalsMonotonicNs.length
  ordered : Ordered receipt.attemptIntervalsMonotonicNs
  priorAttempt : receipt.checkPriorAttempt = .ok ()
  gang : 1 ≤ receipt.gpuCount
  devices : receipt.gpuCount ≤ receipt.fixedInstanceGpuCount
  attributed : receipt.attributedGpuNs =
    unionLength receipt.attemptIntervalsMonotonicNs * receipt.gpuCount
  attributedFixed : receipt.attributedFixedInstanceGpuNs =
    unionLength receipt.attemptIntervalsMonotonicNs * receipt.fixedInstanceGpuCount
  semantics : receipt.accountingSemantics = "per_assignment_attribution_not_schedule_ledger_v1"
  outcome : receipt.checkOutcome sha = .ok ()

theorem Billed.postInit_ok (h : receipt.Billed sha)
    (hsep : Separated receipt.attemptIntervalsMonotonicNs) : receipt.postInit sha = .ok () := by
  have hmerge := (merge_eq_self_iff h.ordered).mpr hsep
  have hfixed : 1 ≤ receipt.fixedInstanceGpuCount := h.gang.trans h.devices
  unfold postInit
  simp only [bind_eq_ok, check_eq_ok, mergeMonotonicIntervals_eq_ok, intervalUnionNs_eq_ok]
  exact ⟨h.positive, h.covers, _, ⟨h.ordered, rfl⟩, hmerge, (), h.priorAttempt, h.gang,
    hfixed, h.devices, _, ⟨h.ordered, rfl⟩, h.attributed, h.attributedFixed, h.semantics, h.outcome⟩

theorem Billed.construct_ok (h : receipt.Billed sha)
    (hsep : Separated receipt.attemptIntervalsMonotonicNs) :
    receipt.construct sha = .ok receipt := by
  unfold construct validated
  rw [h.postInit_ok hsep]
  rfl

/-- Intervals that touch are refused with the message on overlapping ones. -/
theorem Billed.construct_error (h : receipt.Billed sha)
    (hsep : ¬ Separated receipt.attemptIntervalsMonotonicNs) : receipt.construct sha =
      .error (valueError "assignment attempt intervals must be sorted and non-overlapping") := by
  have hmerge := mt (merge_eq_self_iff h.ordered).mp hsep
  unfold construct validated postInit
  simp only [require, h.positive, if_pos h.covers, mergeMonotonicIntervals, if_pos h.ordered,
    if_true, bind, Except.bind]
  rw [if_neg hmerge]

end AssignmentExecutionReceipt

/-! ## The receipt of an attempt -/

/-- The record of an attempt that both branches of `_run_assignment` construct,
apart from what they say of the outcome. -/
def attemptRecord (sha : ContentSha D) (scope : WaveScope D) (p : PendingAttempt D)
    (started finished : ℕ) (status : AssignmentExecutionStatus)
    (terminalBinding : Option (AssignmentTerminalBinding D)) (failureSha256 : Option D) :
    AssignmentExecutionReceipt D where
  planSha256 := scope.plan.sha256
  waveSha256 := scope.wave.sha256
  assignmentSha256 := p.assignment.assignmentId
  budgetSha256 := p.budget.sha256
  attempt := p.attempt
  status := status
  terminalReceiptSha256 := terminalBinding.map sha.terminalBinding
  terminalBinding := terminalBinding
  failureSha256 := failureSha256
  priorAttemptReceiptSha256 := p.prior.map sha.assignmentReceipt
  gpuCount := p.assignment.gpuUuids.length
  fixedInstanceGpuCount := scope.ctx.deviceCount
  attemptIntervalsMonotonicNs := p.intervals started finished
  attributedGpuNs := unionLength (p.intervals started finished) * p.assignment.gpuUuids.length
  attributedFixedInstanceGpuNs :=
    unionLength (p.intervals started finished) * scope.ctx.deviceCount

variable {b : AssignmentTerminalBinding D}

section

variable {sha : ContentSha D} {scope : WaveScope D} {p : PendingAttempt D}
  {prior : AssignmentExecutionReceipt D} {outcome : RunnerOutcome D} {last : Interval}
  {started finished finishedAfterError : ℕ} {status : AssignmentExecutionStatus}
  {binding : Option (AssignmentTerminalBinding D)} {failure : Option D}

theorem Retries.intervals (h : Retries sha scope p prior) : p.intervals started finished =
      prior.attemptIntervalsMonotonicNs ++ [(started, finished)] := by
  rw [PendingAttempt.intervals, h.retried, Option.elim_some]

theorem Retries.ordered (h : Retries sha scope p prior) (hfinished : started ≤ finished) :
    Ordered (p.intervals started finished) := by
  have haccounted := AssignmentExecutionReceipt.accounted_of_postInit h.valid
  rw [h.intervals]
  exact ordered_snoc.mpr ⟨haccounted.separated.1, hfinished⟩

/-- The intervals of a retry are canonical when it starts after the attempt before. -/
theorem Retries.separated_iff (h : Retries sha scope p prior)
    (hlast : prior.attemptIntervalsMonotonicNs.getLast? = some last)
    (hfinished : started ≤ finished) :
    Separated (p.intervals started finished) ↔ last.2 < started := by
  have haccounted := AssignmentExecutionReceipt.accounted_of_postInit h.valid
  rw [h.intervals]
  exact separated_snoc haccounted.separated hlast hfinished

/-- A retry passes all checks but the one on touching intervals. -/
theorem Retries.billed (h : Retries sha scope p prior) (hfinished : started ≤ finished)
    (houtcome : (attemptRecord sha scope p started finished status binding failure).checkOutcome sha
      = .ok ()) :
    (attemptRecord sha scope p started finished status binding failure).Billed sha := by
  have haccounted := AssignmentExecutionReceipt.accounted_of_postInit h.valid
  have hcovers := haccounted.covers
  have hattempt := h.attempt
  have hpositive := haccounted.positive
  constructor
  case positive =>
    change 1 ≤ p.attempt
    omega
  case covers =>
    change p.attempt = (p.intervals started finished).length
    rw [h.intervals, List.length_append, List.length_singleton, ← hcovers, hattempt]
  case ordered => exact h.ordered hfinished
  case priorAttempt =>
    have hretry : p.attempt ≠ 1 := by omega
    change (if p.attempt = 1 then _ else _) = _
    rw [if_neg hretry]
    simp only [attemptRecord, h.retried]
    rfl
  case gang => exact h.gang
  case devices => exact h.devices
  case attributed => rfl
  case attributedFixed => rfl
  case semantics => rfl
  case outcome => exact houtcome

/-- The message of a receipt whose intervals the constructor refuses. -/
def overlapError : Error :=
  valueError "assignment attempt intervals must be sorted and non-overlapping"

/-- Constructing the receipt of a retry, whatever the outcome. -/
theorem Retries.construct (h : Retries sha scope p prior)
    (hlast : prior.attemptIntervalsMonotonicNs.getLast? = some last)
    (hfinished : started ≤ finished)
    (houtcome : (attemptRecord sha scope p started finished status binding failure).checkOutcome sha
      = .ok ()) : (last.2 < started →
      (attemptRecord sha scope p started finished status binding failure).construct sha =
          .ok (attemptRecord sha scope p started finished status binding failure) ∧
        (attemptRecord sha scope p started finished status binding failure).postInit sha = .ok ()) ∧
    (¬ last.2 < started →
      (attemptRecord sha scope p started finished status binding failure).construct sha =
        .error overlapError) := by
  have hbilled := h.billed hfinished houtcome
  have hsep := h.separated_iff hlast hfinished
  constructor
  · intro hgap
    exact ⟨hbilled.construct_ok (hsep.mpr hgap), hbilled.postInit_ok (hsep.mpr hgap)⟩
  · intro htouch
    exact hbilled.construct_error (mt hsep.mp htouch)

/-- The body of the `except` clause constructs the record of a failure. -/
theorem Retries.failureReceipt_eq (h : Retries sha scope p prior) (hfinished : started ≤ finished)
    (error : Error) : ∃ failure, failureReceipt sha scope p error started finished =
      (attemptRecord sha scope p started finished .failed none (some failure)).construct sha := by
  have hunion : intervalUnionNs (p.intervals started finished) =
      .ok (unionLength (p.intervals started finished)) :=
    intervalUnionNs_eq_ok.mpr ⟨h.ordered hfinished, rfl⟩
  unfold failureReceipt
  rw [hunion]
  exact ⟨_, rfl⟩

/-- The body of the `try` statement constructs the record of a success. -/
theorem Retries.successReceipt_eq (h : Retries sha scope p prior) (hfinished : started ≤ finished)
    (outcome : RunnerOutcome D) :
    successReceipt sha scope p outcome started finished =
      terminalOutcome scope p outcome >>= fun binding =>
        (attemptRecord sha scope p started finished .succeeded (some binding) none).construct sha := by
  have hunion : intervalUnionNs (p.intervals started finished) =
      .ok (unionLength (p.intervals started finished)) :=
    intervalUnionNs_eq_ok.mpr ⟨h.ordered hfinished, rfl⟩
  unfold successReceipt terminalOutcome
  rw [hunion]
  rcases outcome with error | _ | terminal
  · rfl
  · rfl
  · rfl

/-- A binding that the `try` statement accepts is one of the assignment. -/
theorem terminalOutcome_binding (h : terminalOutcome scope p outcome = .ok b) :
    b.assignmentSha256 = p.assignment.assignmentId ∧ b.budgetSha256 = p.budget.sha256 := by
  rcases outcome with error | _ | terminal
  · cases h
  · cases h
  · change terminal.revalidate _ _ _ _ _ = _ at h
    unfold AssignmentTerminalAuthority.revalidate at h
    simp only [bind_eq_ok, check_eq_ok, validated_eq_ok] at h
    rcases h with ⟨-, opened, -, -, -, -, rfl⟩
    exact ⟨rfl, rfl⟩

theorem checkOutcome_success (h : terminalOutcome scope p outcome = .ok b) :
    (attemptRecord sha scope p started finished .succeeded (some b) none).checkOutcome sha
      = .ok () := by
  rcases terminalOutcome_binding h with ⟨hassignment, hbudget⟩
  simp [AssignmentExecutionReceipt.checkOutcome, attemptRecord, require, hassignment, hbudget]
  rfl

theorem checkOutcome_failure (failure : D) :
    (attemptRecord sha scope p started finished .failed none (some failure)).checkOutcome sha
      = .ok () := rfl

/-! ## The end of a retry -/

theorem terminalReceipt_of_ok {receipt : AssignmentExecutionReceipt D}
    (h : successReceipt sha scope p outcome started finished = .ok receipt) :
    terminalReceipt sha scope p outcome started finished finishedAfterError = .ok receipt := by
  unfold terminalReceipt
  rw [h]

/-- The handler makes the receipt of an attempt whose `try` statement raised. -/
theorem terminalReceipt_of_error {error : Error}
    (h : successReceipt sha scope p outcome started finished = .error error)
    (hexception : error.isException = true) :
    terminalReceipt sha scope p outcome started finished finishedAfterError =
      failureReceipt sha scope p error started finishedAfterError := by
  unfold terminalReceipt
  rw [h]
  exact if_pos hexception

variable (h : Retries sha scope p prior)
  (hlast : prior.attemptIntervalsMonotonicNs.getLast? = some last) (hfinished : started ≤ finished)
  (hafter : started ≤ finishedAfterError)

include h hlast hfinished hafter

/-- A retry that succeeded has its receipt when it starts after the attempt before;
otherwise the constructor raises in the `try` statement and again in the handler. -/
theorem Retries.terminalReceipt_succeeded
    (hend : terminalOutcome scope p outcome = .ok b) : (last.2 < started → ∃ receipt,
      terminalReceipt sha scope p outcome started finished finishedAfterError = .ok receipt ∧
        receipt.postInit sha = .ok () ∧ receipt.status = .succeeded) ∧ (¬ last.2 < started →
      terminalReceipt sha scope p outcome started finished finishedAfterError =
        .error overlapError) := by
  have hsuccess := h.successReceipt_eq hfinished outcome
  rw [hend] at hsuccess
  rcases h.construct hlast hfinished (checkOutcome_success hend) with ⟨hok, herror⟩
  constructor
  · intro hgap
    exact ⟨_, terminalReceipt_of_ok (hsuccess.trans (hok hgap).1), (hok hgap).2, rfl⟩
  · intro htouch
    rcases h.failureReceipt_eq hafter overlapError with ⟨failure, hfailure⟩
    rw [terminalReceipt_of_error (hsuccess.trans (herror htouch)) rfl, hfailure]
    exact (h.construct hlast hafter (checkOutcome_failure failure)).2 htouch

/-- So does a retry that failed; its receipt is made in the handler. -/
theorem Retries.terminalReceipt_failed {error : Error}
    (hend : terminalOutcome scope p outcome = .error error)
    (hexception : error.isException = true) : (last.2 < started → ∃ receipt,
      terminalReceipt sha scope p outcome started finished finishedAfterError = .ok receipt ∧
        receipt.postInit sha = .ok () ∧ receipt.status = .failed) ∧ (¬ last.2 < started →
      terminalReceipt sha scope p outcome started finished finishedAfterError =
        .error overlapError) := by
  have hsuccess := h.successReceipt_eq hfinished outcome
  rw [hend] at hsuccess
  rcases h.failureReceipt_eq hafter error with ⟨failure, hfailure⟩
  rcases h.construct hlast hafter (checkOutcome_failure failure) with ⟨hok, herror⟩
  rw [terminalReceipt_of_error hsuccess hexception, hfailure]
  constructor
  · intro hgap
    exact ⟨_, (hok hgap).1, (hok hgap).2, rfl⟩
  · exact herror

theorem Retries.terminalReceipt
    (hend : endStatus scope p outcome = some status) : (last.2 < started → ∃ receipt,
      terminalReceipt sha scope p outcome started finished finishedAfterError = .ok receipt ∧
        receipt.postInit sha = .ok () ∧ receipt.status = status) ∧ (¬ last.2 < started →
      terminalReceipt sha scope p outcome started finished finishedAfterError =
        .error overlapError) := by
  unfold endStatus at hend
  split at hend
  · rename_i hterminal
    rw [← Option.some.inj hend]
    exact h.terminalReceipt_succeeded hlast hfinished hafter hterminal
  · rename_i hterminal
    split at hend
    · rename_i hexception
      rw [← Option.some.inj hend]
      exact h.terminalReceipt_failed hlast hfinished hafter hterminal hexception
    · cases hend

end

/-- The receipt of a task is passed to the journal. -/
theorem finishTask_journal {sha : ContentSha D} {journal : AttemptJournalSink D J}
    {scope : WaveScope D} {p : PendingAttempt D} {token : DispatchAttemptJournalToken D}
    {outcome : RunnerOutcome D} {started finished finishedAfterError : ℕ} {g : Group D J}
    {receipt : AssignmentExecutionReceipt D}
    (h : terminalReceipt sha scope p outcome started finished finishedAfterError = .ok receipt) :
    (finishTask sha (some journal) scope p (some token) started outcome finished
      finishedAfterError g).session.journal =
      (journal.finishAttempt token receipt g.session.journal).2 := by
  unfold finishTask Session.onJournal Method.onAttribute
  rw [h]
  dsimp only
  rcases journal.finishAttempt token receipt g.session.journal with ⟨error | _, j⟩
  · rfl
  · rfl

/-- The end of a retry is journaled exactly when the retry started strictly after
the attempt before it finished. -/
theorem retry_journaled_iff {sha : ContentSha D} {journal : AttemptJournalSink D J}
    {scope : WaveScope D} {p : PendingAttempt D} {prior : AssignmentExecutionReceipt D}
    {token : DispatchAttemptJournalToken D} {outcome : RunnerOutcome D} {last : Interval}
    {started finished finishedAfterError : ℕ} {g : Group D J} {status : AssignmentExecutionStatus}
    (h : Retries sha scope p prior)
    (hlast : prior.attemptIntervalsMonotonicNs.getLast? = some last) (_ : last.2 ≤ started)
    (hfinished : started ≤ finished) (hafter : started ≤ finishedAfterError)
    (hend : endStatus scope p outcome = some status) :
    Journaled sha journal scope p token outcome started finished finishedAfterError g status ↔
      last.2 < started := by
  rcases h.terminalReceipt hlast hfinished hafter hend with ⟨hok, herror⟩
  constructor
  · rintro ⟨receipt, hreceipt, -⟩
    by_contra htouch
    rw [herror htouch] at hreceipt
    cases hreceipt
  · intro hgap
    rcases hok hgap with ⟨receipt, hreceipt, hvalid, hstatus⟩
    exact ⟨receipt, hreceipt, hvalid, hstatus, finishTask_journal hreceipt⟩

/-! ## A retry that starts as the attempt before ends -/

namespace RetrySample

def sha : ContentSha String where
  terminalBinding b := "binding of " ++ b.runId
  failure evidence := evidence.message ++ " of attempt " ++ toString evidence.attempt
  assignmentReceipt r := "attempt " ++ toString r.attempt ++ " of " ++ r.assignmentSha256
  waveReceipt r := "wave " ++ toString r.waveIndex
  scheduleReceipt r := "schedule of " ++ r.planSha256

def journal : AttemptJournalSink String (List (AssignmentExecutionReceipt String)) where
  beginWaveAttempts _ _ _ _ _ := pure ()
  beginAttempt _ _ _ _ _ := pure ⟨0, "intent"⟩
  finishAttempt _ receipt := .assign fun receipts => receipts ++ [receipt]

def assignment : PlannedAssignment String := ⟨"assignment", "cell", ["GPU-0"]⟩

def wave : PlannedWave String := ⟨0, "wave", [assignment]⟩

def budget : ExperimentBudget String := ⟨"budget", 1⟩

def scope : WaveScope String where
  plan := {
    sha256 := "plan"
    waves := [wave]
    scientificBudgetBound := true
    contiguous := by decide
    nonempty := by decide
    distinct := by decide
    distinctWaves := by decide }
  wave := wave
  ctx := {
    registrySha256 := "registry"
    inventorySha256 := "inventory"
    deviceCount := 1
    budgetsByCellId := fun _ => some budget
    issuePlan := .error (valueError "dispatch plan is not issued here")
    issuesWaves := nofun
    resumeTerminalAuthorities := [] }
  priorScheduleReceiptSha256 := none

/-- The receipt of a first attempt that failed, from 3 to 5. -/
def prior : AssignmentExecutionReceipt String where
  planSha256 := "plan"
  waveSha256 := "wave"
  assignmentSha256 := "assignment"
  budgetSha256 := "budget"
  attempt := 1
  status := .failed
  terminalReceiptSha256 := none
  terminalBinding := none
  failureSha256 := some "failure"
  priorAttemptReceiptSha256 := none
  gpuCount := 1
  fixedInstanceGpuCount := 1
  attemptIntervalsMonotonicNs := [(3, 5)]
  attributedGpuNs := 2
  attributedFixedInstanceGpuNs := 2

def retry : PendingAttempt String := ⟨assignment, 2, budget, some prior⟩

def token : DispatchAttemptJournalToken String := ⟨5, "intent"⟩

def group : Group String (List (AssignmentExecutionReceipt String)) := ⟨fun _ => .created, ⟨[], []⟩⟩

/-- The runner of the retry raises. -/
def outcome : RunnerOutcome String := .error (runtimeError "worker exited")

theorem retries : Retries sha scope retry prior where
  retried := rfl
  valid := by decide +kernel
  attempt := rfl
  gang := by decide
  devices := by decide

theorem last_prior : prior.attemptIntervalsMonotonicNs.getLast? = some (3, 5) := rfl

end RetrySample

open RetrySample in
/-- A retry that starts one tick later is journaled. -/
theorem retry_journaled_later :
    Journaled sha journal scope retry token outcome 6 8 8 group .failed ↔ 5 < 6 :=
  retry_journaled_iff retries last_prior (by decide) (by decide) (by decide) rfl

open RetrySample in
/-- A retry that starts at the tick at which the attempt before finished loses its
receipt: `_run_assignment` raises. -/
theorem touching_retry_lost :
    Retries sha scope retry prior ∧
      prior.attemptIntervalsMonotonicNs.getLast? = some (3, 5) ∧
      endStatus scope retry outcome = some .failed ∧
      terminalReceipt sha scope retry outcome 5 7 7 =
        .error (valueError "assignment attempt intervals must be sorted and non-overlapping") ∧
      ¬ Journaled sha journal scope retry token outcome 5 7 7 group .failed := by
  have herror : terminalReceipt sha scope retry outcome 5 7 7 = .error overlapError := by
    decide +kernel
  refine ⟨retries, rfl, rfl, herror, ?_⟩
  rintro ⟨receipt, hreceipt, -⟩
  rw [herror] at hreceipt
  cases hreceipt

end Pool

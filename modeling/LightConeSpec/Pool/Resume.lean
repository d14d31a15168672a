import LightConeSpec.Pool.Tasks

/-!
# Chains of runs

What holds of the events of any chain of calls (`Safe`), and of the receipt that
its last call returned (`Sound`): the receipt lists, wave by wave, the last
receipt of each assignment, and it accounts for every call of the runner.
-/

namespace Pool

open Python Intervals List

variable {D J : Type}

theorem AssignmentExecutionReceipt.Accounted.intervals_ne_nil
    {receipt : AssignmentExecutionReceipt D} (h : receipt.Accounted) :
    receipt.attemptIntervalsMonotonicNs ≠ [] := by
  intro hnil
  have hpositive := h.positive
  rw [h.covers, hnil] at hpositive
  cases hpositive

variable [DecidableEq D] {sha : ContentSha D}
  {sink : Option (AttemptJournalSink D J)} {plan : FrozenPlan D} {ctx : ExecutionContext D}

/-! ## What the events of a chain satisfy -/

/-- The runner is called for an assignment that has not succeeded, after every
assignment of the earlier waves has. -/
def InOrder (plan : FrozenPlan D) (past : List (ExecutionEvent D)) : ExecutionEvent D → Prop
  | .invoked assignmentId _ =>
    (∀ r, .recorded r ∈ past → r.assignmentSha256 = assignmentId → r.succeeded = false) ∧
      ∀ i wave, plan.waves[i]? = some wave → ∀ x ∈ wave.assignments,
        x.assignmentId = assignmentId → ∀ earlier ∈ plan.waves.take i, ∀ y ∈ earlier.assignments,
          ∃ r, .recorded r ∈ past ∧ r.assignmentSha256 = y.assignmentId ∧ r.succeeded = true
  | _ => True

def AssignmentExecutionReceipt.lastInterval (receipt : AssignmentExecutionReceipt D) :
    Option Interval :=
  receipt.attemptIntervalsMonotonicNs.getLast?

/-- The invariant of the events. -/
structure Safe (plan : FrozenPlan D) (ctx : ExecutionContext D) (events : List (ExecutionEvent D)) :
    Prop where
  ordered : Log.EachAfter (InOrder plan) events
  stable : ∀ r, .recorded r ∈ events → r.succeeded = true →
    latestReceipt events r.assignmentSha256 = some r
  bounded : ∀ wave ∈ plan.waves, ∀ x ∈ wave.assignments, ∀ budget,
    ctx.budgetsByCellId x.itemId = some budget →
      (invocationsOf events x.assignmentId).length ≤ budget.retryAllowance + 1
  receipts : ∀ r, .recorded r ∈ events →
    r.Accounted ∧ r.fixedInstanceGpuCount = ctx.deviceCount
  history : ∀ a r, latestReceipt events a = some r → r.attemptIntervalsMonotonicNs =
    (receiptsOf events a).filterMap (·.lastInterval)
  planned : ∀ r, .recorded r ∈ events → ∃ wave ∈ plan.waves, ∃ x ∈ wave.assignments,
    x.assignmentId = r.assignmentSha256

namespace Safe

variable {events : List (ExecutionEvent D)}

/-- The attempts of the last receipt are the receipts of its assignment. -/
theorem attempt_eq (h : Safe plan ctx events) {a : D} {r : AssignmentExecutionReceipt D}
    (hr : latestReceipt events a = some r) : r.attempt = (receiptsOf events a).length := by
  have haccounted := (h.receipts r (mem_of_latestReceipt hr).1).1
  rw [haccounted.covers, h.history a r hr]
  refine Log.length_filterMap_of_isSome fun r' hr' => ?_
  exact getLast?_isSome.mpr (h.receipts r' (mem_receiptsOf.mp hr').1).1.intervals_ne_nil

/-- A returned receipt is no event of an assignment. -/
theorem returned (h : Safe plan ctx events) (R : DispatchScheduleReceipt D) :
    Safe plan ctx (events ++ [.returned R]) := by
  have hlatest : ∀ a, latestReceipt (events ++ [.returned R]) a = latestReceipt events a := by
    intro a
    unfold latestReceipt
    rw [receiptsOf_returned]
  have hmem : ∀ r, .recorded r ∈ events ++ [.returned R] → .recorded r ∈ events := by
    intro r hr
    simpa using hr
  refine ⟨Log.eachAfter_snoc.mpr ⟨h.ordered, trivial⟩, ?_, ?_, ?_, ?_, ?_⟩
  · intro r hr hsucceeded
    rw [hlatest]
    exact h.stable r (hmem r hr) hsucceeded
  · intro wave hwave x hx budget hbudget
    rw [invocationsOf_returned]
    exact h.bounded wave hwave x hx budget hbudget
  · exact fun r hr => h.receipts r (hmem r hr)
  · intro a r hr
    rw [hlatest] at hr
    rw [receiptsOf_returned]
    exact h.history a r hr
  · exact fun r hr => h.planned r (hmem r hr)

end Safe

theorem safe_nil : Safe plan ctx [] where
  ordered := Log.eachAfter_nil
  stable := fun r hr => absurd hr (by simp)
  bounded := fun _ _ _ _ _ _ => Nat.zero_le _
  receipts := fun r hr => absurd hr (by simp)
  history := fun a r hr => by cases hr
  planned := fun r hr => absurd hr (by simp)

/-! ## One wave -/

/-- A wave may begin: the waves before it have succeeded, and every call of the
runner so far has ended with a receipt. -/
structure Ready (plan : FrozenPlan D) (k : ℕ) (wave : PlannedWave D)
    (before : List (ExecutionEvent D)) : Prop where
  wave : plan.waves[k]? = some wave
  earlier : ∀ w ∈ plan.waves.take k, ∀ y ∈ w.assignments, ∃ r,
    latestReceipt before y.assignmentId = some r ∧ r.succeeded = true
  counted : ∀ a, (invocationsOf before a).length = (receiptsOf before a).length

structure Pends (ctx : ExecutionContext D) (wave : PlannedWave D)
    (before : List (ExecutionEvent D)) (pending : List (PendingAttempt D)) : Prop where
  assignment : ∀ p ∈ pending, p.assignment ∈ wave.assignments
  budget : ∀ p ∈ pending, ctx.budgetsByCellId p.assignment.itemId = some p.budget
  prior : ∀ p ∈ pending, p.prior = latestReceipt before p.assignment.assignmentId
  unsuccessful : ∀ p ∈ pending, ∀ r ∈ p.prior, r.succeeded = false
  attempt : ∀ p ∈ pending, p.attempt = p.prior.elim 1 (·.attempt + 1)
  allowed : ∀ p ∈ pending, p.attempt ≤ p.budget.retryAllowance + 1
  distinct : (pending.map (·.assignment.assignmentId)).Nodup
  covers : ∀ x ∈ wave.assignments, x ∈ pending.map (·.assignment) ∨
    ∃ r, latestReceipt before x.assignmentId = some r ∧ r.succeeded = true

variable {p : PendingAttempt D} {events : List (ExecutionEvent D)}

/-- The number of a pending attempt follows the receipts of its assignment. -/
theorem Pends.attempt_eq {wave : PlannedWave D} {before : List (ExecutionEvent D)}
    {pending : List (PendingAttempt D)} (h : Pends ctx wave before pending)
    (hsafe : Safe plan ctx before) (hp : p ∈ pending) :
    p.attempt = (receiptsOf before p.assignment.assignmentId).length + 1 := by
  have hprior := h.prior p hp
  rw [h.attempt p hp]
  cases hlatest : p.prior with
  | none =>
    rw [hlatest, eq_comm, latestReceipt_eq_none] at hprior
    rw [hprior]
    rfl
  | some r =>
    rw [hlatest, eq_comm] at hprior
    exact congrArg (· + 1) (hsafe.attempt_eq hprior)

section Wave

variable {k : ℕ} {scope : WaveScope D} {pending : List (PendingAttempt D)}
  {before : List (ExecutionEvent D)}

/-- No assignment of an earlier wave is pending. -/
theorem not_pending_of_earlier (hready : Ready plan k scope.wave before)
    (hpends : Pends ctx scope.wave before pending) {w : PlannedWave D} (hw : w ∈ plan.waves.take k)
    {y : PlannedAssignment D} (hy : y ∈ w.assignments) (hp : p ∈ pending) :
    p.assignment.assignmentId ≠ y.assignmentId := by
  intro hid
  obtain ⟨i, hi, rfl⟩ := mem_take_iff_getElem.mp hw
  have hik : i < k := by omega
  have hwave : plan.waves[i]? = some plan.waves[i] := getElem?_eq_getElem (by omega)
  have hunique := plan.assignment_unique hready.wave hwave (hpends.assignment p hp) hy hid
  omega

theorem safe_invoked (hready : Ready plan k scope.wave before) (hbefore : Safe plan ctx before)
    (hpends : Pends ctx scope.wave before pending) (hsafe : Safe plan ctx events) (hp : p ∈ pending)
    (hinvocations : invocationsOf events p.assignment.assignmentId
      = invocationsOf before p.assignment.assignmentId)
    (hreceipts : receiptsOf events p.assignment.assignmentId
      = receiptsOf before p.assignment.assignmentId)
    (hothers : ∀ a, (∀ q ∈ pending, q.assignment.assignmentId ≠ a) →
      receiptsOf events a = receiptsOf before a) :
    Safe plan ctx (events ++ [.invoked p.assignment.assignmentId p.attempt]) := by
  have hlatest : ∀ a, latestReceipt
      (events ++ [.invoked p.assignment.assignmentId p.attempt]) a = latestReceipt events a := by
    intro a
    unfold latestReceipt
    rw [receiptsOf_invoked]
  have hmem : ∀ r, .recorded r ∈ events ++ [.invoked p.assignment.assignmentId p.attempt] →
      .recorded r ∈ events := by
    intro r hr
    simpa using hr
  refine ⟨Log.eachAfter_snoc.mpr ⟨hsafe.ordered, ?_, ?_⟩, ?_, ?_, ?_, ?_, ?_⟩
  · -- a success would be the last receipt, which the pending attempt follows
    intro r hr hid
    by_contra hsucceeded
    have hstable := hsafe.stable r hr (by simpa using hsucceeded)
    rw [hid, latestReceipt, hreceipts] at hstable
    have hprior : p.prior = some r := (hpends.prior p hp).trans hstable
    exact hsucceeded (hpends.unsuccessful p hp r hprior)
  · intro i wave hi x hx hid earlier hearlier y hy
    obtain ⟨rfl, -⟩ := plan.assignment_unique hi hready.wave hx (hpends.assignment p hp) hid
    obtain ⟨r, hr, hsucceeded⟩ := hready.earlier earlier hearlier y hy
    have hsame := hothers y.assignmentId fun q hq =>
      not_pending_of_earlier hready hpends hearlier hy hq
    have hmem := mem_of_getLast? hr
    rw [← hsame] at hmem
    exact ⟨r, (mem_receiptsOf.mp hmem).1, (mem_receiptsOf.mp hmem).2, hsucceeded⟩
  · intro r hr hsucceeded
    rw [hlatest]
    exact hsafe.stable r (hmem r hr) hsucceeded
  · intro wave hwave x hx budget hbudget
    rw [invocationsOf_invoked]
    split
    · rename_i hid
      obtain ⟨i, hi⟩ := mem_iff_getElem?.mp hwave
      obtain ⟨-, rfl⟩ := plan.assignment_unique hready.wave hi (hpends.assignment p hp) hx hid
      have hsame : p.budget = budget := Option.some.inj ((hpends.budget p hp).symm.trans hbudget)
      rw [← hid, hinvocations, length_append, hready.counted, ← hsame]
      have hallowed := hpends.allowed p hp
      rw [hpends.attempt_eq hbefore hp] at hallowed
      exact hallowed
    · exact hsafe.bounded wave hwave x hx budget hbudget
  · exact fun r hr => hsafe.receipts r (hmem r hr)
  · intro a r hr
    rw [hlatest] at hr
    rw [receiptsOf_invoked]
    exact hsafe.history a r hr
  · exact fun r hr => hsafe.planned r (hmem r hr)

theorem latestReceipt_recorded (r : AssignmentExecutionReceipt D) (a : D) :
    latestReceipt (events ++ [.recorded r]) a =
      if r.assignmentSha256 = a then some r else latestReceipt events a := by
  unfold latestReceipt
  rw [receiptsOf_recorded]
  split
  · simp
  · rfl

theorem safe_recorded (hctx : scope.ctx.deviceCount = ctx.deviceCount)
    (hwave : scope.wave ∈ plan.waves) (hpends : Pends ctx scope.wave before pending)
    (hsafe : Safe plan ctx events) (hp : p ∈ pending) {started : ℕ}
    {receipt : AssignmentExecutionReceipt D} (hextends : Extends sha scope p started receipt)
    (hreceipts : receiptsOf events p.assignment.assignmentId
      = receiptsOf before p.assignment.assignmentId) :
    Safe plan ctx (events ++ [.recorded receipt]) := by
  have hprior : p.prior = latestReceipt events p.assignment.assignmentId := by
    rw [hpends.prior p hp, latestReceipt, latestReceipt, hreceipts]
  refine ⟨Log.eachAfter_snoc.mpr ⟨hsafe.ordered, trivial⟩, ?_, ?_, ?_, ?_, ?_⟩
  · intro r hr hsucceeded
    rw [latestReceipt_recorded]
    rcases mem_append.mp hr with hr | hr
    · have hstable := hsafe.stable r hr hsucceeded
      split
      · rename_i hid
        rw [← hid, hextends.assignment, ← hprior] at hstable
        rw [hpends.unsuccessful p hp r hstable] at hsucceeded
        cases hsucceeded
      · exact hstable
    · obtain rfl : r = receipt := by simpa using hr
      exact if_pos rfl
  · intro wave hwave x hx budget hbudget
    rw [invocationsOf_recorded]
    exact hsafe.bounded wave hwave x hx budget hbudget
  · intro r hr
    rcases mem_append.mp hr with hr | hr
    · exact hsafe.receipts r hr
    · obtain rfl : r = receipt := by simpa using hr
      exact ⟨AssignmentExecutionReceipt.accounted_of_postInit hextends.valid,
        hextends.fixedCount.trans hctx⟩
  · intro a r hr
    rw [latestReceipt_recorded] at hr
    rw [receiptsOf_recorded]
    split at hr
    · -- the new receipt has the intervals of the one before and its own
      rename_i hid
      obtain rfl := Option.some.inj hr
      obtain ⟨finished, hintervals⟩ := hextends.intervals
      rw [if_pos hid, filterMap_append, hintervals, PendingAttempt.intervals, hprior,
        ← hextends.assignment, hid]
      congr 1
      · cases hlatest : latestReceipt events a with
        | none =>
          rw [latestReceipt_eq_none.mp hlatest]
          rfl
        | some r => exact hsafe.history a r hlatest
      · simp [AssignmentExecutionReceipt.lastInterval, hintervals, PendingAttempt.intervals]
    · rename_i hid
      rw [if_neg hid]
      exact hsafe.history a r hr
  · intro r hr
    rcases mem_append.mp hr with hr | hr
    · exact hsafe.planned r hr
    · obtain rfl : r = receipt := by simpa using hr
      exact ⟨scope.wave, hwave, p.assignment, hpends.assignment p hp, hextends.assignment.symm⟩

/-- The events of a wave that runs are safe, in any order of its moves. -/
theorem runGroup_safe (hctx : scope.ctx.deviceCount = ctx.deviceCount)
    (hready : Ready plan k scope.wave before) (hbefore : Safe plan ctx before)
    (hpends : Pends ctx scope.wave before pending) {s : Session D J} (hs : s.events = before)
    (moves : List (D × Move D)) : ∃ tasks s', runGroup sha sink scope pending moves s
      = (.ok tasks, s') ∧ GroupDone sha scope pending before ⟨tasks, s'⟩ ∧
      Safe plan ctx s'.events := by
  have hstep : ∀ g g' : Group D J,
      GroupDone sha scope pending before g ∧ Safe plan ctx g.session.events →
      Advanced sha sink scope pending g g' →
      GroupDone sha scope pending before g' ∧ Safe plan ctx g'.session.events := by
    rintro g g' ⟨hdone, hsafe⟩ hadvanced
    refine ⟨groupDone_step hpends.distinct hdone hadvanced, ?_⟩
    cases hadvanced with
    | idle hsame => exact hsame ▸ hsafe
    | invoked p token started hp hstate _ _ hevents =>
      have htask := hdone.tasks p hp
      rw [hstate] at htask
      rw [hevents]
      exact safe_invoked hready hbefore hpends hsafe hp htask.1 htask.2
        fun a ha => (hdone.others a ha).2
    | recorded p token started receipt hp hstate hextends _ _ hevents =>
      have htask := hdone.tasks p hp
      rw [hstate] at htask
      rw [hevents]
      exact safe_recorded hctx (mem_of_getElem? hready.wave) hpends hsafe hp hextends htask.2
    | raised p error hp _ _ hevents =>
      rw [hevents]
      exact hsafe
  subst hs
  exact runGroup_invariant hstep ⟨groupDone_start pending s, hbefore⟩ moves

end Wave

end Pool

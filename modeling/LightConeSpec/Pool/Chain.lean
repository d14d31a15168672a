import LightConeSpec.Lib.Rows
import LightConeSpec.Pool.Resume

/-!
# Schedules that are resumed

The receipt that a call returns lists the last receipts of the waves it covers
(`Sound`). A later call finds its pending attempts in them, so the loop of
`execute_dispatch_plan` keeps `Sound` from wave to wave and from call to call,
and what the claims of a schedule promise is read off the last receipt and the
events.
-/

namespace Pool

open Python Intervals List Method

variable {D J : Type} {plan : FrozenPlan D} {ctx : ExecutionContext D}

/-! ## The rows of a wave -/

/-- What a map of last receipts says about the assignments of a wave. -/
def rowsOf (latest : D → Option (AssignmentExecutionReceipt D)) (wave : PlannedWave D) :
    List (AssignmentExecutionReceipt D) :=
  wave.assignments.filterMap fun x => latest x.assignmentId

def Filed (latest : D → Option (AssignmentExecutionReceipt D)) : Prop :=
  ∀ a r, latest a = some r → r.assignmentSha256 = a

theorem filed_latestReceipt [DecidableEq D] (events : List (ExecutionEvent D)) : Filed (latestReceipt events) :=
  fun _ _ h => (mem_of_latestReceipt h).2

variable {x : PlannedAssignment D} {tasks : D → TaskState D}

section Rows

variable {latest : D → Option (AssignmentExecutionReceipt D)} {wave : PlannedWave D}

theorem mem_rowsOf {r : AssignmentExecutionReceipt D} :
    r ∈ rowsOf latest wave ↔ ∃ x ∈ wave.assignments, latest x.assignmentId = some r :=
  mem_filterMap

theorem rowsOf_congr {latest' : D → Option (AssignmentExecutionReceipt D)}
    (h : ∀ x ∈ wave.assignments, latest' x.assignmentId = latest x.assignmentId) :
    rowsOf latest' wave = rowsOf latest wave :=
  filterMap_congr h

theorem nodup_rowsOf (hwave : wave ∈ plan.waves) (hfiled : Filed latest) :
    ((rowsOf latest wave).map (·.assignmentSha256)).Nodup := by
  have hall : ∀ assignments : List (PlannedAssignment D),
      (assignments.map (·.assignmentId)).Nodup →
      ((assignments.filterMap fun x => latest x.assignmentId).map (·.assignmentSha256)).Nodup := by
    intro assignments hnodup
    induction assignments with
    | nil => exact nodup_nil
    | cons x rest ih =>
      rw [map_cons, nodup_cons] at hnodup
      cases hx : latest x.assignmentId with
      | none =>
        simp only [filterMap_cons, hx]
        exact ih hnodup.2
      | some r =>
        simp only [filterMap_cons, hx, map_cons, nodup_cons]
        refine ⟨fun hmem => hnodup.1 ?_, ih hnodup.2⟩
        obtain ⟨r', hr', hid⟩ := mem_map.mp hmem
        obtain ⟨y, hy, hlatest⟩ := mem_filterMap.mp hr'
        rw [hfiled _ _ hx, hfiled _ _ hlatest] at hid
        exact mem_map.mpr ⟨y, hy, hid⟩
  exact hall wave.assignments (plan.nodup_assignments hwave)

variable [DecidableEq D]

/-- Looking an assignment up among rows with distinct assignments. -/
theorem rowOf_eq_some {rows : List (AssignmentExecutionReceipt D)}
    (hnodup : (rows.map (·.assignmentSha256)).Nodup) {a : D} {r : AssignmentExecutionReceipt D} :
    rowOf rows a = some r ↔ r ∈ rows ∧ r.assignmentSha256 = a := by
  constructor
  · intro h
    exact ⟨mem_of_find?_eq_some h, by simpa using find?_some h⟩
  · rintro ⟨hr, rfl⟩
    exact Rows.find?_of_nodup hnodup hr fun b => by simp

theorem rowOf_filter_rowsOf (hwave : wave ∈ plan.waves) (hfiled : Filed latest)
    (p : AssignmentExecutionReceipt D → Bool) (hx : x ∈ wave.assignments) :
    rowOf ((rowsOf latest wave).filter p) x.assignmentId = (latest x.assignmentId).filter p := by
  have hnodup : (((rowsOf latest wave).filter p).map (·.assignmentSha256)).Nodup :=
    (nodup_rowsOf hwave hfiled).sublist (filter_sublist.map _)
  apply Option.ext
  intro r
  rw [rowOf_eq_some hnodup, mem_filter, mem_rowsOf, Option.filter_eq_some_iff]
  constructor
  · rintro ⟨⟨⟨y, hy, hr⟩, hp⟩, hid⟩
    rw [hfiled _ _ hr] at hid
    exact ⟨hid ▸ hr, hp⟩
  · rintro ⟨hr, hp⟩
    exact ⟨⟨⟨x, hx, hr⟩, hp⟩, hfiled _ _ hr⟩

end Rows

/-! ## What is pending -/

theorem budget_eq_ok {cellId : D} {budget : ExperimentBudget D} :
    ctx.budget cellId = .ok budget ↔ ctx.budgetsByCellId cellId = some budget := by
  unfold ExecutionContext.budget
  split
  · rename_i found hfound
    rw [hfound]
    simp
  · rename_i hnone
    rw [hnone]
    simp

variable [DecidableEq D] {sha : ContentSha D} {sink : Option (AttemptJournalSink D J)}

/-- One pending attempt, from the rows that the wave resumes from. -/
structure PendsAt (ctx : ExecutionContext D) (priorRows : List (AssignmentExecutionReceipt D))
    (p : PendingAttempt D) : Prop where
  open_ : rowOf (priorRows.filter (·.succeeded)) p.assignment.assignmentId = none
  budget : ctx.budgetsByCellId p.assignment.itemId = some p.budget
  prior : p.prior =
    rowOf (priorRows.filter fun row => !row.succeeded) p.assignment.assignmentId
  attempt : p.attempt = p.prior.elim 1 (·.attempt + 1)
  allowed : p.attempt ≤ p.budget.retryAllowance + 1

variable {wave : PlannedWave D} {priorRows : List (AssignmentExecutionReceipt D)}
  {pending : List (PendingAttempt D)} {prior : Option D} {assignments : List (PlannedAssignment D)}
  {R : DispatchScheduleReceipt D} {next : DispatchExecutionState D}

theorem pendingAttempts_spec (h : pendingAttempts ctx priorRows assignments = .ok pending) :
    (∀ p ∈ pending, PendsAt ctx priorRows p) ∧
      pending.map (·.assignment) = assignments.filter fun x =>
        (rowOf (priorRows.filter (·.succeeded)) x.assignmentId).isNone := by
  induction assignments generalizing pending with
  | nil =>
    obtain rfl := Except.ok.inj h
    exact ⟨by simp, rfl⟩
  | cons x rest ih =>
    unfold pendingAttempts at h
    split at h
    · rename_i found hfound
      obtain ⟨hall, hmap⟩ := ih h
      exact ⟨hall, by rw [hmap, filter_cons_of_neg (by simp [hfound])]⟩
    · rename_i hnone
      simp only [bind_eq_ok, check_eq_ok, budget_eq_ok, pure_eq_ok] at h
      obtain ⟨budget, hbudget, hallowed, others, hothers, rfl⟩ := h
      obtain ⟨hall, hmap⟩ := ih hothers
      refine ⟨fun p hp => ?_, ?_⟩
      · rcases mem_cons.mp hp with rfl | hp
        · exact ⟨hnone, hbudget, rfl, rfl, hallowed⟩
        · exact hall p hp
      · rw [map_cons, hmap, filter_cons_of_pos (by simp [hnone])]

/-- What is pending is an assignment of the wave, once. -/
theorem mem_assignments_of_pendingAttempts
    (h : pendingAttempts ctx priorRows assignments = .ok pending) {p : PendingAttempt D}
    (hp : p ∈ pending) : p.assignment ∈ assignments := by
  have hmem : p.assignment ∈ pending.map (·.assignment) := mem_map.mpr ⟨p, hp, rfl⟩
  rw [(pendingAttempts_spec h).2] at hmem
  exact (mem_filter.mp hmem).1

theorem nodup_pendingAttempts (hwave : wave ∈ plan.waves)
    (h : pendingAttempts ctx priorRows wave.assignments = .ok pending) :
    (pending.map (·.assignment.assignmentId)).Nodup := by
  have hsublist : (pending.map (·.assignment)).Sublist wave.assignments := by
    rw [(pendingAttempts_spec h).2]
    exact filter_sublist
  have hnodup := (plan.nodup_assignments hwave).sublist
    (hsublist.map PlannedAssignment.assignmentId)
  rw [map_map] at hnodup
  exact hnodup

/-- The pending attempts of a wave whose rows are the last receipts. -/
theorem pends_of_pendingAttempts {events : List (ExecutionEvent D)} (hwave : wave ∈ plan.waves)
    (h : pendingAttempts ctx (rowsOf (latestReceipt events) wave) wave.assignments = .ok pending) :
    Pends ctx wave events pending := by
  obtain ⟨hall, hmap⟩ := pendingAttempts_spec h
  have hfiled := filed_latestReceipt events
  have hassignment : ∀ p ∈ pending, p.assignment ∈ wave.assignments :=
    fun p hp => mem_assignments_of_pendingAttempts h hp
  have hopen : ∀ p ∈ pending, ∀ r, latestReceipt events p.assignment.assignmentId = some r →
      r.succeeded = false := by
    intro p hp r hr
    have hnone := (hall p hp).open_
    rw [rowOf_filter_rowsOf hwave hfiled _ (hassignment p hp), hr] at hnone
    simpa [Option.filter] using hnone
  have hprior : ∀ p ∈ pending, p.prior = latestReceipt events p.assignment.assignmentId := by
    intro p hp
    rw [(hall p hp).prior, rowOf_filter_rowsOf hwave hfiled _ (hassignment p hp)]
    cases hr : latestReceipt events p.assignment.assignmentId with
    | none => rfl
    | some r => simp [Option.filter, hopen p hp r hr]
  refine ⟨hassignment, fun p hp => (hall p hp).budget, hprior, fun p hp r hr => ?_,
    fun p hp => (hall p hp).attempt, fun p hp => (hall p hp).allowed,
    nodup_pendingAttempts hwave h, fun x hx => ?_⟩
  · exact hopen p hp r ((hprior p hp).symm.trans hr)
  · rw [hmap, mem_filter, rowOf_filter_rowsOf hwave hfiled _ hx]
    cases hr : latestReceipt events x.assignmentId with
    | none => exact .inl ⟨hx, rfl⟩
    | some r =>
      cases hsucceeded : r.succeeded with
      | true => exact .inr ⟨r, rfl, hsucceeded⟩
      | false => exact .inl ⟨hx, by simp [Option.filter, hsucceeded]⟩

/-! ## The receipt of a wave -/

/-- The receipts of a wave are the latest ones of its assignments. -/
theorem collectReceipts_spec {latest : D → Option (AssignmentExecutionReceipt D)}
    {receipts : List (AssignmentExecutionReceipt D)}
    (h : collectReceipts priorRows tasks assignments = .ok receipts)
    (hcarried : ∀ x ∈ assignments, ∀ r,
      rowOf (priorRows.filter (·.succeeded)) x.assignmentId = some r →
        latest x.assignmentId = some r) (htasks : ∀ x ∈ assignments,
      rowOf (priorRows.filter (·.succeeded)) x.assignmentId = none → ∀ r,
        tasks x.assignmentId = .returned r → latest x.assignmentId = some r) :
    receipts = assignments.filterMap (fun x => latest x.assignmentId) ∧
      ∀ x ∈ assignments, (latest x.assignmentId).isSome = true ∧
        (rowOf (priorRows.filter (·.succeeded)) x.assignmentId = none →
          ∃ r, tasks x.assignmentId = .returned r) := by
  induction assignments generalizing receipts with
  | nil =>
    obtain rfl := Except.ok.inj h
    exact ⟨rfl, by simp⟩
  | cons x rest ih =>
    simp only [collectReceipts, bind_eq_ok, pure_eq_ok] at h
    obtain ⟨receipt, hreceipt, others, hothers, rfl⟩ := h
    obtain ⟨hrest, hall⟩ := ih hothers (fun y hy => hcarried y (by simp [hy]))
      (fun y hy => htasks y (by simp [hy]))
    have hx : latest x.assignmentId = some receipt ∧
        (rowOf (priorRows.filter (·.succeeded)) x.assignmentId = none →
          ∃ r, tasks x.assignmentId = .returned r) := by
      unfold carriedOrResult taskResult at hreceipt
      split at hreceipt
      · rename_i found hfound
        obtain rfl := Except.ok.inj hreceipt
        -- a succeeded row of an earlier wave is carried over
        refine ⟨hcarried x (by simp) found hfound, fun hnone => ?_⟩
        rw [hfound] at hnone
        cases hnone
      · rename_i hnone
        split at hreceipt
        · rename_i found hfound
          obtain rfl := Except.ok.inj hreceipt
          -- the task has returned in this wave
          exact ⟨htasks x (by simp) hnone found hfound, fun _ => ⟨found, hfound⟩⟩
        · cases hreceipt
        · cases hreceipt
        · cases hreceipt
    refine ⟨by simp only [filterMap_cons, hx.1, hrest], fun y hy => ?_⟩
    rcases mem_cons.mp hy with rfl | hy
    · exact ⟨by rw [hx.1]; rfl, hx.2⟩
    · exact hall y hy

/-- The tasks of a wave that returned have returned. -/
theorem returned_of_collectReceipts {receipts : List (AssignmentExecutionReceipt D)}
    (h : collectReceipts priorRows tasks assignments = .ok receipts) : ∀ x ∈ assignments,
      rowOf (priorRows.filter (·.succeeded)) x.assignmentId = none →
        ∃ r, tasks x.assignmentId = .returned r := by
  induction assignments generalizing receipts with
  | nil => exact fun x hx => absurd hx not_mem_nil
  | cons y rest ih =>
    simp only [collectReceipts, bind_eq_ok, pure_eq_ok] at h
    obtain ⟨receipt, hreceipt, others, hothers, -⟩ := h
    intro x hx hnone
    rcases mem_cons.mp hx with rfl | hx
    · unfold carriedOrResult taskResult at hreceipt
      rw [hnone] at hreceipt
      dsimp only at hreceipt
      split at hreceipt
      · rename_i r hr
        exact ⟨r, hr⟩
      · cases hreceipt
      · cases hreceipt
      · cases hreceipt
    · exact ih hothers x hx hnone

def waveReceiptOf (plan : FrozenPlan D) (ctx : ExecutionContext D)
    (latest : D → Option (AssignmentExecutionReceipt D)) (wave : PlannedWave D) :
    DispatchWaveExecutionReceipt D :=
  waveExecutionRecord plan wave (rowsOf latest wave) ctx

theorem makeWaveExecutionReceipt_eq_ok {rows : List (AssignmentExecutionReceipt D)}
    {receipt : DispatchWaveExecutionReceipt D} :
    makeWaveExecutionReceipt plan wave rows ctx = .ok receipt ↔
      Ordered (rows.flatMap (·.attemptIntervalsMonotonicNs)) ∧
        (waveExecutionRecord plan wave rows ctx).postInit = .ok () ∧
        waveExecutionRecord plan wave rows ctx = receipt := by
  simp only [makeWaveExecutionReceipt, bind_eq_ok, mergeMonotonicIntervals_eq_ok,
    DispatchWaveExecutionReceipt.construct, validated_eq_ok]
  constructor
  · rintro ⟨_, ⟨hordered, -⟩, hinit, hrecord⟩
    exact ⟨hordered, hinit, hrecord⟩
  · rintro ⟨hordered, hinit, hrecord⟩
    exact ⟨_, ⟨hordered, rfl⟩, hinit, hrecord⟩

/-- What a wave that runs leaves, whether it returns or raises. -/
structure WaveRan (plan : FrozenPlan D) (ctx : ExecutionContext D) (wave : PlannedWave D)
    (before : List (ExecutionEvent D)) (result : Except Error (DispatchWaveExecutionReceipt D))
    (after : List (ExecutionEvent D)) : Prop where
  safe : Safe plan ctx after
  continues : Continues before after
  others : ∀ a, (∀ x ∈ wave.assignments, x.assignmentId ≠ a) →
    latestReceipt after a = latestReceipt before a
  receipt : ∀ receipt, result = .ok receipt →
    receipt = waveReceiptOf plan ctx (latestReceipt after) wave ∧
      (∀ x ∈ wave.assignments, (latestReceipt after x.assignmentId).isSome = true) ∧
      ∀ a, (invocationsOf after a).length = (receiptsOf after a).length

/-- A wave that has not begun leaves the events as they are. -/
theorem WaveRan.of_error {before : List (ExecutionEvent D)} (h : Safe plan ctx before) (e : Error) :
    WaveRan plan ctx wave before (.error e) before where
  safe := h
  continues := .refl _
  others := fun _ _ => rfl
  receipt := fun _ hreceipt => by cases hreceipt

omit [DecidableEq D] in
theorem beginWave_events (scope : WaveScope D) (pending : List (PendingAttempt D))
    (clock : ℕ → ℕ) (s : Session D J) :
    (beginWave sink scope pending clock s).2.events = s.events := by
  unfold beginWave
  cases sink with
  | none => rfl
  | some journal => rfl

variable {s : Session D J}

/-- The events of a wave that ran: what its tasks did, and the receipts it collected. -/
theorem waveRan_of_group {k : ℕ} {before : List (ExecutionEvent D)}
    (hready : Ready plan k wave before) (hpends : Pends ctx wave before pending)
    (hdone : GroupDone sha ⟨plan, wave, ctx, prior⟩ pending before ⟨tasks, s⟩)
    (hsafe : Safe plan ctx s.events) {result : Except Error (DispatchWaveExecutionReceipt D)}
    (hresult : result = (do
      let assignmentReceipts ← collectReceipts (rowsOf (latestReceipt before) wave) tasks
        wave.assignments
      makeWaveExecutionReceipt plan wave assignmentReceipts ctx)) :
    WaveRan plan ctx wave before result s.events := by
  have hwave : wave ∈ plan.waves := mem_of_getElem? hready.wave
  have hfiled := filed_latestReceipt before
  have hothers : ∀ a, (∀ p ∈ pending, p.assignment.assignmentId ≠ a) →
      latestReceipt s.events a = latestReceipt before a := by
    intro a ha
    exact congrArg List.getLast? (hdone.others a ha).2
  have hdoneTask : ∀ p ∈ pending, TaskDone sha ⟨plan, wave, ctx, prior⟩ p before s.events
      (tasks p.assignment.assignmentId) := hdone.tasks
  have hopen : ∀ p ∈ pending, rowOf ((rowsOf (latestReceipt before) wave).filter (·.succeeded))
      p.assignment.assignmentId = none := by
    intro p hp
    rw [rowOf_filter_rowsOf hwave hfiled _ (hpends.assignment p hp), ← hpends.prior p hp,
      Option.filter_eq_none_iff]
    intro r hr
    simp [hpends.unsuccessful p hp r hr]
  refine ⟨hsafe, hdone.continues, fun a ha => ?_, fun receipt hreceipt => ?_⟩
  · exact hothers a fun p hp => ha _ (hpends.assignment p hp)
  rw [hresult] at hreceipt
  obtain ⟨receipts, hcollect, hmake⟩ := bind_eq_ok.mp hreceipt
  have hcarried : ∀ x ∈ wave.assignments, ∀ r,
      rowOf ((rowsOf (latestReceipt before) wave).filter (·.succeeded)) x.assignmentId = some r →
        latestReceipt s.events x.assignmentId = some r := by
    intro x hx r hr
    have hnot : ∀ p ∈ pending, p.assignment.assignmentId ≠ x.assignmentId := by
      intro p hp hid
      rw [← hid, hopen p hp] at hr
      cases hr
    rw [rowOf_filter_rowsOf hwave hfiled _ hx, Option.filter_eq_some_iff] at hr
    rw [hothers _ hnot]
    exact hr.1
  have htasks : ∀ x ∈ wave.assignments,
      rowOf ((rowsOf (latestReceipt before) wave).filter (·.succeeded)) x.assignmentId = none →
        ∀ r, tasks x.assignmentId = .returned r →
          latestReceipt s.events x.assignmentId = some r := by
    intro x hx hnone r hr
    rcases hpends.covers x hx with hmem | ⟨r', hr', hsucceeded⟩
    · obtain ⟨p, hp, rfl⟩ := mem_map.mp hmem
      have htask := hdoneTask p hp
      rw [hr] at htask
      unfold latestReceipt
      rw [htask.2.1]
      simp
    · rw [rowOf_filter_rowsOf hwave hfiled _ hx, hr'] at hnone
      simp [Option.filter, hsucceeded] at hnone
  obtain ⟨hrows, hall⟩ := collectReceipts_spec hcollect hcarried htasks
  obtain ⟨-, -, hrecord⟩ := makeWaveExecutionReceipt_eq_ok.mp hmake
  refine ⟨?_, fun x hx => (hall x hx).1, fun a => ?_⟩
  · rw [← hrecord, hrows]
    rfl
  · by_cases ha : ∃ p ∈ pending, p.assignment.assignmentId = a
    · -- the task of a pending assignment has returned
      obtain ⟨p, hp, rfl⟩ := ha
      obtain ⟨r, hr⟩ := (hall _ (hpends.assignment p hp)).2 (hopen p hp)
      have htask := hdoneTask p hp
      rw [hr] at htask
      rw [htask.1, htask.2.1, length_append, length_append, hready.counted]
      rfl
    · have hnot : ∀ p ∈ pending, p.assignment.assignmentId ≠ a := fun p hp hid => ha ⟨p, hp, hid⟩
      exact (congrArg List.length (hdone.others a hnot).1).trans
        ((hready.counted a).trans (congrArg List.length (hdone.others a hnot).2).symm)

theorem runWave_ran {k : ℕ} (hready : Ready plan k wave s.events) (hsafe : Safe plan ctx s.events)
    (world : WaveWorld D) : MeetsAt
      (runWave sha sink ⟨plan, wave, ctx, prior⟩ (rowsOf (latestReceipt s.events) wave) world) s
      fun result t => WaveRan plan ctx wave s.events result t.events := by
  refine meetsAt_check_bind (fun e _ => .of_error hsafe e) fun pending hpending => ?_
  have hpends := pends_of_pendingAttempts (mem_of_getElem? hready.wave) hpending
  refine meetsAt_bind (P := fun _ t => t.events = s.events) (beginWave_events _ _ _ s)
    (fun e t ht => ?_) fun _ t ht => ?_
  · rw [ht]
    exact .of_error hsafe e
  have hran : ∃ tasks s', runGroup sha sink ⟨plan, wave, ctx, prior⟩ pending world.moves t =
      (.ok tasks, s') ∧ _ := runGroup_safe rfl hready hsafe hpends ht world.moves
  obtain ⟨tasks, s', hgroup, hdone, hafter⟩ := hran
  unfold MeetsAt
  rw [bind_apply_ok hgroup, check_bind_check]
  exact waveRan_of_group hready hpends hdone hafter rfl

/-! ## The receipt of a schedule -/

/-- The receipt covers the first `n` waves: it lists the last receipts of their
assignments, of which only the last wave may have failures, and no assignment of
a later wave has run. Every call of the runner has ended with a receipt. -/
structure Sound (plan : FrozenPlan D) (ctx : ExecutionContext D) (events : List (ExecutionEvent D))
    (n : ℕ) (R : DispatchScheduleReceipt D) : Prop where
  le : n ≤ plan.waves.length
  nonempty : n = 0 → plan.waves = []
  record : R = scheduleRecord plan R.phase
    ((plan.waves.take n).map (waveReceiptOf plan ctx (latestReceipt events))) ctx
    R.priorScheduleReceiptSha256
  phase : R.phase = DispatchExecutionState.phaseAfter (R.waveReceipts.all (·.succeeded)) n
    plan.waves.length
  present : ∀ w ∈ plan.waves.take n, ∀ x ∈ w.assignments,
    (latestReceipt events x.assignmentId).isSome = true
  earlier : ∀ w ∈ plan.waves.take (n - 1), ∀ x ∈ w.assignments, ∃ r,
    latestReceipt events x.assignmentId = some r ∧ r.succeeded = true
  later : ∀ w ∈ plan.waves.drop n, ∀ x ∈ w.assignments,
    latestReceipt events x.assignmentId = none
  counted : ∀ a, (invocationsOf events a).length = (receiptsOf events a).length

theorem Sound.waveReceipts_eq {events : List (ExecutionEvent D)} {n : ℕ}
    (h : Sound plan ctx events n R) : R.waveReceipts =
      (plan.waves.take n).map (waveReceiptOf plan ctx (latestReceipt events)) :=
  congrArg DispatchScheduleReceipt.waveReceipts h.record

omit [DecidableEq D] in
theorem waveReceiptOf_succeeded {latest : D → Option (AssignmentExecutionReceipt D)} :
    (waveReceiptOf plan ctx latest wave).succeeded = true ↔
      ∀ x ∈ wave.assignments, ∀ r, latest x.assignmentId = some r → r.succeeded = true := by
  unfold waveReceiptOf waveExecutionRecord DispatchWaveExecutionReceipt.succeeded
  rw [all_eq_true]
  constructor
  · exact fun h x hx r hr => h r (mem_rowsOf.mpr ⟨x, hx, hr⟩)
  · intro h r hr
    obtain ⟨x, hx, hlatest⟩ := mem_rowsOf.mp hr
    exact h x hx r hlatest

omit [DecidableEq D] in
/-- Waves at different places share no assignment. -/
theorem FrozenPlan.assignment_ne (plan : FrozenPlan D) {i k : ℕ} {w : PlannedWave D}
    (hi : plan.waves[i]? = some w) (hk : plan.waves[k]? = some wave) (hne : i ≠ k)
    (hx : x ∈ w.assignments) : ∀ y ∈ wave.assignments, y.assignmentId ≠ x.assignmentId :=
  fun _ hy hid => hne (plan.assignment_unique hk hi hy hx hid).1.symm

theorem getElem?_of_mem_take {α : Type*} {values : List α} {n : ℕ} {a : α}
    (h : a ∈ values.take n) : ∃ i < n, values[i]? = some a := by
  obtain ⟨i, hi, rfl⟩ := mem_take_iff_getElem.mp h
  exact ⟨i, by omega, getElem?_eq_getElem (by omega)⟩

theorem getElem?_of_mem_drop {α : Type*} {values : List α} {n : ℕ} {a : α}
    (h : a ∈ values.drop n) : ∃ i ≥ n, values[i]? = some a := by
  obtain ⟨i, hi, rfl⟩ := mem_drop_iff_getElem.mp h
  exact ⟨n + i, Nat.le_add_right _ _, getElem?_eq_getElem (by omega)⟩

/-! ## The loop over the waves -/

/-- The loop is about to run wave `k`. -/
structure LoopReady (plan : FrozenPlan D) (ctx : ExecutionContext D)
    (events : List (ExecutionEvent D)) (k : ℕ) (loop : LoopState D) : Prop where
  safe : Safe plan ctx events
  priorReceipts : loop.priorReceipts =
    (plan.waves.take k).map (waveReceiptOf plan ctx (latestReceipt events))
  earlier : ∀ w ∈ plan.waves.take k, ∀ x ∈ w.assignments, ∃ r,
    latestReceipt events x.assignmentId = some r ∧ r.succeeded = true
  priorRows : ∀ wave, plan.waves[k]? = some wave →
    priorRowsOf loop.failedPrior wave = rowsOf (latestReceipt events) wave
  failedPrior : ∀ failed, loop.failedPrior = some failed → failed.waveIndex = k
  later : ∀ w ∈ plan.waves.drop (k + 1), ∀ x ∈ w.assignments,
    latestReceipt events x.assignmentId = none
  counted : ∀ a, (invocationsOf events a).length = (receiptsOf events a).length
  current : ∀ R, loop.currentScheduleReceipt = some R → ∃ n, Sound plan ctx events n R

theorem makeScheduleReceipt_eq_ok {phase : DispatchExecutionPhase}
    {waveReceipts : List (DispatchWaveExecutionReceipt D)} :
    makeScheduleReceipt plan phase waveReceipts ctx prior = .ok R ↔
      Ordered (waveReceipts.flatMap (·.activeIntervalsMonotonicNs)) ∧
        (scheduleRecord plan phase waveReceipts ctx prior).postInit = .ok () ∧
        scheduleRecord plan phase waveReceipts ctx prior = R := by
  simp only [makeScheduleReceipt, bind_eq_ok, mergeMonotonicIntervals_eq_ok,
    DispatchScheduleReceipt.construct, validated_eq_ok]
  constructor
  · rintro ⟨_, ⟨hordered, -⟩, hinit, hrecord⟩
    exact ⟨hordered, hinit, hrecord⟩
  · rintro ⟨hordered, hinit, hrecord⟩
    exact ⟨_, ⟨hordered, rfl⟩, hinit, hrecord⟩

theorem accept_eq_ok {state : DispatchExecutionState D} {receipt : DispatchWaveExecutionReceipt D}
    {total : ℕ} (h : state.accept sha receipt total = .ok next) :
    receipt.waveIndex = state.nextWaveIndex ∧
      next.phase = DispatchExecutionState.phaseAfter receipt.succeeded
        (state.nextWaveIndex + 1) total := by
  simp only [DispatchExecutionState.accept, bind_eq_ok, check_eq_ok,
    DispatchExecutionState.construct, validated_eq_ok] at h
  obtain ⟨-, -, hindex, -, rfl⟩ := h
  exact ⟨hindex, rfl⟩

section Loop

variable {k : ℕ} {wave : PlannedWave D} {loop : LoopState D}
  {before after : List (ExecutionEvent D)} {waveReceipt : DispatchWaveExecutionReceipt D}

section

variable (hk : plan.waves[k]? = some wave)

include hk

/-- The other waves are as before. -/
theorem WaveRan.latest_eq {result : Except Error (DispatchWaveExecutionReceipt D)}
    (h : WaveRan plan ctx wave before result after) {i : ℕ} {w : PlannedWave D}
    (hi : plan.waves[i]? = some w) (hne : i ≠ k) (hx : x ∈ w.assignments) :
    latestReceipt after x.assignmentId = latestReceipt before x.assignmentId :=
  h.others _ (plan.assignment_ne hi hk hne hx)

/-- The receipts of the first `k` waves and the one that ran. -/
theorem waveReceipts_append (hready : LoopReady plan ctx before k loop)
    (h : WaveRan plan ctx wave before (.ok waveReceipt) after) :
    loop.priorReceipts ++ [waveReceipt] =
      (plan.waves.take (k + 1)).map (waveReceiptOf plan ctx (latestReceipt after)) := by
  rw [take_add_one, hk, map_append, hready.priorReceipts, (h.receipt waveReceipt rfl).1]
  congr 1
  refine map_congr_left fun w hw => ?_
  obtain ⟨i, hi, hw⟩ := getElem?_of_mem_take hw
  unfold waveReceiptOf
  rw [rowsOf_congr fun x hx => h.latest_eq hk hw (by omega) hx]

theorem sound_of_waveRan (hready : LoopReady plan ctx before k loop)
    (h : WaveRan plan ctx wave before (.ok waveReceipt) after)
    (hnext : loop.state.accept sha waveReceipt plan.waves.length = .ok next)
    (hR : makeScheduleReceipt plan next.phase (loop.priorReceipts ++ [waveReceipt]) ctx prior
      = .ok R) : Sound plan ctx after (k + 1) R := by
  obtain ⟨hreceipt, hpresent, hcounted⟩ := h.receipt waveReceipt rfl
  obtain ⟨hindex, hphase⟩ := accept_eq_ok hnext
  obtain ⟨hlength, -⟩ := List.getElem?_eq_some_iff.mp hk
  have hreceipts := waveReceipts_append hk hready h
  have hearlier : ∀ w ∈ plan.waves.take k, ∀ x ∈ w.assignments, ∃ r,
      latestReceipt after x.assignmentId = some r ∧ r.succeeded = true := by
    intro w hw x hx
    obtain ⟨i, hi, hwave⟩ := getElem?_of_mem_take hw
    rw [h.latest_eq hk hwave (by omega) hx]
    exact hready.earlier w hw x hx
  obtain ⟨-, -, rfl⟩ := makeScheduleReceipt_eq_ok.mp hR
  refine ⟨hlength, fun h0 => absurd h0 (Nat.succ_ne_zero k), ?_, ?_, ?_, hearlier, ?_, hcounted⟩
  · rw [← hreceipts]
    rfl
  · -- the earlier waves succeeded, so the phase is decided by the one that ran
    have hk' : loop.state.nextWaveIndex = k := by
      rw [← hindex, hreceipt]
      exact plan.waveIndex_eq hk
    have hall : (loop.priorReceipts ++ [waveReceipt]).all (·.succeeded) = waveReceipt.succeeded := by
      rw [all_append, all_cons, all_nil, Bool.and_true]
      have hprior : loop.priorReceipts.all (·.succeeded) = true := by
        rw [hready.priorReceipts, all_map, all_eq_true]
        intro w hw
        refine waveReceiptOf_succeeded.mpr fun x hx r hr => ?_
        obtain ⟨r', hr', hsucceeded⟩ := hready.earlier w hw x hx
        rw [hr] at hr'
        rw [Option.some.inj hr']
        exact hsucceeded
      rw [hprior, Bool.true_and]
    show next.phase = DispatchExecutionState.phaseAfter
      ((loop.priorReceipts ++ [waveReceipt]).all (·.succeeded)) _ _
    rw [hphase, hall, hk']
  · intro w hw x hx
    rw [take_add_one, hk] at hw
    rcases mem_append.mp hw with hw | hw
    · obtain ⟨r, hr, -⟩ := hearlier w hw x hx
      rw [hr]
      rfl
    · obtain rfl : w = wave := by simpa using hw
      exact hpresent x hx
  · intro w hw x hx
    obtain ⟨i, hi, hwave⟩ := getElem?_of_mem_drop hw
    rw [h.latest_eq hk hwave (by omega) hx]
    exact hready.later w hw x hx

theorem loopReady_next (hready : LoopReady plan ctx before k loop)
    (h : WaveRan plan ctx wave before (.ok waveReceipt) after)
    (hnext : loop.state.accept sha waveReceipt plan.waves.length = .ok next)
    (hR : makeScheduleReceipt plan next.phase (loop.priorReceipts ++ [waveReceipt]) ctx prior
      = .ok R) (hfailed : next.phase ≠ .failed) : LoopReady plan ctx after (k + 1) {
      priorReceipts := loop.priorReceipts ++ [waveReceipt]
      failedPrior := loop.failedPrior.filter fun failed => wave.waveIndex ≠ failed.waveIndex
      state := next
      currentScheduleReceipt := some R } := by
  have hsound := sound_of_waveRan hk hready h hnext hR
  obtain ⟨hreceipt, hpresent, hcounted⟩ := h.receipt waveReceipt rfl
  have hsucceeded : waveReceipt.succeeded = true := by
    by_contra hnot
    refine hfailed ?_
    rw [(accept_eq_ok hnext).2, DispatchExecutionState.phaseAfter, if_pos (by simpa using hnot)]
  have hnone : loop.failedPrior.filter (fun failed => wave.waveIndex ≠ failed.waveIndex) = none := by
    rw [Option.filter_eq_none_iff]
    intro failed hmem
    rw [hready.failedPrior failed hmem, plan.waveIndex_eq hk]
    simp
  refine ⟨h.safe, waveReceipts_append hk hready h, ?_, ?_, ?_, ?_, hcounted, ?_⟩
  · intro w hw x hx
    rw [take_add_one, hk] at hw
    rcases mem_append.mp hw with hw | hw
    · exact hsound.earlier w hw x hx
    · obtain rfl : w = wave := by simpa using hw
      obtain ⟨r, hr⟩ := Option.isSome_iff_exists.mp (hpresent x hx)
      rw [hreceipt] at hsucceeded
      exact ⟨r, hr, waveReceiptOf_succeeded.mp hsucceeded x hx r hr⟩
  · -- the next wave has not run, so there is nothing to resume from
    intro w hw
    rw [hnone]
    refine (filterMap_eq_nil_iff.mpr fun x hx => ?_).symm
    refine hsound.later w ?_ x hx
    obtain ⟨hlength, rfl⟩ := List.getElem?_eq_some_iff.mp hw
    exact mem_drop_iff_getElem.mpr ⟨0, by omega, rfl⟩
  · intro failed hmem
    rw [hnone] at hmem
    cases hmem
  · intro w hw x hx
    refine hsound.later w ?_ x hx
    rw [← drop_drop] at hw
    exact mem_of_mem_drop hw
  · intro R' hR'
    obtain rfl := Option.some.inj hR'
    exact ⟨k + 1, hsound⟩

end

/-- What the loop leaves: safe events, and a sound receipt when it returns. -/
theorem runWaves_sound (worlds : ℕ → WaveWorld D) {waves tail : List (PlannedWave D)}
    (hwaves : plan.waves.drop k = waves ++ tail) (hready : LoopReady plan ctx s.events k loop) :
    MeetsAt (runWaves sha sink plan ctx worlds waves loop) s fun result t =>
      Safe plan ctx t.events ∧ Continues s.events t.events ∧
        ∀ R, result = .ok R → ∃ n, Sound plan ctx t.events n R := by
  induction waves generalizing k loop s with
  | nil =>
    unfold runWaves
    cases hcurrent : loop.currentScheduleReceipt with
    | none => exact ⟨hready.safe, .refl _, fun R hR => by cases hR⟩
    | some receipt =>
      refine ⟨hready.safe, .refl _, fun R hR => ?_⟩
      obtain rfl := Except.ok.inj hR
      exact hready.current receipt hcurrent
  | cons wave rest ih =>
    have hk : plan.waves[k]? = some wave := by
      rw [← head?_drop, hwaves]
      rfl
    have hrest : plan.waves.drop (k + 1) = rest ++ tail := by
      rw [← drop_drop, hwaves]
      rfl
    have hwave : Ready plan k wave s.events := ⟨hk, hready.earlier, hready.counted⟩
    unfold runWaves
    rw [hready.priorRows wave hk]
    refine meetsAt_bind (runWave_ran hwave hready.safe _)
      (fun e t ht => ⟨ht.safe, ht.continues, fun R hR => by cases hR⟩) fun waveReceipt t ht => ?_
    refine meetsAt_check_bind
      (fun e _ => ⟨ht.safe, ht.continues, fun R hR => by cases hR⟩) fun next hnext => ?_
    refine meetsAt_check_bind
      (fun e _ => ⟨ht.safe, ht.continues, fun R hR => by cases hR⟩) fun receipt hreceipt => ?_
    split
    · refine ⟨ht.safe, ht.continues, fun R hR => ?_⟩
      obtain rfl := Except.ok.inj hR
      exact ⟨k + 1, sound_of_waveRan hk hready ht hnext hreceipt⟩
    · rename_i hfailed
      refine (ih hrest (loopReady_next hk hready ht hnext hreceipt hfailed)).mono ?_
      rintro result t' ⟨hsafe, hcontinues, hsound⟩
      exact ⟨hsafe, ht.continues.trans hcontinues, hsound⟩

end Loop

end Pool

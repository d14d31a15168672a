import LightConeSpec.Pool.AtMostOnce

/-!
# The billing ledger

A schedule receipt bills the inventory for the measure of the union of all
attempts. The union is taken per assignment, per wave and per schedule; read as
sets of points, each level covers what the attempts below it cover, so nothing
is billed twice and no gap is billed at all.
-/

namespace Pool

open Python Intervals MeasureTheory List

variable {D J : Type} [DecidableEq D] {sha : ContentSha D}
  {sink : Option (AttemptJournalSink D J)} {plan : FrozenPlan D} {ctx : ExecutionContext D}
  {events : List (ExecutionEvent D)}

def ExecutionEvent.attemptInterval : ExecutionEvent D → Option Interval
  | .recorded receipt => receipt.lastInterval
  | _ => none

def attemptIntervals (events : List (ExecutionEvent D)) : List Interval :=
  events.filterMap ExecutionEvent.attemptInterval

omit [DecidableEq D] in
theorem mem_attemptIntervals {i : Interval} : i ∈ attemptIntervals events ↔
    ∃ r, .recorded r ∈ events ∧ r.lastInterval = some i := by
  unfold attemptIntervals
  rw [mem_filterMap]
  constructor
  · rintro ⟨e, he, hi⟩
    cases e with
    | recorded r => exact ⟨r, he, hi⟩
    | invoked _ _ => cases hi
    | returned _ => cases hi
  · rintro ⟨r, hr, hi⟩
    exact ⟨_, hr, hi⟩

/-! ## The intervals of the receipts are those of the attempts -/

theorem Safe.ordered_intervals (h : Safe plan ctx events) {r : AssignmentExecutionReceipt D}
    (hr : .recorded r ∈ events) : Ordered r.attemptIntervalsMonotonicNs :=
  (h.receipts r hr).1.separated.1

theorem Safe.ordered_attemptIntervals (h : Safe plan ctx events) :
    Ordered (attemptIntervals events) := by
  intro i hi
  obtain ⟨r, hr, hlast⟩ := mem_attemptIntervals.mp hi
  exact h.ordered_intervals hr i (mem_of_getLast? hlast)

/-- The last receipt of an assignment has the intervals of its attempts. -/
theorem Safe.mem_intervals_latest (h : Safe plan ctx events) {a : D}
    {r : AssignmentExecutionReceipt D} (hr : latestReceipt events a = some r) {i : Interval} :
    i ∈ r.attemptIntervalsMonotonicNs ↔
      ∃ r', .recorded r' ∈ events ∧ r'.assignmentSha256 = a ∧ r'.lastInterval = some i := by
  rw [h.history a r hr, mem_filterMap]
  constructor
  · rintro ⟨r', hr', hlast⟩
    obtain ⟨hrecorded, hid⟩ := mem_receiptsOf.mp hr'
    exact ⟨r', hrecorded, hid, hlast⟩
  · rintro ⟨r', hrecorded, hid, hlast⟩
    exact ⟨r', mem_receiptsOf.mpr ⟨hrecorded, hid⟩, hlast⟩

variable {n : ℕ} {R : DispatchScheduleReceipt D}

section

variable (h : Sound plan ctx events n R)

include h

/-- The rows of a sound receipt have exactly the intervals of the attempts. -/
theorem Sound.mem_rows_intervals (hsafe : Safe plan ctx events)
    {i : Interval} : i ∈ R.rows.flatMap (·.attemptIntervalsMonotonicNs) ↔
      i ∈ attemptIntervals events := by
  rw [mem_flatMap, mem_attemptIntervals]
  constructor
  · rintro ⟨row, hrow, hi⟩
    obtain ⟨w, hw, hrow⟩ := mem_flatMap.mp hrow
    obtain ⟨wave, -, rfl⟩ := h.mem_waveReceipts.mp hw
    obtain ⟨x, -, hlatest⟩ := mem_rowsOf.mp hrow
    obtain ⟨r, hr, -, hlast⟩ := (hsafe.mem_intervals_latest hlatest).mp hi
    exact ⟨r, hr, hlast⟩
  · rintro ⟨r, hr, hlast⟩
    obtain ⟨wave, hwave, x, hx, hid⟩ := hsafe.planned r hr
    -- the assignment has a last receipt, since it has this one
    have hmem : r ∈ receiptsOf events x.assignmentId := mem_receiptsOf.mpr ⟨hr, hid.symm⟩
    cases hlatest : latestReceipt events x.assignmentId with
    | none =>
      rw [latestReceipt_eq_none.mp hlatest] at hmem
      cases hmem
    | some row =>
      refine ⟨row, mem_flatMap.mpr ⟨_, h.mem_waveReceipts.mpr
        ⟨wave, h.mem_take hwave hx hlatest, rfl⟩, mem_rowsOf.mpr ⟨x, hx, hlatest⟩⟩, ?_⟩
      exact (hsafe.mem_intervals_latest hlatest).mpr ⟨r, hr, hid.symm, hlast⟩

/-- The rows of a sound receipt were recorded. -/
theorem Sound.recorded_of_mem_rows
    {row : AssignmentExecutionReceipt D} (hrow : row ∈ R.rows) : .recorded row ∈ events := by
  obtain ⟨w, hw, hrow⟩ := mem_flatMap.mp hrow
  obtain ⟨wave, -, rfl⟩ := h.mem_waveReceipts.mp hw
  obtain ⟨x, -, hlatest⟩ := mem_rowsOf.mp hrow
  exact (mem_of_latestReceipt hlatest).1

theorem Sound.ordered_rows (hsafe : Safe plan ctx events) :
    Ordered (R.rows.flatMap (·.attemptIntervalsMonotonicNs)) :=
  ordered_flatMap.mpr fun _ hrow => hsafe.ordered_intervals (h.recorded_of_mem_rows hrow)

/-- The active intervals of a wave receipt cover its attempts. -/
theorem Sound.cover_active (hsafe : Safe plan ctx events)
    {w : DispatchWaveExecutionReceipt D} (hw : w ∈ R.waveReceipts) :
    Ordered w.activeIntervalsMonotonicNs ∧
      cover w.activeIntervalsMonotonicNs = cover w.attemptIntervals := by
  have hordered : Ordered w.attemptIntervals := by
    refine ordered_flatMap.mpr fun row hrow => ?_
    exact hsafe.ordered_intervals (h.recorded_of_mem_rows (mem_flatMap.mpr ⟨w, hw, hrow⟩))
  obtain ⟨wave, -, rfl⟩ := h.mem_waveReceipts.mp hw
  exact ⟨ordered_merge hordered, cover_merge hordered⟩

/-- The waves of a sound receipt cover the attempts, taken together or one by one. -/
theorem Sound.cover_waves (hsafe : Safe plan ctx events) :
    Ordered R.waveIntervals ∧ cover R.waveIntervals = cover (attemptIntervals events) := by
  refine ⟨ordered_flatMap.mpr fun w hw => (h.cover_active hsafe hw).1, ?_⟩
  have hrows : cover (R.rows.flatMap (·.attemptIntervalsMonotonicNs))
      = cover (attemptIntervals events) := cover_congr fun i => h.mem_rows_intervals hsafe
  have hnested : R.rows.flatMap (·.attemptIntervalsMonotonicNs)
      = R.waveReceipts.flatMap (·.attemptIntervals) := flatMap_assoc
  rw [← hrows, hnested]
  unfold DispatchScheduleReceipt.waveIntervals
  rw [cover_flatMap, cover_flatMap]
  exact Set.iUnion₂_congr fun w hw => (h.cover_active hsafe hw).2

/-! ## What is billed -/

/-- The ledger bills the inventory for the union of the attempts. -/
theorem Sound.billed_eq (hsafe : Safe plan ctx events) : R.fixedInstanceActualBilledGpuNs
      = ctx.deviceCount * unionLength (attemptIntervals events) := by
  obtain ⟨hordered, hcover⟩ := h.cover_waves hsafe
  have hrecord : R.fixedInstanceActualBilledGpuNs
      = unionLength (merge R.waveIntervals) * ctx.deviceCount := by
    conv_lhs => rw [h.record]
    rw [DispatchScheduleReceipt.waveIntervals, h.waveReceipts_eq]
    rfl
  have hsame : unionLength (merge R.waveIntervals) = unionLength (attemptIntervals events) := by
    refine unionLength_congr (ordered_merge hordered) hsafe.ordered_attemptIntervals ?_
    rw [cover_merge hordered, hcover]
  rw [hrecord, hsame, Nat.mul_comm]

theorem Sound.attributed_eq : R.perAssignmentAttributedFixedInstanceGpuNs
      = (R.rows.map (·.attributedFixedInstanceGpuNs)).sum := by
  have hrecord : R.perAssignmentAttributedFixedInstanceGpuNs
      = (R.waveReceipts.map (·.perAssignmentAttributedFixedInstanceGpuNs)).sum := by
    conv_lhs => rw [h.record]
    rw [h.waveReceipts_eq]
    rfl
  rw [hrecord, DispatchScheduleReceipt.rows, map_flatMap, flatMap_def, sum_flatten,
    map_map]
  congr 1
  refine map_congr_left fun w hw => ?_
  obtain ⟨wave, -, rfl⟩ := h.mem_waveReceipts.mp hw
  rfl

/-- The ledger is at most what is attributed to the assignments one by one. -/
theorem Sound.billed_le (hsafe : Safe plan ctx events) :
    R.fixedInstanceActualBilledGpuNs ≤ (R.rows.map (·.attributedFixedInstanceGpuNs)).sum := by
  have hrows : ∀ row ∈ R.rows, Ordered row.attemptIntervalsMonotonicNs :=
    fun row hrow => hsafe.ordered_intervals (h.recorded_of_mem_rows hrow)
  have hunion : unionLength (attemptIntervals events)
      = unionLength (R.rows.flatMap (·.attemptIntervalsMonotonicNs)) :=
    unionLength_congr hsafe.ordered_attemptIntervals (h.ordered_rows hsafe)
      (cover_congr fun i => (h.mem_rows_intervals hsafe).symm)
  have hattributed : (R.rows.map (·.attributedFixedInstanceGpuNs)).sum
      = (R.rows.map fun row => unionLength row.attemptIntervalsMonotonicNs).sum
        * ctx.deviceCount := by
    rw [← sum_map_mul_right]
    congr 1
    refine map_congr_left fun row hrow => ?_
    obtain ⟨haccounted, hcount⟩ := hsafe.receipts row (h.recorded_of_mem_rows hrow)
    rw [haccounted.attributedFixed, hcount]
  rw [h.billed_eq hsafe, hattributed, hunion, Nat.mul_comm]
  exact Nat.mul_le_mul_right _ (unionLength_flatMap_le hrows)

end

/-- The ledger of every chain of calls is exact: a returned receipt bills the
inventory for the measure of the union of all attempts, which are all that were
begun; it bills no less than a receipt returned before, and no more than what is
attributed to the assignments. -/
theorem billing_exact (sha : ContentSha D) (sink : Option (AttemptJournalSink D J))
    (plan : FrozenPlan D) (ctx : ExecutionContext D) (journal : J) (calls : List (Call D)) :
    let events := (Chain.run sha sink plan ctx journal calls).session.events
    ∀ past R rest, events = past ++ .returned R :: rest →
      (R.fixedInstanceActualBilledGpuNs : ENNReal) = ctx.deviceCount *
        volume (⋃ i ∈ attemptIntervals past, Set.Icc (i.1 : ℝ) i.2) ∧
      (∀ i, i ∈ R.rows.flatMap (·.attemptIntervalsMonotonicNs) ↔ i ∈ attemptIntervals past) ∧
      (∀ a, (invocationsOf past a).length = (receiptsOf past a).length) ∧
      (∀ earlier, .returned earlier ∈ past →
        earlier.fixedInstanceActualBilledGpuNs ≤ R.fixedInstanceActualBilledGpuNs) ∧
      R.fixedInstanceActualBilledGpuNs ≤ (R.rows.map (·.attributedFixedInstanceGpuNs)).sum ∧
      R.perAssignmentAttributedFixedInstanceGpuNs
        = (R.rows.map (·.attributedFixedInstanceGpuNs)).sum := by
  intro events past R rest hevents
  have h : ChainInvariant plan ctx (Chain.run sha sink plan ctx journal calls) :=
    chainInvariant_run journal calls
  obtain ⟨hsafe, n, hsound⟩ := h.returns past _ rest hevents
  refine ⟨?_, fun i => hsound.mem_rows_intervals hsafe, hsound.counted, ?_,
    hsound.billed_le hsafe, hsound.attributed_eq⟩
  · have hvolume := volume_cover hsafe.ordered_attemptIntervals
    rw [hsound.billed_eq hsafe, Nat.cast_mul, ← hvolume]
    rfl
  · intro earlier hearlier
    obtain ⟨first, between, rfl⟩ := List.append_of_mem hearlier
    obtain ⟨hsafe₀, n₀, hsound₀⟩ := h.returns first (.returned earlier)
      (between ++ .returned R :: rest) (hevents.trans (by simp))
    rw [hsound₀.billed_eq hsafe₀, hsound.billed_eq hsafe]
    refine Nat.mul_le_mul_left _ (unionLength_mono hsafe₀.ordered_attemptIntervals
      hsafe.ordered_attemptIntervals (cover_mono fun i hi => ?_))
    unfold attemptIntervals at hi ⊢
    rw [List.filterMap_append]
    exact List.mem_append_left _ hi

end Pool

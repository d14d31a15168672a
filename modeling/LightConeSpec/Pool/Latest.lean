import LightConeSpec.Pool.AtMostOnce
import LightConeSpec.Pool.Journal

/-!
# Schedules of the last receipts

`_schedule_from_latest` makes the receipts of the waves that the last receipts
cover. It raises only on a receipt that its constructor refuses or that counts
other devices than the inventory has; on all other maps it returns, and what it
returns is the receipt that `execute_dispatch_plan` makes of the same receipts.
-/

namespace Pool

open Python Intervals List

variable {D : Type} [DecidableEq D] {sha : ContentSha D} {plan : FrozenPlan D}
  {ctx : ExecutionContext D} {latest : D → Option (AssignmentExecutionReceipt D)}

/-- The receipts of the map are valid, are filed under their assignments, and
count the devices of the inventory. -/
structure Admissible (sha : ContentSha D) (ctx : ExecutionContext D)
    (latest : D → Option (AssignmentExecutionReceipt D)) : Prop where
  filed : Filed latest
  valid : ∀ a r, latest a = some r → r.postInit sha = .ok ()
  count : ∀ a r, latest a = some r → r.fixedInstanceGpuCount = ctx.deviceCount

theorem AssignmentExecutionReceipt.one_le_fixedInstanceGpuCount
    {receipt : AssignmentExecutionReceipt D} (h : receipt.postInit sha = .ok ()) :
    1 ≤ receipt.fixedInstanceGpuCount := by
  simp only [postInit, bind_eq_ok, check_eq_ok] at h
  obtain ⟨-, -, _, -, -, -, -, -, hfixed, -⟩ := h
  exact hfixed

def Present (latest : D → Option (AssignmentExecutionReceipt D)) (wave : PlannedWave D) : Prop :=
  ∀ x ∈ wave.assignments, (latest x.assignmentId).isSome = true

namespace Admissible

theorem one_le_deviceCount (h : Admissible sha ctx latest) {a : D}
    {r : AssignmentExecutionReceipt D} (hr : latest a = some r) : 1 ≤ ctx.deviceCount :=
  h.count a r hr ▸ r.one_le_fixedInstanceGpuCount (h.valid a r hr)

theorem ordered_rows (h : Admissible sha ctx latest) (wave : PlannedWave D) :
    Ordered ((rowsOf latest wave).flatMap (·.attemptIntervalsMonotonicNs)) := by
  refine ordered_flatMap.mpr fun row hrow => ?_
  obtain ⟨x, -, hx⟩ := mem_rowsOf.mp hrow
  exact (AssignmentExecutionReceipt.accounted_of_postInit (h.valid _ _ hx)).separated.1

/-- The receipt of a wave that is there passes its constructor. -/
theorem makeWave (h : Admissible sha ctx latest) {wave : PlannedWave D} (hwave : wave ∈ plan.waves)
    (hpresent : Present latest wave) : makeWaveExecutionReceipt plan wave (rowsOf latest wave) ctx
      = .ok (waveReceiptOf plan ctx latest wave) := by
  obtain ⟨x, hx⟩ := exists_mem_of_ne_nil _ (plan.nonempty wave hwave)
  obtain ⟨r, hr⟩ := Option.isSome_iff_exists.mp (hpresent x hx)
  have hrow : r ∈ rowsOf latest wave := mem_rowsOf.mpr ⟨x, hx, hr⟩
  rw [makeWaveExecutionReceipt_eq_ok]
  refine ⟨h.ordered_rows wave, ?_, rfl⟩
  simp only [DispatchWaveExecutionReceipt.postInit, bind_eq_ok, check_eq_ok,
    mergeMonotonicIntervals_eq_ok, intervalUnionNs_eq_ok]
  refine ⟨ne_nil_of_mem hrow, nodup_rowsOf hwave h.filed, h.one_le_deviceCount hr, _,
    ⟨h.ordered_rows wave, rfl⟩, rfl, _, ⟨ordered_merge (h.ordered_rows wave), rfl⟩, rfl, rfl, rfl,
    fun row hmem => ?_, rfl⟩
  obtain ⟨y, -, hy⟩ := mem_rowsOf.mp hmem
  exact h.count _ _ hy

end Admissible

/-! ## The waves that are covered -/

/-- The map covers the first `n` of the waves: their receipts are there, only the
last of them may have failed, and either it has, or the next wave lacks a
receipt, or no wave is left. -/
structure Covers (latest : D → Option (AssignmentExecutionReceipt D))
    (waves : List (PlannedWave D)) (n : ℕ) : Prop where
  le : n ≤ waves.length
  present : ∀ w ∈ waves.take n, Present latest w
  succeeded : ∀ w ∈ waves.take (n - 1), ∀ x ∈ w.assignments,
    hasSucceeded latest x.assignmentId = true
  stop : n = waves.length ∨ (∃ w, waves[n]? = some w ∧ ¬Present latest w) ∨
    ∃ w, 0 < n ∧ waves[n - 1]? = some w ∧
      ¬∀ x ∈ w.assignments, hasSucceeded latest x.assignmentId = true

omit [DecidableEq D] in
theorem hasSucceeded_iff {a : D} : hasSucceeded latest a = true ↔
    ∃ r, latest a = some r ∧ r.succeeded = true := by
  unfold hasSucceeded
  cases latest a with
  | none => simp
  | some r => simp

omit [DecidableEq D] in
/-- A wave that is there has succeeded when all its assignments have. -/
theorem succeeded_iff_of_present {wave : PlannedWave D} (hpresent : Present latest wave) :
    (waveReceiptOf plan ctx latest wave).succeeded = true ↔
      ∀ x ∈ wave.assignments, hasSucceeded latest x.assignmentId = true := by
  rw [waveReceiptOf_succeeded]
  refine forall₂_congr fun x hx => ?_
  obtain ⟨r, hr⟩ := Option.isSome_iff_exists.mp (hpresent x hx)
  rw [hasSucceeded_iff, hr]
  simp

omit [DecidableEq D] in
/-- A wave before the waves that are covered. -/
theorem Covers.cons {wave : PlannedWave D} {waves : List (PlannedWave D)} {n : ℕ}
    (h : Covers latest waves n) (hpresent : Present latest wave)
    (hsucceeded : ∀ x ∈ wave.assignments, hasSucceeded latest x.assignmentId = true) :
    Covers latest (wave :: waves) (n + 1) where
  le := by simpa using h.le
  present := by
    rw [take_succ_cons]
    exact forall_mem_cons.mpr ⟨hpresent, h.present⟩
  succeeded := by
    cases n with
    | zero => simp
    | succ n =>
      rw [Nat.add_sub_cancel, take_succ_cons]
      exact forall_mem_cons.mpr ⟨hsucceeded, h.succeeded⟩
  stop := by
    rcases h.stop with hall | ⟨w, hw, habsent⟩ | ⟨w, hn, hw, hfailed⟩
    · exact .inl (by rw [hall, length_cons])
    · exact .inr (.inl ⟨w, hw, habsent⟩)
    · refine .inr (.inr ⟨w, Nat.succ_pos n, ?_, hfailed⟩)
      obtain ⟨m, rfl⟩ := Nat.exists_eq_add_of_lt hn
      simpa using hw

/-- The loop of `_schedule_from_latest` makes the receipts of the waves that are
covered. -/
theorem waveReceiptsFromLatest_spec (h : Admissible sha ctx latest)
    {waves : List (PlannedWave D)} (hwaves : waves ⊆ plan.waves) :
    ∃ n, Covers latest waves n ∧ waveReceiptsFromLatest plan ctx latest waves
      = .ok ((waves.take n).map (waveReceiptOf plan ctx latest)) := by
  induction waves with
  | nil => exact ⟨0, ⟨le_rfl, by simp, by simp, .inl rfl⟩, rfl⟩
  | cons wave rest ih =>
    obtain ⟨hwave, hrest⟩ := cons_subset.mp hwaves
    unfold waveReceiptsFromLatest
    by_cases habsent : ∃ x ∈ wave.assignments, latest x.assignmentId = none
    · rw [if_pos habsent]
      refine ⟨0, ⟨Nat.zero_le _, by simp, by simp, .inr (.inl ⟨wave, rfl, fun hpresent => ?_⟩)⟩,
        rfl⟩
      obtain ⟨x, hx, hnone⟩ := habsent
      have hsome := hpresent x hx
      rw [hnone] at hsome
      cases hsome
    have hpresent : Present latest wave := by
      intro x hx
      by_contra hnone
      exact habsent ⟨x, hx, by simpa using hnone⟩
    rw [if_neg habsent, h.makeWave hwave hpresent]
    show ∃ n, _ ∧ (if (waveReceiptOf plan ctx latest wave).succeeded = true then _ else _) = _
    by_cases hsucceeded : (waveReceiptOf plan ctx latest wave).succeeded = true
    · obtain ⟨n, hcovers, hreceipts⟩ := ih hrest
      rw [if_pos hsucceeded, hreceipts]
      exact ⟨n + 1, hcovers.cons hpresent ((succeeded_iff_of_present hpresent).mp hsucceeded), rfl⟩
    · rw [if_neg hsucceeded]
      rw [succeeded_iff_of_present hpresent] at hsucceeded
      exact ⟨1, ⟨by simp, by simpa using hpresent, by simp,
        .inr (.inr ⟨wave, one_pos, rfl, hsucceeded⟩)⟩, rfl⟩

/-! ## The receipt of the schedule -/

omit [DecidableEq D] in
/-- The first waves of the plan have receipts that count up from zero. -/
theorem map_waveIndex_take (plan : FrozenPlan D) (n : ℕ) :
    (((plan.waves.take n).map (waveReceiptOf plan ctx latest)).map (·.waveIndex))
      = List.range (min n plan.waves.length) := by
  rw [map_map]
  have hmap : (plan.waves.take n).map ((·.waveIndex) ∘ waveReceiptOf plan ctx latest)
      = (plan.waves.map (·.waveIndex)).take n := by
    rw [map_take]
    rfl
  rw [hmap, plan.contiguous, take_range]

variable {n : ℕ}

omit [DecidableEq D] in
/-- The phase of the receipt of the covered waves agrees with its constructor. -/
theorem checkPhase_eq_ok {receipts : List (DispatchWaveExecutionReceipt D)}
    {record : DispatchScheduleReceipt D} (hreceipts : record.waveReceipts = receipts)
    (hearlier : ∀ r ∈ receipts.dropLast, r.succeeded = true) {last : DispatchWaveExecutionReceipt D}
    (hlast : receipts.getLast? = some last) (hphase : record.phase
      = DispatchExecutionState.phaseAfter last.succeeded n plan.waves.length) :
    record.checkPhase = .ok () := by
  have hnil : receipts ≠ [] := by
    rintro rfl
    cases hlast
  have hall : last.succeeded = true → ∀ r ∈ receipts, r.succeeded = true := by
    intro hsucceeded r hr
    rw [← dropLast_append_getLast? last hlast, mem_append, mem_singleton] at hr
    rcases hr with hr | rfl
    · exact hearlier r hr
    · exact hsucceeded
  unfold DispatchScheduleReceipt.checkPhase
  rw [hreceipts]
  cases hp : record.phase with
  | planned =>
    exfalso
    rw [hphase] at hp
    unfold DispatchExecutionState.phaseAfter at hp
    split_ifs at hp
  | running =>
    obtain ⟨hsucceeded, -⟩ := phaseAfter_eq_running (hphase.symm.trans hp)
    exact require_eq_ok.mpr ⟨hnil, hall hsucceeded⟩
  | failed =>
    have hfailed := phaseAfter_eq_failed (hphase.symm.trans hp)
    refine require_eq_ok.mpr ⟨hnil, fun r hr => ?_⟩
    rw [hlast] at hr
    exact Option.some.inj hr ▸ hfailed
  | complete =>
    obtain ⟨hsucceeded, -⟩ := phaseAfter_eq_complete.mp (hphase.symm.trans hp)
    exact require_eq_ok.mpr (hall hsucceeded)

omit [DecidableEq D] in
/-- The waves that a map covers are determined. -/
theorem Covers.le_of_covers {waves : List (PlannedWave D)} {m : ℕ} (h : Covers latest waves n)
    (h' : Covers latest waves m) : m ≤ n := by
  by_contra hlt
  have hmem : ∀ {i k w}, waves[i]? = some w → i < k → w ∈ waves.take k := by
    intro i k w hw hi
    exact mem_of_getElem? ((getElem?_take_of_lt hi).trans hw)
  rcases h.stop with hall | ⟨w, hw, habsent⟩ | ⟨w, hn, hw, hfailed⟩
  · exact hlt (hall ▸ h'.le)
  · exact habsent (h'.present w (hmem hw (by omega)))
  · exact hfailed (h'.succeeded w (hmem hw (by omega)))

/-- The receipt of the first `n` waves. -/
def scheduleOf (plan : FrozenPlan D) (ctx : ExecutionContext D)
    (latest : D → Option (AssignmentExecutionReceipt D)) (prior : Option D) (n : ℕ) :
    Option (DispatchScheduleReceipt D) :=
  let receipts := (plan.waves.take n).map (waveReceiptOf plan ctx latest)
  if n = 0 then none
  else some (scheduleRecord plan (DispatchExecutionState.phaseAfter
    (receipts.all (·.succeeded)) n plan.waves.length) receipts ctx prior)

omit [DecidableEq D] in
/-- Only the last of the covered waves decides whether all of them succeeded. -/
theorem Covers.all_succeeded (h : Covers latest plan.waves n)
    {last : DispatchWaveExecutionReceipt D}
    (hlast : ((plan.waves.take n).map (waveReceiptOf plan ctx latest)).getLast? = some last) :
    (∀ r ∈ ((plan.waves.take n).map (waveReceiptOf plan ctx latest)).dropLast, r.succeeded = true) ∧
      ((plan.waves.take n).map (waveReceiptOf plan ctx latest)).all (·.succeeded)
        = last.succeeded := by
  have hearlier : ∀ r ∈ ((plan.waves.take n).map (waveReceiptOf plan ctx latest)).dropLast,
      r.succeeded = true := by
    intro r hr
    rw [← map_dropLast, dropLast_eq_take, length_take, Nat.min_eq_left h.le,
      take_take, Nat.min_eq_left (Nat.sub_le n 1)] at hr
    obtain ⟨w, hw, rfl⟩ := mem_map.mp hr
    have hpresent := h.present w (take_subset_take_left _ (Nat.sub_le n 1) hw)
    exact (succeeded_iff_of_present hpresent).mpr (h.succeeded w hw)
  refine ⟨hearlier, ?_⟩
  conv_lhs => rw [← dropLast_append_getLast? last hlast]
  rw [all_append, all_eq_true.mpr hearlier]
  simp

/-- `_schedule_from_latest` of receipts that are admissible returns. -/
theorem scheduleFromLatest_eq (h : Admissible sha ctx latest) (prior : Option D)
    (hcovers : Covers latest plan.waves n) :
    scheduleFromLatest plan ctx latest prior = .ok (scheduleOf plan ctx latest prior n) := by
  obtain ⟨m, hm, hreceipts⟩ := waveReceiptsFromLatest_spec h (List.Subset.refl plan.waves)
  obtain rfl : m = n := le_antisymm (hcovers.le_of_covers hm) (hm.le_of_covers hcovers)
  unfold scheduleFromLatest scheduleOf
  rw [hreceipts]
  dsimp only [bind, Except.bind]
  cases hlast : ((plan.waves.take m).map (waveReceiptOf plan ctx latest)).getLast? with
  | none =>
    rw [getLast?_eq_none_iff, map_eq_nil_iff, take_eq_nil_iff] at hlast
    -- no wave is covered yet
    have hzero : m = 0 := by
      rcases hlast with hzero | hnil
      · exact hzero
      · have hle := hm.le
        rw [hnil] at hle
        exact Nat.le_zero.mp hle
    rw [if_pos hzero]
    rfl
  | some last =>
    have hpositive : m ≠ 0 := by
      rintro rfl
      cases hlast
    obtain ⟨hearlier, hall⟩ := hm.all_succeeded hlast
    have hlength : ((plan.waves.take m).map (waveReceiptOf plan ctx latest)).length = m := by
      rw [length_map, length_take, Nat.min_eq_left hm.le]
    have hordered : Ordered (((plan.waves.take m).map (waveReceiptOf plan ctx latest)).flatMap
        (·.activeIntervalsMonotonicNs)) := by
      refine ordered_flatMap.mpr fun r hr => ?_
      obtain ⟨w, -, rfl⟩ := mem_map.mp hr
      exact ordered_merge (h.ordered_rows w)
    obtain ⟨w, hw, hrow⟩ := mem_map.mp (mem_of_getLast? hlast)
    obtain ⟨x, hx⟩ := exists_mem_of_ne_nil _ (plan.nonempty w (mem_of_mem_take hw))
    obtain ⟨r, hr⟩ := Option.isSome_iff_exists.mp (hm.present w hw x hx)
    -- the schedule receipt passes its own checks
    suffices hinit : (scheduleRecord plan
        (DispatchExecutionState.phaseAfter last.succeeded m plan.waves.length)
        ((plan.waves.take m).map (waveReceiptOf plan ctx latest)) ctx prior).postInit = .ok () by
      rw [if_neg hpositive, hall, hlength]
      show some <$> makeScheduleReceipt _ _ _ _ _ = _
      rw [makeScheduleReceipt_eq_ok.mpr ⟨hordered, hinit, rfl⟩]
      rfl
    simp only [DispatchScheduleReceipt.postInit, bind_eq_ok, check_eq_ok,
      mergeMonotonicIntervals_eq_ok, intervalUnionNs_eq_ok]
    refine ⟨?_, ?_, h.one_le_deviceCount hr, ?_, _, ⟨hordered, rfl⟩, rfl, _,
      ⟨ordered_merge hordered, rfl⟩, rfl, rfl, rfl, rfl, ?_⟩
    · show ((plan.waves.take m).map (waveReceiptOf plan ctx latest)).map (·.waveIndex)
        = List.range ((plan.waves.take m).map (waveReceiptOf plan ctx latest)).length
      rw [map_waveIndex_take, Nat.min_eq_left hm.le, hlength]
    · intro row hrow
      obtain ⟨w, -, rfl⟩ := mem_map.mp hrow
      rfl
    · intro row hrow
      obtain ⟨w, -, rfl⟩ := mem_map.mp hrow
      exact ⟨rfl, rfl⟩
    · exact checkPhase_eq_ok rfl hearlier hlast rfl

/-- Some number of waves is covered. -/
theorem exists_covers (h : Admissible sha ctx latest) (plan : FrozenPlan D) :
    ∃ n, Covers latest plan.waves n := by
  obtain ⟨n, hn, -⟩ := waveReceiptsFromLatest_spec h (List.Subset.refl plan.waves)
  exact ⟨n, hn⟩

/-! ## The receipt that the executor returned -/

/-- A receipt covers what the last receipts cover. -/
theorem Sound.covers {events : List (ExecutionEvent D)} {R : DispatchScheduleReceipt D}
    (h : Sound plan ctx events n R) : Covers (latestReceipt events) plan.waves n where
  le := h.le
  present := h.present
  succeeded := fun w hw x hx => hasSucceeded_iff.mpr (h.earlier w hw x hx)
  stop := by
    rcases h.le.lt_or_eq with hlt | heq
    · have hw := getElem?_eq_getElem hlt
      refine .inr (.inl ⟨_, hw, fun hpresent => ?_⟩)
      obtain ⟨x, hx⟩ := exists_mem_of_ne_nil _ (plan.nonempty _ (mem_of_getElem? hw))
      have hsome := hpresent x hx
      have hmem : plan.waves[n] ∈ plan.waves.drop n :=
        mem_of_getElem? (i := 0) (by rw [getElem?_drop, Nat.add_zero, hw])
      rw [h.later _ hmem x hx] at hsome
      cases hsome
    · exact .inl heq

/-- The journal's receipt of the same assignment receipts is the executor's. -/
theorem Sound.scheduleOf_eq {events : List (ExecutionEvent D)} {R : DispatchScheduleReceipt D}
    (h : Sound plan ctx events n R) (hplan : plan.waves ≠ []) :
    scheduleOf plan ctx (latestReceipt events) R.priorScheduleReceiptSha256 n = some R := by
  have hn : n ≠ 0 := fun hzero => hplan (h.nonempty hzero)
  unfold scheduleOf
  rw [if_neg hn, ← h.waveReceipts_eq, ← h.phase]
  conv_rhs => rw [h.record]
  rw [h.waveReceipts_eq]

end Pool

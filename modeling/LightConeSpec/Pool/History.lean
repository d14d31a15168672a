import LightConeSpec.Pool.Bundles

/-!
# What the FINISH events of a journal add up to

`History` relates the receipts of the FINISH events to the calls of the runner,
when no intent is open: every attempt that was launched has its receipt, and the
last receipt of an assignment has the intervals of all its attempts. A wave whose
pending attempts have all ended keeps it.
-/

namespace Pool

open Python Intervals List

variable {D : Type} [DecidableEq D] {sha : JournalSha D} {plan : FrozenPlan D}
  {finished new : Finished D} {events : List (ExecutionEvent D)}

/-! ## The receipts of one wave -/

abbrev receiptsIn (finished : Finished D) (assignmentId : D) :
    List (AssignmentExecutionReceipt D) :=
  Log.written finishedEntry finished assignmentId

variable {p : PendingAttempt D} {r : AssignmentExecutionReceipt D}

variable {a : D}

theorem mem_receiptsIn :
    r ∈ receiptsIn finished a ↔ ∃ f ∈ finished, f.2 = r ∧ r.assignmentSha256 = a := by
  unfold receiptsIn
  rw [Log.mem_written]
  constructor
  · rintro ⟨f, hf, hentry⟩
    obtain ⟨rfl, rfl⟩ := Prod.mk.inj (Option.some.inj hentry)
    exact ⟨f, hf, rfl, rfl⟩
  · rintro ⟨f, hf, rfl, rfl⟩
    exact ⟨f, hf, rfl⟩

/-- An assignment that occurs once has one receipt. -/
theorem receiptsIn_of_nodup (hdistinct : (new.map (·.2.assignmentSha256)).Nodup)
    {f : DispatchAttemptJournalToken D × AssignmentExecutionReceipt D} (hf : f ∈ new) :
    receiptsIn new f.2.assignmentSha256 = [f.2] := by
  induction new with
  | nil => cases hf
  | cons first rest ih =>
    obtain ⟨hfirst, hrest⟩ := nodup_cons.mp hdistinct
    have hcons : ∀ a, receiptsIn (first :: rest) a
        = (if first.2.assignmentSha256 = a then [first.2] else []) ++ receiptsIn rest a := by
      intro a
      unfold receiptsIn Log.written
      rw [filterMap_cons]
      split
      · rename_i hnone
        have hne : ¬first.2.assignmentSha256 = a := by simpa [finishedEntry] using hnone
        rw [if_neg hne, nil_append]
      · rename_i r hsome
        obtain ⟨heq, rfl⟩ : first.2.assignmentSha256 = a ∧ first.2 = r := by
          simpa [finishedEntry] using hsome
        rw [if_pos heq]
        rfl
    rw [hcons]
    rcases mem_cons.mp hf with rfl | hmem
    · rw [if_pos rfl]
      have hnil : receiptsIn rest f.2.assignmentSha256 = [] := by
        rw [eq_nil_iff_forall_not_mem]
        intro r hr
        obtain ⟨g, hg, rfl, hid⟩ := mem_receiptsIn.mp hr
        exact hfirst (mem_map.mpr ⟨g, hg, hid⟩)
      rw [hnil, append_nil]
    · rw [if_neg fun hid => hfirst (mem_map.mpr ⟨f, hmem, hid.symm⟩), ih hrest hmem]
      rfl

theorem lastFinished_append (finished new : Finished D) (a : D) :
    lastFinished (finished ++ new) a = (receiptsIn new a).getLast?.or (lastFinished finished a) := by
  unfold lastFinished Log.latest
  rw [Log.written_append, getLast?_append]

/-! ## The history of a journal -/

/-- What the receipts say about the calls of the runner, when no intent is open. -/
structure History (plan : FrozenPlan D) (finished : Finished D) (events : List (ExecutionEvent D)) :
    Prop where
  intervals : ∀ a r, lastFinished finished a = some r →
    r.attemptIntervalsMonotonicNs = (receiptsIn finished a).filterMap (·.lastInterval)
  stable : ∀ f ∈ finished, f.2.succeeded = true →
    lastFinished finished f.2.assignmentSha256 = some f.2
  ended : ∀ f ∈ finished, f.2.lastInterval.isSome = true
  bounded : ∀ a last, lastFinished finished a = some last →
    ∀ r ∈ receiptsIn finished a, r.attempt ≤ last.attempt
  launched : ∀ a n, .invoked a n ∈ events → ∃ r ∈ receiptsIn finished a, r.attempt = n
  covered : ∀ a n, .invoked a n ∈ events → ∃ wave ∈ plan.waves,
    (∃ x ∈ wave.assignments, x.assignmentId = a) ∧ Present (lastFinished finished) wave ∧
    ∀ w ∈ plan.waves.take wave.waveIndex, ∀ y ∈ w.assignments,
      hasSucceeded (lastFinished finished) y.assignmentId = true

theorem history_nil : History plan [] [] where
  intervals := nofun
  stable := nofun
  ended := nofun
  bounded := nofun
  launched := nofun
  covered := nofun

/-- The pending attempts of a wave are those of its assignments that have not
succeeded, each after the last receipt; the waves before it have succeeded. -/
structure Opens (plan : FrozenPlan D) (latest : D → Option (AssignmentExecutionReceipt D))
    (wave : PlannedWave D) (pending : List (PendingAttempt D)) : Prop where
  planned : wave ∈ plan.waves
  mem : ∀ p ∈ pending, p.assignment ∈ wave.assignments
  prior : ∀ p ∈ pending, p.prior = latest p.assignment.assignmentId
  open_ : ∀ p ∈ pending, hasSucceeded latest p.assignment.assignmentId = false
  attempt : ∀ p ∈ pending, p.attempt = p.prior.elim 1 (·.attempt + 1)
  covers : ∀ x ∈ wave.assignments, hasSucceeded latest x.assignmentId = false →
    x.assignmentId ∈ pending.map (·.assignment.assignmentId)
  earlier : ∀ w ∈ plan.waves.take wave.waveIndex, ∀ y ∈ w.assignments,
    hasSucceeded latest y.assignmentId = true
  nonempty : pending ≠ []

/-- The last interval of a receipt is the attempt that it adds. -/
theorem Extends.lastInterval_eq {scope : WaveScope D} {started : ℕ}
    (h : Extends sha.toContentSha scope p started r) :
    ∃ finishedNs, r.attemptIntervalsMonotonicNs = p.intervals started finishedNs ∧
      r.lastInterval = some (started, finishedNs) := by
  obtain ⟨finishedNs, hintervals⟩ := h.intervals
  exact ⟨finishedNs, hintervals, by
    simp [AssignmentExecutionReceipt.lastInterval, hintervals, PendingAttempt.intervals]⟩

section Extend

variable {scope : WaveScope D} {pending : List (PendingAttempt D)}

/-- The receipts of the attempts of a wave that have all ended. -/
theorem Wrote.receiptsIn_eq (h : Wrote sha scope pending new)
    (hdistinct : (pending.map (·.assignment.assignmentId)).Nodup) (hp : p ∈ pending)
    (hended : p.assignment.assignmentId ∈ new.map (·.2.assignmentSha256)) :
    ∃ r started, receiptsIn new p.assignment.assignmentId = [r] ∧
      Extends sha.toContentSha scope p started r := by
  obtain ⟨f, hf, hid⟩ := mem_map.mp hended
  obtain ⟨q, hq, started, hextends⟩ := h.extends_ f hf
  obtain rfl : q = p := inj_on_of_nodup_map hdistinct hq hp (hextends.assignment.symm.trans hid)
  refine ⟨f.2, started, ?_, hextends⟩
  rw [← hid]
  exact receiptsIn_of_nodup h.distinct hf

/-- Other assignments have no receipt of the wave. -/
theorem Wrote.receiptsIn_eq_nil (h : Wrote sha scope pending new)
    (ha : a ∉ pending.map (·.assignment.assignmentId)) : receiptsIn new a = [] := by
  rw [eq_nil_iff_forall_not_mem]
  intro r hr
  obtain ⟨f, hf, rfl, hid⟩ := mem_receiptsIn.mp hr
  obtain ⟨p, hp, started, hextends⟩ := h.extends_ f hf
  exact ha (mem_map.mpr ⟨p, hp, hextends.assignment.symm.trans hid⟩)

variable {events' : List (ExecutionEvent D)}

structure Ended (sha : JournalSha D) (scope : WaveScope D) (pending : List (PendingAttempt D))
    (new : Finished D) : Prop extends Wrote sha scope pending new where
  nodup : (pending.map (·.assignment.assignmentId)).Nodup
  all : ∀ p ∈ pending, p.assignment.assignmentId ∈ new.map (·.2.assignmentSha256)

/-- The last receipt of an attempt that has ended. -/
theorem Ended.lastFinished_eq (h : Ended sha scope pending new) (finished : Finished D)
    (hp : p ∈ pending) : ∃ r started, receiptsIn (finished ++ new) p.assignment.assignmentId
        = receiptsIn finished p.assignment.assignmentId ++ [r] ∧
      lastFinished (finished ++ new) p.assignment.assignmentId = some r ∧
      Extends sha.toContentSha scope p started r := by
  obtain ⟨r, started, hr, hextends⟩ := h.receiptsIn_eq h.nodup hp (h.all p hp)
  refine ⟨r, started, ?_, ?_, hextends⟩
  · unfold receiptsIn at hr ⊢
    rw [Log.written_append, hr]
  · rw [lastFinished_append, hr]
    rfl

theorem Wrote.lastFinished_eq_of_not_mem (h : Wrote sha scope pending new) (finished : Finished D)
    (ha : a ∉ pending.map (·.assignment.assignmentId)) :
    receiptsIn (finished ++ new) a = receiptsIn finished a ∧
      lastFinished (finished ++ new) a = lastFinished finished a := by
  have hnil := h.receiptsIn_eq_nil ha
  constructor
  · unfold receiptsIn at hnil ⊢
    rw [Log.written_append, hnil, append_nil]
  · rw [lastFinished_append, hnil]
    rfl

omit [DecidableEq D] in
/-- A success of before is no pending attempt. -/
theorem Opens.not_mem_of_succeeded {latest : D → Option (AssignmentExecutionReceipt D)}
    {wave : PlannedWave D} (h : Opens plan latest wave pending)
    (ha : hasSucceeded latest a = true) : a ∉ pending.map (·.assignment.assignmentId) := by
  intro hmem
  obtain ⟨p, hp, rfl⟩ := mem_map.mp hmem
  rw [h.open_ p hp] at ha
  cases ha

/-- Successes stay. -/
theorem Opens.hasSucceeded_append (h : Opens plan (lastFinished finished) scope.wave pending)
    (hwrote : Wrote sha scope pending new) (ha : hasSucceeded (lastFinished finished) a = true) :
    hasSucceeded (lastFinished (finished ++ new)) a = true := by
  unfold hasSucceeded at ha ⊢
  rw [(hwrote.lastFinished_eq_of_not_mem finished (h.not_mem_of_succeeded ha)).2]
  exact ha

/-- Receipts are followed by receipts. -/
theorem isSome_lastFinished_append (ha : (lastFinished finished a).isSome = true)
    (new : Finished D) : (lastFinished (finished ++ new) a).isSome = true := by
  rw [lastFinished_append, Option.isSome_or, ha, Bool.or_true]

/-- A pending attempt comes after those that have ended. -/
theorem History.lt_attempt (h : History plan finished events)
    (hopens : Opens plan (lastFinished finished) scope.wave pending) (hp : p ∈ pending)
    (hr : r ∈ receiptsIn finished p.assignment.assignmentId) : r.attempt < p.attempt := by
  obtain ⟨last, hlast⟩ := Option.isSome_iff_exists.mp
    (getLast?_isSome.mpr (ne_nil_of_mem hr))
  rw [hopens.attempt p hp, hopens.prior p hp, show lastFinished finished _ = some last from hlast]
  exact Nat.lt_succ_of_le (h.bounded _ last hlast r hr)

/-- The attempts of one more wave have all ended. -/
theorem History.extend (h : History plan finished events)
    (hopens : Opens plan (lastFinished finished) scope.wave pending)
    (hended : Ended sha scope pending new)
    (hevents : ∀ a n, .invoked a n ∈ events' → .invoked a n ∈ events ∨
      ∃ p ∈ pending, a = p.assignment.assignmentId ∧ n = p.attempt) :
    History plan (finished ++ new) events' := by
  refine ⟨fun a r hr => ?_, fun f hf hsucceeded => ?_, fun f hf => ?_, fun a last hlast r hr => ?_,
    fun a n hn => ?_, fun a n hn => ?_⟩
  · by_cases ha : a ∈ pending.map (·.assignment.assignmentId)
    · obtain ⟨p, hp, rfl⟩ := mem_map.mp ha
      obtain ⟨r', started, hreceipts, hlast, hextends⟩ := hended.lastFinished_eq finished hp
      obtain rfl := Option.some.inj (hlast.symm.trans hr)
      obtain ⟨finishedNs, hintervals, hlastInterval⟩ := hextends.lastInterval_eq
      rw [hreceipts, filterMap_append, hintervals, PendingAttempt.intervals, hopens.prior p hp]
      congr 1
      · cases hprior : lastFinished finished p.assignment.assignmentId with
        | none =>
          have hnil : receiptsIn finished p.assignment.assignmentId = [] :=
            getLast?_eq_none_iff.mp hprior
          rw [hnil]
          rfl
        | some prior => exact h.intervals _ prior hprior
      · simp [hlastInterval]
    · -- assignments that were not pending have the receipts of before
      obtain ⟨hreceipts, hlast⟩ := hended.lastFinished_eq_of_not_mem finished ha
      rw [hreceipts]
      exact h.intervals a r (hlast.symm.trans hr)
  · rcases mem_append.mp hf with hf | hf
    · have hstable := h.stable f hf hsucceeded
      have hnot := hopens.not_mem_of_succeeded
        (hasSucceeded_iff.mpr ⟨f.2, hstable, hsucceeded⟩)
      exact (hended.lastFinished_eq_of_not_mem finished hnot).2.trans hstable
    · rw [lastFinished_append, receiptsIn_of_nodup hended.distinct hf]
      rfl
  · rcases mem_append.mp hf with hf | hf
    · exact h.ended f hf
    · obtain ⟨p, -, started, hextends⟩ := hended.extends_ f hf
      obtain ⟨finishedNs, -, hlastInterval⟩ := hextends.lastInterval_eq
      rw [hlastInterval]
      rfl
  · by_cases ha : a ∈ pending.map (·.assignment.assignmentId)
    · obtain ⟨p, hp, rfl⟩ := mem_map.mp ha
      obtain ⟨r', started, hreceipts, hlast', hextends⟩ := hended.lastFinished_eq finished hp
      obtain rfl := Option.some.inj (hlast'.symm.trans hlast)
      rw [hreceipts] at hr
      rcases mem_append.mp hr with hr | hr
      · rw [hextends.attempt]
        exact (h.lt_attempt hopens hp hr).le
      · rw [mem_singleton.mp hr]
    · obtain ⟨hreceipts, hlast'⟩ := hended.lastFinished_eq_of_not_mem finished ha
      exact h.bounded a last (hlast'.symm.trans hlast) r (hreceipts ▸ hr)
  · rcases hevents a n hn with hn | ⟨p, hp, rfl, rfl⟩
    · obtain ⟨r, hr, hattempt⟩ := h.launched a n hn
      refine ⟨r, ?_, hattempt⟩
      unfold receiptsIn at hr ⊢
      rw [Log.written_append]
      exact mem_append_left _ hr
    · obtain ⟨r, started, hreceipts, -, hextends⟩ := hended.lastFinished_eq finished hp
      exact ⟨r, by simp [hreceipts], hextends.attempt⟩
  · rcases hevents a n hn with hn | ⟨p, hp, rfl, -⟩
    · obtain ⟨wave, hwave, ha, hpresent, hearlier⟩ := h.covered a n hn
      exact ⟨wave, hwave, ha, fun x hx => isSome_lastFinished_append (hpresent x hx) new,
        fun w hw y hy => hopens.hasSucceeded_append hended.toWrote (hearlier w hw y hy)⟩
    · refine ⟨scope.wave, hopens.planned, ⟨_, hopens.mem p hp, rfl⟩, fun x hx => ?_,
        fun w hw y hy => hopens.hasSucceeded_append hended.toWrote (hopens.earlier w hw y hy)⟩
      cases hx' : hasSucceeded (lastFinished finished) x.assignmentId with
      | true =>
        obtain ⟨r, hr, -⟩ := hasSucceeded_iff.mp hx'
        exact isSome_lastFinished_append (by rw [hr]; rfl) new
      | false =>
        obtain ⟨q, hq, hid⟩ := mem_map.mp (hopens.covers x hx hx')
        obtain ⟨r, started, -, hlast, -⟩ := hended.lastFinished_eq finished hq
        rw [← hid, hlast]
        rfl

end Extend

end Pool

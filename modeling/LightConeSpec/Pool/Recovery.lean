import LightConeSpec.Pool.History
import LightConeSpec.Pool.Replay

/-!
# Recovering a journal

Between two processes only the files of a journal are left. `Settled` says what
they are: if they replay and no intent is open, they are the history of the calls
of the runner so far. A process that finds them otherwise raises, and one that
runs a wave leaves them settled wherever it stops. So no attempt is launched
twice, and a receipt that a process returns has the intervals of all attempts.
-/

namespace Pool

open Python Intervals List Method

variable {D : Type} [DecidableEq D] {sha : JournalSha D} {journal : DispatchAttemptJournal D}
  {plan : FrozenPlan D} {finished new : Finished D} {files : List (JournalFile D)}
  {events : List (ExecutionEvent D)} {st : ReplayState D}

/-! ## What the files say -/

/-- A FINISH event says that the assignment succeeded. -/
def SucceededIn (files : List (JournalFile D)) (assignmentId : D) : Prop :=
  ∃ f ∈ finishesOf files, f.2.assignmentSha256 = assignmentId ∧ f.2.succeeded = true

/-- Every INTENT event has its FINISH event. -/
def NoOpenIntent (files : List (JournalFile D)) : Prop :=
  ∀ d ∈ intentsOf files, ∃ f ∈ finishesOf files, f.1 = d

structure FirstOpenWave (plan : FrozenPlan D) (files : List (JournalFile D)) (waveIndex : ℕ)
    (wave : PlannedWave D) : Prop where
  planned : plan.waves[waveIndex]? = some wave
  open_ : ∃ x ∈ wave.assignments, ¬SucceededIn files x.assignmentId
  earlier : ∀ w ∈ plan.waves.take waveIndex, ∀ y ∈ w.assignments, SucceededIn files y.assignmentId

/-- The interval of a launched attempt is in the receipt of its wave. -/
def Billed (plan : FrozenPlan D) (files : List (JournalFile D)) (R : DispatchScheduleReceipt D)
    (assignmentId : D) (attempt : ℕ) : Prop :=
  ∃ f ∈ finishesOf files, f.2.assignmentSha256 = assignmentId ∧ f.2.attempt = attempt ∧
    ∃ interval, f.2.lastInterval = some interval ∧
    ∃ wave ∈ plan.waves, (∃ x ∈ wave.assignments, x.assignmentId = assignmentId) ∧
    ∃ waveReceipt ∈ R.waveReceipts, waveReceipt.waveIndex = wave.waveIndex ∧
    ∃ row ∈ waveReceipt.assignmentReceipts, row.assignmentSha256 = assignmentId ∧
      interval ∈ row.attemptIntervalsMonotonicNs

/-- The receipt ends with the wave, and every assignment of the wave has ended. -/
structure Publishes (plan : FrozenPlan D) (files : List (JournalFile D)) (waveIndex : ℕ)
    (R : DispatchScheduleReceipt D) : Prop where
  last : R.waveReceipts.getLast?.map (·.waveIndex) = some waveIndex
  ended : ∃ wave, plan.waves[waveIndex]? = some wave ∧ ∀ x ∈ wave.assignments,
    ∃ f ∈ finishesOf files, f.2.assignmentSha256 = x.assignmentId

variable {waveIndex : ℕ} {ctx : ExecutionContext D} {t : Session D (JournalState D)}
  {latest : D → Option (AssignmentExecutionReceipt D)} {wave : PlannedWave D}
  {r : AssignmentExecutionReceipt D} {resume supplied : Option (DispatchScheduleReceipt D)}
  {snapshot : DispatchAttemptJournalSnapshot D}

namespace Recorded

section

variable (h : Recorded sha journal finished files st)

include h

/-- The FINISH events are the receipts that the journal was given. -/
theorem mem_finishesOf : (∃ f ∈ finishesOf files, f.2 = r) ↔ ∃ f ∈ finished, f.2 = r := by
  rw [h.finishes]
  constructor
  · rintro ⟨f, hf, rfl⟩
    obtain ⟨g, hg, rfl⟩ := mem_map.mp hf
    exact ⟨g, hg, rfl⟩
  · rintro ⟨f, hf, rfl⟩
    exact ⟨_, mem_map.mpr ⟨f, hf, rfl⟩, rfl⟩

theorem exists_finish {a : D} (hr : r ∈ receiptsIn finished a) :
    ∃ f ∈ finishesOf files, f.2 = r ∧ r.assignmentSha256 = a := by
  obtain ⟨f, hf, hfr, hid⟩ := mem_receiptsIn.mp hr
  obtain ⟨g, hg, hgr⟩ := h.mem_finishesOf.mpr ⟨f, hf, hfr⟩
  exact ⟨g, hg, hgr, hid⟩

/-- The last receipt of an assignment is that of a FINISH event. -/
theorem exists_finish_of_latest {a : D}
    (hr : st.latest.get? a = some r) : ∃ f ∈ finishesOf files, f.2 = r ∧ r.assignmentSha256 = a :=
  h.exists_finish (mem_of_getLast? ((h.latest a).symm.trans hr))

/-- The successes of the files are those of the last receipts. -/
theorem hasSucceeded_iff (hhistory : History plan finished events) {a : D} :
    hasSucceeded st.latest.get? a = true ↔ SucceededIn files a := by
  rw [Pool.hasSucceeded_iff]
  constructor
  · rintro ⟨r, hr, hsucceeded⟩
    obtain ⟨f, hf, rfl, hid⟩ := h.exists_finish_of_latest hr
    exact ⟨f, hf, hid, hsucceeded⟩
  · rintro ⟨f, hf, rfl, hsucceeded⟩
    obtain ⟨g, hg, hgr⟩ := h.mem_finishesOf.mp ⟨f, hf, rfl⟩
    have hstable := hhistory.stable g hg (hgr ▸ hsucceeded)
    rw [hgr] at hstable
    exact ⟨f.2, (h.latest _).trans hstable, hsucceeded⟩

theorem hasSucceeded_eq_false (hhistory : History plan finished events) {a : D} :
    hasSucceeded st.latest.get? a = false ↔ ¬SucceededIn files a := by
  rw [← h.hasSucceeded_iff hhistory, Bool.not_eq_true]

/-- Without an open intent every INTENT event has its FINISH event. -/
theorem noOpenIntent (hidle : ∀ d, st.incomplete.get? d = none) : NoOpenIntent files := by
  intro d hd
  by_contra hnone
  have hopen : ∃ intent, st.incomplete.get? d = some intent := by
    refine (h.unfinished d).mpr ⟨hd, fun f hf hid => hnone ?_⟩
    rw [h.finishes]
    exact ⟨_, mem_map.mpr ⟨f, hf, rfl⟩, hid⟩
  obtain ⟨intent, hintent⟩ := hopen
  cases (hidle d).symm.trans hintent

end

end Recorded

/-! ## What a receipt covers -/

omit [DecidableEq D] in
/-- A wave whose receipts are there, after waves that have succeeded, is covered. -/
theorem Covers.mem_take {n : ℕ} (h : Covers latest plan.waves n) (hwave : wave ∈ plan.waves)
    (hpresent : Present latest wave)
    (hearlier : ∀ w ∈ plan.waves.take wave.waveIndex, ∀ y ∈ w.assignments,
      hasSucceeded latest y.assignmentId = true) : wave ∈ plan.waves.take n := by
  obtain ⟨i, hi⟩ := mem_iff_getElem?.mp hwave
  have hindex := plan.waveIndex_eq hi
  have hmem : ∀ {j k w}, plan.waves[j]? = some w → j < k → w ∈ plan.waves.take k :=
    fun hw hj => mem_of_getElem? ((getElem?_take_of_lt hj).trans hw)
  have hearlierPresent : ∀ w ∈ plan.waves.take i, Present latest w := by
    intro w hw y hy
    obtain ⟨r, hr, -⟩ := hasSucceeded_iff.mp (hearlier w (hindex ▸ hw) y hy)
    rw [hr]
    rfl
  by_contra hnot
  have hle : n ≤ i := by
    by_contra hlt
    exact hnot (hmem hi (by omega))
  rcases h.stop with hall | ⟨w, hw, habsent⟩ | ⟨w, hn, hw, hfailed⟩
  · obtain ⟨hlength, -⟩ := List.getElem?_eq_some_iff.mp hi
    omega
  · rcases hle.eq_or_lt with rfl | hlt
    · obtain rfl := Option.some.inj (hw.symm.trans hi)
      exact habsent hpresent
    · exact habsent (hearlierPresent w (hmem hw hlt))
  · exact hfailed (hearlier w (hindex ▸ hmem hw (by omega)))

/-- Every launched attempt is in a receipt of the last receipts. -/
theorem billed_of_covers (h : Recorded sha journal finished files st)
    (hhistory : History plan finished events) {n : ℕ} (hcovers : Covers st.latest.get? plan.waves n)
    {R : DispatchScheduleReceipt D}
    (hR : R.waveReceipts = (plan.waves.take n).map (waveReceiptOf plan ctx st.latest.get?)) {a : D}
    {attempt : ℕ} (hinvoked : .invoked a attempt ∈ events) : Billed plan files R a attempt := by
  have hlatest : st.latest.get? = lastFinished finished := funext h.latest
  rw [hlatest] at hcovers hR
  obtain ⟨wave, hwave, hplanned, hpresent, hearlier⟩ := hhistory.covered a attempt hinvoked
  obtain ⟨r, hr, hattempt⟩ := hhistory.launched a attempt hinvoked
  obtain ⟨f, hf, rfl, hid⟩ := h.exists_finish hr
  obtain ⟨g, hg, hgr, -⟩ := mem_receiptsIn.mp hr
  have hended := hhistory.ended g hg
  rw [hgr] at hended
  obtain ⟨interval, hinterval⟩ := Option.isSome_iff_exists.mp hended
  obtain ⟨x, hx, hxid⟩ := hplanned
  obtain ⟨row, hrow⟩ := Option.isSome_iff_exists.mp (hpresent x hx)
  rw [hxid] at hrow
  have hintervals := hhistory.intervals a row hrow
  refine ⟨f, hf, hid, hattempt, interval, hinterval, wave, hwave, ⟨x, hx, hxid⟩,
    waveReceiptOf plan ctx (lastFinished finished) wave, ?_, rfl, row, ?_, ?_, ?_⟩
  · rw [hR]
    exact mem_map_of_mem (hcovers.mem_take hwave hpresent hearlier)
  · exact mem_rowsOf.mpr ⟨x, hx, hxid ▸ hrow⟩
  · exact (mem_receiptsIn.mp (mem_of_getLast? hrow)).elim fun _ hfound => hfound.2.2
  · rw [hintervals]
    exact mem_filterMap.mpr ⟨f.2, hr, hinterval⟩

/-! ## Between two processes -/

/-- If the files replay with no open intent, they are the history of the calls of
the runner, and no attempt was launched twice. -/
structure Settled (sha : JournalSha D) (journal : DispatchAttemptJournal D)
    (files : List (JournalFile D)) (events : List (ExecutionEvent D)) : Prop where
  history : ∀ st, journal.replayFiles sha files = .ok st → (∀ d, st.incomplete.get? d = none) →
    ∃ finished, Recorded sha journal finished files st ∧ History journal.plan finished events
  distinct : ∀ a, (invocationsOf events a).Nodup

theorem settled_nil : Settled sha journal [] [] where
  history := by
    intro st hst _
    obtain rfl := Except.ok.inj hst
    exact ⟨[], recorded_nil, history_nil⟩
  distinct := fun _ => nodup_nil

/-- Nothing was written, or a WAVE or INTENT event. -/
theorem settled_of_recoverable (h : Recoverable sha journal finished files)
    (hhistory : History journal.plan finished events)
    (hdistinct : ∀ a, (invocationsOf events a).Nodup) : Settled sha journal files events where
  history := fun st hst _ => ⟨finished, h st hst, hhistory⟩
  distinct := hdistinct

theorem Settled.returned (h : Settled sha journal files events) (R : DispatchScheduleReceipt D) :
    Settled sha journal files (events ++ [.returned R]) where
  history := by
    intro st hst hidle
    obtain ⟨finished, hrecorded, hhistory⟩ := h.history st hst hidle
    have hinvoked : ∀ a n, .invoked a n ∈ events ++ [.returned R] → .invoked a n ∈ events := by
      intro a n hn
      simpa using hn
    exact ⟨finished, hrecorded, hhistory.intervals, hhistory.stable, hhistory.ended,
      hhistory.bounded, fun a n hn => hhistory.launched a n (hinvoked a n hn),
      fun a n hn => hhistory.covered a n (hinvoked a n hn)⟩
  distinct := fun a => by
    rw [invocationsOf_returned]
    exact h.distinct a

/-! ## One wave -/

/-- What a process that runs a wave adds to the calls of the runner: each assignment
of the wave that has not succeeded is launched at most once, as a new attempt, and
once when the process returns. -/
structure RanWave (plan : FrozenPlan D) (files : List (JournalFile D))
    (before after : List (ExecutionEvent D)) (wave : PlannedWave D) (returned : Prop) : Prop where
  closed : NoOpenIntent files
  first : FirstOpenWave plan files wave.waveIndex wave
  launched : ∀ a, invocationsOf after a = invocationsOf before a ∨
    ∃ n, invocationsOf after a = invocationsOf before a ++ [n] ∧ n ∉ invocationsOf before a ∧
      ¬SucceededIn files a ∧ ∃ x ∈ wave.assignments, x.assignmentId = a
  complete : returned → ∀ x ∈ wave.assignments, ¬SucceededIn files x.assignmentId →
    invocationsOf after x.assignmentId ≠ invocationsOf before x.assignmentId

variable {s : Session D (JournalState D)} {prior : Option D}

section Wave

variable {scope : WaveScope D} {pending : List (PendingAttempt D)}
  {rows : List (AssignmentExecutionReceipt D)}

/-- The pending attempts that `begin_wave_attempts` accepts, when the wave resumes
from its last receipts or from none. -/
theorem opens_of_expects (hfiled : Filed latest) (hrows : rows = rowsOf latest wave ∨ rows = [])
    (hpending : pendingAttempts ctx rows wave.assignments = .ok pending)
    (hexpects : Expects sha journal latest wave
      (pending.map (attemptIdentity sha.toContentSha journal.ctx))) :
    Opens journal.plan latest wave pending := by
  have hplanned := mem_of_getElem? hexpects.planned
  have hmem := fun p hp => mem_assignments_of_pendingAttempts hpending (p := p) hp
  have hids : (pending.map (attemptIdentity sha.toContentSha journal.ctx)).map
      (·.assignmentSha256) = pending.map (·.assignment.assignmentId) := by
    rw [map_map]
    rfl
  have hidentity : ∀ p ∈ pending, hasSucceeded latest p.assignment.assignmentId = false ∧
      p.prior.map sha.assignmentReceipt
        = (latest p.assignment.assignmentId).map sha.assignmentReceipt := by
    intro p hp
    obtain ⟨x, -, budget, -, hopen, hsame⟩ := hexpects.attempts _ (mem_map_of_mem hp)
    have hid : p.assignment.assignmentId = x.assignmentId :=
      congrArg AttemptIdentity.assignmentSha256 hsame
    rw [hid]
    exact ⟨hopen, congrArg AttemptIdentity.priorAttemptReceiptSha256 hsame⟩
  refine ⟨hplanned, hmem, fun p hp => ?_, fun p hp => (hidentity p hp).1,
    fun p hp => ((pendingAttempts_spec hpending).1 p hp).attempt, fun x hx hopen => ?_,
    hexpects.earlier, fun hnil => ?_⟩
  · have hprior := ((pendingAttempts_spec hpending).1 p hp).prior
    rcases hrows with rfl | rfl
    · rw [hprior, rowOf_filter_rowsOf hplanned hfiled _ (hmem p hp)]
      cases hlatest : latest p.assignment.assignmentId with
      | none => rfl
      | some r =>
        have hopen := (hidentity p hp).1
        simp only [hasSucceeded, hlatest, Option.any_some] at hopen
        simp [Option.filter, hopen]
    · -- without rows there is no prior receipt, and the journal has none either
      have hnone : p.prior = none := hprior
      have hsame := (hidentity p hp).2
      rw [hnone, Option.map_none, eq_comm, Option.map_eq_none_iff] at hsame
      rw [hnone, hsame]
  · rw [← hids]
    exact hexpects.covers x hx hopen
  · exact hexpects.nonempty (by rw [hnil, map_nil])

/-- The attempts of a wave that ran: if the files replay with no open intent, all of
them have ended. -/
theorem history_of_complete {events' : List (ExecutionEvent D)} (hwrote : Wrote sha scope pending new)
    (hdistinct : (pending.map (·.assignment.assignmentId)).Nodup)
    (hcomplete : ∀ p ∈ pending, p.assignment.assignmentId ∈ new.map (·.2.assignmentSha256) ∨
      ∃ d ∈ intentsOf files, ∀ f ∈ finished ++ new, f.1.intentSha256 ≠ d)
    (hrecoverable : Recoverable sha journal (finished ++ new) files)
    (hopens : Opens journal.plan (lastFinished finished) scope.wave pending)
    (hhistory : History journal.plan finished events)
    (hevents : ∀ a n, .invoked a n ∈ events' → .invoked a n ∈ events ∨
      ∃ p ∈ pending, a = p.assignment.assignmentId ∧ n = p.attempt)
    (hst : journal.replayFiles sha files = .ok st) (hidle : ∀ d, st.incomplete.get? d = none) :
    ∃ finished, Recorded sha journal finished files st ∧ History journal.plan finished events' := by
  have hrecorded := hrecoverable st hst
  refine ⟨finished ++ new, hrecorded, hhistory.extend hopens ⟨hwrote, hdistinct, fun p hp => ?_⟩
    hevents⟩
  rcases hcomplete p hp with hended | ⟨d, hd, hunfinished⟩
  · exact hended
  · obtain ⟨intent, hintent⟩ := (hrecorded.unfinished d).mpr ⟨hd, hunfinished⟩
    cases (hidle d).symm.trans hintent

/-- The journal after any moves of the tasks is settled. -/
theorem settled_of_follows {tasks : D → TaskState D}
    (hfollows : Follows sha journal scope pending s.events finished ⟨tasks, t⟩)
    (hdone : GroupDone sha.toContentSha scope pending s.events ⟨tasks, t⟩)
    (hdistinct : (pending.map (·.assignment.assignmentId)).Nodup)
    (hopens : Opens journal.plan (lastFinished finished) scope.wave pending)
    (hhistory : History journal.plan finished s.events) (hs : ∀ a, (invocationsOf s.events a).Nodup)
    (hfresh : ∀ p ∈ pending, p.attempt ∉ invocationsOf s.events p.assignment.assignmentId) :
    Settled sha journal t.journal.files t.events := by
  have hevents : ∀ a n, .invoked a n ∈ t.events → .invoked a n ∈ s.events ∨
      ∃ p ∈ pending, a = p.assignment.assignmentId ∧ n = p.attempt := by
    intro a n hn
    rw [← mem_invocationsOf] at hn ⊢
    rcases hdone.invocations a with hsame | ⟨p, hp, rfl, hmore⟩
    · exact .inl (hsame ▸ hn)
    · rw [hmore] at hn
      rcases mem_append.mp hn with hn | hn
      · exact .inl hn
      · exact .inr ⟨p, hp, rfl, mem_singleton.mp hn⟩
  refine ⟨fun st hst hidle => ?_, fun a => ?_⟩
  · cases hfollows with
    | live new st' h =>
      exact history_of_complete h.toWrote hdistinct (fun p hp => h.complete hp)
        h.toRecorded.recoverable hopens hhistory hevents hst hidle
    | lost new h =>
      exact history_of_complete h.toWrote hdistinct h.complete h.recoverable hopens hhistory
        hevents hst hidle
    | poisoned h => exact absurd hst (h.unreadable st)
  · rcases hdone.invocations a with hsame | ⟨p, hp, rfl, hmore⟩
    · rw [hsame]
      exact hs a
    · rw [hmore]
      refine nodup_append.mpr ⟨hs _, nodup_singleton _, fun n hn m hm hnm => ?_⟩
      rw [mem_singleton.mp hm] at hnm
      exact hfresh p hp (hnm ▸ hn)

/-- The process launched nothing and raised, or it ran the wave with the index. -/
def MayHaveRun (plan : FrozenPlan D) (files : List (JournalFile D))
    (before after : List (ExecutionEvent D)) (waveIndex : ℕ) {α : Type} (result : Except Error α) :
    Prop :=
  (∃ e, result = .error e) ∧ after = before ∨
    ∃ wave, wave.waveIndex = waveIndex ∧ RanWave plan files before after wave (∃ a, result = .ok a)

/-- What a call that may run a wave leaves. -/
def LeavesSettled (sha : JournalSha D) (journal : DispatchAttemptJournal D)
    (files : List (JournalFile D)) (before : List (ExecutionEvent D)) (waveIndex : ℕ) {α : Type}
    (result : Except Error α) (t : Session D (JournalState D)) : Prop :=
  Settled sha journal t.journal.files t.events ∧
    MayHaveRun journal.plan files before t.events waveIndex result

/-- What is done after a wave may only raise. -/
theorem LeavesSettled.congr {before : List (ExecutionEvent D)} {α β : Type}
    {result : Except Error α} {result' : Except Error β}
    (h : LeavesSettled sha journal files before waveIndex result t)
    (herror : ∀ b, result' = .ok b → ∃ a, result = .ok a) :
    LeavesSettled sha journal files before waveIndex result' t := by
  refine ⟨h.1, h.2.imp (fun ⟨hresult, hevents⟩ => ⟨?_, hevents⟩) fun ⟨wave, hindex, hran⟩ =>
    ⟨wave, hindex, hran.closed, hran.first, hran.launched, fun ⟨b, hb⟩ => ?_⟩⟩
  · obtain ⟨e, he⟩ := hresult
    cases result' with
    | error e' => exact ⟨e', rfl⟩
    | ok b =>
      obtain ⟨a, ha⟩ := herror b rfl
      cases he.symm.trans ha
  · exact hran.complete (herror b hb)

/-- What the tasks of a wave have done. -/
theorem ranWave_of_group {tasks : D → TaskState D} {payload : WavePayload D} {returned : Prop}
    (hrecorded : Recorded sha journal finished s.journal.files st)
    (hlaunches : Launches sha journal st scope.wave payload)
    (hhistory : History journal.plan finished s.events)
    (hexpects : Expects sha journal st.latest.get? scope.wave payload.pendingAttempts)
    (hopens : Opens journal.plan st.latest.get? scope.wave pending)
    (hdone : GroupDone sha.toContentSha scope pending s.events ⟨tasks, t⟩)
    (hfresh : ∀ p ∈ pending, p.attempt ∉ invocationsOf s.events p.assignment.assignmentId)
    (hreturned : returned → ∀ p ∈ pending, ∃ r, tasks p.assignment.assignmentId = .returned r) :
    RanWave journal.plan s.journal.files s.events t.events scope.wave returned := by
  have hopen : ∀ p ∈ pending, ¬SucceededIn s.journal.files p.assignment.assignmentId :=
    fun p hp => (hrecorded.hasSucceeded_eq_false hhistory).mp (hopens.open_ p hp)
  refine ⟨hrecorded.noOpenIntent hlaunches.get?_incomplete, ⟨hexpects.planned, ?_, ?_⟩,
    fun a => ?_, fun hall x hx hunsuccessful => ?_⟩
  · obtain ⟨p, hp⟩ := exists_mem_of_ne_nil pending hopens.nonempty
    exact ⟨p.assignment, hopens.mem p hp, hopen p hp⟩
  · exact fun w hw y hy => (hrecorded.hasSucceeded_iff hhistory).mp (hexpects.earlier w hw y hy)
  · rcases hdone.invocations a with hsame | ⟨p, hp, rfl, hmore⟩
    · exact .inl hsame
    · exact .inr ⟨p.attempt, hmore, hfresh p hp, hopen p hp, p.assignment, hopens.mem p hp, rfl⟩
  · have hpending := hopens.covers x hx ((hrecorded.hasSucceeded_eq_false hhistory).mpr hunsuccessful)
    obtain ⟨p, hp, hid⟩ := mem_map.mp hpending
    obtain ⟨r, hr⟩ := hreturned hall p hp
    have htask : TaskDone sha.toContentSha scope p s.events t.events
      (tasks p.assignment.assignmentId) := hdone.tasks p hp
    rw [hr] at htask
    have hmore : invocationsOf t.events p.assignment.assignmentId
        = invocationsOf s.events p.assignment.assignmentId ++ [p.attempt] := htask.1
    rw [← hid, hmore]
    simp

/-- A wave, from a writer that agrees with its files. -/
theorem runWave_settled (htracks : Tracks sha journal finished s.journal st)
    (hhistory : History journal.plan finished s.events) (hs : ∀ a, (invocationsOf s.events a).Nodup)
    (hwave : scope.wave ∈ journal.plan.waves)
    (hcount : scope.ctx.deviceCount = journal.ctx.deviceCount)
    (hrows : rows = rowsOf st.latest.get? scope.wave ∨ rows = []) (world : WaveWorld D) :
    MeetsAt (runWave sha.toContentSha (some (journal.sink sha)) scope rows world) s
      fun result t =>
        LeavesSettled sha journal s.journal.files s.events scope.wave.waveIndex result t ∧
          ∀ receipt, result = .ok receipt → receipt.waveIndex = scope.wave.waveIndex := by
  have hsettled : ∀ {files}, Recoverable sha journal finished files →
      Settled sha journal files s.events :=
    fun h => settled_of_recoverable h hhistory hs
  refine meetsAt_check_bind
    (fun e _ => ⟨⟨hsettled htracks.toRecorded.recoverable, .inl ⟨⟨e, rfl⟩, rfl⟩⟩, nofun⟩)
    fun pending hpending => ?_
  have hdistinct := nodup_pendingAttempts hwave hpending
  have hbegin := beginWaveAttempts_spec htracks scope.plan scope.wave pending
    scope.priorScheduleReceiptSha256 world.clock
  refine meetsAt_bind (P := fun result t => t.events = s.events ∧
    (result = .ok () → ∃ st', Begun sha journal finished st scope.wave pending
      scope.priorScheduleReceiptSha256 t.journal st') ∧
    ∀ e, result = .error e → Survives sha journal finished finished t.journal)
    ⟨rfl, hbegin⟩ (fun e t ht => ?_) fun _ t ht => ?_
  · obtain ⟨hevents, -, hraises⟩ := ht
    refine ⟨⟨?_, .inl ⟨⟨e, rfl⟩, hevents⟩⟩, nofun⟩
    rw [hevents]
    rcases hraises e rfl with ⟨st', hst'⟩ | ⟨-, -, hrecoverable⟩
    · exact hsettled hst'.toRecorded.recoverable
    · exact hsettled hrecoverable
  obtain ⟨hevents, hbegun, -⟩ := ht
  obtain ⟨st', hbegun⟩ := hbegun rfl
  have hlatest : st.latest.get? = lastFinished finished := funext htracks.latest
  have hexpects := expects_of_expectedPending hbegun.launches.pending
  have hopens := opens_of_expects htracks.admissible.filed hrows hpending hexpects
  have hopens' : Opens journal.plan (lastFinished finished) scope.wave pending := hlatest ▸ hopens
  have hfresh : ∀ p ∈ pending, p.attempt ∉ invocationsOf s.events p.assignment.assignmentId := by
    intro p hp hmem
    obtain ⟨r, hr, hattempt⟩ := hhistory.launched _ _ (mem_invocationsOf.mp hmem)
    exact (hhistory.lt_attempt hopens' hp hr).ne hattempt
  obtain ⟨tasks, u, hgroup, hfollows⟩ := runGroup_follows hbegun rfl hdistinct hcount world.moves
  obtain ⟨tasks', u', hgroup', hdone⟩ := runGroup_invariant
    (fun g g' hg hstep => groupDone_step hdistinct hg hstep) (groupDone_start pending t) world.moves
  obtain ⟨htasks, rfl⟩ := Prod.mk.inj (hgroup.symm.trans hgroup')
  obtain rfl := Except.ok.inj htasks
  unfold MeetsAt
  rw [bind_apply_ok hgroup, check_bind_check]
  rw [hevents] at hfollows hdone
  refine ⟨⟨settled_of_follows hfollows hdone hdistinct hopens' hhistory hs hfresh,
    .inr ⟨scope.wave, rfl, ranWave_of_group htracks.toRecorded hbegun.launches hhistory hexpects
      hopens hdone hfresh fun ⟨receipt, hreceipt⟩ p hp => ?_⟩⟩, fun receipt hreceipt => ?_⟩
  · obtain ⟨receipts, hcollect, -⟩ := bind_eq_ok.mp hreceipt
    exact returned_of_collectReceipts hcollect _ (mem_assignments_of_pendingAttempts hpending hp)
      ((pendingAttempts_spec hpending).1 p hp).open_
  · obtain ⟨receipts, -, hmake⟩ := bind_eq_ok.mp hreceipt
    obtain ⟨-, -, rfl⟩ := makeWaveExecutionReceipt_eq_ok.mp hmake
    rfl

end Wave

/-! ## One call of `execute_dispatch_plan` -/

/-- The wave index that may run is where the receipt resumes. -/
theorem resumePoint_of_recoveryOnly
    (h : DispatchAttemptJournal.recoveryOnly resume supplied waveIndex = .ok none) :
    (resumePoint resume).2.2 = waveIndex ∧
      (resume.filter fun receipt => receipt.phase = .complete) = none := by
  have hrepublish : ∀ {receipt : DispatchScheduleReceipt D} {message : String},
      DispatchAttemptJournal.republish receipt waveIndex message ≠ .ok none := by
    intro receipt message hnone
    simp only [DispatchAttemptJournal.republish, bind_eq_ok, pure_eq_ok] at hnone
    obtain ⟨_, -, _, -, hnone⟩ := hnone
    cases hnone
  cases resume with
  | none =>
    simp only [DispatchAttemptJournal.recoveryOnly, bind_eq_ok, check_eq_ok] at h
    exact ⟨h.1.symm, rfl⟩
  | some receipt =>
    cases supplied with
    | none => exact absurd h hrepublish
    | some supplied =>
      unfold DispatchAttemptJournal.recoveryOnly at h
      dsimp only at h
      split_ifs at h with hdiffers hcomplete hfailed
      · exact absurd h hrepublish
      · -- the failed wave runs again
        simp only [bind_eq_ok, check_eq_ok] at h
        obtain ⟨expected, hexpected, rfl, -⟩ := h
        refine ⟨?_, by simp [Option.filter, hcomplete]⟩
        unfold DispatchAttemptJournal.lastWaveIndex at hexpected
        split at hexpected
        · cases hexpected
        · rename_i last hlast
          obtain rfl := Except.ok.inj hexpected
          simp [resumePoint, resumePointOf, hfailed, hlast]
      · simp only [bind_eq_ok, check_eq_ok, pure_eq_ok] at h
        obtain ⟨_, rfl, rfl, -⟩ := h
        refine ⟨?_, by simp [Option.filter, hcomplete]⟩
        unfold resumePoint resumePointOf
        dsimp only
        split
        · rename_i hphase _
          exact absurd hphase hfailed
        · rfl

/-- A receipt that is published again ends with the wave. -/
theorem republished_of_recoveryOnly {receipt : DispatchScheduleReceipt D}
    (h : DispatchAttemptJournal.recoveryOnly resume supplied waveIndex = .ok (some receipt)) :
    resume = some receipt ∧ receipt.waveReceipts.getLast?.map (·.waveIndex) = some waveIndex := by
  have hrepublish : ∀ {made : DispatchScheduleReceipt D} {message : String},
      DispatchAttemptJournal.republish made waveIndex message = .ok (some receipt) →
        some made = some receipt ∧
          receipt.waveReceipts.getLast?.map (·.waveIndex) = some waveIndex := by
    intro made message hmade
    simp only [DispatchAttemptJournal.republish, bind_eq_ok, check_eq_ok, pure_eq_ok] at hmade
    obtain ⟨last, hlast, rfl, hmade⟩ := hmade
    obtain rfl := Option.some.inj hmade
    refine ⟨rfl, ?_⟩
    unfold DispatchAttemptJournal.lastWaveIndex at hlast
    split at hlast
    · cases hlast
    · rename_i wave hwave
      obtain rfl := Except.ok.inj hlast
      rw [hwave]
      rfl
  cases resume with
  | none =>
    simp only [DispatchAttemptJournal.recoveryOnly, bind_eq_ok, pure_eq_ok] at h
    obtain ⟨_, -, h⟩ := h
    cases h
  | some made =>
    cases supplied with
    | none => exact hrepublish h
    | some supplied =>
      unfold DispatchAttemptJournal.recoveryOnly at h
      dsimp only at h
      split_ifs at h with hdiffers hcomplete hfailed
      · exact hrepublish h
      · simp only [bind_eq_ok, pure_eq_ok] at h
        obtain ⟨_, -, _, -, h⟩ := h
        cases h
      · simp only [bind_eq_ok, pure_eq_ok] at h
        obtain ⟨_, -, _, -, h⟩ := h
        cases h

/-- A call that stops after the wave where its receipt resumes runs that wave. -/
theorem openSchedule_single {sha : ContentSha D} {replay : Option (DispatchAttemptJournalReplay D)}
    {opened : DispatchScheduleReceipt D ⊕ List (PlannedWave D) × LoopState D}
    (h : openSchedule sha plan ctx resume replay (some waveIndex) = .ok opened)
    (hstart : (resumePoint resume).2.2 = waveIndex)
    (hcomplete : (resume.filter fun receipt => receipt.phase = .complete) = none) :
    ∃ wave loop, plan.waves[waveIndex]? = some wave ∧ opened = .inr ([wave], loop) ∧
      loop.failedPrior = (resumePoint resume).2.1 := by
  simp only [openSchedule, bind_eq_ok, check_eq_ok, hcomplete] at h
  obtain ⟨-, -, -, hstop, -, -, -, h⟩ := h
  have hlt : waveIndex < plan.waves.length := hstop waveIndex rfl
  rw [if_neg (ne_nil_of_length_pos (by omega))] at h
  obtain ⟨⟨waves, loop⟩, hwaves, rfl⟩ := map_eq_ok.mp h
  simp only [openWaves, bind_eq_ok, pure_eq_ok] at hwaves
  obtain ⟨planned, -, state, -, hwaves⟩ := hwaves
  obtain ⟨rfl, rfl⟩ := Prod.mk.inj hwaves
  refine ⟨plan.waves[waveIndex], ⟨(resumePoint resume).1, (resumePoint resume).2.1, state, resume⟩,
    getElem?_eq_getElem hlt, ?_, rfl⟩
  rw [hstart, Option.getD_some, take_add_one, getElem?_eq_getElem hlt,
    drop_left' (length_take_of_le hlt.le)]
  rfl

omit [DecidableEq D] in
/-- The last of the receipts of the covered waves. -/
theorem getLast?_covered {n : ℕ} (hcovers : Covers latest plan.waves n) (hzero : n ≠ 0)
    {last : DispatchWaveExecutionReceipt D}
    (hlast : ((plan.waves.take n).map (waveReceiptOf plan ctx latest)).getLast? = some last) :
    ∃ w, plan.waves[n - 1]? = some w ∧ waveReceiptOf plan ctx latest w = last := by
  have hlt : n - 1 < plan.waves.length := by
    have hle := hcovers.le
    omega
  rw [getLast?_map, getLast?_take, if_neg hzero, getElem?_eq_getElem hlt] at hlast
  exact ⟨_, getElem?_eq_getElem hlt, by simpa using hlast⟩

omit [DecidableEq D] in
/-- The rows that the wave resumes from are its last receipts, or there are none. -/
theorem priorRowsOf_resumePoint {n : ℕ} (hcovers : Covers latest plan.waves n)
    (hwave : plan.waves[(resumePoint (scheduleOf plan ctx latest prior n)).2.2]? = some wave) :
    priorRowsOf (resumePoint (scheduleOf plan ctx latest prior n)).2.1 wave = rowsOf latest wave ∨
      priorRowsOf (resumePoint (scheduleOf plan ctx latest prior n)).2.1 wave = [] := by
  unfold scheduleOf at hwave ⊢
  dsimp only at hwave ⊢
  split_ifs at hwave ⊢ with hzero
  · exact .inr rfl
  · unfold resumePoint resumePointOf at hwave ⊢
    dsimp only [scheduleRecord] at hwave ⊢
    split at hwave
    · -- the last of the covered waves failed, and it is the wave that runs
      rename_i failed hphase hlast
      obtain ⟨w, hw, rfl⟩ := getLast?_covered hcovers hzero hlast
      have hindex : (waveReceiptOf plan ctx latest w).waveIndex = n - 1 := plan.waveIndex_eq hw
      rw [hindex, hw] at hwave
      obtain rfl := Option.some.inj hwave
      exact .inl (if_pos rfl)
    · exact .inr rfl

section Call

variable {s : Session D (JournalState D)} {call : WaveCall D} {n : ℕ}

/-- The loop over the one wave. -/
theorem runWaves_settled (ctx : ExecutionContext D) {loop : LoopState D} (worlds : ℕ → WaveWorld D)
    (htracks : Tracks sha journal finished s.journal st)
    (hhistory : History journal.plan finished s.events) (hs : ∀ a, (invocationsOf s.events a).Nodup)
    (hwave : wave ∈ journal.plan.waves) (hcount : ctx.deviceCount = journal.ctx.deviceCount)
    (hrows : priorRowsOf loop.failedPrior wave = rowsOf st.latest.get? wave ∨
      priorRowsOf loop.failedPrior wave = []) :
    MeetsAt (runWaves sha.toContentSha (some (journal.sink sha)) journal.plan ctx worlds
      [wave] loop) s fun result t =>
        LeavesSettled sha journal s.journal.files s.events wave.waveIndex result t ∧
          ∀ R, result = .ok R → R.waveReceipts.getLast?.map (·.waveIndex) = some wave.waveIndex := by
  unfold runWaves
  refine meetsAt_bind (runWave_settled htracks hhistory hs hwave hcount hrows _)
    (fun e t ht => ⟨ht.1.congr fun _ h => (by cases h), fun _ h => by cases h⟩) fun waveReceipt t ht => ?_
  have hafter : ∀ {β : Type} {result : Except Error β},
      LeavesSettled sha journal s.journal.files s.events wave.waveIndex result t :=
    ht.1.congr fun _ _ => ⟨waveReceipt, rfl⟩
  refine meetsAt_check_bind (fun _ _ => ⟨hafter, fun _ h => by cases h⟩) fun state _ => ?_
  refine meetsAt_check_bind (fun _ _ => ⟨hafter, fun _ h => by cases h⟩) fun receipt hreceipt => ?_
  obtain ⟨-, -, rfl⟩ := makeScheduleReceipt_eq_ok.mp hreceipt
  have hlast : ∀ phase prior, (scheduleRecord journal.plan phase (loop.priorReceipts ++ [waveReceipt])
      ctx prior).waveReceipts.getLast?.map (·.waveIndex) = some wave.waveIndex := by
    intro phase prior
    show (loop.priorReceipts ++ [waveReceipt]).getLast?.map _ = _
    rw [getLast?_concat, Option.map_some, ht.2 waveReceipt rfl]
  split
  · exact ⟨hafter, fun R hR => Except.ok.inj hR ▸ hlast _ _⟩
  · exact ⟨hafter, fun R hR => Except.ok.inj hR ▸ hlast _ _⟩

/-- The call of `execute_dispatch_plan` that runs the wave of the index. -/
theorem executeDispatchPlan_settled (htracks : Tracks sha journal finished s.journal st)
    (hhistory : History journal.plan finished s.events) (hs : ∀ a, (invocationsOf s.events a).Nodup)
    (hcovers : Covers st.latest.get? journal.plan.waves n)
    (hrecovery : DispatchAttemptJournal.recoveryOnly
      (scheduleOf journal.plan journal.ctx st.latest.get? prior n) supplied call.waveIndex
        = .ok none) (snapshot : DispatchAttemptJournalSnapshot D)
    (authorities : List (AssignmentTerminalAuthority D)) :
    MeetsAt (executeDispatchPlan sha.toContentSha (some (journal.sink sha)) journal.plan
      journal.ctx (scheduleOf journal.plan journal.ctx st.latest.get? prior n)
      (DispatchAttemptJournal.dispatchCall call snapshot authorities)) s fun result t =>
        LeavesSettled sha journal s.journal.files s.events call.waveIndex result t ∧
          ∀ R, result = .ok R →
            R.waveReceipts.getLast?.map (·.waveIndex) = some call.waveIndex := by
  have hsettled := settled_of_recoverable htracks.toRecorded.recoverable hhistory hs
  refine meetsAt_check_bind (fun e _ => ⟨⟨hsettled, .inl ⟨⟨e, rfl⟩, rfl⟩⟩, nofun⟩)
    fun opened hopened => ?_
  obtain ⟨hstart, hcomplete⟩ := resumePoint_of_recoveryOnly hrecovery
  obtain ⟨wave, loop, hwave, rfl, hfailed⟩ := openSchedule_single hopened hstart hcomplete
  have hindex := journal.plan.waveIndex_eq hwave
  rw [← hstart] at hwave
  have hrows := priorRowsOf_resumePoint hcovers hwave
  rw [← hfailed] at hrows
  rw [← hindex]
  exact runWaves_settled { journal.ctx with resumeTerminalAuthorities := authorities } _ htracks
    hhistory hs (mem_of_getElem? hwave) rfl hrows

end Call

/-! ## One process -/

/-- The receipt of a process: it ends with the wave that was asked for, and every
launched attempt is in it. -/
structure Delivers (plan : FrozenPlan D) (files : List (JournalFile D))
    (events : List (ExecutionEvent D)) (waveIndex : ℕ) (R : DispatchScheduleReceipt D) : Prop
    extends Publishes plan files waveIndex R where
  billed : ∀ a n, .invoked a n ∈ events → Billed plan files R a n

/-- What a process has read that goes on. -/
theorem Settled.of_replay (h : Settled sha journal files events)
    (hreplay : journal.replay sha files none = .ok snapshot)
    (hcomplete : snapshot.requireCompleteCostAuthority = .ok ()) :
    ∃ st finished n, Recorded sha journal finished files st ∧
      History journal.plan finished events ∧ (∀ d, st.incomplete.get? d = none) ∧
      Covers st.latest.get? journal.plan.waves n ∧
      snapshot = journal.snapshotOf sha st (scheduleOf journal.plan journal.ctx st.latest.get?
        st.lastFinishPriorScheduleSha256 n) := by
  have hraw := hreplay
  simp only [DispatchAttemptJournal.replay, bind_eq_ok, pure_eq_ok] at hraw
  obtain ⟨names, hnames, st, hst, receipt, -, rfl⟩ := hraw
  obtain rfl : files = names := Except.ok.inj hnames
  have hidle : ∀ d, st.incomplete.get? d = none := by
    intro d
    unfold DispatchAttemptJournalSnapshot.requireCompleteCostAuthority at hcomplete
    split at hcomplete
    · rename_i hnil
      unfold Dict.get?
      rw [map_eq_nil_iff.mp hnil]
      rfl
    · cases hcomplete
  obtain ⟨finished, hrecorded, hhistory⟩ := h.history st hst hidle
  obtain ⟨n, hcovers, hagain⟩ := hrecorded.replay_eq_ok
  exact ⟨st, finished, n, hrecorded, hhistory, hidle, hcovers,
    Except.ok.inj (hreplay.symm.trans hagain)⟩

/-- The receipt of a replay that is asked for its last wave. -/
theorem Settled.delivers (h : Settled sha journal files events)
    (hreplay : journal.replay sha files none = .ok snapshot)
    (hcomplete : snapshot.requireCompleteCostAuthority = .ok ()) {R : DispatchScheduleReceipt D}
    (hreceipt : snapshot.receipt = some R)
    (hlast : R.waveReceipts.getLast?.map (·.waveIndex) = some waveIndex) :
    Delivers journal.plan files events waveIndex R := by
  obtain ⟨st, finished, n, hrecorded, hhistory, -, hcovers, rfl⟩ := h.of_replay hreplay hcomplete
  change scheduleOf _ _ _ _ n = some R at hreceipt
  unfold scheduleOf at hreceipt
  dsimp only at hreceipt
  split_ifs at hreceipt with hzero
  have hR : R.waveReceipts = (journal.plan.waves.take n).map
      (waveReceiptOf journal.plan journal.ctx st.latest.get?) :=
    (congrArg DispatchScheduleReceipt.waveReceipts (Option.some.inj hreceipt)).symm
  refine ⟨⟨hlast, ?_⟩, fun a k hk => billed_of_covers hrecorded hhistory hcovers hR hk⟩
  rw [hR] at hlast
  obtain ⟨last, hfound, hindex⟩ := Option.map_eq_some_iff.mp hlast
  obtain ⟨wave, hwave, rfl⟩ := getLast?_covered hcovers hzero hfound
  have hsame : waveIndex = n - 1 := hindex.symm.trans (journal.plan.waveIndex_eq hwave)
  refine ⟨wave, hsame ▸ hwave, fun x hx => ?_⟩
  have hmem : wave ∈ journal.plan.waves.take n :=
    mem_of_getElem? ((getElem?_take_of_lt (by omega)).trans hwave)
  obtain ⟨r, hr⟩ := Option.isSome_iff_exists.mp (hcovers.present wave hmem x hx)
  obtain ⟨f, hf, rfl, hid⟩ := hrecorded.exists_finish_of_latest hr
  exact ⟨f, hf, hid⟩

section Process

variable {s : Session D (JournalState D)}

/-- What a process leaves: it publishes what has ended and changes nothing, or it may
have run the wave that was asked for. -/
structure Processed (sha : JournalSha D) (journal : DispatchAttemptJournal D)
    (files : List (JournalFile D)) (before : List (ExecutionEvent D)) (waveIndex : ℕ)
    (result : Except Error (DispatchScheduleReceipt D)) (t : Session D (JournalState D)) : Prop
    where
  settled : Settled sha journal t.journal.files t.events
  outcome : ((∃ R, result = .ok R) ∧ t.events = before ∧ t.journal.files = files) ∨
    MayHaveRun journal.plan files before t.events waveIndex result
  delivers : ∀ R, result = .ok R → Delivers journal.plan t.journal.files t.events waveIndex R

/-- A process that raised before it launched anything. -/
theorem Settled.raised (h : Settled sha journal t.journal.files t.events) (waveIndex : ℕ)
    (e : Error) : Processed sha journal t.journal.files t.events waveIndex (.error e) t where
  settled := h
  outcome := .inr (.inl ⟨⟨e, rfl⟩, rfl⟩)
  delivers := nofun

/-- The body of the `try` statement. -/
theorem executeAndPublish_spec {n : ℕ} (htracks : Tracks sha journal finished s.journal st)
    (hhistory : History journal.plan finished s.events) (hs : ∀ a, (invocationsOf s.events a).Nodup)
    (hcovers : Covers st.latest.get? journal.plan.waves n) {call : WaveCall D}
    (hsnapshot : snapshot.receipt = scheduleOf journal.plan journal.ctx st.latest.get? prior n)
    (hrecovery : DispatchAttemptJournal.recoveryOnly snapshot.receipt
      (call.supplied.map Prod.fst) call.waveIndex = .ok none)
    (authorities : List (AssignmentTerminalAuthority D)) :
    MeetsAt (journal.executeAndPublish sha call snapshot authorities) s
      (Processed sha journal s.journal.files s.events call.waveIndex) := by
  unfold DispatchAttemptJournal.executeAndPublish
  rw [hsnapshot] at hrecovery ⊢
  refine meetsAt_bind (executeDispatchPlan_settled htracks hhistory hs hcovers hrecovery
    snapshot authorities) (fun e t ht => ⟨ht.1.1, .inr ht.1.2, nofun⟩) fun R t ht => ?_
  obtain ⟨hleaves, hlast⟩ := ht
  refine meetsAt_read (meetsAt_check ?_)
  have hafter : LeavesSettled sha journal s.journal.files s.events call.waveIndex
      (journal.publishExecuted sha call t.journal.files R) t := hleaves.congr fun _ _ => ⟨R, rfl⟩
  refine ⟨hafter.1, .inr hafter.2, fun R' hR' => ?_⟩
  simp only [DispatchAttemptJournal.publishExecuted, bind_eq_ok, check_eq_ok, pure_eq_ok] at hR'
  obtain ⟨final, hfinal, _, hcomplete, ⟨hreceipt, -⟩, _, -, -, _, -, _, -, rfl⟩ := hR'
  exact hafter.1.delivers hfinal hcomplete hreceipt (hlast R rfl)

/-- The error of the body is replaced. -/
theorem Processed.mapError {before : List (ExecutionEvent D)}
    {result : Except Error (DispatchScheduleReceipt D)}
    (h : Processed sha journal files before waveIndex result t) (f : Error → Error) :
    Processed sha journal files before waveIndex (result.mapError f) t := by
  cases result with
  | ok R => exact h
  | error e =>
    have hleaves : LeavesSettled sha journal files before waveIndex
        (.error e : Except Error (DispatchScheduleReceipt D)) t :=
      ⟨h.settled, h.outcome.resolve_left fun ⟨⟨R, hR⟩, _⟩ => nomatch hR⟩
    exact ⟨h.settled, .inr (hleaves.congr nofun).2, nofun⟩

/-- The journal as a process opens it. -/
theorem Recorded.tracks_open (h : Recorded sha journal finished files st)
    (hidle : ∀ d, st.incomplete.get? d = none) (disk : ℕ → WriteOutcome) :
    Tracks sha journal finished (JournalState.open_ files st.eventSha256s disk) st where
  toRecorded := h
  names := rfl
  digests := rfl
  tokens := hidle

/-- `execute_dispatch_wave_bundles`, on files that are settled. -/
theorem executeDispatchWaveBundles_spec (h : Settled sha journal s.journal.files s.events)
    (call : WaveCall D) : MeetsAt (journal.executeDispatchWaveBundles sha call) s
      (Processed sha journal s.journal.files s.events call.waveIndex) := by
  have hraised := h.raised call.waveIndex
  unfold DispatchAttemptJournal.executeDispatchWaveBundles
  refine meetsAt_check_bind (fun e _ => hraised e) fun _ _ => ?_
  refine meetsAt_check_bind (fun e _ => hraised e) fun _ _ => ?_
  refine meetsAt_read (meetsAt_check_bind (fun e _ => hraised e) fun opened hopened => ?_)
  simp only [DispatchAttemptJournal.openOrCreate, bind_eq_ok, pure_eq_ok] at hopened
  obtain ⟨before, hbefore, _, -, rfl⟩ := hopened
  refine meetsAt_assign ?_
  have hraised' := Settled.raised
    (t := ⟨JournalState.open_ s.journal.files before.eventSha256s call.disk, s.events⟩) h
    call.waveIndex
  refine meetsAt_check_bind (fun e _ => hraised' e) fun snapshot hsnapshot => ?_
  refine meetsAt_check_bind (fun e _ => hraised' e) fun _ hcomplete => ?_
  refine meetsAt_check_bind (fun e _ => hraised' e) fun _ _ => ?_
  refine meetsAt_check_bind (fun e _ => hraised' e) fun authorities _ => ?_
  refine meetsAt_check_bind (fun e _ => hraised' e) fun recovery hrecovery => ?_
  have hreplay : journal.replay sha s.journal.files none = .ok snapshot := hsnapshot
  obtain rfl : before = snapshot := Except.ok.inj (hbefore.symm.trans hreplay)
  cases recovery with
  -- the wave has finished, and its receipt is published again
  | some receipt =>
    obtain ⟨hreceipt, hlast⟩ := republished_of_recoveryOnly hrecovery
    refine meetsAt_check ?_
    cases hpublish : journal.publishFinished sha call before authorities receipt with
    | error e => exact hraised' e
    | ok R =>
      refine ⟨h, .inl ⟨⟨R, rfl⟩, rfl, rfl⟩, fun R' hR' => ?_⟩
      obtain rfl := Except.ok.inj hR'
      simp only [DispatchAttemptJournal.publishFinished, bind_eq_ok, check_eq_ok,
        pure_eq_ok] at hpublish
      obtain ⟨-, _, -, _, -, rfl⟩ := hpublish
      exact h.delivers hreplay hcomplete hreceipt hlast
  -- the wave is executed from what the journal holds
  | none =>
    obtain ⟨st, finished, n, hrecorded, hhistory, hidle, hcovers, rfl⟩ :=
      h.of_replay hreplay hcomplete
    refine meetsAt_check_bind (fun e _ => hraised' e) fun _ _ => ?_
    refine meetsAt_mapError ?_
    have hspec := executeAndPublish_spec
      (s := ⟨JournalState.open_ s.journal.files st.eventSha256s call.disk, s.events⟩)
      (hrecorded.tracks_open hidle call.disk) hhistory h.distinct hcovers rfl hrecovery authorities
    exact hspec.mono fun result t ht => ht.mapError _

end Process

/-! ## Sequences of processes -/

/-- The files are settled after any processes, wherever each of them stopped. -/
theorem settled_afterProcesses (sha : JournalSha D) (journal : DispatchAttemptJournal D)
    (calls : List (WaveCall D)) : Settled sha journal
      (journal.afterProcesses sha calls).journal.files (journal.afterProcesses sha calls).events := by
  have hall : ∀ s : Session D (JournalState D), Settled sha journal s.journal.files s.events →
      Settled sha journal (calls.foldl (journal.nextProcess sha) s).journal.files
        (calls.foldl (journal.nextProcess sha) s).events := by
    induction calls with
    | nil => exact fun s hs => hs
    | cons call calls ih =>
      intro s hs
      refine ih _ ?_
      have hspec := executeDispatchWaveBundles_spec hs call
      unfold DispatchAttemptJournal.nextProcess
      cases hresult : journal.executeDispatchWaveBundles sha call s with
      | mk result t =>
        have hsettled := (hspec.of_eq hresult).settled
        cases result with
        | ok R => exact hsettled.returned R
        | error e => exact hsettled
  exact hall _ settled_nil

/-- After any processes on a journal, each of which may have stopped anywhere, the
next one publishes what has ended, or raises and launches nothing, or runs the first
wave that is not fully succeeded. No attempt is ever launched twice, nor one of an
assignment that has succeeded, nor any while an intent is open; and a receipt that a
process returns has the interval of every attempt that was launched. -/
theorem no_attempt_relaunched_or_unbilled (sha : JournalSha D) (journal : DispatchAttemptJournal D)
    (calls : List (WaveCall D)) (call : WaveCall D) :
    let s := journal.afterProcesses sha calls
    let result := (journal.executeDispatchWaveBundles sha call s).1
    let t := (journal.executeDispatchWaveBundles sha call s).2
    ((∃ R, result = .ok R) ∧ t.events = s.events ∧ t.journal.files = s.journal.files ∨
        MayHaveRun journal.plan s.journal.files s.events t.events call.waveIndex result) ∧
      (∀ a, (invocationsOf t.events a).Nodup) ∧
      ∀ R, result = .ok R → Delivers journal.plan t.journal.files t.events call.waveIndex R := by
  intro s result t
  have hprocessed : Processed sha journal s.journal.files s.events call.waveIndex result t :=
    executeDispatchWaveBundles_spec (settled_afterProcesses sha journal calls) call
  exact ⟨hprocessed.outcome, hprocessed.settled.distinct, hprocessed.delivers⟩

/-! ## One assignment -/

/-- A process whose runner returns the authority of the lone plan after 15 ns. -/
def loneWaveCall (publish : Except Error Unit) (disk : ℕ → WriteOutcome) : WaveCall Digest where
  waveIndex := 0
  supplied := none
  sources := .ok ()
  restartAuthorities bindings := .ok (bindings.map fun _ => genuineAuthority "cell" "assignment")
  transports := .ok ()
  world := genuineWorld "cell" "assignment" 10
  finalAuthorities bindings := .ok (bindings.map fun _ => genuineAuthority "cell" "assignment")
  publish := publish
  disk := disk

/-- A process that cannot publish its receipt, and one that does it. -/
example : (loneJournal.afterProcesses freeSha
    [loneWaveCall (.error (runtimeError "publish")) fun _ => .written,
      loneWaveCall (.ok ()) fun _ => .written]).events.map (fun e => match e with
        | .invoked _ n => some n
        | .recorded _ => none
        | .returned R => some (R.rows.length)) = [some 1, none, some 1] := by
  decide +kernel

/-- A process whose FINISH event is torn: the next one launches nothing. -/
example : ((loneJournal.executeDispatchWaveBundles freeSha
    (loneWaveCall (.ok ()) fun _ => .written) (loneJournal.afterProcesses freeSha
      [loneWaveCall (.ok ()) fun n => if n = 2 then .torn else .written])).1.isOk,
    (loneJournal.afterProcesses freeSha
      [loneWaveCall (.ok ()) fun n => if n = 2 then .torn else .written]).events.length)
    = (false, 1) := by
  decide +kernel

end Pool

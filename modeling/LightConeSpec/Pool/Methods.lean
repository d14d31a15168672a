import LightConeSpec.Pool.Writer

/-!
# The writing methods of a journal

One specification for each method of `DispatchAttemptJournal`, from a writer
that agrees with its files. `begin_wave_attempts` opens an intent for each
pending attempt of the wave that the reader expects next; `begin_attempt` hands
out the token of one of them; `finish_attempt` closes one.
-/

namespace Pool

open Python Intervals List Method Dict

variable {D : Type} [DecidableEq D] {sha : JournalSha D} {journal : DispatchAttemptJournal D}
  {finished : Finished D} {s t : JournalState D} {st : ReplayState D}

/-! ## What is pending -/

variable {wave : PlannedWave D} {identities rest : List (AttemptIdentity D)}
  {latest : D → Option (AssignmentExecutionReceipt D)} {token : DispatchAttemptJournalToken D}
  {receipt : AssignmentExecutionReceipt D}

omit [DecidableEq D] in
theorem expectedWave_eq_ok {plan : FrozenPlan D} (h : expectedWave plan latest = .ok wave) :
    wave ∈ plan.waves ∧ (∃ x ∈ wave.assignments, hasSucceeded latest x.assignmentId = false) ∧
      ∀ i, plan.waves[i]? = some wave → ∀ w ∈ plan.waves.take i, ∀ x ∈ w.assignments,
        hasSucceeded latest x.assignmentId = true := by
  unfold expectedWave at h
  split at h
  · rename_i found hfound
    obtain rfl := Except.ok.inj h
    obtain ⟨hopen, before, after, hsplit, hbefore⟩ := find?_eq_some_iff_append.mp hfound
    refine ⟨mem_of_find?_eq_some hfound, by simpa using hopen, fun i hi w hw x hx => ?_⟩
    have hlength : i = before.length := by
      have hindex := plan.waveIndex_eq hi
      have hbefore : plan.waves[before.length]? = some found := by
        rw [hsplit, getElem?_append_right le_rfl, Nat.sub_self]
        rfl
      exact hindex.symm.trans (plan.waveIndex_eq hbefore)
    have hmem : w ∈ before := by
      rw [hsplit, hlength, take_left'] at hw
      · exact hw
      · rfl
    exact all_eq_true.mp (by simpa using hbefore w hmem) x hx
  · cases h

omit [DecidableEq D] in
/-- One attempt for each assignment that has not succeeded. -/
theorem expectedIdentities_spec {ctx : ExecutionContext D}
    {assignments : List (PlannedAssignment D)}
    (h : expectedIdentities sha.toContentSha ctx latest assignments = .ok identities) :
    (∀ identity ∈ identities, ∃ x ∈ assignments, ∃ budget,
      ctx.budgetsByCellId x.itemId = some budget ∧
      hasSucceeded latest x.assignmentId = false ∧
      identity = attemptIdentity sha.toContentSha ctx
        ⟨x, identity.attempt, budget, latest x.assignmentId⟩) ∧
      identities.map (·.assignmentSha256) = (assignments.filter fun x =>
        !hasSucceeded latest x.assignmentId).map (·.assignmentId) := by
  induction assignments generalizing identities with
  | nil =>
    obtain rfl := Except.ok.inj h
    exact ⟨by simp, rfl⟩
  | cons x rest ih =>
    unfold expectedIdentities at h
    by_cases hsucceeded : hasSucceeded latest x.assignmentId = true
    · rw [if_pos hsucceeded] at h
      obtain ⟨hall, hmap⟩ := ih h
      refine ⟨fun identity hmem => ?_, by rw [hmap, filter_cons_of_neg (by simp [hsucceeded])]⟩
      obtain ⟨y, hy, hrest⟩ := hall identity hmem
      exact ⟨y, mem_cons_of_mem _ hy, hrest⟩
    · rw [if_neg hsucceeded] at h
      simp only [bind_eq_ok, check_eq_ok, budget_eq_ok, pure_eq_ok] at h
      obtain ⟨budget, hbudget, -, others, hothers, rfl⟩ := h
      obtain ⟨hall, hmap⟩ := ih hothers
      have hopen : hasSucceeded latest x.assignmentId = false := by simpa using hsucceeded
      refine ⟨fun identity hmem => ?_, ?_⟩
      · rcases mem_cons.mp hmem with rfl | hmem
        · exact ⟨x, by simp, budget, hbudget, hopen, rfl⟩
        · obtain ⟨y, hy, hrest⟩ := hall identity hmem
          exact ⟨y, mem_cons_of_mem _ hy, hrest⟩
      · rw [map_cons, hmap, filter_cons_of_pos (by simp [hopen])]
        rfl

/-- The pending attempts of the first wave that is not fully succeeded. -/
structure Expects (sha : JournalSha D) (journal : DispatchAttemptJournal D)
    (latest : D → Option (AssignmentExecutionReceipt D)) (wave : PlannedWave D)
    (identities : List (AttemptIdentity D)) : Prop where
  planned : journal.plan.waves[wave.waveIndex]? = some wave
  earlier : ∀ w ∈ journal.plan.waves.take wave.waveIndex, ∀ x ∈ w.assignments,
    hasSucceeded latest x.assignmentId = true
  nonempty : identities ≠ []
  attempts : ∀ identity ∈ identities, ∃ x ∈ wave.assignments, ∃ budget,
    journal.ctx.budgetsByCellId x.itemId = some budget ∧
    hasSucceeded latest x.assignmentId = false ∧
    identity = attemptIdentity sha.toContentSha journal.ctx
      ⟨x, identity.attempt, budget, latest x.assignmentId⟩
  covers : ∀ x ∈ wave.assignments, hasSucceeded latest x.assignmentId = false →
    x.assignmentId ∈ identities.map (·.assignmentSha256)
  distinct : (identities.map (·.assignmentSha256)).Nodup

omit [DecidableEq D] in
theorem expects_of_expectedPending
    (h : expectedPending sha.toContentSha journal.plan journal.ctx latest
      = .ok (wave, identities)) : Expects sha journal latest wave identities := by
  simp only [expectedPending, bind_eq_ok, pure_eq_ok, Prod.mk.injEq] at h
  obtain ⟨wave, hwave, identities, hidentities, rfl, rfl⟩ := h
  obtain ⟨hmem, ⟨x, hx, hopen⟩, hearlier⟩ := expectedWave_eq_ok hwave
  obtain ⟨hattempts, hmap⟩ := expectedIdentities_spec hidentities
  obtain ⟨i, hi, hget⟩ := mem_iff_getElem.mp hmem
  have hplanned : journal.plan.waves[i]? = some wave := (getElem?_eq_getElem hi).trans
    (congrArg some hget)
  have hindex := journal.plan.waveIndex_eq hplanned
  have hpending : ∀ y ∈ wave.assignments, hasSucceeded latest y.assignmentId = false →
      y.assignmentId ∈ identities.map (·.assignmentSha256) := by
    intro y hy hopen
    rw [hmap]
    exact mem_map_of_mem (mem_filter.mpr ⟨hy, by simp [hopen]⟩)
  refine ⟨hindex ▸ hplanned, hindex ▸ hearlier i hplanned, ?_, hattempts, hpending, ?_⟩
  · intro hnil
    rw [hnil] at hpending
    exact absurd (hpending x hx hopen) (by simp)
  · rw [hmap]
    exact (journal.plan.nodup_assignments hmem).sublist (filter_sublist.map _)

/-! ## `begin_wave_attempts` -/

/-- What `begin_wave_attempts` has checked when it writes its WAVE event. -/
structure Launches (sha : JournalSha D) (journal : DispatchAttemptJournal D) (st : ReplayState D)
    (wave : PlannedWave D) (payload : WavePayload D) : Prop where
  idle : st.incomplete.entries = []
  receipt : ∃ receipt, scheduleFromLatest journal.plan journal.ctx st.latest.get?
      st.lastFinishPriorScheduleSha256 = .ok receipt ∧
    payload.priorScheduleReceiptSha256 = receipt.map sha.scheduleReceipt
  pending : expectedPending sha.toContentSha journal.plan journal.ctx st.latest.get?
    = .ok (wave, payload.pendingAttempts)

variable {prior : Option D} {payload : WavePayload D} {waveEventSha256 : D}

/-- No intent is open when a wave begins. -/
theorem Launches.get?_incomplete (h : Launches sha journal st wave payload) (d : D) :
    st.incomplete.get? d = none := by
  unfold Dict.get?
  rw [h.idle]
  rfl

theorem latestOf_get? (h : Admissible sha.toContentSha journal.ctx st.latest.get?)
    (receipt : Option (DispatchScheduleReceipt D)) :
    (DispatchAttemptJournal.latestOf (journal.snapshotOf sha st receipt)).get? = st.latest.get? :=
  funext fun a => get?_collect_values st.latest h.filed a

theorem launches_of_wavePayload (h : Recorded sha journal finished s.files st) {plan : FrozenPlan D}
    {attempts : List (PendingAttempt D)}
    (hpayload : journal.wavePayload sha s.files plan wave attempts prior = .ok payload) :
    Launches sha journal st wave payload ∧ plan = journal.plan ∧
      payload = ⟨prior, attempts.map (attemptIdentity sha.toContentSha journal.ctx)⟩ := by
  obtain ⟨n, hn, hreplay⟩ := h.replay_eq_ok
  simp only [DispatchAttemptJournal.wavePayload, bind_eq_ok, check_eq_ok, pure_eq_ok, hreplay,
    Except.ok.injEq] at hpayload
  obtain ⟨hplan, _, rfl, _, hcomplete, expected, hexpected, ⟨rfl, hpending, hprior⟩, rfl⟩ := hpayload
  rw [latestOf_get? h.admissible] at hexpected
  refine ⟨⟨?_, ⟨_, scheduleFromLatest_eq h.admissible _ hn, rfl⟩, hpending ▸ hexpected⟩, hplan,
    by rw [hprior]⟩
  unfold DispatchAttemptJournalSnapshot.requireCompleteCostAuthority at hcomplete
  split at hcomplete
  · rename_i hnil
    exact map_eq_nil_iff.mp hnil
  · cases hcomplete

/-- The wave event is noted and its attempts are still to be issued. -/
structure Issues (sha : JournalSha D) (journal : DispatchAttemptJournal D) (st : ReplayState D)
    (waveEventSha256 : D) (wave : PlannedWave D) (prior : Option D)
    (identities rest : List (AttemptIdentity D)) : Prop where
  expects : Expects sha journal st.latest.get? wave identities
  declared : st.waveEvents.get? waveEventSha256 = some ⟨wave.waveIndex, prior, identities⟩
  subset : rest ⊆ identities
  distinct : (rest.map (·.assignmentSha256)).Nodup
  unopened : ∀ identity ∈ rest, ∀ d intent, st.incomplete.get? d = some intent →
    intent.identity.assignmentSha256 ≠ identity.assignmentSha256

/-- The token that was issued for an identity. -/
structure Token (s : JournalState D) (identity : AttemptIdentity D)
    (token : DispatchAttemptJournalToken D) : Prop where
  preissued : s.preissuedAssignmentTokens.get? identity.assignmentSha256 = some token
  intent : ∃ payload, s.openTokens.get? token.intentSha256 = some payload ∧
    payload.identity = identity ∧ payload.startedMonotonicNs = token.startedMonotonicNs

structure Issued (sha : JournalSha D) (journal : DispatchAttemptJournal D) (finished : Finished D)
    (s : JournalState D) (st : ReplayState D) (waveEventSha256 : D)
    (rest : List (AttemptIdentity D)) (t : JournalState D) (st' : ReplayState D) : Prop where
  tracks : Tracks sha journal finished t st'
  latest : st'.latest = st.latest
  waveEvents : st'.waveEvents = st.waveEvents
  lastFinish : st'.lastFinishPriorScheduleSha256 = st.lastFinishPriorScheduleSha256
  activeWave : t.activeWave = s.activeWave
  opened : ∀ d intent, st'.incomplete.get? d = some intent →
    st.incomplete.get? d = some intent ∨
      intent.identity ∈ rest ∧ intent.waveEventSha256 = waveEventSha256
  issued : ∀ identity ∈ rest, ∃ token, Token t identity token
  kept : ∀ identity token, (∀ other ∈ rest, other.assignmentSha256 ≠ identity.assignmentSha256) →
    Token s identity token → Token t identity token

/-- The writer after one INTENT event. -/
def JournalState.issue (s : JournalState D) (identity : AttemptIdentity D)
    (payload : AttemptPayload D) (started : ℕ) (digest : D) : JournalState D :=
  { s with
    openTokens := s.openTokens.set digest payload
    preissuedAssignmentTokens :=
      s.preissuedAssignmentTokens.set identity.assignmentSha256 ⟨started, digest⟩ }

theorem awaits_of_issues (h : Issues sha journal st waveEventSha256 wave prior identities rest)
    {identity : AttemptIdentity D} (hidentity : identity ∈ identities) (started : ℕ) :
    ∃ waveEvent wave assignment budget, Awaits sha.toContentSha journal st
      ⟨identity, waveEventSha256, started⟩ waveEvent wave assignment budget := by
  obtain ⟨x, hx, budget, hbudget, -, heq⟩ := h.expects.attempts identity hidentity
  exact ⟨_, wave, x, budget, h.declared, h.expects.planned, hidentity, hx, hbudget, heq⟩

abbrev DispatchAttemptJournal.intentEvent (journal : DispatchAttemptJournal D)
    (wave : PlannedWave D) (identity : AttemptIdentity D) (waveEventSha256 : D) (started : ℕ)
    (s : JournalState D) : JournalEvent D :=
  journal.eventCommon wave (.intent (intentPayload identity waveEventSha256 started)) s

/-- One round of the loop of `begin_wave_attempts`. -/
theorem issue_spec (h : Tracks sha journal finished s st) {identity : AttemptIdentity D}
    (hissues : Issues sha journal st waveEventSha256 wave prior identities (identity :: rest))
    (started : ℕ) :
    MeetsAt (DispatchAttemptJournal.appendEvent sha (journal.intentEvent wave identity waveEventSha256 started s)) s
      fun result t =>
        (∀ digest, result = .ok digest → ∃ st',
          Issued sha journal finished s st waveEventSha256 [identity]
            (t.issue identity (DispatchAttemptJournal.intentPayload identity waveEventSha256 started)
              started digest) st' ∧
          Issues sha journal st' waveEventSha256 wave prior identities rest) ∧
        (∀ e, result = .error e → Survives sha journal finished finished t) := by
  have hmem : identity ∈ identities := hissues.subset (by simp)
  -- no event so far has its sequence number
  have hfresh : sha.event (journal.intentEvent wave identity waveEventSha256 started s)
      ∉ st.eventSha256s :=
    (numbered_of_replayFiles h.replays).fresh h.length_eventNames
  have hunopened := hissues.unopened identity (by simp)
  have hreplays : Replays sha journal st wave (sha.event (journal.intentEvent wave identity waveEventSha256 started s))
      (.intent (DispatchAttemptJournal.intentPayload identity waveEventSha256 started))
      { st with
        incomplete := st.incomplete.set
          (sha.event (journal.intentEvent wave identity waveEventSha256 started s))
          (openIntent (DispatchAttemptJournal.intentPayload identity waveEventSha256 started)) } := by
    refine .intent ⟨hissues.declared, rfl, hmem⟩ ⟨rfl, rfl, rfl⟩ fun row hrow hsame => ?_
    obtain ⟨d, hd⟩ := mem_values_iff.mp hrow
    exact hunopened d row hd hsame.1
  have hnext := h.toRecorded.intent
    (s.nextFile (sha.event (journal.intentEvent wave identity waveEventSha256 started s))
      (some (journal.intentEvent wave identity waveEventSha256 started s)))
    rfl rfl hreplays (h.replays_append hissues.expects.planned hreplays) hfresh
    (awaits_of_issues hissues hmem started) hunopened
  refine (h.append hreplays hnext).mono
    fun result t ⟨hreturns, hraises⟩ => ⟨fun digest hdigest => ?_,
      fun e he => (hraises e he).survives h⟩
  obtain ⟨rfl, rfl, hcached⟩ := hreturns digest hdigest
  have hopen : ∀ d, d ∈ st.eventSha256s → d ≠ sha.event (journal.intentEvent wave identity waveEventSha256 started s) :=
    fun d hd hsame => hfresh (hsame ▸ hd)
  have hnames : identity.assignmentSha256 ∉ rest.map (·.assignmentSha256) ∧
      (rest.map (·.assignmentSha256)).Nodup := nodup_cons.mp hissues.distinct
  refine ⟨_, ⟨⟨⟨hcached.toRecorded, hcached.names, hcached.digests⟩, fun d => ?_⟩, rfl, rfl, rfl,
    rfl, fun d intent hd => ?_, fun other hother => ?_, fun other token hother htoken => ?_⟩,
    hissues.expects, hissues.declared, fun _ hx => hissues.subset (mem_cons_of_mem _ hx),
    hnames.2, fun other hother d intent hd => ?_⟩
  · show (st.incomplete.set _ _).get? d = ((s.openTokens.set _ _).get? d).map openIntent
    rw [get?_set, get?_set]
    split
    · rfl
    · exact h.tokens d
  · change (st.incomplete.set _ _).get? d = some intent at hd
    rw [get?_set] at hd
    split at hd
    · obtain rfl := Option.some.inj hd
      exact .inr ⟨by simp [openIntent, DispatchAttemptJournal.intentPayload], rfl⟩
    · exact .inl hd
  · rw [mem_singleton.mp hother]
    refine ⟨⟨started, sha.event (journal.intentEvent wave identity waveEventSha256 started s)⟩, ?_,
      DispatchAttemptJournal.intentPayload identity waveEventSha256 started, ?_, rfl, rfl⟩
    · show (s.preissuedAssignmentTokens.set _ _).get? _ = _
      rw [get?_set, if_pos rfl]
    · show (s.openTokens.set _ _).get? _ = _
      rw [get?_set, if_pos rfl]
  · obtain ⟨hpreissued, payload, hpayload, hrest⟩ := htoken
    have hne := hother identity (by simp)
    have hknown : token.intentSha256 ∈ st.eventSha256s := by
      refine (numbered_of_replayFiles h.replays).intents _ (openIntent payload) ?_
      rw [h.tokens, hpayload]
      rfl
    refine ⟨?_, payload, ?_, hrest⟩
    · show (s.preissuedAssignmentTokens.set _ _).get? _ = _
      rw [get?_set, if_neg (Ne.symm hne)]
      exact hpreissued
    · show (s.openTokens.set _ _).get? _ = _
      rw [get?_set, if_neg (hopen _ hknown)]
      exact hpayload
  · change (st.incomplete.set _ _).get? d = some intent at hd
    rw [get?_set] at hd
    split at hd
    · obtain rfl := Option.some.inj hd
      exact fun hsame => hnames.1 (mem_map.mpr ⟨other, hother, hsame.symm⟩)
    · exact hissues.unopened other (mem_cons_of_mem _ hother) d intent hd

/-- The loop of `begin_wave_attempts`. -/
theorem preissue_spec (clock : ℕ → ℕ) (n : ℕ) (h : Tracks sha journal finished s st)
    (hissues : Issues sha journal st waveEventSha256 wave prior identities rest) :
    MeetsAt (journal.preissue sha wave waveEventSha256 clock n rest) s fun result t =>
      (result = .ok () → ∃ st', Issued sha journal finished s st waveEventSha256 rest t st') ∧
      (∀ e, result = .error e → Survives sha journal finished finished t) := by
  induction rest generalizing n s st with
  | nil =>
    refine meetsAt_pure ⟨fun _ => ⟨st, h, rfl, rfl, rfl, rfl, fun d intent hd => .inl hd,
      by simp, fun identity token hother htoken => htoken⟩, nofun⟩
  | cons identity rest ih =>
    unfold DispatchAttemptJournal.preissue
    refine meetsAt_read (meetsAt_bind (issue_spec h hissues (clock n))
      (fun e t ht => ?_) fun digest t ht => ?_)
    · exact ⟨nofun, fun _ _ => ht.2 e rfl⟩
    obtain ⟨st', hissued, hrest⟩ := ht.1 digest rfl
    refine meetsAt_assign ?_
    refine (ih (n + 1) hissued.tracks hrest).mono fun result t' hresult =>
      ⟨fun hok => ?_, hresult.2⟩
    obtain ⟨st'', hnext⟩ := hresult.1 hok
    refine ⟨st'', hnext.tracks, hnext.latest.trans hissued.latest,
      hnext.waveEvents.trans hissued.waveEvents, hnext.lastFinish.trans hissued.lastFinish,
      hnext.activeWave.trans hissued.activeWave, fun d intent hd => ?_, fun other hother => ?_,
      fun other token hne htoken => ?_⟩
    · rcases hnext.opened d intent hd with hd | ⟨hmem, hwave⟩
      · rcases hissued.opened d intent hd with hd | ⟨hmem, hwave⟩
        · exact .inl hd
        · exact .inr ⟨mem_cons.mpr (.inl (mem_singleton.mp hmem)), hwave⟩
      · exact .inr ⟨mem_cons_of_mem _ hmem, hwave⟩
    · rcases mem_cons.mp hother with rfl | hother
      · obtain ⟨token, htoken⟩ := hissued.issued other (by simp)
        refine ⟨token, hnext.kept other token (fun another hmem hsame => ?_) htoken⟩
        exact (nodup_cons.mp hissues.distinct).1 (mem_map.mpr ⟨another, hmem, hsame⟩)
      · exact hnext.issued other hother
    · refine hnext.kept other token (fun another hmem => hne another (mem_cons_of_mem _ hmem))
        (hissued.kept other token (fun another hmem => ?_) htoken)
      rw [mem_singleton.mp hmem]
      exact hne identity (by simp)

/-- What `begin_wave_attempts` leaves when it returns. -/
structure Begun (sha : JournalSha D) (journal : DispatchAttemptJournal D) (finished : Finished D)
    (st : ReplayState D) (wave : PlannedWave D) (attempts : List (PendingAttempt D))
    (prior : Option D) (t : JournalState D) (st' : ReplayState D) : Prop where
  tracks : Tracks sha journal finished t st'
  launches : Launches sha journal st wave
    ⟨prior, attempts.map (attemptIdentity sha.toContentSha journal.ctx)⟩
  latest : st'.latest = st.latest
  lastFinish : st'.lastFinishPriorScheduleSha256 = st.lastFinishPriorScheduleSha256
  opened : ∀ d intent, st'.incomplete.get? d = some intent →
    intent.identity ∈ attempts.map (attemptIdentity sha.toContentSha journal.ctx) ∧
      ∃ waveEvent, st'.waveEvents.get? intent.waveEventSha256 = some waveEvent ∧
        waveEvent.priorScheduleReceiptSha256 = prior
  issued : ∀ p ∈ attempts, ∃ token,
    Token t (attemptIdentity sha.toContentSha journal.ctx p) token

/-- The WAVE event of `begin_wave_attempts`. -/
theorem wave_spec (h : Tracks sha journal finished s st)
    (hlaunches : Launches sha journal st wave payload) :
    MeetsAt (DispatchAttemptJournal.appendEvent sha
        (journal.eventCommon wave (.wave payload) s)) s fun result t =>
      (∀ digest, result = .ok digest → ∃ st', Tracks sha journal finished t st' ∧
        st'.latest = st.latest ∧
        st'.lastFinishPriorScheduleSha256 = st.lastFinishPriorScheduleSha256 ∧
        st'.incomplete = st.incomplete ∧
        Issues sha journal st' digest wave payload.priorScheduleReceiptSha256
          payload.pendingAttempts payload.pendingAttempts) ∧
      (∀ e, result = .error e → Survives sha journal finished finished t) := by
  obtain ⟨receipt, hreceipt, hprior⟩ := hlaunches.receipt
  have hexpects := expects_of_expectedPending hlaunches.pending
  have hreplays : Replays sha journal st wave
      (sha.event (journal.eventCommon wave (.wave payload) s)) (.wave payload) { st with
        waveEvents := st.waveEvents.set (sha.event (journal.eventCommon wave (.wave payload) s))
          ⟨wave.waveIndex, payload.priorScheduleReceiptSha256, payload.pendingAttempts⟩ } :=
    .wave hlaunches.idle hreceipt hprior hlaunches.pending
  have hnext := h.toRecorded.wave
    (s.nextFile (sha.event (journal.eventCommon wave (.wave payload) s))
      (some (journal.eventCommon wave (.wave payload) s)))
    rfl rfl hreplays (h.replays_append hexpects.planned hreplays)
  refine (h.append hreplays hnext).mono
    fun result t ⟨hreturns, hraises⟩ => ⟨fun digest hdigest => ?_,
      fun e he => (hraises e he).survives h⟩
  obtain ⟨rfl, rfl, hcached⟩ := hreturns digest hdigest
  refine ⟨_, ⟨hcached, h.tokens⟩, rfl, rfl, rfl, ⟨hexpects, ?_, fun _ hx => hx, hexpects.distinct,
    fun identity _ d intent hd => absurd ((hlaunches.get?_incomplete d).symm.trans hd) nofun⟩⟩
  show (st.waveEvents.set _ _).get? _ = _
  rw [get?_set, if_pos rfl]

/-- `begin_wave_attempts`. -/
theorem beginWaveAttempts_spec (h : Tracks sha journal finished s st) (plan : FrozenPlan D)
    (wave : PlannedWave D) (attempts : List (PendingAttempt D)) (prior : Option D)
    (clock : ℕ → ℕ) :
    MeetsAt (journal.beginWaveAttempts sha plan wave attempts prior clock) s
      fun result t =>
        (result = .ok () → ∃ st', Begun sha journal finished st wave attempts prior t st') ∧
        (∀ e, result = .error e → Survives sha journal finished finished t) := by
  unfold DispatchAttemptJournal.beginWaveAttempts
  refine meetsAt_read (meetsAt_check_bind
    (fun e _ => ⟨nofun, fun _ _ => .inl ⟨st, h⟩⟩) fun payload hpayload => ?_)
  obtain ⟨hlaunches, -, rfl⟩ := launches_of_wavePayload h.toRecorded hpayload
  refine meetsAt_read (meetsAt_bind (wave_spec h hlaunches)
    (fun e t ht => ⟨nofun, fun _ _ => ht.2 e rfl⟩) fun digest t ht => ?_)
  obtain ⟨st', htracks, hlatest, hlast, hincomplete, hissues⟩ := ht.1 digest rfl
  have hactive : Tracks sha journal finished { t with activeWave := some (digest, ⟨prior,
      attempts.map (attemptIdentity sha.toContentSha journal.ctx)⟩) } st' :=
    htracks.congr rfl rfl rfl rfl
  refine meetsAt_assign ?_
  refine (preissue_spec clock 0 hactive hissues).mono
    fun result t' hresult => ⟨fun hok => ?_, hresult.2⟩
  obtain ⟨st'', hissued⟩ := hresult.1 hok
  refine ⟨st'', hissued.tracks, hlaunches, hissued.latest.trans hlatest,
    hissued.lastFinish.trans hlast, fun d intent hd => ?_, fun p hp => ?_⟩
  · rcases hissued.opened d intent hd with hd | ⟨hmem, hwave⟩
    · rw [hincomplete] at hd
      exact absurd ((hlaunches.get?_incomplete d).symm.trans hd) nofun
    · rw [hwave, hissued.waveEvents]
      exact ⟨hmem, _, hissues.declared, rfl⟩
  · exact hissued.issued _ (mem_map_of_mem hp)

/-! ## `begin_attempt` -/

/-- The writer after the token of an assignment was taken. -/
def JournalState.withoutToken (s : JournalState D) (assignmentId : D) : JournalState D :=
  { s with preissuedAssignmentTokens := s.preissuedAssignmentTokens.erase assignmentId }

/-- `begin_attempt` writes nothing: it takes the token of the attempt. -/
theorem beginAttempt_spec (sha : JournalSha D) (journal : DispatchAttemptJournal D)
    (s : JournalState D) (plan : FrozenPlan D) (wave : PlannedWave D) (p : PendingAttempt D)
    (count : ℕ) (prior : Option D) :
    MeetsAt (journal.beginAttempt sha plan wave p count prior) s fun result t =>
      (t = s ∨ t = s.withoutToken p.assignment.assignmentId) ∧
        ∀ token, result = .ok token → t = s.withoutToken p.assignment.assignmentId ∧
          s.preissuedAssignmentTokens.get? p.assignment.assignmentId = some token ∧
          ∃ payload, s.openTokens.get? token.intentSha256 = some payload ∧
            payload.identity = attemptIdentity sha.toContentSha journal.ctx p := by
  unfold DispatchAttemptJournal.beginAttempt
  refine meetsAt_read ?_
  refine meetsAt_check_bind (fun e _ => ⟨.inl rfl, nofun⟩) fun _ _ => ?_
  cases htoken : s.preissuedAssignmentTokens.get? p.assignment.assignmentId with
  | none =>
    refine meetsAt_bind (P := fun result t => (∃ e, result = .error e) ∧ t = s) ?_
      (fun e t ht => ⟨.inl ht.2, nofun⟩) fun token t ht => ?_
    · simp [MeetsAt, DispatchAttemptJournal.takeToken, htoken]
    · obtain ⟨⟨e, he⟩, -⟩ := ht
      cases he
  | some token =>
    refine meetsAt_bind (P := fun result t => result = .ok token ∧
      t = s.withoutToken p.assignment.assignmentId) ?_ (fun e t ht => ?_) fun found t ht => ?_
    · simp [MeetsAt, DispatchAttemptJournal.takeToken, htoken, JournalState.withoutToken]
    · cases ht.1
    obtain ⟨hfound, rfl⟩ := ht
    obtain rfl := Except.ok.inj hfound
    refine meetsAt_read ?_
    refine meetsAt_check_bind (fun e _ => ⟨.inr rfl, nofun⟩)
      fun _ hcheck => ⟨.inr rfl, fun token' htoken' => ?_⟩
    obtain rfl := Except.ok.inj htoken'
    refine ⟨rfl, rfl, ?_⟩
    simp only [DispatchAttemptJournal.checkToken, require_eq_ok, id, Option.map_eq_some_iff]
      at hcheck
    exact hcheck

/-! ## `finish_attempt` -/

/-- The checks of `finish_attempt`. -/
structure Accepts (journal : DispatchAttemptJournal D) (s : JournalState D)
    (token : DispatchAttemptJournalToken D) (receipt : AssignmentExecutionReceipt D)
    (intent : AttemptPayload D) (wave : PlannedWave D) (finishedNs : ℕ) : Prop where
  opened : s.openTokens.get? token.intentSha256 = some intent
  assignment : receipt.assignmentSha256 = intent.identity.assignmentSha256
  budget : receipt.budgetSha256 = intent.identity.budgetSha256
  attempt : receipt.attempt = intent.identity.attempt
  prior : receipt.priorAttemptReceiptSha256 = intent.identity.priorAttemptReceiptSha256
  interval : receipt.attemptIntervalsMonotonicNs.getLast?
    = some (token.startedMonotonicNs, finishedNs)
  planned : journal.plan.waves.find? (fun wave => decide (wave.sha256 = receipt.waveSha256))
    = some wave

/-- The payload of the FINISH event that `finish_attempt` writes. -/
def finishedPayload (token : DispatchAttemptJournalToken D)
    (receipt : AssignmentExecutionReceipt D) (intent : AttemptPayload D) (finishedNs : ℕ)
    (types : AttributedTypes := {}) : AttemptPayload D :=
  ⟨intent.identity, intent.waveEventSha256, token.startedMonotonicNs, some finishedNs,
    some token.intentSha256, some receipt, types⟩

theorem finishPayload_eq_ok {payload : AttemptPayload D} {types : AttributedTypes} :
    journal.finishPayload s token receipt types = .ok (wave, payload) ↔ ∃ intent finishedNs,
      Accepts journal s token receipt intent wave finishedNs ∧
      payload = finishedPayload token receipt intent finishedNs types := by
  unfold DispatchAttemptJournal.finishPayload
  split
  · rename_i hnone
    refine ⟨nofun, ?_⟩
    rintro ⟨intent, finishedNs, haccepts, -⟩
    rw [haccepts.opened] at hnone
    cases hnone
  · rename_i hnone hopen
    refine ⟨nofun, ?_⟩
    rintro ⟨intent, finishedNs, haccepts, -⟩
    rw [haccepts.interval] at hnone
    cases hnone
  · rename_i intent started finishedNs hopen hinterval
    simp only [bind_eq_ok, check_eq_ok]
    constructor
    · rintro ⟨⟨hassignment, hbudget, hattempt, hprior, rfl⟩, h⟩
      split at h
      · cases h
      · rename_i found hfound
        obtain ⟨rfl, rfl⟩ := Prod.mk.inj (pure_eq_ok.mp h)
        exact ⟨intent, finishedNs, ⟨hopen, hassignment, hbudget, hattempt, hprior, hinterval,
          hfound⟩, rfl⟩
    · rintro ⟨intent', finishedNs', haccepts, rfl⟩
      obtain rfl : intent = intent' := Option.some.inj (hopen.symm.trans haccepts.opened)
      obtain ⟨rfl, rfl⟩ := Prod.mk.inj (Option.some.inj (hinterval.symm.trans haccepts.interval))
      refine ⟨⟨haccepts.assignment, haccepts.budget, haccepts.attempt, haccepts.prior, rfl⟩, ?_⟩
      rw [haccepts.planned]
      rfl

/-- The receipt is about its assignment: it names the plan, counts the devices of
the inventory, and names the wave of the assignment and, when it succeeded, the
cell, the inventory, the GPUs and the plan. -/
structure Describes (journal : DispatchAttemptJournal D) (receipt : AssignmentExecutionReceipt D) :
    Prop where
  planSha256 : receipt.planSha256 = journal.plan.sha256
  count : receipt.fixedInstanceGpuCount = journal.ctx.deviceCount
  place : ∀ wave ∈ journal.plan.waves, ∀ x ∈ wave.assignments,
    x.assignmentId = receipt.assignmentSha256 → receipt.waveSha256 = wave.sha256 ∧
      (receipt.succeeded = true → ∃ binding ∈ receipt.terminalBinding,
        BindingMatches journal x binding)

/-- The variables of the reader's loop after a FINISH event. -/
def ReplayState.closed (st : ReplayState D) (intentSha256 : D)
    (receipt : AssignmentExecutionReceipt D) (prior : Option D) : ReplayState D :=
  { st with
    incomplete := st.incomplete.erase intentSha256
    latest := st.latest.set receipt.assignmentSha256 receipt
    lastFinishPriorScheduleSha256 := prior }

/-- The reader takes a FINISH event whose receipt is about its assignment and
whose token has the start time of the intent. -/
theorem replays_finish (h : Tracks sha journal finished s st) {intent : AttemptPayload D}
    {finishedNs : ℕ} (hvalid : receipt.postInit sha.toContentSha = .ok ())
    (haccepts : Accepts journal s token receipt intent wave finishedNs)
    (hstarted : token.startedMonotonicNs = intent.startedMonotonicNs)
    (hdescribes : Describes journal receipt) (digest : D) :
    journal.plan.waves[wave.waveIndex]? = some wave ∧
    ∃ waveEvent, st.waveEvents.get? intent.waveEventSha256 = some waveEvent ∧
      Replays sha journal st wave digest (.finish (finishedPayload token receipt intent finishedNs))
        (st.closed token.intentSha256 receipt waveEvent.priorScheduleReceiptSha256) := by
  have hopen : st.incomplete.get? token.intentSha256 = some (openIntent intent) := by
    rw [h.tokens, haccepts.opened]
    rfl
  obtain ⟨waveEvent, wave', assignment, budget, hawaits⟩ := h.awaits _ _ hopen
  have hmem := mem_of_getElem? hawaits.planned
  have hindex := journal.plan.waveIndex_eq hawaits.planned
  have hid : intent.identity.assignmentSha256 = assignment.assignmentId :=
    congrArg AttemptIdentity.assignmentSha256 hawaits.identity
  have hbudget : intent.identity.budgetSha256 = budget.sha256 :=
    congrArg AttemptIdentity.budgetSha256 hawaits.identity
  obtain ⟨hwaveSha, hsuccess⟩ := hdescribes.place wave' hmem assignment hawaits.mem
    (hid.symm.trans haccepts.assignment.symm)
  -- the wave that the writer finds is the one of the assignment
  obtain rfl : wave = wave' := by
    refine inj_on_of_nodup_map journal.plan.distinctWaves
      (mem_of_find?_eq_some haccepts.planned) hmem ?_
    have hfound : wave.sha256 = receipt.waveSha256 := by
      simpa using find?_some haccepts.planned
    exact hfound.trans hwaveSha
  have hordered : token.startedMonotonicNs ≤ finishedNs :=
    (AssignmentExecutionReceipt.accounted_of_postInit hvalid).separated.1 _
      (mem_of_getLast? haccepts.interval)
  refine ⟨by rw [hindex]; exact hawaits.planned, waveEvent, hawaits.declared, ?_⟩
  unfold ReplayState.closed
  rw [haccepts.assignment]
  refine .finish ⟨hawaits.declared, hindex.symm, hawaits.pending⟩
    ⟨rfl, rfl, rfl, hordered, ?_, rfl, hvalid⟩ ?_ hawaits.allowed ?_
    ⟨hdescribes.planSha256, hwaveSha, haccepts.assignment.trans hid, haccepts.budget.trans hbudget,
      haccepts.interval, hsuccess⟩
  · rw [hopen]
    unfold openIntent finishedPayload
    rw [hstarted]
  · show wave.assignments.find? (fun x =>
      decide (x.assignmentId = intent.identity.assignmentSha256)) = some assignment
    rw [hid]
    exact Rows.find?_of_nodup (journal.plan.nodup_assignments hmem) hawaits.mem fun b => by simp
  · show intent.identity = attemptIdentity sha.toContentSha journal.ctx
      ⟨assignment, receipt.attempt, budget, st.latest.get? intent.identity.assignmentSha256⟩
    rw [haccepts.attempt, hid]
    exact hawaits.identity

/-- `finish_attempt` of a receipt that is about its assignment. -/
theorem finishAttempt_spec (h : Tracks sha journal finished s st)
    (hvalid : receipt.postInit sha.toContentSha = .ok ())
    (hconforms : ∀ intent wave finishedNs, Accepts journal s token receipt intent wave finishedNs →
      token.startedMonotonicNs = intent.startedMonotonicNs ∧ Describes journal receipt) :
    MeetsAt (journal.finishAttempt sha token receipt) s fun result t =>
      (result = .ok () → ∃ intent waveEvent digest,
        s.openTokens.get? token.intentSha256 = some intent ∧
        st.waveEvents.get? intent.waveEventSha256 = some waveEvent ∧
        t.preissuedAssignmentTokens = s.preissuedAssignmentTokens ∧
        t.openTokens = s.openTokens.erase token.intentSha256 ∧
        Tracks sha journal (finished ++ [(token, receipt)]) t
          ((st.closed token.intentSha256 receipt
            waveEvent.priorScheduleReceiptSha256).noted digest)) ∧
      (∀ e, result = .error e → Failed sha journal (finished ++ [(token, receipt)]) s t) := by
  unfold DispatchAttemptJournal.finishAttempt
  refine meetsAt_read ?_
  refine meetsAt_check_bind (fun e _ => ⟨nofun, fun _ _ => .inl ⟨rfl, rfl, rfl, rfl, rfl⟩⟩)
    fun parts hparts => ?_
  obtain ⟨wave, payload⟩ := parts
  obtain ⟨intent, finishedNs, haccepts, rfl⟩ := finishPayload_eq_ok.mp hparts
  obtain ⟨hstarted, hdescribes⟩ := hconforms intent wave finishedNs haccepts
  obtain ⟨hplanned, waveEvent, hwaveEvent, hreplays⟩ := replays_finish h hvalid haccepts hstarted
    hdescribes (sha.event (journal.eventCommon wave
      (.finish (finishedPayload token receipt intent finishedNs)) s))
  have hnext := h.toRecorded.finish
    (s.nextFile (sha.event (journal.eventCommon wave
        (.finish (finishedPayload token receipt intent finishedNs)) s))
      (some (journal.eventCommon wave
        (.finish (finishedPayload token receipt intent finishedNs)) s)))
    token rfl rfl hreplays (h.replays_append hplanned hreplays) rfl rfl hdescribes.count
  refine meetsAt_read (meetsAt_bind (h.append hreplays hnext)
    (fun e t ht => ⟨nofun, fun _ _ => ht.2 e rfl⟩) fun digest t ht => ⟨fun _ => ?_, nofun⟩)
  obtain ⟨rfl, rfl, hcached⟩ := ht.1 digest rfl
  refine ⟨intent, waveEvent, _, haccepts.opened, hwaveEvent, rfl, rfl,
    ⟨⟨hcached.toRecorded, hcached.names, hcached.digests⟩, fun d => ?_⟩⟩
  show (st.incomplete.erase _).get? d = ((s.openTokens.erase _).get? d).map openIntent
  rw [get?_erase, get?_erase]
  split
  · rfl
  · exact h.tokens d

end Pool

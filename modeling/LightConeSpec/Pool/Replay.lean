import LightConeSpec.Pool.Mirror
import LightConeSpec.Pool.Poison

/-!
# Replay and execution

A chain of calls that writes to one journal. After every call that returns, the
journal's replay gives the receipt that the call returned, and the files up to
then give it for good.
-/

namespace Pool

open Python Intervals List Method

variable {D : Type} [DecidableEq D] {sha : JournalSha D} {journal : DispatchAttemptJournal D}
  {finished : Finished D} {st : ReplayState D}

/-! ## Runners -/

/-- An authority that a runner returns for a cell, and whose attester policy is ready for
release, is about the plan and the cell. -/
def GenuineOutcome (plan : FrozenPlan D) (itemId : D) (outcome : RunnerOutcome D) : Prop :=
  ∀ terminal, outcome = .ok (some terminal) → terminal.policyReleaseReady = true →
    ∀ binding, terminal.reopened = .ok binding →
      binding.dispatchPlanSha256 = plan.sha256 ∧ binding.cellId = itemId

/-- The runner's outcomes in a wave are about the plan and the cells of the
assignments. -/
def WaveWorld.Genuine (plan : FrozenPlan D) (world : WaveWorld D) : Prop :=
  ∀ move ∈ world.moves, ∀ outcome finished finishedAfterError,
    move.2 = .finish outcome finished finishedAfterError →
      ∀ wave ∈ plan.waves, ∀ x ∈ wave.assignments, x.assignmentId = move.1 →
        GenuineOutcome plan x.itemId outcome

/-- The same for all waves of a call. -/
def Call.Genuine (plan : FrozenPlan D) (call : Call D) : Prop :=
  ∀ i, (call.worlds i).Genuine plan

section Wave

variable {scope : WaveScope D} {p : PendingAttempt D}

theorem describes_of_extends {started : ℕ} {receipt : AssignmentExecutionReceipt D}
    (hplan : scope.plan = journal.plan) (hcount : scope.ctx.deviceCount = journal.ctx.deviceCount)
    (hwave : scope.wave ∈ journal.plan.waves) (hp : p.assignment ∈ scope.wave.assignments)
    (hextends : Extends sha.toContentSha scope p started receipt)
    (hsuccess : receipt.succeeded = true → ∃ binding ∈ receipt.terminalBinding,
      BindingMatches journal p.assignment binding) : Describes journal receipt := by
  refine ⟨hplan ▸ hextends.planSha256, hextends.fixedCount.trans hcount, fun w hw x hx hid => ?_⟩
  obtain ⟨i, hi⟩ := mem_iff_getElem?.mp hwave
  obtain ⟨j, hj⟩ := mem_iff_getElem?.mp hw
  obtain ⟨rfl, rfl⟩ := journal.plan.assignment_unique hi hj hp hx
    (hextends.assignment.symm.trans hid.symm)
  obtain rfl := Option.some.inj (hi.symm.trans hj)
  exact ⟨hextends.waveSha256, hsuccess⟩

/-- The receipt of a genuine outcome is about its assignment. -/
theorem describes_of_terminalReceipt {outcome : RunnerOutcome D}
    {started finished finishedAfterError : ℕ} {receipt : AssignmentExecutionReceipt D}
    (hplan : scope.plan = journal.plan) (hcount : scope.ctx.deviceCount = journal.ctx.deviceCount)
    (hinventory : scope.ctx.inventorySha256 = journal.ctx.inventorySha256)
    (hwave : scope.wave ∈ journal.plan.waves) (hp : p.assignment ∈ scope.wave.assignments)
    (hgenuine : GenuineOutcome journal.plan p.assignment.itemId outcome)
    (h : terminalReceipt sha.toContentSha scope p outcome started finished finishedAfterError
      = .ok receipt) : Describes journal receipt := by
  refine describes_of_extends hplan hcount hwave hp (extends_of_terminalReceipt h)
    fun hsucceeded => ?_
  unfold terminalReceipt at h
  split at h
  · rename_i made hmade
    obtain rfl := Except.ok.inj h
    unfold successReceipt at hmade
    obtain ⟨terminal?, houtcome, hmade⟩ := bind_eq_ok.mp hmade
    cases terminal? with
    | none => cases hmade
    | some terminal =>
      simp only [bind_eq_ok, AssignmentExecutionReceipt.construct, validated_eq_ok] at hmade
      obtain ⟨binding, hbinding, elapsed, -, hvalid, rfl⟩ := hmade
      simp only [AssignmentTerminalAuthority.revalidate, bind_eq_ok, check_eq_ok,
        validated_eq_ok] at hbinding
      obtain ⟨-, reopened, hreopened, -, ⟨hready, -⟩, -, rfl⟩ := hbinding
      obtain ⟨hdispatch, hcell⟩ := hgenuine terminal houtcome hready reopened hreopened
      exact ⟨_, rfl, hcell, hinventory, rfl, hdispatch⟩
  · rename_i error herror
    split at h
    · -- a failed attempt has no binding
      simp only [failureReceipt, bind_eq_ok, AssignmentExecutionReceipt.construct,
        validated_eq_ok] at h
      obtain ⟨elapsed, -, hvalid, rfl⟩ := h
      cases hsucceeded
    · cases h

end Wave

/-! ## One wave -/

/-- All receipts of the events are about their assignments. -/
def AllDescribed (journal : DispatchAttemptJournal D) (events : List (ExecutionEvent D)) : Prop :=
  ∀ r, .recorded r ∈ events → Describes journal r

/-- The journal holds the receipts of the events, and no intent is open. -/
structure Mirrors (sha : JournalSha D) (journal : DispatchAttemptJournal D)
    (s : Session D (JournalState D)) (finished : Finished D) (st : ReplayState D) : Prop
    extends Tracks sha journal finished s.journal st where
  idle : ∀ d, st.incomplete.get? d = none
  receipts : ∀ a, receiptsOf s.events a = Log.written finishedEntry finished a
  described : AllDescribed journal s.events

variable {s : Session D (JournalState D)}

/-- The last receipts of the journal are those of the events. -/
theorem Mirrors.latestReceipt_eq (h : Mirrors sha journal s finished st) :
    latestReceipt s.events = st.latest.get? := by
  funext a
  rw [h.latest a]
  exact congrArg List.getLast? (h.receipts a)

section Wave

variable {scope : WaveScope D} {rows : List (AssignmentExecutionReceipt D)} {world : WaveWorld D}
  {s : Session D (JournalState D)}

/-- The scope is that of a wave of the journal's plan, in its context. -/
structure ScopeOf (journal : DispatchAttemptJournal D) (scope : WaveScope D) : Prop where
  plan : scope.plan = journal.plan
  wave : scope.wave ∈ journal.plan.waves
  count : scope.ctx.deviceCount = journal.ctx.deviceCount
  inventory : scope.ctx.inventorySha256 = journal.ctx.inventorySha256

/-- The receipts of a group with genuine outcomes are about their assignments. -/
theorem allDescribed_moves (sha : JournalSha D) (hscope : ScopeOf journal scope)
    (hgenuine : world.Genuine journal.plan) {pending : List (PendingAttempt D)}
    (hpending : ∀ p ∈ pending, p.assignment ∈ scope.wave.assignments)
    (hs : AllDescribed journal s.events) :
    ∃ tasks s', runGroup sha.toContentSha (some (journal.sink sha)) scope pending world.moves s
      = (.ok tasks, s') ∧ AllDescribed journal s'.events := by
  refine runGroup_moves (I := fun g => AllDescribed journal g.session.events)
    (fun g hg move hmove r hr => ?_) hs
  rcases recorded_advance hr with hr | ⟨p, hp, hid, started, outcome, fin, fin', hfinish, hreceipt⟩
  · exact hg r hr
  · exact describes_of_terminalReceipt hscope.plan hscope.count hscope.inventory hscope.wave
      (hpending p hp) (hgenuine move hmove outcome fin fin' hfinish _ hscope.wave _ (hpending p hp)
        hid) hreceipt

/-- A wave that returns leaves a journal that mirrors the events. -/
theorem runWave_mirrors (h : Mirrors sha journal s finished st) (hscope : ScopeOf journal scope)
    (hgenuine : world.Genuine journal.plan) :
    MeetsAt (runWave sha.toContentSha (some (journal.sink sha)) scope rows world) s
      fun result t => ∀ receipt, result = .ok receipt → ∃ finished' st',
        Mirrors sha journal t finished' st' ∧
        st'.lastFinishPriorScheduleSha256 = scope.priorScheduleReceiptSha256 := by
  refine meetsAt_check_bind (fun e _ _ h => by cases h) fun pending hpending => ?_
  have hmem : ∀ p ∈ pending, p.assignment ∈ scope.wave.assignments :=
    fun p hp => mem_assignments_of_pendingAttempts hpending hp
  have hdistinct := nodup_pendingAttempts hscope.wave hpending
  have hbegin := beginWaveAttempts_spec h.toTracks scope.plan scope.wave pending
    scope.priorScheduleReceiptSha256 world.clock
  refine meetsAt_bind (P := fun result t => t.events = s.events ∧ (result = .ok () → ∃ st',
    Begun sha journal finished st scope.wave pending scope.priorScheduleReceiptSha256 t.journal
      st')) ⟨rfl, hbegin.1⟩ (fun e t _ _ h => by cases h) fun _ t ht => ?_
  obtain ⟨hevents, hbegun⟩ := ht
  obtain ⟨st', hbegun⟩ := hbegun rfl
  obtain ⟨tasks, s', hgroup, hfollows⟩ := runGroup_follows hbegun rfl hdistinct hscope.count
    world.moves
  obtain ⟨tasks', s'', hgroup', hdescribed⟩ := allDescribed_moves sha hscope hgenuine hmem
    (hevents ▸ h.described)
  obtain ⟨-, rfl⟩ := Prod.mk.inj (hgroup.symm.trans hgroup')
  unfold MeetsAt
  rw [bind_apply_ok hgroup, check_bind_check]
  intro receipt hreceipt
  obtain ⟨receipts, hcollect, -⟩ := bind_eq_ok.mp hreceipt
  have hreturned : ∀ p ∈ pending, ∃ r, tasks p.assignment.assignmentId = .returned r :=
    fun p hp => returned_of_collectReceipts hcollect _ (hmem p hp)
      ((pendingAttempts_spec hpending).1 p hp).open_
  have hraised : ¬HasRaised pending ⟨tasks, s'⟩ := by
    rintro ⟨p, hp, error, herror⟩
    obtain ⟨r, hr⟩ := hreturned p hp
    cases hr.symm.trans herror
  cases hfollows with
  | live new st'' hlive =>
    refine ⟨finished ++ new, st'', ⟨hlive.toTracks, hlive.idle hreturned, fun a => ?_,
      hdescribed⟩, hlive.prior ?_⟩
    · rw [hlive.receipts a, Log.written_append, hevents, h.receipts a]
    · -- some attempt was pending, and it has returned
      obtain ⟨p, hp⟩ := exists_mem_of_ne_nil pending fun hnil =>
        (expects_of_expectedPending hbegun.launches.pending).nonempty (by simp [hnil])
      intro hnil
      have hfound := (hlive.returned p hp).mpr (hreturned p hp)
      rw [hnil] at hfound
      cases hfound
  | lost new hlost => exact absurd hlost.raised hraised
  | poisoned hpoisoned =>
    rcases hpoisoned.because with hbecause | ⟨r, hr, hforeign⟩
    · exact absurd hbecause hraised
    · exact absurd (hdescribed r hr) hforeign

end Wave

/-! ## One call -/

/-- The journal mirrors the events, and its last FINISH event follows the schedule
receipt that the current one follows, which is one of a plan with waves. -/
def InStep (sha : JournalSha D) (journal : DispatchAttemptJournal D)
    (s : Session D (JournalState D)) (current : Option (DispatchScheduleReceipt D)) : Prop :=
  ∃ finished st, Mirrors sha journal s finished st ∧ ∀ R, current = some R →
    st.lastFinishPriorScheduleSha256 = R.priorScheduleReceiptSha256 ∧ journal.plan.waves ≠ []

/-- An execution context issues no plan without waves. -/
theorem waves_ne_nil {plan : FrozenPlan D} {ctx : ExecutionContext D} {u : Unit}
    (h : validateDispatchPlanForExecution plan ctx = .ok u) : plan.waves ≠ [] := by
  simp only [validateDispatchPlanForExecution, bind_eq_ok, require_eq_ok] at h
  obtain ⟨expected, hissue, rfl⟩ := h
  exact ctx.issuesWaves plan hissue

/-- By induction on the waves, each of which leaves the journal in step. -/
theorem runWaves_inStep (ctx : ExecutionContext D)
    (hcount : ctx.deviceCount = journal.ctx.deviceCount)
    (hinventory : ctx.inventorySha256 = journal.ctx.inventorySha256) {worlds : ℕ → WaveWorld D}
    (hgenuine : ∀ i, (worlds i).Genuine journal.plan) {waves : List (PlannedWave D)}
    (hwaves : waves ⊆ journal.plan.waves) {loop : LoopState D}
    (h : InStep sha journal s loop.currentScheduleReceipt) :
    MeetsAt (runWaves sha.toContentSha (some (journal.sink sha)) journal.plan ctx worlds waves
      loop) s fun result t => ∀ R, result = .ok R → InStep sha journal t (some R) := by
  induction waves generalizing loop s with
  | nil =>
    unfold runWaves
    cases hcurrent : loop.currentScheduleReceipt with
    | none => exact fun _ h => by cases h
    | some receipt =>
      intro R hR
      obtain rfl := Except.ok.inj hR
      rw [hcurrent] at h
      exact h
  | cons wave rest ih =>
    obtain ⟨hwave, hrest⟩ := cons_subset.mp hwaves
    obtain ⟨finished, st, hmirrors, -⟩ := h
    unfold runWaves
    refine meetsAt_bind (runWave_mirrors hmirrors ⟨rfl, hwave, hcount, hinventory⟩
      (hgenuine _)) (fun e t _ _ h => by cases h) fun waveReceipt t ht => ?_
    obtain ⟨finished', st', hmirrors', hprior⟩ := ht waveReceipt rfl
    refine meetsAt_check_bind (fun e _ _ h => by cases h) fun state _ => ?_
    refine meetsAt_check_bind (fun e _ _ h => by cases h) fun receipt hreceipt => ?_
    obtain ⟨-, -, rfl⟩ := makeScheduleReceipt_eq_ok.mp hreceipt
    split
    · intro R hR
      obtain rfl := Except.ok.inj hR
      refine ⟨finished', st', hmirrors', fun R hR => ?_⟩
      obtain rfl := Option.some.inj hR
      exact ⟨hprior, ne_nil_of_mem hwave⟩
    · refine ih hrest ⟨finished', st', hmirrors', fun R hR => ?_⟩
      obtain rfl := Option.some.inj hR
      exact ⟨hprior, ne_nil_of_mem hwave⟩

/-- A call that returns leaves a journal that mirrors the events. -/
theorem executeDispatchPlan_inStep {resume : Option (DispatchScheduleReceipt D)} {call : Call D}
    (hgenuine : call.Genuine journal.plan) (h : InStep sha journal s resume) :
    MeetsAt (executeDispatchPlan sha.toContentSha (some (journal.sink sha)) journal.plan
      journal.ctx resume call) s fun result t => ∀ R, result = .ok R → InStep sha journal t (some R)
    := by
  refine meetsAt_check_bind (fun e _ => nofun) fun opened hopened => ?_
  simp only [openSchedule, bind_eq_ok, check_eq_ok] at hopened
  obtain ⟨-, _, hvalid, -, -, -, hopened⟩ := hopened
  split at hopened
  · -- the receipt that is resumed is complete
    rename_i receipt hfilter
    obtain rfl := pure_eq_ok.mp hopened
    obtain ⟨rfl, -⟩ := Option.filter_eq_some_iff.mp hfilter
    intro R hR
    obtain rfl := Except.ok.inj hR
    exact h
  · simp only [bind_eq_ok, check_eq_ok] at hopened
    obtain ⟨-, hopened⟩ := hopened
    rw [if_neg (waves_ne_nil hvalid)] at hopened
    obtain ⟨⟨waves, loop⟩, hwaves, rfl⟩ := map_eq_ok.mp hopened
    simp only [openWaves, bind_eq_ok, pure_eq_ok] at hwaves
    obtain ⟨planned, -, state, -, hwaves⟩ := hwaves
    obtain ⟨rfl, rfl⟩ := Prod.mk.inj hwaves
    refine runWaves_inStep { journal.ctx with
        resumeTerminalAuthorities := call.resumeTerminalAuthorities } rfl rfl hgenuine
      (fun w hw => mem_of_mem_take (mem_of_mem_drop hw)) ?_
    exact h

/-! ## Chains -/

theorem inStep_start (disk : ℕ → WriteOutcome) :
    InStep sha journal (Chain.start (JournalState.new disk)).session none :=
  ⟨[], {}, ⟨tracks_new disk, fun _ => rfl, fun _ => rfl, nofun⟩, nofun⟩

theorem InStep.returned {R : DispatchScheduleReceipt D} (h : InStep sha journal s (some R)) :
    InStep sha journal (s.emit (.returned R)) (some R) := by
  obtain ⟨finished, st, hmirrors, hprior⟩ := h
  refine ⟨finished, st, ⟨hmirrors.toTracks, hmirrors.idle, fun a => ?_, fun r hr => ?_⟩, hprior⟩
  · exact receiptsOf_returned.trans (hmirrors.receipts a)
  · exact hmirrors.described r (by simpa [Session.emit] using hr)

/-- The chain has not ended, or a call has raised. -/
def ChainInStep (sha : JournalSha D) (journal : DispatchAttemptJournal D)
    (chain : Chain D (JournalState D)) : Prop :=
  chain.ended = false → InStep sha journal chain.session chain.receipt

theorem chainInStep_next {chain : Chain D (JournalState D)}
    (h : ChainInStep sha journal chain) {call : Call D} (hgenuine : call.Genuine journal.plan) :
    ChainInStep sha journal
      (chain.next sha.toContentSha (some (journal.sink sha)) journal.plan journal.ctx call) := by
  unfold Chain.next
  cases hended : chain.ended with
  | true =>
    rw [if_pos rfl]
    exact h
  | false =>
    rw [if_neg (by simp)]
    have hcall := executeDispatchPlan_inStep hgenuine (h hended)
    cases hresult : executeDispatchPlan sha.toContentSha (some (journal.sink sha)) journal.plan
        journal.ctx chain.receipt call chain.session with
    | mk result t =>
      cases result with
      | error e => exact nofun
      | ok R => exact fun _ => (hcall.of_eq hresult R rfl).returned

theorem chainInStep_run (disk : ℕ → WriteOutcome)
    {calls : List (Call D)} (hgenuine : ∀ call ∈ calls, call.Genuine journal.plan) :
    ChainInStep sha journal (Chain.run sha.toContentSha (some (journal.sink sha)) journal.plan
      journal.ctx (JournalState.new disk) calls) := by
  have hall : ∀ chain, ChainInStep sha journal chain → ChainInStep sha journal
      (calls.foldl (Chain.next sha.toContentSha (some (journal.sink sha)) journal.plan journal.ctx)
        chain) := by
    induction calls with
    | nil => exact fun chain h => h
    | cons call calls ih =>
      exact fun chain h => ih (fun c hc => hgenuine c (mem_cons_of_mem _ hc)) _
        (chainInStep_next h (hgenuine call (by simp)))
  exact hall _ fun _ => inStep_start disk

/-- A chain only adds files. -/
theorem files_prefix_run (sha : JournalSha D) (journal : DispatchAttemptJournal D)
    (journalState : JournalState D) (first rest : List (Call D)) :
    (Chain.run sha.toContentSha (some (journal.sink sha)) journal.plan journal.ctx journalState
        first).session.journal.files <+:
      (Chain.run sha.toContentSha (some (journal.sink sha)) journal.plan journal.ctx journalState
        (first ++ rest)).session.journal.files := by
  unfold Chain.run
  rw [foldl_append]
  generalize first.foldl _ (Chain.start journalState) = chain
  induction rest generalizing chain with
  | nil => exact prefix_rfl
  | cons call rest ih =>
    refine List.IsPrefix.trans ?_ (ih _)
    unfold Chain.next
    split
    · exact prefix_rfl
    · have hfiles := (writeRelation_files sha).executeDispatchPlan journal journal.plan journal.ctx
        chain.receipt call chain.session
      cases hresult : executeDispatchPlan sha.toContentSha (some (journal.sink sha)) journal.plan
          journal.ctx chain.receipt call chain.session with
      | mk result t =>
        have hgrows : chain.session.journal.files <+: t.journal.files := hfiles.of_eq hresult
        cases result with
        | error e => exact hgrows
        | ok R => exact hgrows

/-- After a call that returned, `replay` gives the receipt that it returned, and no
intent is incomplete. -/
def ReplayAgrees (sha : JournalSha D) (journal : DispatchAttemptJournal D)
    (isResolved : String → Except Error Bool) (chain : Chain D (JournalState D)) : Prop :=
  chain.ended = false → ∀ R, chain.receipt = some R → ∃ snapshot,
    journal.replayOn sha isResolved chain.session.journal.files none = .ok snapshot ∧
      snapshot.incompleteIntentSha256s = [] ∧ snapshot.receipt = some R

/-- The replay of the files after a call that returned. -/
theorem replay_of_inStep {chain : Chain D (JournalState D)}
    (h : InStep sha journal chain.session chain.receipt) {n : ℕ} {R : DispatchScheduleReceipt D}
    (hR : chain.receipt = some R)
    (hsound : Sound journal.plan journal.ctx chain.session.events n R) : ∃ st,
      journal.replay sha chain.session.journal.files none
        = .ok (journal.snapshotOf sha st (some R)) ∧ st.incomplete.entries.map Prod.fst = [] ∧
      st.eventSha256s.length = chain.session.journal.files.length ∧
      chain.session.journal.files ≠ [] := by
  obtain ⟨finished, st, hmirrors, hcurrent⟩ := h
  obtain ⟨hprior, hplan⟩ := hcurrent R hR
  obtain ⟨m, hcovers, hreplay⟩ := hmirrors.replay_eq_ok
  have hlatest := hmirrors.latestReceipt_eq
  have hcovers' := hsound.covers
  rw [hlatest] at hcovers'
  obtain rfl : m = n := le_antisymm (hcovers'.le_of_covers hcovers) (hcovers.le_of_covers hcovers')
  have hreceipt := hsound.scheduleOf_eq hplan
  rw [hlatest, ← hprior] at hreceipt
  rw [hreceipt] at hreplay
  refine ⟨st, hreplay, ?_, hmirrors.length_eventSha256s, fun hnil => ?_⟩
  · rw [eq_nil_iff_forall_not_mem]
    intro d hd
    obtain ⟨intent, hintent⟩ := (Recorded.mem_incomplete d).mp hd
    rw [hmirrors.idle d] at hintent
    cases hintent
  · -- a receipt of a plan with waves is made of FINISH events
    have hreplays := hmirrors.replays
    rw [hnil] at hreplays
    obtain rfl := Except.ok.inj hreplays
    obtain ⟨wave, waves, hwaves⟩ := exists_cons_of_ne_nil hplan
    have hwave : wave ∈ journal.plan.waves := by simp [hwaves]
    obtain ⟨x, hx⟩ := exists_mem_of_ne_nil _ (journal.plan.nonempty wave hwave)
    have hmem : wave ∈ journal.plan.waves.take m := by
      obtain ⟨k, rfl⟩ := Nat.exists_eq_succ_of_ne_zero fun hzero => hplan (hsound.nonempty hzero)
      simp [hwaves]
    exact absurd (hcovers.present wave hmem x hx) (by simp [Dict.get?, Dict.empty])

/-- `replay` of the first files only looks at these. -/
theorem replayOn_prefix (isResolved : String → Except Error Bool)
    {files files' : List (JournalFile D)} (hgrows : files <+: files') (hne : files ≠ []) :
    journal.replayOn sha isResolved files' (some files.length)
      = journal.replayOn sha isResolved files none := by
  obtain ⟨more, rfl⟩ := hgrows
  have hpositive : 1 ≤ files.length := length_pos_iff.mpr hne
  have hnames : DispatchAttemptJournal.replayNames (files ++ more) (some files.length)
      = .ok files := by
    simp only [DispatchAttemptJournal.replayNames, bind_eq_ok, check_eq_ok, pure_eq_ok]
    exact ⟨hpositive, by simp, take_left⟩
  unfold DispatchAttemptJournal.replayOn DispatchAttemptJournal.replay
  rw [hnames]
  rfl

/-- In a chain of calls whose release-ready authorities are about the plan and their
cells, the journal refines the execution: after each call that returned, replaying the
files gives the receipt it returned, as does replaying the same files later. Replaying
decodes the terminal bindings again, whose files are where they were. -/
theorem replay_refines_execution (sha : JournalSha D) (journal : DispatchAttemptJournal D)
    (disk : ℕ → WriteOutcome) (first rest : List (Call D))
    (isResolved : String → Except Error Bool)
    (hgenuine : ∀ call ∈ first, call.Genuine journal.plan)
    (hstand : BindingsStand isResolved (finishesOf (Chain.run sha.toContentSha
      (some (journal.sink sha)) journal.plan journal.ctx (JournalState.new disk)
        first).session.journal.files)) :
    let chain := Chain.run sha.toContentSha (some (journal.sink sha)) journal.plan journal.ctx
      (JournalState.new disk) first
    let later := Chain.run sha.toContentSha (some (journal.sink sha)) journal.plan journal.ctx
      (JournalState.new disk) (first ++ rest)
    ReplayAgrees sha journal isResolved chain ∧
      (chain.ended = false → ∀ R, chain.receipt = some R → ∃ snapshot binding,
        journal.replayOn sha isResolved chain.session.journal.files none = .ok snapshot ∧
        snapshot.binding = some binding ∧
        ∃ before, journal.replayOn sha isResolved later.session.journal.files
            (some binding.eventCount) = .ok before ∧
          before.receipt = some R ∧ before.binding = some binding) := by
  intro chain later
  have hinvariant : ChainInvariant journal.plan journal.ctx chain :=
    chainInvariant_run (JournalState.new disk) first
  have hstep : ChainInStep sha journal chain := chainInStep_run disk hgenuine
  have hreplay : chain.ended = false → ∀ R, chain.receipt = some R → ∃ st,
      journal.replayOn sha isResolved chain.session.journal.files none
        = .ok (journal.snapshotOf sha st (some R)) ∧
      st.incomplete.entries.map Prod.fst = [] ∧
      st.eventSha256s.length = chain.session.journal.files.length ∧
      chain.session.journal.files ≠ [] := by
    intro hended R hR
    have hresumable := hinvariant.resumable hended
    rw [hR] at hresumable
    obtain ⟨n, hsound⟩ := hresumable
    rw [replayOn_eq sha journal rfl hstand]
    exact replay_of_inStep (hstep hended) hR hsound
  refine ⟨fun hended R hR => ?_, fun hended R hR => ?_⟩
  · obtain ⟨st, hst, hidle, -⟩ := hreplay hended R hR
    exact ⟨_, hst, hidle, rfl⟩
  · obtain ⟨st, hst, -, hlength, hne⟩ := hreplay hended R hR
    cases hlast : st.eventSha256s.getLast? with
    | none =>
        rw [List.getLast?_eq_none_iff.mp hlast] at hlength
        exact absurd (List.length_eq_zero_iff.mp hlength.symm) hne
    | some head =>
        refine ⟨_, ⟨journal.root, journal.manifestSha256, head, st.eventSha256s.length⟩, hst, ?_,
          journal.snapshotOf sha st (some R), ?_, rfl, ?_⟩
        · simp [DispatchAttemptJournal.snapshotOf, hlast]
        · rw [hlength, replayOn_prefix isResolved (files_prefix_run sha journal _ first rest) hne]
          exact hst
        · simp [DispatchAttemptJournal.snapshotOf, hlast]

/-! ## Two assignments in two waves -/

/-- An authority whose files are about an assignment of the plan `plan`. -/
def genuineAuthority (cell assignment : String) : AssignmentTerminalAuthority Digest where
  sha256 := .text ("authority of " ++ assignment)
  registrySha256 := .text "registry"
  inventorySha256 := .text "inventory"
  cellId := .text cell
  policyReleaseReady := true
  policySha256 := .text "policy"
  reopened := .ok {
    cellId := .text cell
    runId := "run"
    runNonceSha256 := .text "nonce"
    executionPlanSha256 := .text "execution plan"
    dispatchPlanSha256 := .text "plan"
    assignmentSha256 := .text assignment
    experimentBudgetSha256 := .text "budget"
    inventorySha256 := .text "inventory"
    physicalGpuUuids := ["GPU-0"]
    trustedAttestation := true
    trustedAttesterPolicySha256 := .text "policy"
    files := runFiles
    evidence := [("/runs/rows.parquet", .text "rows")] }
  isResolved := fun _ => .ok true

/-- The runner of an assignment returns its authority after 15 ns. -/
def genuineWorld (cell assignment : String) (now : ℕ) : WaveWorld Digest where
  clock := fun _ => now
  moves := [(.text assignment, .start now),
    (.text assignment, .finish (.ok (some (genuineAuthority cell assignment))) (now + 15)
      (now + 16))]

def pairChain (calls : List (Call Digest)) : Chain Digest (JournalState Digest) :=
  Chain.run freeSha.toContentSha (some (pairJournal.sink freeSha)) pairJournal.plan pairJournal.ctx
    (JournalState.new fun _ => .written) calls

/-- A call that stops after the wave of `a`. -/
def pairStop : Call Digest where
  resumeTerminalAuthorities := []
  attemptJournalReplay := none
  stopAfterWaveIndex := some 0
  worlds := fun _ => genuineWorld "a" "a" 10

/-- A call that resumes behind it and runs `b`. -/
def pairResume : Call Digest where
  resumeTerminalAuthorities := [genuineAuthority "a" "a"]
  attemptJournalReplay := (pairJournal.replay freeSha
    (pairChain [pairStop]).session.journal.files none).toOption.bind (·.replayAuthority)
  stopAfterWaveIndex := none
  worlds := fun _ => genuineWorld "b" "b" 30

theorem genuineWorld_genuine (name : String) (now : ℕ) :
    (genuineWorld name name now).Genuine pairPlan := by
  intro move hmove outcome fin fin' hfinish wave hwave x hx hid terminal hterminal _ binding
    hbinding
  have hitem : ∀ wave ∈ pairPlan.waves, ∀ x ∈ wave.assignments, x.itemId = x.assignmentId := by
    decide
  rcases mem_cons.mp hmove with rfl | hmove
  · cases hfinish
  · obtain rfl := mem_singleton.mp hmove
    cases hfinish
    cases hterminal
    cases hbinding
    exact ⟨rfl, ((hitem wave hwave x hx).trans hid).symm⟩

/-- The second call returns the complete receipt of both waves, which the journal gives. -/
theorem replay_refines_pair : (pairChain [pairStop, pairResume]).ended = false ∧
    (pairChain [pairStop, pairResume]).receipt.map (fun R => (R.phase, R.rows.length))
      = some (.complete, 2) ∧
    ReplayAgrees freeSha pairJournal (fun _ => .ok true) (pairChain [pairStop, pairResume]) := by
  refine ⟨by decide +kernel, by decide +kernel, (replay_refines_execution freeSha pairJournal
    (fun _ => .written) [pairStop, pairResume] [] (fun _ => .ok true) (fun call hcall i => ?_)
    (by decide +kernel)).1⟩
  rcases mem_cons.mp hcall with rfl | hcall
  · exact genuineWorld_genuine "a" 10
  · obtain rfl := mem_singleton.mp hcall
    exact genuineWorld_genuine "b" 30

end Pool

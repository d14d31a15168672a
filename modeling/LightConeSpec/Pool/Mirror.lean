import LightConeSpec.Pool.Keeps

/-!
# The journal while a wave runs

The tasks of a wave call the journal in any order. `Live` relates them: a task
that has not ended holds the token of an open intent, and the journal has been
given the receipts that the tasks ended with. The journal leaves `Live` in two
ways only: a write that raises after its file exists leaves the writer stuck, and
a terminal binding of another plan or cell makes the files unreadable.
-/

namespace Pool

open Python Intervals List Function Method

variable {D : Type} [DecidableEq D] {sha : JournalSha D} {journal : DispatchAttemptJournal D}
  {finished : Finished D} {s t : JournalState D} {st : ReplayState D}

/-! ## Files that no reader takes -/

/-- `replay` raises. -/
def Unreadable (sha : JournalSha D) (journal : DispatchAttemptJournal D)
    (files : List (JournalFile D)) : Prop :=
  ∀ st, journal.replayFiles sha files ≠ .ok st

theorem Unreadable.mono {files files' : List (JournalFile D)} (h : Unreadable sha journal files)
    (hgrows : files <+: files') : Unreadable sha journal files' := by
  intro st hst
  obtain ⟨more, rfl⟩ := hgrows
  unfold DispatchAttemptJournal.replayFiles at hst
  rw [foldlM_append] at hst
  obtain ⟨st', hst', -⟩ := bind_eq_ok.mp hst
  exact h st' hst'

variable {p : PendingAttempt D} {receipt : AssignmentExecutionReceipt D}
  {token : DispatchAttemptJournalToken D} {payload : AttemptPayload D} {state : TaskState D}

variable {started : ℕ} {wave : PlannedWave D}

/-- A receipt that the reader takes is about its assignment. -/
theorem describes_of_replays {digest : D} {st' : ReplayState D}
    (h : Replays sha journal st wave digest (.finish payload) st')
    (hwave : wave ∈ journal.plan.waves) (hreceipt : payload.assignmentReceipt = some receipt)
    (hcount : receipt.fixedInstanceGpuCount = journal.ctx.deviceCount) :
    Describes journal receipt := by
  cases h with
  | finish hdeclared hcloses hassignment hbudget hidentity hmatches =>
    obtain rfl := Option.some.inj (hreceipt.symm.trans hcloses.assignmentReceipt)
    refine ⟨hmatches.planSha256, hcount, fun w hw x hx hid => ?_⟩
    obtain ⟨i, hi⟩ := mem_iff_getElem?.mp hwave
    obtain ⟨j, hj⟩ := mem_iff_getElem?.mp hw
    obtain ⟨rfl, rfl⟩ := journal.plan.assignment_unique hi hj
      (mem_of_find?_eq_some hassignment) hx (hmatches.assignmentSha256.symm.trans hid.symm)
    obtain rfl := Option.some.inj (hi.symm.trans hj)
    exact ⟨hmatches.waveSha256, hmatches.success⟩

/-- `finish_attempt` of a receipt that is about another assignment. -/
theorem finishAttempt_foreign (sha : JournalSha D) (s : JournalState D)
    (token : DispatchAttemptJournalToken D) (hforeign : ¬Describes journal receipt)
    (hcount : receipt.fixedInstanceGpuCount = journal.ctx.deviceCount) :
    MeetsAt (journal.finishAttempt sha token receipt) s fun result t =>
      (result = .ok () → Unreadable sha journal t.files) ∧
      ∀ e, result = .error e → Unwritten s t ∨ Unreadable sha journal t.files := by
  unfold DispatchAttemptJournal.finishAttempt
  refine meetsAt_read ?_
  refine meetsAt_check_bind
    (fun e _ => ⟨nofun, fun _ _ => .inl ⟨rfl, rfl, rfl, rfl, rfl⟩⟩) fun parts hparts => ?_
  obtain ⟨wave, payload⟩ := parts
  obtain ⟨intent, finishedNs, haccepts, rfl⟩ := finishPayload_eq_ok.mp hparts
  refine meetsAt_read ?_
  generalize hevent : journal.eventCommon wave
    (.finish (finishedPayload token receipt intent finishedNs)) s = event
  have hunreadable : Unreadable sha journal
      (s.files ++ [s.nextFile (sha.event event) (some event)]) := by
    intro st hst
    rw [replayFiles_snoc] at hst
    obtain ⟨before, -, hfile⟩ := bind_eq_ok.mp hst
    obtain ⟨-, event', wave', next, hbody, -, hidentified, hreplays, -⟩ := replayFile_eq_ok.mp hfile
    obtain rfl : event = event' := Option.some.inj hbody
    rw [← hevent] at hreplays
    exact hforeign (describes_of_replays hreplays (mem_of_getElem? hidentified.planned) rfl
      hcount)
  rcases appendEvent_cases sha event s with happend | ⟨e, t, happend, hspoiled⟩
  · unfold MeetsAt
    rw [bind_apply_ok happend]
    exact ⟨fun _ => hunreadable, nofun⟩
  · unfold MeetsAt
    rw [bind_apply_error happend]
    refine ⟨nofun, fun _ _ => ?_⟩
    cases hspoiled with
    | same => exact .inl ⟨rfl, rfl, rfl, rfl, rfl⟩
    | refused => exact .inl ⟨rfl, rfl, rfl, rfl, rfl⟩
    | torn hdisk => exact .inr (not_replays_torn rfl)
    | unsynced hdisk => exact .inr hunreadable

/-! ## Tasks and the journal -/

variable {error : Error}

section Wave

variable {scope : WaveScope D} {pending : List (PendingAttempt D)} {new : Finished D}
  {before : List (ExecutionEvent D)} {g g' : Group D (JournalState D)}

/-- The token is that of an open intent, which is about the pending attempt. -/
structure Holds (sha : JournalSha D) (journal : DispatchAttemptJournal D) (scope : WaveScope D)
    (s : JournalState D) (st : ReplayState D) (p : PendingAttempt D)
    (token : DispatchAttemptJournalToken D) (payload : AttemptPayload D) : Prop where
  opened : s.openTokens.get? token.intentSha256 = some payload
  identity : payload.identity = attemptIdentity sha.toContentSha journal.ctx p
  started : token.startedMonotonicNs = payload.startedMonotonicNs
  prior : ∃ waveEvent, st.waveEvents.get? payload.waveEventSha256 = some waveEvent ∧
    waveEvent.priorScheduleReceiptSha256 = scope.priorScheduleReceiptSha256

/-- What the journal holds of an attempt whose task is in the given state. -/
def TaskLive (sha : JournalSha D) (journal : DispatchAttemptJournal D) (scope : WaveScope D)
    (s : JournalState D) (st : ReplayState D) (p : PendingAttempt D) : TaskState D → Prop
  | .created => ∃ token payload, Holds sha journal scope s st p token payload ∧
    s.preissuedAssignmentTokens.get? p.assignment.assignmentId = some token
  | .running token? started => ∃ token payload, Holds sha journal scope s st p token payload ∧
    token? = some token ∧ started = token.startedMonotonicNs
  | .returned receipt => st.latest.get? p.assignment.assignmentId = some receipt
  | .raised _ => ∃ token payload, Holds sha journal scope s st p token payload

/-- The receipts that the journal was given while the wave ran. -/
structure Wrote (sha : JournalSha D) (scope : WaveScope D) (pending : List (PendingAttempt D))
    (new : Finished D) : Prop where
  extends_ : ∀ f ∈ new, ∃ p ∈ pending, ∃ started, Extends sha.toContentSha scope p started f.2
  distinct : (new.map (·.2.assignmentSha256)).Nodup

/-- The journal follows the tasks. -/
structure Live (sha : JournalSha D) (journal : DispatchAttemptJournal D) (scope : WaveScope D)
    (pending : List (PendingAttempt D)) (before : List (ExecutionEvent D))
    (finished new : Finished D) (g : Group D (JournalState D)) (st : ReplayState D) : Prop
    extends Tracks sha journal (finished ++ new) g.session.journal st, Wrote sha scope pending new
    where
  tasks : ∀ p ∈ pending, TaskLive sha journal scope g.session.journal st p
    (g.tasks p.assignment.assignmentId)
  returned : ∀ p ∈ pending, p.assignment.assignmentId ∈ new.map (·.2.assignmentSha256) ↔
    ∃ receipt, g.tasks p.assignment.assignmentId = .returned receipt
  opened : ∀ d intent, st.incomplete.get? d = some intent → ∃ p ∈ pending,
    intent.identity.assignmentSha256 = p.assignment.assignmentId ∧
      ∀ receipt, g.tasks p.assignment.assignmentId ≠ .returned receipt
  prior : new ≠ [] → st.lastFinishPriorScheduleSha256 = scope.priorScheduleReceiptSha256
  receipts : ∀ a, receiptsOf g.session.events a
    = receiptsOf before a ++ Log.written finishedEntry new a

/-- Some task has raised, so the group raises. -/
def HasRaised (pending : List (PendingAttempt D)) (g : Group D (JournalState D)) : Prop :=
  ∃ p ∈ pending, ∃ error, g.tasks p.assignment.assignmentId = .raised error

/-- The writer is stuck: a file exists that it does not know of. Each attempt has
its FINISH event there, or its intent has none. -/
structure Lost (sha : JournalSha D) (journal : DispatchAttemptJournal D) (scope : WaveScope D)
    (pending : List (PendingAttempt D)) (finished new : Finished D) (g : Group D (JournalState D)) :
    Prop extends Wrote sha scope pending new where
  raised : HasRaised pending g
  stuck : Stuck g.session.journal
  recoverable : Recoverable sha journal (finished ++ new) g.session.journal.files
  complete : ∀ p ∈ pending, p.assignment.assignmentId ∈ new.map (·.2.assignmentSha256) ∨
    ∃ d ∈ intentsOf g.session.journal.files, ∀ f ∈ finished ++ new, f.1.intentSha256 ≠ d

/-- The files replay no more, because of a receipt that is about another plan or cell. -/
structure Poisoned (sha : JournalSha D) (journal : DispatchAttemptJournal D)
    (pending : List (PendingAttempt D)) (g : Group D (JournalState D)) : Prop where
  unreadable : Unreadable sha journal g.session.journal.files
  because : HasRaised pending g ∨ ∃ r, .recorded r ∈ g.session.events ∧ ¬Describes journal r

/-- What the journal is while the wave runs. -/
inductive Follows (sha : JournalSha D) (journal : DispatchAttemptJournal D) (scope : WaveScope D)
    (pending : List (PendingAttempt D)) (before : List (ExecutionEvent D)) (finished : Finished D)
    (g : Group D (JournalState D)) : Prop
  | live (new : Finished D) (st : ReplayState D)
      (h : Live sha journal scope pending before finished new g st)
  | lost (new : Finished D) (h : Lost sha journal scope pending finished new g)
  | poisoned (h : Poisoned sha journal pending g)

/-- The intent of an attempt that has not returned is open. -/
theorem TaskLive.holds (h : TaskLive sha journal scope s st p state)
    (hstate : ∀ receipt, state ≠ .returned receipt) :
    ∃ token payload, Holds sha journal scope s st p token payload := by
  cases state with
  | created =>
    obtain ⟨token, payload, hholds, -⟩ := h
    exact ⟨token, payload, hholds⟩
  | running token? started =>
    obtain ⟨token, payload, hholds, -⟩ := h
    exact ⟨token, payload, hholds⟩
  | returned receipt => exact absurd rfl (hstate receipt)
  | raised error => exact h

/-- What another task does to the journal does not matter to a task. -/
theorem TaskLive.mono {st' : ReplayState D} (h : TaskLive sha journal scope s st p state)
    (hholds : ∀ token payload, Holds sha journal scope s st p token payload →
      Holds sha journal scope t st' p token payload)
    (hpreissued : t.preissuedAssignmentTokens.get? p.assignment.assignmentId
      = s.preissuedAssignmentTokens.get? p.assignment.assignmentId)
    (hlatest : st'.latest.get? p.assignment.assignmentId
      = st.latest.get? p.assignment.assignmentId) : TaskLive sha journal scope t st' p state := by
  cases state with
  | created =>
    obtain ⟨token, payload, h, htoken⟩ := h
    exact ⟨token, payload, hholds _ _ h, hpreissued.trans htoken⟩
  | running token? started =>
    obtain ⟨token, payload, h, hrest⟩ := h
    exact ⟨token, payload, hholds _ _ h, hrest⟩
  | returned receipt => exact hlatest.trans h
  | raised error =>
    obtain ⟨token, payload, h⟩ := h
    exact ⟨token, payload, hholds _ _ h⟩

/-- The open intents of two assignments are two. -/
theorem Holds.intent_ne {q : PendingAttempt D} {token' : DispatchAttemptJournalToken D}
    {payload' : AttemptPayload D} (h : Holds sha journal scope s st p token payload)
    (h' : Holds sha journal scope s st q token' payload')
    (hne : q.assignment.assignmentId ≠ p.assignment.assignmentId) :
    token'.intentSha256 ≠ token.intentSha256 := by
  intro htoken
  have hpayload := h'.opened
  rw [htoken, h.opened] at hpayload
  have hidentity := (h'.identity.symm.trans
    (congrArg AttemptPayload.identity (Option.some.inj hpayload)).symm).trans h.identity
  exact hne (congrArg AttemptIdentity.assignmentSha256 hidentity)

/-- One more receipt, of an attempt that has none yet. -/
theorem Wrote.snoc (h : Wrote sha scope pending new) (hp : p ∈ pending)
    (hextends : Extends sha.toContentSha scope p started receipt)
    (hfresh : p.assignment.assignmentId ∉ new.map (·.2.assignmentSha256)) :
    Wrote sha scope pending (new ++ [(token, receipt)]) := by
  refine ⟨fun f hf => ?_, ?_⟩
  · rcases mem_append.mp hf with hf | hf
    · exact h.extends_ f hf
    · rw [mem_singleton.mp hf]
      exact ⟨p, hp, started, hextends⟩
  · rw [map_append, nodup_append]
    refine ⟨h.distinct, nodup_singleton _, fun a ha b hb hab => ?_⟩
    rw [map_singleton, mem_singleton] at hb
    exact hfresh (hextends.assignment ▸ hb ▸ hab ▸ ha)

section

variable (h : Live sha journal scope pending before finished new g st)

include h

/-- The intent that a token is of. -/
theorem Live.incomplete (hholds : Holds sha journal scope g.session.journal st p token payload) :
    st.incomplete.get? token.intentSha256 = some (openIntent payload) := by
  rw [h.tokens, hholds.opened]
  rfl

/-- When all tasks have returned, no intent is open. -/
theorem Live.idle
    (hall : ∀ p ∈ pending, ∃ receipt, g.tasks p.assignment.assignmentId = .returned receipt) :
    ∀ d, st.incomplete.get? d = none := by
  intro d
  cases hd : st.incomplete.get? d with
  | none => rfl
  | some intent =>
    obtain ⟨p, hp, -, hopen⟩ := h.opened d intent hd
    obtain ⟨receipt, hreceipt⟩ := hall p hp
    exact absurd hreceipt (hopen receipt)

/-- Each attempt has its FINISH event, or its intent has none. -/
theorem Live.complete
    (hp : p ∈ pending) : p.assignment.assignmentId ∈ new.map (·.2.assignmentSha256) ∨
      ∃ d ∈ intentsOf g.session.journal.files, ∀ f ∈ finished ++ new, f.1.intentSha256 ≠ d := by
  by_cases hreturned : ∃ receipt, g.tasks p.assignment.assignmentId = .returned receipt
  · exact .inl ((h.returned p hp).mpr hreturned)
  · obtain ⟨token, payload, hholds⟩ := (h.tasks p hp).holds fun receipt hreceipt =>
      hreturned ⟨receipt, hreceipt⟩
    obtain ⟨hintent, hunfinished⟩ := (h.unfinished _).mp ⟨_, h.incomplete hholds⟩
    exact .inr ⟨_, hintent, hunfinished⟩

/-! ## Moves -/

variable (hdistinct : (pending.map (·.assignment.assignmentId)).Nodup) (hp : p ∈ pending)

include hdistinct hp

/-- A task that has not returned is in another state, in which it has not returned
either. -/
theorem Live.moved (htasks : g'.tasks = update g.tasks p.assignment.assignmentId state)
    (hold : ∀ receipt, g.tasks p.assignment.assignmentId ≠ .returned receipt)
    (hnew : ∀ receipt, state ≠ .returned receipt)
    (htracks : Tracks sha journal (finished ++ new) g'.session.journal st)
    (hstate : TaskLive sha journal scope g'.session.journal st p state)
    (hothers : ∀ q ∈ pending, q.assignment.assignmentId ≠ p.assignment.assignmentId →
      ∀ state, TaskLive sha journal scope g.session.journal st q state →
        TaskLive sha journal scope g'.session.journal st q state)
    (hevents : ∀ a, receiptsOf g'.session.events a = receiptsOf g.session.events a) :
    Live sha journal scope pending before finished new g' st := by
  have hsame : ∀ q ∈ pending, q.assignment.assignmentId = p.assignment.assignmentId → q = p :=
    fun q hq hid => inj_on_of_nodup_map hdistinct hq hp hid
  have hreturned : ∀ a receipt, g'.tasks a = .returned receipt ↔ g.tasks a = .returned receipt := by
    intro a receipt
    rw [htasks]
    by_cases ha : a = p.assignment.assignmentId
    · rw [ha, update_self]
      exact ⟨fun hr => absurd hr (hnew receipt), fun hr => absurd hr (hold receipt)⟩
    · rw [update_of_ne ha]
  refine ⟨htracks, h.toWrote, fun q hq => ?_, fun q hq => ?_, fun d intent hd => ?_, h.prior,
    fun a => (hevents a).trans (h.receipts a)⟩
  · rw [htasks]
    by_cases hid : q.assignment.assignmentId = p.assignment.assignmentId
    · obtain rfl := hsame q hq hid
      rw [update_self]
      exact hstate
    · rw [update_of_ne hid]
      exact hothers q hq hid _ (h.tasks q hq)
  · simp only [hreturned]
    exact h.returned q hq
  · obtain ⟨q, hq, hid, hopen⟩ := h.opened d intent hd
    exact ⟨q, hq, hid, fun receipt hr => hopen receipt ((hreturned _ _).mp hr)⟩

/-- `begin_attempt`, whether it returned or raised. -/
theorem Live.begun (hcreated : g.tasks p.assignment.assignmentId = .created)
    (hjournal : g'.session.journal = g.session.journal ∨
      g'.session.journal = g.session.journal.withoutToken p.assignment.assignmentId)
    (htasks : g'.tasks = update g.tasks p.assignment.assignmentId state)
    (hnew : ∀ receipt, state ≠ .returned receipt)
    (hstate : ∀ token payload, Holds sha journal scope g.session.journal st p token payload →
      g.session.journal.preissuedAssignmentTokens.get? p.assignment.assignmentId = some token →
        TaskLive sha journal scope g'.session.journal st p state)
    (hevents : ∀ a, receiptsOf g'.session.events a = receiptsOf g.session.events a) :
    Live sha journal scope pending before finished new g' st := by
  have htracks : Tracks sha journal (finished ++ new) g'.session.journal st := by
    rcases hjournal with hj | hj
    · rw [hj]
      exact h.toTracks
    · rw [hj]
      exact h.toTracks.congr rfl rfl rfl rfl
  have hopen : g'.session.journal.openTokens = g.session.journal.openTokens := by
    rcases hjournal with hj | hj
    · rw [hj]
    · rw [hj]
      rfl
  have htask := h.tasks p hp
  rw [hcreated] at htask
  obtain ⟨token, payload, hholds, htoken⟩ := htask
  refine h.moved hdistinct hp htasks (by simp [hcreated]) hnew htracks (hstate _ _ hholds htoken)
    (fun q hq hid state hq' => hq'.mono (fun token payload hq'' => ?_) ?_ rfl) hevents
  · exact ⟨hopen ▸ hq''.opened, hq''.identity, hq''.started, hq''.prior⟩
  · rcases hjournal with hj | hj
    · rw [hj]
    · rw [hj]
      show (g.session.journal.preissuedAssignmentTokens.erase _).get? _ = _
      rw [Dict.get?_erase, if_neg hid]

/-- `finish_attempt` that returned. -/
theorem Live.ended (hnot : ∀ receipt, g.tasks p.assignment.assignmentId ≠ .returned receipt)
    (hholds : Holds sha journal scope g.session.journal st p token payload)
    (hextends : Extends sha.toContentSha scope p started receipt) {waveEvent : WaveEvent D}
    {digest : D} (hwaveEvent : st.waveEvents.get? payload.waveEventSha256 = some waveEvent)
    (hpreissued : g'.session.journal.preissuedAssignmentTokens
      = g.session.journal.preissuedAssignmentTokens) (hopen : g'.session.journal.openTokens
      = g.session.journal.openTokens.erase token.intentSha256)
    (htracks : Tracks sha journal (finished ++ new ++ [(token, receipt)]) g'.session.journal
      ((st.closed token.intentSha256 receipt waveEvent.priorScheduleReceiptSha256).noted digest))
    (htasks : g'.tasks = update g.tasks p.assignment.assignmentId (.returned receipt))
    (hevents : g'.session.events = g.session.events ++ [.recorded receipt]) :
    Live sha journal scope pending before finished (new ++ [(token, receipt)]) g'
      ((st.closed token.intentSha256 receipt waveEvent.priorScheduleReceiptSha256).noted digest)
    := by
  have hsame : ∀ q ∈ pending, q.assignment.assignmentId = p.assignment.assignmentId → q = p :=
    fun q hq hid => inj_on_of_nodup_map hdistinct hq hp hid
  have hid : receipt.assignmentSha256 = p.assignment.assignmentId := hextends.assignment
  have hfresh : p.assignment.assignmentId ∉ new.map (·.2.assignmentSha256) := by
    intro hmem
    obtain ⟨found, hfound⟩ := (h.returned p hp).mp hmem
    exact hnot found hfound
  refine ⟨by rwa [← append_assoc], h.toWrote.snoc hp hextends hfresh, fun q hq => ?_,
    fun q hq => ?_, fun d intent hd => ?_, fun _ => ?_, fun a => ?_⟩
  · rw [htasks]
    by_cases hq' : q.assignment.assignmentId = p.assignment.assignmentId
    · rw [hq', update_self]
      show (st.latest.set receipt.assignmentSha256 receipt).get? _ = _
      rw [Dict.get?_set, hid, hq', if_pos rfl]
    · rw [update_of_ne hq']
      refine (h.tasks q hq).mono (fun token' payload' hq'' => ?_) (by rw [hpreissued]) ?_
      · refine ⟨?_, hq''.identity, hq''.started, hq''.prior⟩
        rw [hopen, Dict.get?_erase, if_neg (hholds.intent_ne hq'' hq')]
        exact hq''.opened
      · show (st.latest.set receipt.assignmentSha256 receipt).get? _ = _
        rw [Dict.get?_set, hid, if_neg hq']
  · rw [map_append, mem_append, map_singleton, mem_singleton, htasks, hid]
    by_cases hq' : q.assignment.assignmentId = p.assignment.assignmentId
    · rw [hq', update_self]
      exact ⟨fun _ => ⟨receipt, rfl⟩, fun _ => .inr rfl⟩
    · rw [update_of_ne hq', ← h.returned q hq]
      simp [hq']
  · change (st.incomplete.erase token.intentSha256).get? d = some intent at hd
    rw [Dict.get?_erase] at hd
    split at hd
    · cases hd
    rename_i hne
    obtain ⟨q, hq, hintent, hq'⟩ := h.opened d intent hd
    refine ⟨q, hq, hintent, fun found hfound => ?_⟩
    rw [htasks] at hfound
    by_cases hsameId : q.assignment.assignmentId = p.assignment.assignmentId
    · -- one open intent is about the assignment
      refine hne (h.single d _ intent _ hd (h.incomplete hholds) ?_)
      rw [hintent, hsameId]
      exact (congrArg AttemptIdentity.assignmentSha256 hholds.identity).symm
    · rw [update_of_ne hsameId] at hfound
      exact hq' found hfound
  · obtain ⟨found, hfound, hprior⟩ := hholds.prior
    obtain rfl := Option.some.inj (hwaveEvent.symm.trans hfound)
    exact hprior
  · rw [hevents, receiptsOf_recorded, Log.written_snoc_of_some
      (show finishedEntry (token, receipt) = some (receipt.assignmentSha256, receipt) from rfl),
      h.receipts a]
    split
    · rw [append_assoc]
    · rfl

omit hdistinct in
/-- `finish_attempt` that raised after its file was there. -/
theorem Live.lost (hnot : ∀ receipt, g.tasks p.assignment.assignmentId ≠ .returned receipt)
    (hholds : Holds sha journal scope g.session.journal st p token payload)
    (hextends : Extends sha.toContentSha scope p started receipt)
    (htasks : g'.tasks = update g.tasks p.assignment.assignmentId (.raised error))
    (hfiles : g.session.journal.files <+: g'.session.journal.files)
    (hstuck : Stuck g'.session.journal)
    (hrecoverable : Recoverable sha journal (finished ++ new ++ [(token, receipt)])
      g'.session.journal.files) :
    Lost sha journal scope pending finished (new ++ [(token, receipt)]) g' := by
  have hfresh : p.assignment.assignmentId ∉ new.map (·.2.assignmentSha256) := by
    intro hmem
    obtain ⟨found, hfound⟩ := (h.returned p hp).mp hmem
    exact hnot found hfound
  have hintents : ∀ d ∈ intentsOf g.session.journal.files,
      d ∈ intentsOf g'.session.journal.files := by
    obtain ⟨more, hmore⟩ := hfiles
    intro d hd
    rw [← hmore, intentsOf, filterMap_append]
    exact mem_append_left _ hd
  refine ⟨h.toWrote.snoc hp hextends hfresh, ⟨p, hp, error, ?_⟩, hstuck,
    by rwa [← append_assoc], fun q hq => ?_⟩
  · rw [htasks, update_self]
  rw [map_append, mem_append, map_singleton, mem_singleton, hextends.assignment]
  by_cases hid : q.assignment.assignmentId = p.assignment.assignmentId
  · exact .inl (.inr hid)
  by_cases hreturned : ∃ receipt, g.tasks q.assignment.assignmentId = .returned receipt
  · exact .inl (.inl ((h.returned q hq).mpr hreturned))
  · -- its intent is another one, so it is open still
    obtain ⟨token', payload', hholds'⟩ := (h.tasks q hq).holds fun found hfound =>
      hreturned ⟨found, hfound⟩
    obtain ⟨hintent, hunfinished⟩ := (h.unfinished _).mp ⟨_, h.incomplete hholds'⟩
    refine .inr ⟨_, hintents _ hintent, fun f hf => ?_⟩
    rw [← append_assoc] at hf
    rcases mem_append.mp hf with hf | hf
    · exact hunfinished f hf
    · rw [mem_singleton.mp hf]
      exact (hholds.intent_ne hholds' hid).symm

end

/-- A task that has raised does not move. -/
theorem HasRaised.step (h : HasRaised pending g)
    (hstep : Advanced sha.toContentSha (some (journal.sink sha)) scope pending g g') :
    HasRaised pending g' := by
  obtain ⟨q, hq, error, hraised⟩ := h
  cases hstep with
  | idle hsame => exact hsame ▸ ⟨q, hq, error, hraised⟩
  | invoked p token started hp hstate hjournal htasks hevents =>
    refine ⟨q, hq, error, ?_⟩
    rw [htasks, update_of_ne]
    · exact hraised
    · intro hid
      rw [← hid, hraised] at hstate
      cases hstate
  | recorded p token started receipt hp hstate hextends hjournal htasks hevents =>
    refine ⟨q, hq, error, ?_⟩
    rw [htasks, update_of_ne]
    · exact hraised
    · intro hid
      rw [← hid, hraised] at hstate
      cases hstate
  | raised p error' hp hjournal htasks hevents =>
    refine ⟨p, hp, error', ?_⟩
    rw [htasks, update_self]

/-- A receipt stays recorded. -/
theorem recorded_step
    (hstep : Advanced sha.toContentSha (some (journal.sink sha)) scope pending g g')
    {r : AssignmentExecutionReceipt D} (hr : .recorded r ∈ g.session.events) :
    .recorded r ∈ g'.session.events := by
  cases hstep with
  | idle hsame => exact hsame ▸ hr
  | invoked p token started hp hstate hjournal htasks hevents =>
    rw [hevents]
    exact mem_append_left _ hr
  | recorded p token started receipt hp hstate hextends hjournal htasks hevents =>
    rw [hevents]
    exact mem_append_left _ hr
  | raised p error hp hjournal htasks hevents =>
    rw [hevents]
    exact hr

section

variable (h : Live sha journal scope pending before finished new g st)
  (hdistinct : (pending.map (·.assignment.assignmentId)).Nodup)
  (hcount : scope.ctx.deviceCount = journal.ctx.deviceCount) (hp : p ∈ pending)

include h hdistinct hcount hp

/-- A task that ends with a receipt. -/
theorem Live.recorded (hstate : g.tasks p.assignment.assignmentId = .running (some token) started)
    (hextends : Extends sha.toContentSha scope p started receipt)
    (hjournal : journal.finishAttempt sha token receipt {} g.session.journal
      = (.ok (), g'.session.journal))
    (htasks : g'.tasks = update g.tasks p.assignment.assignmentId (.returned receipt))
    (hevents : g'.session.events = g.session.events ++ [.recorded receipt]) :
    Follows sha journal scope pending before finished g' := by
  have hnot : ∀ receipt, g.tasks p.assignment.assignmentId ≠ .returned receipt := by
    simp [hstate]
  have htask := h.tasks p hp
  rw [hstate] at htask
  obtain ⟨_, payload, hholds, htoken, -⟩ := htask
  obtain rfl := Option.some.inj htoken
  by_cases hdescribes : Describes journal receipt
  · have hspec := finishAttempt_spec h.toTracks hextends.valid fun intent wave finishedNs haccepts => by
      obtain rfl := Option.some.inj (hholds.opened.symm.trans haccepts.opened)
      exact ⟨hholds.started, hdescribes⟩
    obtain ⟨intent, waveEvent, digest, hintent, hwaveEvent, hpreissued, hopen, htracks⟩ :=
      (hspec.of_eq hjournal).1 rfl
    obtain rfl := Option.some.inj (hholds.opened.symm.trans hintent)
    exact .live _ _ (h.ended hdistinct hp hnot hholds hextends hwaveEvent hpreissued hopen htracks
      htasks hevents)
  · have hspec := finishAttempt_foreign sha g.session.journal token hdescribes
      (hextends.fixedCount.trans hcount)
    refine .poisoned ⟨(hspec.of_eq hjournal).1 rfl, .inr ⟨receipt, ?_, hdescribes⟩⟩
    simp [hevents]

/-- A task that raises because `finish_attempt` did. -/
theorem Live.refused (hstate : g.tasks p.assignment.assignmentId = .running (some token) started)
    (hextends : Extends sha.toContentSha scope p started receipt) {error' : Error}
    (hjournal : journal.finishAttempt sha token receipt {} g.session.journal
      = (.error error', g'.session.journal))
    (htasks : g'.tasks = update g.tasks p.assignment.assignmentId (.raised error))
    (hevents : g'.session.events = g.session.events) :
    Follows sha journal scope pending before finished g' := by
  have hnot : ∀ receipt, g.tasks p.assignment.assignmentId ≠ .returned receipt := by
    simp [hstate]
  have htask := h.tasks p hp
  rw [hstate] at htask
  obtain ⟨_, payload, hholds, htoken, -⟩ := htask
  obtain rfl := Option.some.inj htoken
  -- nothing was written
  have hsame : Unwritten g.session.journal g'.session.journal →
      Live sha journal scope pending before finished new g' st := by
    intro hsame
    have hheld : ∀ q token payload, Holds sha journal scope g.session.journal st q token payload →
        Holds sha journal scope g'.session.journal st q token payload := fun _ _ _ hq =>
      ⟨hsame.openTokens ▸ hq.opened, hq.identity, hq.started, hq.prior⟩
    exact h.moved hdistinct hp htasks hnot nofun (h.toTracks.unwritten hsame)
      ⟨token, payload, hheld _ _ _ hholds⟩ (fun q _ _ state hq => hq.mono (hheld q)
        (by rw [hsame.preissued]) rfl) (by simp [hevents])
  by_cases hdescribes : Describes journal receipt
  · have hspec := finishAttempt_spec h.toTracks hextends.valid fun intent wave finishedNs haccepts => by
      obtain rfl := Option.some.inj (hholds.opened.symm.trans haccepts.opened)
      exact ⟨hholds.started, hdescribes⟩
    rcases (hspec.of_eq hjournal).2 _ rfl with hunwritten | ⟨-, hstuck, hrecoverable⟩
    · exact .live new st (hsame hunwritten)
    · have hfiles : g.session.journal.files <+: g'.session.journal.files :=
        ((writeRelation_files sha).finishAttempt token receipt _).of_eq hjournal
      exact .lost _ (h.lost hp hnot hholds hextends htasks hfiles hstuck hrecoverable)
  · have hspec := finishAttempt_foreign sha g.session.journal token hdescribes
      (hextends.fixedCount.trans hcount)
    rcases (hspec.of_eq hjournal).2 _ rfl with hunwritten | hunreadable
    · exact .live new st (hsame hunwritten)
    · refine .poisoned ⟨hunreadable, .inl ⟨p, hp, error, ?_⟩⟩
      rw [htasks, update_self]

/-- A task that raises while the journal follows. -/
theorem Live.raises (hjournal : RaisesWith sha.toContentSha (some (journal.sink sha)) scope p
      (g.tasks p.assignment.assignmentId) g.session.journal g'.session.journal)
    (htasks : g'.tasks = update g.tasks p.assignment.assignmentId (.raised error))
    (hevents : g'.session.events = g.session.events) :
    Follows sha journal scope pending before finished g' := by
  have hreceipts : ∀ a, receiptsOf g'.session.events a = receiptsOf g.session.events a := by
    simp [hevents]
  generalize hstate : g.tasks p.assignment.assignmentId = state at hjournal
  generalize hj : g.session.journal = j, hj' : g'.session.journal = j' at hjournal
  cases hjournal with
  -- the intent was refused, or written before the call raised
  | begin hsink hbegin =>
    obtain rfl := Option.some.inj hsink
    subst hj hj'
    have hspec := (beginAttempt_spec sha journal _ _ scope.wave _ _ _).of_eq hbegin
    refine .live new st (h.begun hdistinct hp hstate hspec.1 htasks nofun
      (fun token payload hholds _ => ⟨token, payload, ?_, hholds.identity, hholds.started,
        hholds.prior⟩) hreceipts)
    rcases hspec.1 with hsame | hsame
    · exact hsame ▸ hholds.opened
    · exact hsame ▸ hholds.opened
  -- the runner touches no event of the journal
  | runner =>
    rename_i token started
    have htask := h.tasks p hp
    rw [hstate] at htask
    obtain ⟨token', payload, hholds, -, -⟩ := htask
    have hsame : g'.session.journal = g.session.journal := hj'.trans hj.symm
    refine .live new st (h.moved hdistinct hp htasks (by simp [hstate]) nofun ?_ ?_
      (fun q _ _ state hq => ?_) hreceipts)
    · rw [hsame]
      exact h.toTracks
    · rw [hsame]
      exact ⟨token', payload, hholds⟩
    · rw [hsame]
      exact hq
  | finish hextends hfinish =>
    rename_i token started receipt error'
    subst hj hj'
    cases token with
    | none => exact absurd hfinish id
    | some token =>
      -- the receipt was refused: the intent stays open
      exact h.refused hdistinct hcount hp hstate hextends hfinish htasks hevents

end

/-- One move of a task. -/
theorem Follows.step (h : Follows sha journal scope pending before finished g)
    (hdistinct : (pending.map (·.assignment.assignmentId)).Nodup)
    (hcount : scope.ctx.deviceCount = journal.ctx.deviceCount)
    (hstep : Advanced sha.toContentSha (some (journal.sink sha)) scope pending g g') :
    Follows sha journal scope pending before finished g' := by
  cases h with
  | live new st h =>
    cases hstep with
    | idle hsame => exact hsame ▸ .live new st h
    | invoked p token started hp hstate hjournal htasks hevents =>
      cases token with
      | none => exact absurd hjournal id
      | some token =>
        obtain ⟨hbegin, rfl⟩ := hjournal
        have hspec := (beginAttempt_spec sha journal _ _ scope.wave _ _ _).of_eq hbegin
        obtain ⟨hafter, hpreissued, -⟩ := hspec.2 token rfl
        refine .live new st (h.begun hdistinct hp hstate hspec.1 htasks nofun
          (fun token' payload hholds htoken => ?_) (by simp [hevents]))
        obtain rfl := Option.some.inj (hpreissued.symm.trans htoken)
        refine ⟨token, payload, ⟨?_, hholds.identity, hholds.started, hholds.prior⟩, rfl, rfl⟩
        rw [hafter]
        exact hholds.opened
    | recorded p token started receipt hp hstate hextends hjournal htasks hevents =>
      cases token with
      | none => exact absurd hjournal id
      | some token =>
        exact h.recorded hdistinct hcount hp hstate hextends hjournal htasks hevents
    | raised p error hp hjournal htasks hevents =>
      exact h.raises hdistinct hcount hp hjournal htasks hevents
  | lost new h =>
    have hstuck := (writeRelation_stuck sha).advanced hstep h.stuck
    refine .lost new ⟨h.toWrote, h.raised.step hstep, hstuck.1, ?_, ?_⟩
    · rw [hstuck.2]
      exact h.recoverable
    · rw [hstuck.2]
      exact h.complete
  | poisoned h =>
    refine .poisoned ⟨h.unreadable.mono ((writeRelation_files sha).advanced hstep), ?_⟩
    rcases h.because with hraised | ⟨r, hr, hforeign⟩
    · exact .inl (hraised.step hstep)
    · exact .inr ⟨r, recorded_step hstep hr, hforeign⟩

/-- The journal when the tasks start. -/
theorem Begun.live {prior : Option D} {st₀ : ReplayState D}
    (h : Begun sha journal finished st₀ wave pending prior t st) {events : List (ExecutionEvent D)}
    {scope : WaveScope D} (hprior : scope.priorScheduleReceiptSha256 = prior) :
    Live sha journal scope pending events finished [] ⟨fun _ => .created, ⟨t, events⟩⟩ st := by
  refine ⟨by simpa using h.tracks, ⟨nofun, nodup_nil⟩, fun p hp => ?_, fun p hp => ?_,
    fun d intent hd => ?_, fun hne => absurd rfl hne, fun a => ?_⟩
  · obtain ⟨token, hpreissued, payload, hpayload, hidentity, hstarted⟩ := h.issued p hp
    have hopen : st.incomplete.get? token.intentSha256 = some (openIntent payload) := by
      rw [h.tracks.tokens, hpayload]
      rfl
    obtain ⟨-, waveEvent, hwaveEvent, hsame⟩ := h.opened _ _ hopen
    exact ⟨token, payload, ⟨hpayload, hidentity, hstarted.symm, waveEvent, hwaveEvent,
      hsame.trans hprior.symm⟩, hpreissued⟩
  · simp
  · obtain ⟨p, hp, hidentity⟩ := mem_map.mp (h.opened d intent hd).1
    exact ⟨p, hp, congrArg AttemptIdentity.assignmentSha256 hidentity.symm, nofun⟩
  · simp

/-- The journal after any moves of the tasks. -/
theorem runGroup_follows {prior : Option D} {st₀ : ReplayState D} {s : Session D (JournalState D)}
    (h : Begun sha journal finished st₀ wave pending prior s.journal st)
    (hprior : scope.priorScheduleReceiptSha256 = prior)
    (hdistinct : (pending.map (·.assignment.assignmentId)).Nodup)
    (hcount : scope.ctx.deviceCount = journal.ctx.deviceCount) (moves : List (D × Move D)) :
    ∃ tasks s', runGroup sha.toContentSha (some (journal.sink sha)) scope pending moves s
      = (.ok tasks, s') ∧ Follows sha journal scope pending s.events finished ⟨tasks, s'⟩ :=
  runGroup_invariant (fun _ _ hg hstep => hg.step hdistinct hcount hstep)
    (.live [] st (h.live hprior)) moves

end Wave

end Pool

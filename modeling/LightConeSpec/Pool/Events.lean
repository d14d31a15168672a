import LightConeSpec.Pool.Latest

/-!
# What the reader of a journal accepts

`replay` folds the files of a journal, so what it accepts is said once for one
file: `Replays` lists, for each type of event, the checks and the state after
them. The rest of the module is what any sequence of accepted files satisfies
(`Numbered`), and which events the writer may append to it.
-/

namespace Pool

open Python Intervals List

variable {D : Type} [DecidableEq D]

/-! ## One event -/

/-- The attempt of an INTENT or FINISH event was declared by its WAVE event. -/
structure Declared (st : ReplayState D) (wave : PlannedWave D) (payload : AttemptPayload D)
    (waveEvent : WaveEvent D) : Prop where
  declared : st.waveEvents.get? payload.waveEventSha256 = some waveEvent
  waveIndex : waveEvent.waveIndex = wave.waveIndex
  pending : payload.identity ∈ waveEvent.pendingAttempts

/-- The parts of the payload of a FINISH event. -/
structure Closes (sha : ContentSha D) (st : ReplayState D) (payload : AttemptPayload D)
    (intentSha256 : D) (finished : ℕ) (receipt : AssignmentExecutionReceipt D) : Prop where
  intentEvent : payload.intentEventSha256 = some intentSha256
  finishedNs : payload.finishedMonotonicNs = some finished
  assignmentReceipt : payload.assignmentReceipt = some receipt
  ordered : payload.startedMonotonicNs ≤ finished
  intent : st.incomplete.get? intentSha256 = some (openIntent payload)
  ints : payload.attributedTypes = {}
  valid : receipt.postInit sha = .ok ()

/-- The binding names the cell, the inventory, the GPUs and the plan of its
assignment. -/
structure BindingMatches (journal : DispatchAttemptJournal D) (assignment : PlannedAssignment D)
    (binding : AssignmentTerminalBinding D) : Prop where
  cellId : binding.cellId = assignment.itemId
  inventory : binding.inventorySha256 = journal.ctx.inventorySha256
  gpus : binding.physicalGpuUuids = assignment.gpuUuids
  dispatchPlan : binding.dispatchPlanSha256 = journal.plan.sha256

/-- The receipt of a FINISH event is about its attempt. -/
structure ReceiptMatches (journal : DispatchAttemptJournal D) (wave : PlannedWave D)
    (assignment : PlannedAssignment D) (budget : ExperimentBudget D) (started finished : ℕ)
    (receipt : AssignmentExecutionReceipt D) : Prop where
  planSha256 : receipt.planSha256 = journal.plan.sha256
  waveSha256 : receipt.waveSha256 = wave.sha256
  assignmentSha256 : receipt.assignmentSha256 = assignment.assignmentId
  budgetSha256 : receipt.budgetSha256 = budget.sha256
  interval : receipt.attemptIntervalsMonotonicNs.getLast? = some (started, finished)
  success : receipt.succeeded = true →
    ∃ binding ∈ receipt.terminalBinding, BindingMatches journal assignment binding

/-- What the reader accepts, and the variables of its loop after it. -/
inductive Replays (sha : JournalSha D) (journal : DispatchAttemptJournal D) (st : ReplayState D)
    (wave : PlannedWave D) (digest : D) : EventPayload D → ReplayState D → Prop
  | wave {payload : WavePayload D} {receipt : Option (DispatchScheduleReceipt D)}
      (hidle : st.incomplete.entries = [])
      (hreceipt : scheduleFromLatest journal.plan journal.ctx st.latest.get?
        st.lastFinishPriorScheduleSha256 = .ok receipt)
      (hprior : payload.priorScheduleReceiptSha256 = receipt.map sha.scheduleReceipt)
      (hpending : expectedPending sha.toContentSha journal.plan journal.ctx st.latest.get?
        = .ok (wave, payload.pendingAttempts)) :
      Replays sha journal st wave digest (.wave payload) { st with
        waveEvents := st.waveEvents.set digest ⟨wave.waveIndex,
          payload.priorScheduleReceiptSha256, payload.pendingAttempts⟩ }
  | intent {payload : AttemptPayload D} {waveEvent : WaveEvent D}
      (hdeclared : Declared st wave payload waveEvent)
      (hempty : payload.finishedMonotonicNs = none ∧ payload.intentEventSha256 = none ∧
        payload.assignmentReceipt = none)
      (hsingle : ∀ row ∈ st.incomplete.values,
        ¬(row.identity.assignmentSha256 = payload.identity.assignmentSha256 ∧
          row.waveEventSha256 = payload.waveEventSha256)) :
      Replays sha journal st wave digest (.intent payload) { st with
        incomplete := st.incomplete.set digest (openIntent payload) }
  | finish {payload : AttemptPayload D} {waveEvent : WaveEvent D} {intentSha256 : D}
      {finished : ℕ} {receipt : AssignmentExecutionReceipt D} {assignment : PlannedAssignment D}
      {budget : ExperimentBudget D}
      (hdeclared : Declared st wave payload waveEvent)
      (hcloses : Closes sha.toContentSha st payload intentSha256 finished receipt)
      (hassignment : wave.assignments.find? (fun x =>
        decide (x.assignmentId = payload.identity.assignmentSha256)) = some assignment)
      (hbudget : journal.ctx.budgetsByCellId assignment.itemId = some budget)
      (hidentity : payload.identity = attemptIdentity sha.toContentSha journal.ctx
        ⟨assignment, receipt.attempt, budget, st.latest.get? payload.identity.assignmentSha256⟩)
      (hmatches : ReceiptMatches journal wave assignment budget payload.startedMonotonicNs
        finished receipt) :
      Replays sha journal st wave digest (.finish payload) { st with
        incomplete := st.incomplete.erase intentSha256
        latest := st.latest.set payload.identity.assignmentSha256 receipt
        lastFinishPriorScheduleSha256 := waveEvent.priorScheduleReceiptSha256 }

variable {payload : AttemptPayload D} {event : JournalEvent D} {files : List (JournalFile D)}

section Reader

variable {sha : JournalSha D} {journal : DispatchAttemptJournal D} {st st' : ReplayState D}
  {wave : PlannedWave D} {digest : D}

theorem replayAttempt_eq_ok {waveEvent : WaveEvent D} :
    DispatchAttemptJournal.replayAttempt st wave payload = .ok waveEvent ↔
      Declared st wave payload waveEvent := by
  unfold DispatchAttemptJournal.replayAttempt
  split
  · rename_i hnone
    constructor
    · intro h
      cases h
    · intro h
      rw [h.declared] at hnone
      cases hnone
  · rename_i found hfound
    simp only [bind_eq_ok, check_eq_ok, pure_eq_ok]
    constructor
    · rintro ⟨hindex, hpending, rfl⟩
      exact ⟨hfound, hindex, hpending⟩
    · intro h
      obtain rfl : found = waveEvent := Option.some.inj (hfound.symm.trans h.declared)
      exact ⟨h.waveIndex, h.pending, rfl⟩

theorem finishParts_eq_ok {intentSha256 : D} {finished : ℕ}
    {receipt : AssignmentExecutionReceipt D} :
    DispatchAttemptJournal.finishParts sha st payload = .ok (intentSha256, finished, receipt) ↔
      Closes sha.toContentSha st payload intentSha256 finished receipt := by
  unfold DispatchAttemptJournal.finishParts
  split
  · rename_i intent ns found hintent hns hfound
    simp only [bind_eq_ok, check_eq_ok, pure_eq_ok, Prod.mk.injEq,
      AssignmentExecutionReceipt.construct, validated_eq_ok]
    constructor
    · rintro ⟨hordered, hopen, hgpu, hfixed, _, ⟨hvalid, rfl⟩, rfl, rfl, rfl⟩
      exact ⟨hintent, hns, hfound, hordered, hopen, AttributedTypes.ext hgpu hfixed, hvalid⟩
    · intro h
      obtain rfl : intent = intentSha256 := Option.some.inj (hintent.symm.trans h.intentEvent)
      obtain rfl : ns = finished := Option.some.inj (hns.symm.trans h.finishedNs)
      obtain rfl : found = receipt := Option.some.inj (hfound.symm.trans h.assignmentReceipt)
      rw [h.ints]
      exact ⟨h.ordered, h.intent, rfl, rfl, _, ⟨h.valid, rfl⟩, rfl, rfl, rfl⟩
  · rename_i hnone
    refine ⟨fun h => (by cases h), fun h => ?_⟩
    rw [h.intentEvent] at hnone
    cases hnone
  · rename_i hnone hintent
    refine ⟨fun h => (by cases h), fun h => ?_⟩
    rw [h.finishedNs] at hnone
    cases hnone
  · rename_i hnone hintent hfinished
    refine ⟨fun h => (by cases h), fun h => ?_⟩
    rw [h.assignmentReceipt] at hnone
    cases hnone

theorem checkFinishReceipt_eq_ok {assignment : PlannedAssignment D} {budget : ExperimentBudget D}
    {started finished : ℕ} {receipt : AssignmentExecutionReceipt D} {u : Unit} :
    journal.checkFinishReceipt wave assignment budget started finished receipt = .ok u ↔
      ReceiptMatches journal wave assignment budget started finished receipt := by
  simp only [DispatchAttemptJournal.checkFinishReceipt, bind_eq_ok, require_eq_ok, exists_const]
  constructor
  · rintro ⟨⟨hplan, hwave, hassignment, hbudget, hinterval⟩, hsuccess⟩
    refine ⟨hplan, hwave, hassignment, hbudget, hinterval, fun h => ?_⟩
    obtain ⟨binding, hbinding, hcell, hinventory, hgpus, hdispatch⟩ := hsuccess h
    exact ⟨binding, hbinding, hcell, hinventory, hgpus, hdispatch⟩
  · intro h
    refine ⟨⟨h.planSha256, h.waveSha256, h.assignmentSha256, h.budgetSha256, h.interval⟩, fun hsucceeded => ?_⟩
    obtain ⟨binding, hbinding, hmatches⟩ := h.success hsucceeded
    exact ⟨binding, hbinding, hmatches.cellId, hmatches.inventory, hmatches.gpus,
      hmatches.dispatchPlan⟩

theorem replayFinish_eq_ok : journal.replayFinish sha st wave payload = .ok st' ↔
      Replays sha journal st wave digest (.finish payload) st' := by
  unfold DispatchAttemptJournal.replayFinish
  simp only [bind_eq_ok, replayAttempt_eq_ok, Prod.exists, finishParts_eq_ok]
  constructor
  · rintro ⟨waveEvent, hdeclared, intentSha256, finished, receipt, hcloses, h⟩
    split at h
    · cases h
    · rename_i assignment hassignment
      simp only [bind_eq_ok, require_eq_ok, exists_const, pure_eq_ok, budget_eq_ok,
        checkFinishReceipt_eq_ok] at h
      obtain ⟨budget, hbudget, hidentity, hmatches, rfl⟩ := h
      exact .finish hdeclared hcloses hassignment hbudget hidentity hmatches
  · intro h
    cases h with
    | finish hdeclared hcloses hassignment hbudget hidentity hmatches =>
      refine ⟨_, hdeclared, _, _, _, hcloses, ?_⟩
      rw [hassignment]
      simp only [bind_eq_ok, require_eq_ok, exists_const, pure_eq_ok, budget_eq_ok,
        checkFinishReceipt_eq_ok]
      exact ⟨_, hbudget, hidentity, hmatches, trivial⟩

theorem replayPayload_eq_ok {payload : EventPayload D} :
    journal.replayPayload sha st wave digest payload = .ok st' ↔
      Replays sha journal st wave digest payload st' := by
  cases payload with
  | wave payload =>
    simp only [DispatchAttemptJournal.replayPayload, DispatchAttemptJournal.replayWave, bind_eq_ok,
      check_eq_ok, pure_eq_ok]
    constructor
    · rintro ⟨hidle, receipt, hreceipt, hprior, expected, hexpected, ⟨rfl, hpending⟩, rfl⟩
      rw [← hprior]
      exact .wave hidle hreceipt hprior (hpending ▸ hexpected)
    · intro h
      cases h with
      | wave hidle hreceipt hprior hpending =>
        exact ⟨hidle, _, hreceipt, hprior, _, hpending, ⟨rfl, rfl⟩, by rw [hprior]⟩
  | intent payload =>
    simp only [DispatchAttemptJournal.replayPayload, DispatchAttemptJournal.replayIntent,
      bind_eq_ok, check_eq_ok, pure_eq_ok, replayAttempt_eq_ok]
    constructor
    · rintro ⟨waveEvent, hdeclared, ⟨hfinished, hintent, hreceipt, hsingle⟩, rfl⟩
      exact .intent hdeclared ⟨hfinished, hintent, hreceipt⟩ hsingle
    · intro h
      cases h with
      | intent hdeclared hempty hsingle =>
        exact ⟨_, hdeclared, ⟨hempty.1, hempty.2.1, hempty.2.2, hsingle⟩, rfl⟩
  | finish payload => exact replayFinish_eq_ok

theorem Replays.eventSha256s {payload : EventPayload D}
    (h : Replays sha journal st wave digest payload st') : st'.eventSha256s = st.eventSha256s := by
  cases h <;> rfl

/-! ## One file -/

/-- The variables of the loop after one more file. -/
def ReplayState.noted (st : ReplayState D) (digest : D) : ReplayState D :=
  { st with eventSha256s := st.eventSha256s ++ [digest] }

/-- The event carries the identity that the reader expects next. -/
structure Identified (journal : DispatchAttemptJournal D) (st : ReplayState D)
    (event : JournalEvent D) (wave : PlannedWave D) : Prop where
  schemaVersion : event.schemaVersion = 1
  kind : event.kind = "industrial_dispatch_attempt_event"
  manifest : event.manifestSha256 = journal.manifestSha256
  sequence : event.sequence = st.eventSha256s.length
  previous : event.previousEventSha256 = st.eventSha256s.getLast?
  planSha256 : event.planSha256 = journal.plan.sha256
  context : event.executionContextSha256 = journal.executionContextSha256
  inventory : event.inventorySha256 = journal.ctx.inventorySha256
  planned : journal.plan.waves[event.waveIndex]? = some wave
  waveSha256 : event.waveSha256 = wave.sha256

theorem replayIdentity_eq_ok :
    journal.replayIdentity st event = .ok wave ↔ Identified journal st event wave := by
  unfold DispatchAttemptJournal.replayIdentity
  simp only [bind_eq_ok, check_eq_ok]
  constructor
  · rintro ⟨⟨hschema, hkind, hmanifest, hsequence, hprevious, hplan, hcontext, hinventory⟩, h⟩
    split at h
    · cases h
    · rename_i found hfound
      simp only [bind_eq_ok, check_eq_ok, pure_eq_ok] at h
      obtain ⟨hsha, rfl⟩ := h
      exact ⟨hschema, hkind, hmanifest, hsequence, hprevious, hplan, hcontext, hinventory, hfound,
        hsha⟩
  · intro h
    refine ⟨⟨h.schemaVersion, h.kind, h.manifest, h.sequence, h.previous, h.planSha256, h.context,
      h.inventory⟩, ?_⟩
    rw [h.planned]
    simp only [bind_eq_ok, check_eq_ok, pure_eq_ok]
    exact ⟨h.waveSha256, trivial⟩

theorem readEvent_eq_ok {file : JournalFile D} :
    DispatchAttemptJournal.readEvent sha file = .ok event ↔
      file.body = some event ∧ sha.event event = file.declaredSha256 := by
  unfold DispatchAttemptJournal.readEvent
  split
  · rename_i hnone
    simp [hnone]
  · rename_i found hfound
    rw [hfound, Option.some.injEq]
    constructor
    · intro h
      split at h
      · rename_i hdigest
        obtain rfl := Except.ok.inj h
        exact ⟨rfl, hdigest⟩
      · cases h
    · rintro ⟨rfl, hdigest⟩
      rw [if_pos hdigest]

/-- One file is accepted: it is the next one, its name holds its digest, and the
reader accepts its event. -/
theorem replayFile_eq_ok {file : JournalFile D} : journal.replayFile sha st file = .ok st' ↔
    file.sequence = st.eventSha256s.length ∧ ∃ event wave next,
      file.body = some event ∧ sha.event event = file.declaredSha256 ∧
      Identified journal st event wave ∧
      Replays sha journal st wave file.declaredSha256 event.payload next ∧
      next.noted file.declaredSha256 = st' := by
  simp only [DispatchAttemptJournal.replayFile, bind_eq_ok, check_eq_ok, pure_eq_ok,
    readEvent_eq_ok, replayIdentity_eq_ok, replayPayload_eq_ok]
  constructor
  · rintro ⟨hsequence, event, ⟨hbody, hdigest⟩, wave, hidentified, next, hreplays, rfl⟩
    exact ⟨hsequence, event, wave, next, hbody, hdigest, hidentified, hreplays, rfl⟩
  · rintro ⟨hsequence, event, wave, next, hbody, hdigest, hidentified, hreplays, rfl⟩
    exact ⟨hsequence, event, ⟨hbody, hdigest⟩, wave, hidentified, next, hreplays, rfl⟩

/-! ## All files -/

theorem replayFiles_snoc (files : List (JournalFile D)) (file : JournalFile D) :
    journal.replayFiles sha (files ++ [file])
      = journal.replayFiles sha files >>= fun st => journal.replayFile sha st file := by
  unfold DispatchAttemptJournal.replayFiles
  rw [foldlM_append]
  refine bind_congr fun st => ?_
  rw [List.foldlM_cons]
  simp

/-- What holds before the first file and is kept by every accepted file holds of
all files that are accepted. -/
theorem replayFiles_induction {P : List (JournalFile D) → ReplayState D → Prop} (hstart : P [] {})
    (hstep : ∀ files st file st', P files st → journal.replayFile sha st file = .ok st' →
      P (files ++ [file]) st') (h : journal.replayFiles sha files = .ok st) : P files st := by
  have hall : ∀ rest done start, P done start →
      rest.foldlM (journal.replayFile sha) start = .ok st → P (done ++ rest) st := by
    intro rest
    induction rest with
    | nil =>
      intro done start hdone hrest
      rw [List.foldlM_nil, pure_eq_ok] at hrest
      rw [append_nil]
      exact hrest ▸ hdone
    | cons file rest ih =>
      intro done start hdone hrest
      rw [List.foldlM_cons, bind_eq_ok] at hrest
      obtain ⟨next, hnext, hrest⟩ := hrest
      rw [append_cons]
      exact ih _ next (hstep done start file next hdone hnext) hrest
  exact hall files [] {} hstart h

/-- The files count up from zero, as do the events in them, the reader has noted
their digests, and the intents that are open are among them. -/
structure Numbered (sha : JournalSha D) (files : List (JournalFile D)) (st : ReplayState D) :
    Prop where
  digests : st.eventSha256s = files.map (·.declaredSha256)
  events : ∀ file ∈ files, ∃ event, file.body = some event ∧
    sha.event event = file.declaredSha256 ∧ event.sequence < files.length
  intents : ∀ d intent, st.incomplete.get? d = some intent → d ∈ st.eventSha256s
  waveEvents : ∀ d entry, st.waveEvents.get? d = some entry → d ∈ st.eventSha256s

/-- By induction on the files: an event that is read has the next number. -/
theorem numbered_of_replayFiles (h : journal.replayFiles sha files = .ok st) :
    Numbered sha files st := by
  refine replayFiles_induction (P := Numbered sha) ⟨rfl, by simp, by nofun, by nofun⟩ ?_ h
  intro files st file st' ih hfile
  obtain ⟨hsequence, event, wave, next, hbody, hdigest, hidentified, hreplays, rfl⟩ :=
    replayFile_eq_ok.mp hfile
  have hlength : st.eventSha256s.length = files.length := by rw [ih.digests, length_map]
  have hnoted : (next.noted file.declaredSha256).eventSha256s
      = st.eventSha256s ++ [file.declaredSha256] := by
    unfold ReplayState.noted
    rw [hreplays.eventSha256s]
  refine ⟨by rw [hnoted, ih.digests, map_append]; rfl, ?_, ?_, ?_⟩
  · intro f hf
    rw [length_append, length_singleton]
    rcases mem_append.mp hf with hf | hf
    · obtain ⟨e, hb, hd, hlt⟩ := ih.events f hf
      exact ⟨e, hb, hd, by omega⟩
    · obtain rfl := mem_singleton.mp hf
      exact ⟨event, hbody, hdigest, by rw [hidentified.sequence, hlength]; omega⟩
  · intro d intent hd
    rw [hnoted]
    change next.incomplete.get? d = some intent at hd
    generalize event.payload = payload at hreplays
    cases hreplays with
    | wave => exact mem_append_left _ (ih.intents d intent hd)
    | intent =>
      rw [Dict.get?_set] at hd
      split at hd
      · rename_i hkey
        simp [hkey]
      · exact mem_append_left _ (ih.intents d intent hd)
    | finish =>
      rw [Dict.get?_erase] at hd
      split at hd
      · cases hd
      · exact mem_append_left _ (ih.intents d intent hd)
  · intro d entry hd
    rw [hnoted]
    change next.waveEvents.get? d = some entry at hd
    generalize event.payload = payload at hreplays
    cases hreplays with
    | wave =>
      rw [Dict.get?_set] at hd
      split at hd
      · rename_i hkey
        simp [hkey]
      · exact mem_append_left _ (ih.waveEvents d entry hd)
    | intent => exact mem_append_left _ (ih.waveEvents d entry hd)
    | finish => exact mem_append_left _ (ih.waveEvents d entry hd)

/-- An event that comes after all files has a digest that none of them has. -/
theorem Numbered.fresh (h : Numbered sha files st) (hsequence : event.sequence = files.length) :
    sha.event event ∉ st.eventSha256s := by
  rw [h.digests]
  intro hmem
  obtain ⟨file, hfile, hdigest⟩ := mem_map.mp hmem
  obtain ⟨other, -, hother, hlt⟩ := h.events file hfile
  have heq : other = event := sha.event_injective (hother.trans hdigest)
  rw [heq, hsequence] at hlt
  exact lt_irrefl _ hlt

end Reader

end Pool

import LightConeSpec.Pool.Events

/-!
# The files of a journal

`Recorded` says what the files of a journal are to its reader: they replay, and
each open intent awaits a FINISH event that the reader will take. One more event
keeps it: a WAVE, an INTENT for an attempt that no open intent is about, and a
FINISH that the reader takes.
-/

namespace Pool

open Python Intervals List Dict

variable {D : Type} [DecidableEq D]

/-! ## The files -/

/-- The digest of an INTENT event. -/
def JournalFile.intent (file : JournalFile D) : Option D :=
  match file.body with
  | none => none
  | some event =>
    match event.payload with
    | .intent _ => some file.declaredSha256
    | _ => none

/-- The digests of the INTENT events. -/
def intentsOf (files : List (JournalFile D)) : List D := files.filterMap (·.intent)

/-- The intent that a FINISH event closes, and its receipt. -/
def JournalFile.finish (file : JournalFile D) : Option (D × AssignmentExecutionReceipt D) :=
  match file.body with
  | none => none
  | some event =>
    match event.payload with
    | .finish payload => payload.intentEventSha256.bind fun intentSha256 =>
      payload.assignmentReceipt.map fun receipt => (intentSha256, receipt)
    | _ => none

def finishesOf (files : List (JournalFile D)) : List (D × AssignmentExecutionReceipt D) :=
  files.filterMap (·.finish)

/-- What the calls of `finish_attempt` that returned were given. -/
abbrev Finished (D : Type) := List (DispatchAttemptJournalToken D × AssignmentExecutionReceipt D)

def finishedEntry (f : DispatchAttemptJournalToken D × AssignmentExecutionReceipt D) :
    Option (D × AssignmentExecutionReceipt D) :=
  some (f.2.assignmentSha256, f.2)

/-- The receipt of the last `finish_attempt` of an assignment that returned. -/
def lastFinished (finished : Finished D) (assignmentId : D) :
    Option (AssignmentExecutionReceipt D) :=
  Log.latest finishedEntry finished assignmentId

@[simp] theorem lastFinished_snoc (finished : Finished D) (token : DispatchAttemptJournalToken D)
    (receipt : AssignmentExecutionReceipt D) (a : D) :
    lastFinished (finished ++ [(token, receipt)]) a =
      if receipt.assignmentSha256 = a then some receipt else lastFinished finished a :=
  Log.latest_snoc_of_some
    (show finishedEntry (token, receipt) = some (receipt.assignmentSha256, receipt) from rfl) a

/-- The open intent is that of an assignment of its wave, for the attempt after
the last receipt. -/
structure Awaits (sha : ContentSha D) (journal : DispatchAttemptJournal D) (st : ReplayState D)
    (intent : OpenIntent D) (waveEvent : WaveEvent D) (wave : PlannedWave D)
    (assignment : PlannedAssignment D) (budget : ExperimentBudget D) : Prop where
  declared : st.waveEvents.get? intent.waveEventSha256 = some waveEvent
  planned : journal.plan.waves[waveEvent.waveIndex]? = some wave
  pending : intent.identity ∈ waveEvent.pendingAttempts
  mem : assignment ∈ wave.assignments
  allowed : journal.ctx.budgetsByCellId assignment.itemId = some budget
  identity : intent.identity = attemptIdentity sha journal.ctx
    ⟨assignment, intent.identity.attempt, budget, st.latest.get? assignment.assignmentId⟩

/-- What the files are to the reader, after the calls of `finish_attempt`. -/
structure Recorded (sha : JournalSha D) (journal : DispatchAttemptJournal D)
    (finished : Finished D) (files : List (JournalFile D)) (st : ReplayState D) : Prop where
  replays : journal.replayFiles sha files = .ok st
  awaits : ∀ d intent, st.incomplete.get? d = some intent → ∃ waveEvent wave assignment budget,
    Awaits sha.toContentSha journal st intent waveEvent wave assignment budget
  single : ∀ d d' intent intent', st.incomplete.get? d = some intent →
    st.incomplete.get? d' = some intent' →
      intent.identity.assignmentSha256 = intent'.identity.assignmentSha256 → d = d'
  admissible : Admissible sha.toContentSha journal.ctx st.latest.get?
  unfinished : ∀ d, (∃ intent, st.incomplete.get? d = some intent) ↔
    d ∈ intentsOf files ∧ ∀ f ∈ finished, f.1.intentSha256 ≠ d
  latest : ∀ a, st.latest.get? a = lastFinished finished a
  known : ∀ f ∈ finished, f.1.intentSha256 ∈ st.eventSha256s
  finishes : finishesOf files = finished.map fun f => (f.1.intentSha256, f.2)

variable {sha : JournalSha D} {journal : DispatchAttemptJournal D} {finished : Finished D}
  {files : List (JournalFile D)} {st : ReplayState D}

theorem Admissible.empty : Admissible sha.toContentSha journal.ctx
    (Dict.empty : Dict D (AssignmentExecutionReceipt D)).get? :=
  ⟨nofun, nofun, nofun⟩

/-- The receipt of one more assignment is filed. -/
theorem Admissible.set {latest : Dict D (AssignmentExecutionReceipt D)}
    (h : Admissible sha.toContentSha journal.ctx latest.get?) {receipt : AssignmentExecutionReceipt D}
    (hvalid : receipt.postInit sha.toContentSha = .ok ())
    (hcount : receipt.fixedInstanceGpuCount = journal.ctx.deviceCount) :
    Admissible sha.toContentSha journal.ctx
      (latest.set receipt.assignmentSha256 receipt).get? := by
  refine ⟨fun a r hr => ?_, fun a r hr => ?_, fun a r hr => ?_⟩ <;> rw [get?_set] at hr <;>
    split at hr
  · rename_i hkey
    obtain rfl := Option.some.inj hr
    exact hkey.symm
  · exact h.filed a r hr
  · obtain rfl := Option.some.inj hr
    exact hvalid
  · exact h.valid a r hr
  · obtain rfl := Option.some.inj hr
    exact hcount
  · exact h.count a r hr

theorem recorded_nil : Recorded sha journal [] [] {} where
  replays := rfl
  awaits := nofun
  single := nofun
  admissible := .empty
  unfinished := fun d => by
    constructor
    · rintro ⟨intent, h⟩
      cases h
    · rintro ⟨h, -⟩
      cases h
  latest := fun _ => rfl
  known := nofun
  finishes := rfl

omit [DecidableEq D] in
/-- A file that is no INTENT event. -/
theorem intentsOf_snoc_of_none {file : JournalFile D} (h : file.intent = none) :
    intentsOf (files ++ [file]) = intentsOf files := by
  simp [intentsOf, h]

omit [DecidableEq D] in
/-- A file that is no FINISH event. -/
theorem finishesOf_snoc_of_none {file : JournalFile D} (h : file.finish = none) :
    finishesOf (files ++ [file]) = finishesOf files := by
  simp [finishesOf, h]

variable {event : JournalEvent D} {st₀ : ReplayState D}

namespace Recorded

/-- The incomplete intents of a snapshot are those of the loop. -/
theorem mem_incomplete (d : D) :
    d ∈ st.incomplete.entries.map Prod.fst ↔ ∃ intent, st.incomplete.get? d = some intent := by
  rw [mem_map]
  constructor
  · rintro ⟨⟨d', intent⟩, hentry, rfl⟩
    exact ⟨intent, mem_entries_iff.mp hentry⟩
  · rintro ⟨intent, h⟩
    exact ⟨(d, intent), mem_entries_iff.mpr h, rfl⟩

section

variable (h : Recorded sha journal finished files st)

include h

/-- `replay` returns. -/
theorem replay_eq_ok : ∃ n, Covers st.latest.get? journal.plan.waves n ∧
    journal.replay sha files none = .ok (journal.snapshotOf sha st (scheduleOf journal.plan
      journal.ctx st.latest.get? st.lastFinishPriorScheduleSha256 n)) := by
  obtain ⟨n, hn⟩ := exists_covers h.admissible journal.plan
  refine ⟨n, hn, ?_⟩
  unfold DispatchAttemptJournal.replay DispatchAttemptJournal.replayNames
  show (journal.replayFiles sha files >>= fun st => _) = _
  rw [h.replays]
  show (scheduleFromLatest journal.plan journal.ctx st.latest.get?
    st.lastFinishPriorScheduleSha256 >>= fun receipt => _) = _
  rw [scheduleFromLatest_eq h.admissible _ hn]
  rfl

/-! ## Files with one more event -/

/-- A WAVE event. -/
theorem wave (file : JournalFile D) {payload : WavePayload D} {wave : PlannedWave D}
    (hbody : file.body = some event) (hpayload : event.payload = .wave payload)
    (hreplays : Replays sha journal st wave file.declaredSha256 (.wave payload) st₀)
    (hfiles : journal.replayFiles sha (files ++ [file]) = .ok (st₀.noted file.declaredSha256)) :
    Recorded sha journal finished (files ++ [file]) (st₀.noted file.declaredSha256) := by
  have hintents : intentsOf (files ++ [file]) = intentsOf files :=
    intentsOf_snoc_of_none (by simp [JournalFile.intent, hbody, hpayload])
  have hfinishes : finishesOf (files ++ [file]) = finishesOf files :=
    finishesOf_snoc_of_none (by simp [JournalFile.finish, hbody, hpayload])
  cases hreplays with
  | wave hidle hreceipt hprior hpending =>
    have hnone : ∀ d, st.incomplete.get? d = none := by
      intro d
      unfold Dict.get?
      rw [hidle]
      rfl
    refine ⟨hfiles, fun d intent hd => ?_, h.single, h.admissible, fun d => ?_, h.latest,
      fun f hf => mem_append_left _ (h.known f hf), hfinishes.trans h.finishes⟩
    · exact absurd ((hnone d).symm.trans hd) nofun
    · rw [hintents]
      exact h.unfinished d

/-- An INTENT event, for an attempt that no open intent is about. -/
theorem intent (file : JournalFile D) {payload : AttemptPayload D} {wave : PlannedWave D}
    (hbody : file.body = some event) (hpayload : event.payload = .intent payload)
    (hreplays : Replays sha journal st wave file.declaredSha256 (.intent payload) st₀)
    (hfiles : journal.replayFiles sha (files ++ [file]) = .ok (st₀.noted file.declaredSha256))
    (hfresh : file.declaredSha256 ∉ st.eventSha256s) (hawaits : ∃ waveEvent wave assignment budget,
      Awaits sha.toContentSha journal st (openIntent payload) waveEvent wave assignment budget)
    (hother : ∀ d intent, st.incomplete.get? d = some intent →
      intent.identity.assignmentSha256 ≠ payload.identity.assignmentSha256) :
    Recorded sha journal finished (files ++ [file]) (st₀.noted file.declaredSha256) := by
  have hintents : intentsOf (files ++ [file]) = intentsOf files ++ [file.declaredSha256] := by
    simp [intentsOf, JournalFile.intent, hbody, hpayload]
  have hfinishes : finishesOf (files ++ [file]) = finishesOf files :=
    finishesOf_snoc_of_none (by simp [JournalFile.finish, hbody, hpayload])
  cases hreplays with
  | intent hdeclared hempty hsingle =>
    refine ⟨hfiles, fun d intent hd => ?_, fun d d' i i' hd hd' hid => ?_, h.admissible,
      fun d => ?_, h.latest, fun f hf => mem_append_left _ (h.known f hf),
      hfinishes.trans h.finishes⟩
    · change (st.incomplete.set _ _).get? d = some intent at hd
      rw [get?_set] at hd
      split at hd
      · obtain rfl := Option.some.inj hd
        obtain ⟨waveEvent, wave, assignment, budget, hawait⟩ := hawaits
        exact ⟨waveEvent, wave, assignment, budget, hawait.declared, hawait.planned,
          hawait.pending, hawait.mem, hawait.allowed, hawait.identity⟩
      · obtain ⟨waveEvent, wave, assignment, budget, hawait⟩ := h.awaits d intent hd
        exact ⟨waveEvent, wave, assignment, budget, hawait.declared, hawait.planned,
          hawait.pending, hawait.mem, hawait.allowed, hawait.identity⟩
    · change (st.incomplete.set _ _).get? d = some i at hd
      change (st.incomplete.set _ _).get? d' = some i' at hd'
      rw [get?_set] at hd hd'
      split at hd
      · rename_i hkey
        split at hd'
        · rename_i hkey'
          rw [hkey, hkey']
        · obtain rfl := Option.some.inj hd
          exact absurd hid.symm (hother d' i' hd')
      · split at hd'
        · obtain rfl := Option.some.inj hd'
          exact absurd hid (hother d i hd)
        · exact h.single d d' i i' hd hd' hid
    · change (∃ intent, (st.incomplete.set _ _).get? d = some intent) ↔ _
      rw [get?_set, hintents, mem_append, mem_singleton]
      by_cases hd : d = file.declaredSha256
      · rw [if_pos hd]
        refine ⟨fun _ => ⟨.inr hd, fun f hf hkey => ?_⟩, fun _ => ⟨_, rfl⟩⟩
        rw [hd] at hkey
        exact hfresh (hkey ▸ h.known f hf)
      · rw [if_neg hd, h.unfinished d]
        simp [hd]

/-- A FINISH event whose receipt counts the devices of the inventory. -/
theorem finish (file : JournalFile D) (token : DispatchAttemptJournalToken D)
    {payload : AttemptPayload D} {wave : PlannedWave D} {receipt : AssignmentExecutionReceipt D}
    (hbody : file.body = some event) (hpayload : event.payload = .finish payload)
    (hreplays : Replays sha journal st wave file.declaredSha256 (.finish payload) st₀)
    (hfiles : journal.replayFiles sha (files ++ [file]) = .ok (st₀.noted file.declaredSha256))
    (htoken : payload.intentEventSha256 = some token.intentSha256)
    (hreceipt : payload.assignmentReceipt = some receipt)
    (hcount : receipt.fixedInstanceGpuCount = journal.ctx.deviceCount) :
    Recorded sha journal (finished ++ [(token, receipt)]) (files ++ [file])
      (st₀.noted file.declaredSha256) := by
  have hintents : intentsOf (files ++ [file]) = intentsOf files :=
    intentsOf_snoc_of_none (by simp [JournalFile.intent, hbody, hpayload])
  have hfinishes : finishesOf (files ++ [file])
      = (finished ++ [(token, receipt)]).map fun f => (f.1.intentSha256, f.2) := by
    have hfile : file.finish = some (token.intentSha256, receipt) := by
      simp [JournalFile.finish, hbody, hpayload, htoken, hreceipt]
    rw [finishesOf, filterMap_append, map_append, ← h.finishes]
    simp [finishesOf, hfile]
  cases hreplays with
  | finish hdeclared hcloses hassignment hbudget hidentity hmatches =>
    rename_i waveEvent intentSha256 finishedNs receipt' assignment budget
    obtain rfl : token.intentSha256 = intentSha256 :=
      Option.some.inj (htoken.symm.trans hcloses.intentEvent)
    obtain rfl : receipt = receipt' :=
      Option.some.inj (hreceipt.symm.trans hcloses.assignmentReceipt)
    have hid : assignment.assignmentId = payload.identity.assignmentSha256 := by
      simpa using find?_some hassignment
    have hfiled : receipt.assignmentSha256 = payload.identity.assignmentSha256 :=
      hmatches.assignmentSha256.trans hid
    refine ⟨hfiles, fun d intent hd => ?_, fun d d' i i' hd hd' => ?_, ?_, fun d => ?_, fun a => ?_,
      fun f hf => ?_, hfinishes⟩
    · change (st.incomplete.erase _).get? d = some intent at hd
      rw [get?_erase] at hd
      split at hd
      · cases hd
      rename_i hne
      obtain ⟨waveEvent', wave', assignment', budget', hawait⟩ := h.awaits d intent hd
      refine ⟨waveEvent', wave', assignment', budget', hawait.declared, hawait.planned,
        hawait.pending, hawait.mem, hawait.allowed, ?_⟩
      -- another open intent is about another assignment
      have hother : assignment'.assignmentId ≠ payload.identity.assignmentSha256 := by
        intro hsame
        refine hne (h.single d _ intent _ hd hcloses.intent ?_)
        rw [hawait.identity]
        exact hsame
      change intent.identity = attemptIdentity sha.toContentSha journal.ctx
        ⟨assignment', intent.identity.attempt, budget', (st.latest.set _ _).get? _⟩
      rw [get?_set, if_neg hother]
      exact hawait.identity
    · change (st.incomplete.erase _).get? d = some i at hd
      change (st.incomplete.erase _).get? d' = some i' at hd'
      rw [get?_erase] at hd hd'
      split at hd
      · cases hd
      split at hd'
      · cases hd'
      exact h.single d d' i i' hd hd'
    · change Admissible sha.toContentSha journal.ctx (st.latest.set _ _).get?
      rw [← hfiled]
      exact h.admissible.set hcloses.valid hcount
    · change (∃ intent, (st.incomplete.erase _).get? d = some intent) ↔ _
      rw [get?_erase, hintents]
      by_cases hd : d = token.intentSha256
      · rw [if_pos hd]
        constructor
        · rintro ⟨intent, hnone⟩
          cases hnone
        · rintro ⟨-, hall⟩
          exact absurd hd.symm (hall (token, receipt) (by simp))
      · rw [if_neg hd, h.unfinished d]
        simp only [mem_append, mem_singleton]
        constructor
        · rintro ⟨hmem, hall⟩
          refine ⟨hmem, fun f hf => ?_⟩
          rcases hf with hf | rfl
          · exact hall f hf
          · exact Ne.symm hd
        · rintro ⟨hmem, hall⟩
          exact ⟨hmem, fun f hf => hall f (.inl hf)⟩
    · change (st.latest.set _ _).get? a = _
      rw [get?_set, lastFinished_snoc, hfiled, h.latest a]
      simp only [eq_comm]
    · refine mem_append_left _ ?_
      rcases mem_append.mp hf with hf | hf
      · exact h.known f hf
      · obtain rfl := mem_singleton.mp hf
        exact (numbered_of_replayFiles h.replays).intents _ _ hcloses.intent

end

end Recorded

end Pool

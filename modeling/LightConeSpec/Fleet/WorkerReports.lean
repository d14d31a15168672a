import LightConeSpec.Fleet.Digests
import LightConeSpec.Fleet.Worker
import LightConeSpec.Pool.Recovery

/-!
# What a worker reports

A worker that answers BLOCKED has changed nothing, and one that answers SUCCEEDED or FAILED has
read the receipt that the wave returned in the published envelope. The answers cover every
exception of the wave; they cover those of reading the receipt again when these are `TypeError`s
and `ValueError`s.

First what the checks raise, then what a wave that raises its blocked error leaves, then the
answers.
-/

namespace Fleet

open Python Pool Intervals Method

/-! ## What the constructors raise -/

section

variable {D : Type} [DecidableEq D]

theorem mergeMonotonicIntervals_raises (intervals : List Interval) :
    RaisesOnly Caught (mergeMonotonicIntervals intervals) := by
  unfold mergeMonotonicIntervals
  split
  · exact raisesOnly_ok
  · exact raisesOnly_error.mpr rfl

theorem intervalUnionNs_raises (intervals : List Interval) :
    RaisesOnly Caught (intervalUnionNs intervals) :=
  raisesOnly_bind (mergeMonotonicIntervals_raises intervals) fun _ _ => raisesOnly_pure

omit [DecidableEq D] in
theorem checkPriorAttempt_raises (receipt : AssignmentExecutionReceipt D) :
    RaisesOnly Caught receipt.checkPriorAttempt := by
  unfold AssignmentExecutionReceipt.checkPriorAttempt
  split
  · exact raisesOnly_require rfl
  · exact raisesOnly_require rfl

theorem checkOutcome_raises (sha : ContentSha D) (receipt : AssignmentExecutionReceipt D) :
    RaisesOnly Caught (receipt.checkOutcome sha) := by
  unfold AssignmentExecutionReceipt.checkOutcome
  cases receipt.status with
  | succeeded =>
    refine raisesOnly_check fun _ => ?_
    cases receipt.terminalBinding with
    | none =>
      exact raisesOnly_bind (raisesOnly_error.mpr rfl) fun _ _ => raisesOnly_require rfl
    | some binding => exact raisesOnly_check fun _ => raisesOnly_require rfl
  | failed =>
    exact raisesOnly_check fun _ => raisesOnly_check fun _ =>
      raisesOnly_require rfl

theorem assignmentReceipt_raises (sha : ContentSha D) (receipt : AssignmentExecutionReceipt D) :
    RaisesOnly Caught (receipt.postInit sha) := by
  unfold AssignmentExecutionReceipt.postInit
  refine raisesOnly_check fun _ => raisesOnly_check fun _ => ?_
  refine raisesOnly_bind (mergeMonotonicIntervals_raises _) fun _ _ => ?_
  refine raisesOnly_check fun _ => ?_
  refine raisesOnly_bind (checkPriorAttempt_raises receipt) fun _ _ => ?_
  repeat refine raisesOnly_check fun _ => ?_
  refine raisesOnly_bind (intervalUnionNs_raises _) fun _ _ => ?_
  refine raisesOnly_check fun _ => raisesOnly_check fun _ => ?_
  exact raisesOnly_check fun _ => checkOutcome_raises sha receipt

theorem waveReceipt_raises (receipt : DispatchWaveExecutionReceipt D) :
    RaisesOnly Caught receipt.postInit := by
  unfold DispatchWaveExecutionReceipt.postInit
  repeat refine raisesOnly_check fun _ => ?_
  refine raisesOnly_bind (mergeMonotonicIntervals_raises _) fun _ _ => ?_
  refine raisesOnly_check fun _ => ?_
  refine raisesOnly_bind (intervalUnionNs_raises _) fun _ _ => ?_
  repeat refine raisesOnly_check fun _ => ?_
  exact raisesOnly_require rfl

omit [DecidableEq D] in
theorem checkPhase_raises (receipt : DispatchScheduleReceipt D) :
    RaisesOnly Caught receipt.checkPhase := by
  unfold DispatchScheduleReceipt.checkPhase
  cases receipt.phase with
  | planned => exact raisesOnly_error.mpr rfl
  | running => exact raisesOnly_require rfl
  | failed => exact raisesOnly_require rfl
  | complete => exact raisesOnly_require rfl

theorem scheduleReceipt_raises (receipt : DispatchScheduleReceipt D) :
    RaisesOnly Caught receipt.postInit := by
  unfold DispatchScheduleReceipt.postInit
  repeat refine raisesOnly_check fun _ => ?_
  refine raisesOnly_bind (mergeMonotonicIntervals_raises _) fun _ _ => ?_
  refine raisesOnly_check fun _ => ?_
  refine raisesOnly_bind (intervalUnionNs_raises _) fun _ _ => ?_
  repeat refine raisesOnly_check fun _ => ?_
  exact checkPhase_raises receipt

omit [DecidableEq D] in
theorem artifactSidecar_raises (sidecar : ArtifactSidecar D) : RaisesOnly Caught sidecar.postInit :=
  raisesOnly_check fun _ => raisesOnly_require rfl

end

variable {D : Type} [LinearOrder D]

/-! ## What reading the receipt again raises -/

variable {read : EvidenceRead D} {receipt : DispatchScheduleReceipt D}
  {request : RemoteHostWaveRequest D} {response : RemoteHostWaveResponse D}

section

variable {P : Error → Prop}

/-- Every system call of reading a file returns, or raises an exception with the property. -/
structure LeafRead.Raises (P : Error → Prop) (leaf : LeafRead D) : Prop where
  initial : RaisesOnly P leaf.initial
  openLeaf : RaisesOnly P leaf.openLeaf
  opened : RaisesOnly P leaf.opened
  reads : ∀ chunk ∈ leaf.reads, RaisesOnly P chunk
  after : RaisesOnly P leaf.after
  current : RaisesOnly P leaf.current
  close : RaisesOnly P leaf.close

/-- The same for all that is called while the published receipt is read again. -/
structure EvidenceRead.Raises (P : Error → Prop) (read : EvidenceRead D) : Prop where
  isSymlink : RaisesOnly P read.isSymlink
  isResolved : RaisesOnly P read.isResolved
  first : read.first.Raises P
  second : read.second.Raises P
  undecodable : P read.undecodable
  evidenceIsResolved : ∀ path, RaisesOnly P (read.evidenceIsResolved path)
  journalIsResolved : RaisesOnly P read.journalIsResolved

variable (hP : ∀ e, Caught e → P e)

include hP

theorem readChunks_raises {reads : List (Except Error ℕ)} (remaining : ℕ)
    (h : ∀ chunk ∈ reads, RaisesOnly P chunk) : RaisesOnly P (readChunks reads remaining) ∧
      ∀ rest, readChunks reads remaining = .ok rest → ∀ chunk ∈ rest, RaisesOnly P chunk := by
  induction reads generalizing remaining with
  | nil =>
    cases remaining with
    | zero => exact ⟨raisesOnly_ok, fun rest hrest => by cases hrest; exact h⟩
    | succ n => exact ⟨raisesOnly_error.mpr (hP _ rfl), nofun⟩
  | cons chunk tail ih =>
    cases remaining with
    | zero => exact ⟨raisesOnly_ok, fun rest hrest => by cases hrest; exact h⟩
    | succ n =>
      have htail := fun size =>
        ih (n + 1 - size) fun other hother => h other (List.mem_cons_of_mem _ hother)
      constructor
      · refine raisesOnly_bind (h chunk List.mem_cons_self) fun size _ => ?_
        exact raisesOnly_check (fun _ => (htail size).1) (hP _ rfl)
      · intro rest hrest
        simp only [readChunks, bind_eq_ok] at hrest
        rcases hrest with ⟨size, -, _, -, hrest⟩
        exact (htail size).2 rest hrest

theorem requireEnd_raises {reads : List (Except Error ℕ)}
    (h : ∀ chunk ∈ reads, RaisesOnly P chunk) : RaisesOnly P (requireEnd reads) := by
  cases reads with
  | nil => exact raisesOnly_ok
  | cons chunk rest =>
    exact raisesOnly_bind (h chunk List.mem_cons_self) fun _ _ => raisesOnly_require (hP _ rfl)

omit [LinearOrder D] in
theorem readOpened_raises {leaf : LeafRead D} (h : leaf.Raises P) (limitBytes : ℕ)
    (initial : StatResult) : RaisesOnly P (readOpened limitBytes initial leaf) := by
  refine raisesOnly_bind h.opened fun opened _ => ?_
  refine raisesOnly_check (fun _ => ?_) (hP _ rfl)
  have hchunks := readChunks_raises hP opened.size h.reads
  refine raisesOnly_bind hchunks.1 fun rest hrest => ?_
  refine raisesOnly_bind (requireEnd_raises hP (hchunks.2 rest hrest)) fun _ _ => ?_
  exact raisesOnly_bind h.after fun _ _ => raisesOnly_bind h.current fun _ _ => raisesOnly_pure

omit [LinearOrder D] in
theorem readStableLeaf_raises {leaf : LeafRead D} (h : leaf.Raises P) (limitBytes : ℕ) :
    RaisesOnly P (readStableLeaf limitBytes leaf) := by
  refine raisesOnly_bind h.initial fun initial _ => ?_
  refine raisesOnly_check (fun _ => raisesOnly_bind h.openLeaf fun _ _ => ?_) (hP _ rfl)
  refine raisesOnly_bind
    (raisesOnly_finallyClose h.close (readOpened_raises hP h limitBytes initial)) ?_
  rintro ⟨opened, after, current⟩ -
  exact raisesOnly_check (fun _ => raisesOnly_pure) (hP _ rfl)

omit hP in
theorem isAbsoluteAnd_raises {resolved : Except Error Bool} (h : RaisesOnly P resolved)
    (text : String) : RaisesOnly P (isAbsoluteAnd text resolved) := by
  unfold isAbsoluteAnd
  split
  · exact h
  · exact raisesOnly_ok

theorem readStableEvidenceLeaf_raises (h : read.Raises P) (pathValue : String) (limitBytes : ℕ) :
    RaisesOnly P (readStableEvidenceLeaf pathValue limitBytes read) := by
  refine raisesOnly_bind (isAbsoluteAnd_raises ?_ pathValue) fun _ _ => ?_
  · refine raisesOnly_bind h.isSymlink fun symlink _ => ?_
    cases symlink with
    | false => exact h.isResolved
    | true => exact raisesOnly_pure
  refine raisesOnly_check (fun _ => ?_) (hP _ rfl)
  refine raisesOnly_bind (readStableLeaf_raises hP h.first limitBytes) fun _ _ => ?_
  refine raisesOnly_bind (readStableLeaf_raises hP h.second limitBytes) fun _ _ => ?_
  exact raisesOnly_check (fun _ => raisesOnly_pure) (hP _ rfl)

omit [LinearOrder D] in
/-- The constructor of a terminal binding raises what resolving its paths raises. -/
theorem terminalBinding_raises {isResolved : String → Except Error Bool}
    (h : ∀ path, RaisesOnly P (isResolved path)) (binding : AssignmentTerminalBinding D) :
    RaisesOnly P (binding.postInit isResolved) := by
  unfold AssignmentTerminalBinding.postInit
  refine raisesOnly_check (fun _ => raisesOnly_check (fun _ => ?_) (hP _ rfl)) (hP _ rfl)
  refine raisesOnly_bind (raisesOnly_forEach fun file _ => ?_) fun _ _ =>
    raisesOnly_require (hP _ rfl)
  exact raisesOnly_bind (h file.1) fun _ _ => raisesOnly_require (hP _ rfl)

theorem decodeRawScheduleEnvelope_raises (sha : WorkerSha D) (h : read.Raises P) (body : Body D) :
    RaisesOnly P (decodeRawScheduleEnvelope sha read body) := by
  unfold decodeRawScheduleEnvelope
  split
  · rename_i receipt sidecar attemptJournal
    refine raisesOnly_bind ?_ fun _ _ => ?_
    · refine raisesOnly_bind (raisesOnly_forEach fun wave _ => ?_) fun _ _ =>
        (scheduleReceipt_raises receipt).mono hP
      refine raisesOnly_bind (raisesOnly_forEach fun row _ => ?_) fun _ _ =>
        (waveReceipt_raises wave).mono hP
      refine raisesOnly_bind (raisesOnly_forEach fun binding _ => ?_) fun _ _ =>
        (assignmentReceipt_raises _ row).mono hP
      exact terminalBinding_raises hP h.evidenceIsResolved binding
    refine raisesOnly_bind ((artifactSidecar_raises sidecar).mono hP) fun _ _ => ?_
    refine raisesOnly_check (fun _ => raisesOnly_bind ?_ fun _ _ => raisesOnly_pure) (hP _ rfl)
    refine raisesOnly_bind (isAbsoluteAnd_raises h.journalIsResolved _) fun _ _ => ?_
    exact raisesOnly_check (fun _ => raisesOnly_require (hP _ rfl)) (hP _ rfl)
  · exact raisesOnly_error.mpr (hP _ rfl)
  · exact raisesOnly_error.mpr h.undecodable

/-- Reading the published receipt again raises what its system calls raise, and otherwise
`TypeError`s and `ValueError`s. -/
theorem reopenPublished_raises (sha : WorkerSha D) (request : RemoteHostWaveRequest D)
    (h : read.Raises P) : RaisesOnly P (reopenPublished sha request read) := by
  refine raisesOnly_bind (readStableEvidenceLeaf_raises hP h _ _) fun body _ => ?_
  exact raisesOnly_bind (decodeRawScheduleEnvelope_raises hP sha h body) fun _ _ =>
    raisesOnly_pure

end

/-! ## What building a response raises -/

theorem requireTerminalGpus_raises {binding : RemoteHostExecutionBinding D}
    {row : AssignmentExecutionReceipt D} (h : row.assignmentSha256 ∈ binding.assignmentSha256) :
    RaisesOnly Caught (requireTerminalGpus binding row) := by
  unfold requireTerminalGpus
  cases row.terminalBinding with
  | none => exact raisesOnly_ok
  | some terminal =>
    refine raisesOnly_bind ?_ fun _ _ => raisesOnly_require rfl
    rcases List.mem_map.mp h with ⟨item, hitem, hid⟩
    have hfound : (binding.assignments.find? fun item =>
        item.assignmentSha256 = row.assignmentSha256).isSome = true :=
      List.find?_isSome.mpr ⟨item, hitem, decide_eq_true hid⟩
    unfold RemoteHostExecutionBinding.assignmentBinding
    split
    · exact raisesOnly_ok
    · rename_i hnone
      rw [hnone] at hfound
      cases hfound

/-- No lookup of `_worker_response_from_receipt` fails: its checks come first. -/
theorem workerResponseFromReceipt_raises (sha : WorkerSha D) (request : RemoteHostWaveRequest D)
    (receipt : DispatchScheduleReceipt D) (envelopeSha256 : D) :
    RaisesOnly Caught (workerResponseFromReceipt sha request receipt envelopeSha256) := by
  refine raisesOnly_check fun hauthority => raisesOnly_check fun _ => ?_
  split
  · rename_i hnone
    rw [List.getElem?_eq_none_iff] at hnone
    omega
  · rename_i wave _
    refine raisesOnly_check fun _ => raisesOnly_check fun hcoverage => ?_
    refine raisesOnly_bind (raisesOnly_forEach fun row hrow => ?_) fun _ _ =>
      raisesOnly_validated (response_raises _)
    refine requireTerminalGpus_raises ?_
    rw [← hcoverage]
    exact (List.mem_insertionSort _).mpr (List.mem_map_of_mem hrow)

/-- What the response of a wave that ran says. -/
theorem executed_of_workerResponse {sha : WorkerSha D} {envelopeSha256 : D}
    (h : workerResponseFromReceipt sha request receipt envelopeSha256 = .ok response) :
    ∃ rows, response = executedResponse sha request receipt envelopeSha256 rows ∧
      response.postInit = .ok () := by
  unfold workerResponseFromReceipt at h
  simp only [bind_eq_ok, require_eq_ok] at h
  rcases h with ⟨_, -, _, -, h⟩
  split at h
  · cases h
  · rename_i wave _
    simp only [bind_eq_ok, validated_eq_ok] at h
    rcases h with ⟨_, -, _, -, _, -, hinit, rfl⟩
    exact ⟨wave.assignmentReceipts, rfl, hinit⟩

theorem executedResponse_status (sha : WorkerSha D) (request : RemoteHostWaveRequest D)
    (receipt : DispatchScheduleReceipt D) (envelopeSha256 : D)
    (rows : List (AssignmentExecutionReceipt D)) :
    (executedResponse sha request receipt envelopeSha256 rows).status = .succeeded ∨
      (executedResponse sha request receipt envelopeSha256 rows).status = .failed := by
  unfold executedResponse
  dsimp only
  split
  · exact .inl rfl
  · exact .inr rfl

/-! ## Blocked responses -/

/-- The response is bound to the request. -/
structure AnswerTo (sha : WorkerSha D) (request : RemoteHostWaveRequest D)
    (response : RemoteHostWaveResponse D) : Prop where
  valid : response.postInit = .ok ()
  hostId : response.hostId = request.binding.hostId
  requestSha256 : response.requestSha256 = sha.fleet.request request
  bindingSha256 : response.bindingSha256 = sha.fleet.binding request.binding

/-- A blocked response to a canonical request can be built for every reason that can be
printed. -/
theorem exists_blockedWorkerResponse (sha : WorkerSha D) (r : CanonicalWaveRequest D)
    {reason : String} (h : isReasonCode reason = true) :
    ∃ response, blockedWorkerResponse sha r.request reason = .ok response ∧
      AnswerTo sha r.request response ∧ response.status = .blocked := by
  have hid := r.safeHostId
  refine ⟨_, bind_eq_ok.mpr ⟨(), require_of h _, validated_eq_ok.mpr ⟨?_, rfl⟩⟩, ⟨?_, rfl, rfl, rfl⟩,
    rfl⟩
  all_goals
    simp [RemoteHostWaveResponse.postInit, requireId, requireReason, bind_eq_ok, hid, h]

theorem isReasonCode_safeReason (error : Error) {otherwise : String}
    (h : isReasonCode otherwise = true) : isReasonCode (safeReason error otherwise) = true := by
  unfold safeReason
  split
  · rename_i hreason
    exact hreason.2
  · exact h

/-! ## The wave executor -/

section

variable {D : Type} [DecidableEq D] {sha : JournalSha D} {journal : DispatchAttemptJournal D}

/-- The error of a call that has begun its wave is not the blocked one. -/
theorem outcomeUnknown_kind (e : Error) :
    (DispatchAttemptJournal.outcomeUnknown e).kind ≠ .executionBundleBlockedError := by
  unfold DispatchAttemptJournal.outcomeUnknown
  split
  · rename_i h
    rcases h with h | h
    · rw [h]
      exact nofun
    · rw [h]
      exact nofun
  · exact nofun

/-- The files of the journal and the events are those of `s`, unless the result is not the
blocked error. -/
def LeftAlone (s : Session D (JournalState D)) (result : Except Error (DispatchScheduleReceipt D))
    (t : Session D (JournalState D)) : Prop :=
  ∀ e, result = .error e → e.kind = .executionBundleBlockedError →
    t.journal.files = s.journal.files ∧ t.events = s.events

/-- A wave that raises the blocked error has appended no event to the journal and launched no
assignment: all it does before the mutation boundary is to open the journal. -/
theorem executeDispatchWaveBundles_leftAlone (call : WaveCall D) (s : Session D (JournalState D)) :
    MeetsAt (journal.executeDispatchWaveBundles sha call) s (LeftAlone s) := by
  have hs : ∀ result, LeftAlone s result s := fun _ _ _ _ => ⟨rfl, rfl⟩
  unfold DispatchAttemptJournal.executeDispatchWaveBundles
  refine meetsAt_check_bind (fun e _ => hs _) fun _ _ => ?_
  refine meetsAt_check_bind (fun e _ => hs _) fun _ _ => ?_
  refine meetsAt_read (meetsAt_check_bind (fun e _ => hs _) fun opened hopened => ?_)
  simp only [DispatchAttemptJournal.openOrCreate, bind_eq_ok, pure_eq_ok] at hopened
  rcases hopened with ⟨before, -, _, -, rfl⟩
  refine meetsAt_assign ?_
  have ht : ∀ result, LeftAlone s result
      ⟨JournalState.open_ s.journal.files before.eventSha256s call.disk, s.events⟩ :=
    fun _ _ _ _ => ⟨rfl, rfl⟩
  refine meetsAt_check_bind (fun e _ => ht _) fun snapshot _ => ?_
  refine meetsAt_check_bind (fun e _ => ht _) fun _ _ => ?_
  refine meetsAt_check_bind (fun e _ => ht _) fun _ _ => ?_
  refine meetsAt_check_bind (fun e _ => ht _) fun authorities _ => ?_
  refine meetsAt_check_bind (fun e _ => ht _) fun recovery _ => ?_
  cases recovery with
  | some receipt => exact meetsAt_check (ht _)
  | none =>
    refine meetsAt_check_bind (fun e _ => ht _) fun _ _ => ?_
    -- behind the mutation boundary no error is the blocked one
    refine meetsAt_mapError ?_
    intro e he hkind
    cases hrun : (journal.executeAndPublish sha call snapshot authorities
        ⟨JournalState.open_ s.journal.files before.eventSha256s call.disk, s.events⟩).1 with
    | ok R =>
      rw [hrun] at he
      cases he
    | error e' =>
      rw [hrun] at he
      cases he
      exact absurd hkind (outcomeUnknown_kind e')

end

/-! ## The answers -/

/-- The three answers of a worker. -/
inductive IsReport (sha : WorkerSha D) (request : RemoteHostWaveRequest D) :
    ℕ → Option (RemoteHostWaveResponse D) → Prop
  | succeeded {response : RemoteHostWaveResponse D} (h : AnswerTo sha request response)
      (hstatus : response.status = .succeeded) : IsReport sha request 0 (some response)
  | negative {response : RemoteHostWaveResponse D} (h : AnswerTo sha request response)
      (hstatus : response.status = .failed ∨ response.status = .blocked) :
      IsReport sha request 42 (some response)
  | ambiguous : IsReport sha request 43 none

/-- The response names the receipt that the wave returned, and the published envelope decodes to
it. -/
def Publishes (sha : WorkerSha D) (journal : DispatchAttemptJournal D)
    (request : RemoteHostWaveRequest D) (call : HostCall D) (s t : Session D (JournalState D))
    (response : RemoteHostWaveResponse D) : Prop :=
  ∃ receipt document,
    journal.executeDispatchWaveBundles sha.journal (call.waveCall request.binding) s
        = (.ok receipt, t) ∧
      reopenPublished sha request call.published = .ok (.canonical document, receipt) ∧
      response.dispatchScheduleReceiptSha256 = some (sha.journal.scheduleReceipt receipt) ∧
      response.dispatchScheduleReceiptEnvelopeSha256 = some (sha.envelope document)

/-- What a request ends with, from the session `s` to the session `t`. Only `KeyboardInterrupt` and
`SystemExit`, which are no `Exception`s and stop the process, are not answered. -/
structure Reported (sha : WorkerSha D) (journal : DispatchAttemptJournal D)
    (request : RemoteHostWaveRequest D) (call : HostCall D) (s : Session D (JournalState D))
    (result : Except Error (ℕ × Option (RemoteHostWaveResponse D)))
    (t : Session D (JournalState D)) : Prop where
  answered : ∀ e, result = .error e → e.isException = false
  report : ∀ code stdout, result = .ok (code, stdout) → IsReport sha request code stdout
  blocked : ∀ code response, result = .ok (code, some response) → response.status = .blocked →
    t.journal.files = s.journal.files ∧ t.events = s.events
  published : ∀ code response, result = .ok (code, some response) → response.status ≠ .blocked →
    Publishes sha journal request call s t response

/-- The request comes to reading the published receipt again: the publication is verified, and the
wave returns a receipt. -/
def ReadsAgain (sha : WorkerSha D) (journal : DispatchAttemptJournal D)
    (request : RemoteHostWaveRequest D) (call : HostCall D) (s : Session D (JournalState D)) :
    Prop :=
  loadVerifiedHostLocalPublication journal request.binding call.publication = .ok () ∧
    ∃ receipt,
      (journal.executeDispatchWaveBundles sha.journal (call.waveCall request.binding) s).1
        = .ok receipt

/-- Every `Exception` of reading the published receipt again is a `TypeError` or a
`ValueError`. -/
def RereadIsCaught (sha : WorkerSha D) (request : RemoteHostWaveRequest D)
    (read : EvidenceRead D) : Prop :=
  RaisesOnly (fun e => e.isException = true → Caught e) (reopenPublished sha request read)

variable {e : Error}

section

variable {sha : WorkerSha D} {journal : DispatchAttemptJournal D}
  {r : CanonicalWaveRequest D} {call : HostCall D} {s t : Session D (JournalState D)}

/-- A stopped process. -/
theorem reported_raise (h : e.isException = false) :
    Reported sha journal r.request call s (.error e) t where
  answered := by
    rintro _ ⟨⟩
    exact h
  report := nofun
  blocked := nofun
  published := nofun

theorem reported_ambiguous : Reported sha journal r.request call s (.ok (43, none)) t where
  answered := nofun
  report := by
    rintro _ _ ⟨⟩
    exact .ambiguous
  blocked := nofun
  published := nofun

/-- A BLOCKED answer, where nothing has changed. -/
theorem reported_blocked {reason : String} (hreason : isReasonCode reason = true)
    (hfiles : t.journal.files = s.journal.files) (hevents : t.events = s.events) :
    Reported sha journal r.request call s (reportBlocked sha r.request reason t).1
      (reportBlocked sha r.request reason t).2 := by
  rcases exists_blockedWorkerResponse sha r hreason with ⟨response, hresponse, hanswer, hstatus⟩
  have hrun : reportBlocked sha r.request reason t = (.ok (42, some response), t) :=
    check_bind_ok hresponse _ t
  rw [hrun]
  refine ⟨nofun, ?_, ?_, ?_⟩
  · rintro _ _ ⟨⟩
    exact .negative hanswer (.inr hstatus)
  · rintro _ _ ⟨⟩ -
    exact ⟨hfiles, hevents⟩
  · rintro _ _ ⟨⟩ hnot
    exact absurd hstatus hnot

/-- What raised, when the statements after a wave raise: reading the receipt again, or a check. -/
theorem raised_of_responseFromPublished
    (h : responseFromPublished sha request receipt read = .error e) :
    reopenPublished sha request read = .error e ∨ Caught e := by
  rcases bind_eq_error.mp h with h | ⟨⟨body, reopened⟩, hreopen, h⟩
  · exact .inl h
  · right
    simp only [reopenPublished, bind_eq_ok, pure_eq_ok] at hreopen
    rcases hreopen with ⟨body', -, ⟨receipt', binding⟩, hdecode, hpair⟩
    rcases Prod.mk.inj hpair with ⟨rfl, rfl⟩
    have hrest : RaisesOnly Caught (do
        require (receipt' = receipt)
          (valueError "worker receipt differs from its published envelope")
        let envelopeSha256 ← canonicalEnvelopeSha256 sha read body'
        workerResponseFromReceipt sha request receipt envelopeSha256) := by
      refine raisesOnly_check fun _ => ?_
      -- a body that decodes to an envelope is canonical
      cases body' with
      | other decoded => cases hdecode
      | canonical document => exact workerResponseFromReceipt_raises sha request receipt _
    exact hrest e h

/-- What a response says that is built after a wave. -/
theorem published_of_responseFromPublished
    (h : responseFromPublished sha request receipt read = .ok response) : ∃ document rows,
      reopenPublished sha request read = .ok (.canonical document, receipt) ∧
        response = executedResponse sha request receipt (sha.envelope document) rows ∧
        response.postInit = .ok () := by
  unfold responseFromPublished at h
  simp only [bind_eq_ok, require_eq_ok] at h
  rcases h with ⟨⟨body, reopened⟩, hreopen, _, rfl, envelopeSha256, henvelope, h⟩
  cases body with
  | other decoded => cases henvelope
  | canonical document =>
    cases henvelope
    rcases executed_of_workerResponse h with ⟨rows, hresponse, hinit⟩
    exact ⟨document, rows, hreopen, hresponse, hinit⟩

theorem reportExecuted_answered
    (h : responseFromPublished sha request receipt call.published = .ok response)
    (t : Session D (JournalState D)) : reportExecuted sha request call (.ok receipt) t
      = (.ok (if response.status = .succeeded then 0 else 42, some response), t) := by
  simp only [reportExecuted, h]
  rfl

theorem reportExecuted_unread
    (h : responseFromPublished sha request receipt call.published = .error e)
    (t : Session D (JournalState D)) : reportExecuted sha request call (.ok receipt) t
      = if e.isTypeOrValueError then (.ok (43, none), t) else (.error e, t) := by
  simp only [reportExecuted, h]
  split
  · rfl
  · rfl

/-- The answer after a wave that raised: the process stops, or the error is the blocked one, or it is
ambiguous what has run. -/
theorem reportExecuted_raised (request : RemoteHostWaveRequest D) (e : Error)
    (t : Session D (JournalState D)) : reportExecuted sha request call (.error e) t
      = if e.isException = false then (.error e, t)
        else if e.kind = .executionBundleBlockedError then
          reportBlocked sha request (safeReason e "remote_host_wave_blocked") t
        else (.ok (43, none), t) := by
  simp only [reportExecuted]
  split
  · rfl
  · split
    · rfl
    · rfl

/-- The answer after a wave that returned, when reading the receipt again is caught. -/
theorem reported_returned
    (hwave : journal.executeDispatchWaveBundles sha.journal (call.waveCall r.request.binding) s
      = (.ok receipt, t)) (hcaught : RereadIsCaught sha r.request call.published) :
    Reported sha journal r.request call s (reportExecuted sha r.request call (.ok receipt) t).1
      (reportExecuted sha r.request call (.ok receipt) t).2 := by
  cases hresponse : responseFromPublished sha r.request receipt call.published with
  | error e =>
    rw [reportExecuted_unread hresponse]
    by_cases he : Caught e
    · rw [if_pos he]
      exact reported_ambiguous
    · rw [if_neg he]
      refine reported_raise ?_
      have hreopen := (raised_of_responseFromPublished hresponse).resolve_right he
      by_contra hexception
      exact he (hcaught e hreopen (eq_true_of_ne_false hexception))
  | ok response =>
    rw [reportExecuted_answered hresponse]
    rcases published_of_responseFromPublished hresponse with ⟨document, rows, hreopen, rfl, hinit⟩
    have hanswer : AnswerTo sha r.request
        (executedResponse sha r.request receipt (sha.envelope document) rows) :=
      ⟨hinit, rfl, rfl, rfl⟩
    have hstatus := executedResponse_status sha r.request receipt (sha.envelope document) rows
    refine ⟨nofun, ?_, ?_, ?_⟩
    · rintro _ _ ⟨⟩
      rcases hstatus with hstatus | hstatus
      · rw [if_pos hstatus]
        exact .succeeded hanswer hstatus
      · rw [if_neg (by rw [hstatus]; exact nofun)]
        exact .negative hanswer (.inl hstatus)
    · rintro _ _ ⟨⟩ hblocked
      rcases hstatus with hstatus | hstatus
      · exact nomatch hstatus.symm.trans hblocked
      · exact nomatch hstatus.symm.trans hblocked
    · rintro _ _ ⟨⟩ -
      exact ⟨receipt, document, hwave, hreopen, rfl, rfl⟩

/-- The answer after a wave that raised. -/
theorem reported_raised
    (hwave : journal.executeDispatchWaveBundles sha.journal (call.waveCall r.request.binding) s
      = (.error e, t)) :
    Reported sha journal r.request call s (reportExecuted sha r.request call (.error e) t).1
      (reportExecuted sha r.request call (.error e) t).2 := by
  rw [reportExecuted_raised]
  by_cases hexception : e.isException = false
  · rw [if_pos hexception]
    exact reported_raise hexception
  · rw [if_neg hexception]
    by_cases hkind : e.kind = .executionBundleBlockedError
    · rw [if_pos hkind]
      have hleft := (executeDispatchWaveBundles_leftAlone _ s).of_eq hwave e rfl hkind
      have hreason : isReasonCode "remote_host_wave_blocked" = true := by decide +kernel
      exact reported_blocked (isReasonCode_safeReason e hreason) hleft.1 hleft.2
    · rw [if_neg hkind]
      exact reported_ambiguous

end

/-- A request as it runs, its own checks behind it. -/
theorem executeHostLocalWaveRequest_apply (sha : WorkerSha D) (journal : DispatchAttemptJournal D)
    (r : CanonicalWaveRequest D) (call : HostCall D) (s : Session D (JournalState D)) :
    executeHostLocalWaveRequest sha journal r.request call s =
      match loadVerifiedHostLocalPublication journal r.request.binding call.publication with
      | .error e =>
        if e.isException then
          reportBlocked sha r.request (safeReason e "remote_host_manifest_invalid") s
        else (.error e, s)
      | .ok () =>
        reportExecuted sha r.request call
          (journal.executeDispatchWaveBundles sha.journal (call.waveCall r.request.binding) s).1
          (journal.executeDispatchWaveBundles sha.journal (call.waveCall r.request.binding) s).2 := by
  unfold executeHostLocalWaveRequest
  rw [check_bind_ok r.valid]
  cases loadVerifiedHostLocalPublication journal r.request.binding call.publication with
  | error e =>
    dsimp only
    split
    · rfl
    · rfl
  | ok u => rfl

/-- What the system calls and the decoder raise is all that decides whether reading the receipt
again is caught: the checks of the worker raise `TypeError`s and `ValueError`s. -/
theorem rereadIsCaught_of_raises (sha : WorkerSha D) (request : RemoteHostWaveRequest D)
    (h : read.Raises fun e => e.isException = true → Caught e) :
    RereadIsCaught sha request read := by
  have hP : ∀ e, Caught e → e.isException = true → Caught e := fun _ hcaught _ => hcaught
  exact reopenPublished_raises hP sha request h

/-- For every journal and every behaviour of the outside, the request is answered as it should
be exactly when reading the published receipt again, where the request comes to that, raises no
`Exception` but `TypeError`s and `ValueError`s. -/
theorem worker_reports_iff (sha : WorkerSha D) (journal : DispatchAttemptJournal D)
    (r : CanonicalWaveRequest D) (call : HostCall D) (s : Session D (JournalState D)) :
    Reported sha journal r.request call s
        (executeHostLocalWaveRequest sha journal r.request call s).1
        (executeHostLocalWaveRequest sha journal r.request call s).2 ↔
      (ReadsAgain sha journal r.request call s →
        RereadIsCaught sha r.request call.published) := by
  rw [executeHostLocalWaveRequest_apply]
  constructor
  · -- an exception that is not caught is not answered
    rintro h ⟨hload, receipt, hwave⟩ e hreopen hexception
    rw [hload, hwave] at h
    by_contra hcaught
    have hresponse : responseFromPublished sha r.request receipt call.published = .error e :=
      bind_eq_error.mpr (.inl hreopen)
    dsimp only at h
    rw [reportExecuted_unread hresponse, if_neg hcaught] at h
    have hanswered := h.answered e rfl
    rw [hexception] at hanswered
    cases hanswered
  · intro h
    cases hload : loadVerifiedHostLocalPublication journal r.request.binding call.publication with
    | error e =>
        dsimp only
        by_cases hexception : e.isException = true
        · rw [if_pos hexception]
          have hreason : isReasonCode "remote_host_manifest_invalid" = true := by decide +kernel
          exact reported_blocked (isReasonCode_safeReason e hreason) rfl rfl
        · rw [if_neg hexception]
          exact reported_raise (eq_false_of_ne_true hexception)
    | ok u =>
        cases hwave : journal.executeDispatchWaveBundles sha.journal
            (call.waveCall r.request.binding) s with
        | mk result t =>
            cases result with
            | error e => exact reported_raised hwave
            | ok receipt => exact reported_returned hwave (h ⟨hload, receipt, by rw [hwave]⟩)

/-! ## A receipt that is lost -/

def freeWorkerSha : WorkerSha Digest where
  journal := freeSha
  fleet := freeFleetSha
  envelope
    | .envelope receipt _ _ => .pair (.text "envelope") (Content.digest receipt)
    | .sidecar sidecar => .pair (.text "sidecar") sidecar.artifactSha256

def loneRequest : CanonicalWaveRequest Digest where
  request := {
    schemaVersion := 1
    challengeNonceSha256 := .text "challenge"
    sshRouteAuthoritySha256 := .text "route"
    binding := {
      schemaVersion := 1
      hostId := "host-a"
      fleetInventorySha256 := .text "fleet inventory"
      hostInventorySha256 := .text "inventory"
      fleetDispatchPlanSha256 := .text "fleet plan"
      hostDispatchPlanSha256 := .text "plan"
      fleetWaveIndex := 0
      fleetWaveSha256 := .text "fleet wave"
      hostWaveIndex := 0
      hostWaveSha256 := .text "wave"
      executionBundleManifestPath := "/srv/manifest.json"
      executionBundleManifestSha256 := .text "manifest"
      receiptOutputPath := "/receipts/wave.json"
      resumeReceiptPath := none
      resumeReceiptSha256 := none
      resumeReceiptEnvelopeSha256 := none
      assignments := [⟨.text "assignment", [("GPU-0", "host-a")], [20000], "cache", "evidence"⟩] }
    priorFleetWaveReceiptSha256 := none }
  valid := by decide +kernel

/-- A call whose publication is verified and whose wave succeeds. -/
def loneHostCall (published : EvidenceRead Digest) : HostCall Digest where
  publication := .ok ⟨fun _ => [20000], fun _ => some "host-a"⟩
  wave := loneWaveCall (.ok ()) fun _ => .written
  published := published

/-- The journal before its first wave. -/
def freshSession : Session Digest (JournalState Digest) := ⟨JournalState.new fun _ => .written, []⟩

/-- The envelope that the wave publishes. -/
def loneEnvelope : Body Digest :=
  match (loneJournal.executeDispatchWaveBundles freeSha (loneWaveCall (.ok ()) fun _ => .written)
    freshSession).1 with
  | .error _ => .other none
  | .ok receipt => .canonical (.envelope receipt (receipt.sidecar freeSha.toContentSha)
      (some ⟨loneJournal.root, .text "manifest", .text "head", 3⟩))

/-- A file of 900 bytes is read in one chunk. -/
def loneLeaf : LeafRead Digest :=
  let status : StatResult := ⟨1, 2, 8 * 4096 + 384, 1, 0, 0, 900, 5, 5⟩
  ⟨.ok status, .ok (), .ok status, [.ok 900], .ok status, .ok status, .ok (), loneEnvelope⟩

/-- The envelope is read undisturbed. -/
def loneRead : EvidenceRead Digest :=
  ⟨.ok false, .ok true, loneLeaf, loneLeaf, valueError "not canonical JSON", fun _ => .ok true,
    .ok true⟩

/-- The file cannot be read any more. -/
def lostRead : EvidenceRead Digest :=
  { loneRead with first := { loneLeaf with openLeaf := .error ⟨.osError, "Input/output error"⟩ } }

/-- Nothing is raised while the envelope is read undisturbed. -/
theorem loneRead_caught : RereadIsCaught freeWorkerSha loneRequest.request loneRead := by
  have hleaf : loneLeaf.Raises fun e => e.isException = true → Caught e := by
    constructor <;> simp [loneLeaf]
  apply rereadIsCaught_of_raises
  exact ⟨raisesOnly_ok, raisesOnly_ok, hleaf, hleaf, fun _ => rfl, fun _ => raisesOnly_ok,
    raisesOnly_ok⟩

/-- An undisturbed request is answered with SUCCEEDED. -/
example : (match (executeHostLocalWaveRequest freeWorkerSha loneJournal loneRequest.request
      (loneHostCall loneRead) freshSession).1 with
    | .ok (0, some response) => response.status == .succeeded
    | _ => false) = true := by
  decide +kernel

/-- The wave has run, and the `OSError` of reading its receipt again escapes. -/
theorem lost_receipt_escapes :
    ¬ Reported freeWorkerSha loneJournal loneRequest.request (loneHostCall lostRead) freshSession
      (executeHostLocalWaveRequest freeWorkerSha loneJournal loneRequest.request
        (loneHostCall lostRead) freshSession).1
      (executeHostLocalWaveRequest freeWorkerSha loneJournal loneRequest.request
        (loneHostCall lostRead) freshSession).2 := by
  intro h
  have hrun : (executeHostLocalWaveRequest freeWorkerSha loneJournal loneRequest.request
      (loneHostCall lostRead) freshSession).1 = .error ⟨.osError, "Input/output error"⟩ := by
    decide +kernel
  have hanswered := h.answered _ hrun
  cases hanswered

end Fleet

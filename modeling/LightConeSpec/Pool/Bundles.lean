import LightConeSpec.Pool.Mirror

/-!
# Executing one wave of a journal

`execute_dispatch_wave_bundles`: one process opens the journal, decides from its
replay and from the receipt it was given what the wave index may mean, and then
publishes the receipt of a wave that is already finished or runs one wave and
publishes its receipt.

A run is a sequence of such processes on one journal. A process that crashes is a
call that raises: the writes of the disk may end anywhere, with or without a torn
or an unsynced file, and so may the moves of the tasks. The next process sees the
files only.
-/

namespace Pool

open Python Intervals

variable {D : Type} [DecidableEq D]

/-- The arguments of a call and what the outside does to it. `sources` is what the
call checks before it opens the journal, and `transports` what it checks before it
runs a wave. `supplied` is the receipt of the resume envelope with its binding. -/
structure WaveCall (D : Type) where
  waveIndex : ℕ
  supplied : Option (DispatchScheduleReceipt D × DispatchAttemptJournalBinding D)
  sources : Except Error Unit
  restartAuthorities : List (AssignmentTerminalBinding D) →
    Except Error (List (AssignmentTerminalAuthority D))
  transports : Except Error Unit
  world : WaveWorld D
  finalAuthorities : List (AssignmentTerminalBinding D) →
    Except Error (List (AssignmentTerminalAuthority D))
  publish : Except Error Unit
  disk : ℕ → WriteOutcome

namespace DispatchAttemptJournal

variable (sha : JournalSha D) (journal : DispatchAttemptJournal D)

/-! ## Opening the journal -/

def validateExpectedPrefix (expected : DispatchAttemptJournalBinding D)
    (snapshot : DispatchAttemptJournalSnapshot D) : Except Error Unit :=
  require (expected.journalPath = journal.root ∧
      expected.manifestSha256 = journal.manifestSha256 ∧
      expected.eventCount ≤ snapshot.eventSha256s.length ∧
      snapshot.eventSha256s[expected.eventCount - 1]? = some expected.headEventSha256)
    (blockedError "dispatch_attempt_journal_receipt_prefix_mismatch")

/-- `open_or_create`, from the files of the events directory. -/
def openOrCreate (files : List (JournalFile D))
    (expectedPrefix : Option (DispatchAttemptJournalBinding D)) (disk : ℕ → WriteOutcome) :
    Except Error (JournalState D) := do
  let snapshot ← journal.replay sha files none
  forEach (fun expected => journal.validateExpectedPrefix expected snapshot) expectedPrefix.toList
  pure (JournalState.open_ files snapshot.eventSha256s disk)

/-- The replay of the prefix that the supplied receipt is bound to. -/
def checkSupplied (files : List (JournalFile D))
    (supplied : DispatchScheduleReceipt D × DispatchAttemptJournalBinding D) :
    Except Error Unit := do
  let before ← journal.replay sha files (some supplied.2.eventCount)
  before.requireCompleteCostAuthority
  require (before.binding = some supplied.2 ∧ before.receipt = some supplied.1)
    (blockedError "dispatch_resume_receipt_differs_from_raw_attempt_journal")

/-! ## What the wave index means -/

def lastWaveIndex (receipt : DispatchScheduleReceipt D) : Except Error ℕ :=
  match receipt.waveReceipts.getLast? with
  | none => .error (indexError "tuple index out of range")
  | some wave => .ok wave.waveIndex

/-- The last receipt of the schedule is to be published again: it belongs to the
requested wave. -/
def republish (receipt : DispatchScheduleReceipt D) (waveIndex : ℕ) (message : String) :
    Except Error (Option (DispatchScheduleReceipt D)) := do
  let last ← lastWaveIndex receipt
  require (waveIndex = last) (valueError message)
  pure (some receipt)

/-- The receipt to publish again (`recovery_only`), or nothing when the wave may run. -/
def recoveryOnly (resumeReceipt suppliedReceipt : Option (DispatchScheduleReceipt D))
    (waveIndex : ℕ) : Except Error (Option (DispatchScheduleReceipt D)) :=
  match resumeReceipt, suppliedReceipt with
  | none, _ => do
    require (waveIndex = 0)
      (blockedError "dispatch_schedule_receipt_required_for_noninitial_wave")
    pure none
  | some receipt, none =>
    republish receipt waveIndex "journal-only recovery must publish its last finished wave"
  | some receipt, some supplied =>
    if receipt ≠ supplied then
      republish receipt waveIndex "journal advanced beyond the supplied receipt on another wave"
    else if receipt.phase = .complete then
      .error (valueError "complete schedule receipt has no next wave")
    else do
      let expected ← if receipt.phase = .failed then lastWaveIndex receipt
        else pure receipt.waveReceipts.length
      require (waveIndex = expected)
        (valueError "requested wave is not the journal-authorized wave")
      pure none

/-! ## Publishing and running -/

/-- `recovery_only`: the receipt is validated and published. -/
def publishFinished (call : WaveCall D) (snapshot : DispatchAttemptJournalSnapshot D)
    (authorities : List (AssignmentTerminalAuthority D)) (receipt : DispatchScheduleReceipt D) :
    Except Error (DispatchScheduleReceipt D) := do
  require (snapshot.replayAuthority.isSome ∧ snapshot.binding.isSome)
    (runtimeError "finished journal recovery lacks its raw authority")
  validateDispatchResume sha.toContentSha journal.plan receipt
    { journal.ctx with resumeTerminalAuthorities := authorities } snapshot.replayAuthority
  call.publish
  pure receipt

/-- The end of a call that ran a wave: the journal has to agree with the receipt. -/
def publishExecuted (call : WaveCall D) (files : List (JournalFile D))
    (receipt : DispatchScheduleReceipt D) : Except Error (DispatchScheduleReceipt D) := do
  let final ← journal.replay sha files none
  final.requireCompleteCostAuthority
  require (final.receipt = some receipt ∧ final.binding.isSome)
    (runtimeError "raw attempt journal differs from the execution receipt")
  let authorities ← call.finalAuthorities final.terminalBindings
  require final.replayAuthority.isSome
    (runtimeError "finished attempt journal lacks replay authority")
  validateDispatchResume sha.toContentSha journal.plan receipt
    { journal.ctx with resumeTerminalAuthorities := authorities } final.replayAuthority
  call.publish
  pure receipt

/-- The error of a call that crossed the mutation boundary. -/
def outcomeUnknown (error : Error) : Error :=
  if error.kind = .keyboardInterrupt ∨ error.kind = .systemExit then error
  else ⟨.dispatchOutcomeUnknownError,
    "dispatch outcome is unknown; exact journal recovery required"⟩

/-- The call of `execute_dispatch_plan`. -/
def dispatchCall (call : WaveCall D) (snapshot : DispatchAttemptJournalSnapshot D)
    (authorities : List (AssignmentTerminalAuthority D)) : Call D where
  resumeTerminalAuthorities := authorities
  attemptJournalReplay := snapshot.replayAuthority
  stopAfterWaveIndex := some call.waveIndex
  worlds := fun _ => call.world

/-- The body of the `try` statement: the wave runs and its receipt is published. -/
def executeAndPublish (call : WaveCall D) (snapshot : DispatchAttemptJournalSnapshot D)
    (authorities : List (AssignmentTerminalAuthority D)) :
    Method (Session D (JournalState D)) (DispatchScheduleReceipt D) := do
  let receipt ← executeDispatchPlan sha.toContentSha (some (journal.sink sha)) journal.plan
    journal.ctx snapshot.receipt (dispatchCall call snapshot authorities)
  .check (journal.publishExecuted sha call (← .read (·.journal.files)) receipt)

def executeDispatchWaveBundles (call : WaveCall D) :
    Method (Session D (JournalState D)) (DispatchScheduleReceipt D) := do
  .check call.sources
  .check (require (call.waveIndex < journal.plan.waves.length)
    (valueError "dispatch wave index is outside the frozen plan"))
  let opened ← .check (journal.openOrCreate sha (← .read (·.journal.files))
    (call.supplied.map Prod.snd) call.disk)
  .assign fun s => { s with journal := opened }
  let snapshot ← .check (journal.replay sha opened.files none)
  .check snapshot.requireCompleteCostAuthority
  .check (forEach (journal.checkSupplied sha opened.files) call.supplied.toList)
  let authorities ← .check (call.restartAuthorities snapshot.terminalBindings)
  match ← .check (recoveryOnly snapshot.receipt (call.supplied.map Prod.fst) call.waveIndex) with
  | some receipt => .check (journal.publishFinished sha call snapshot authorities receipt)
  | none => do
    .check call.transports
    .mapError outcomeUnknown (journal.executeAndPublish sha call snapshot authorities)

/-! ## Sequences of processes -/

def nextProcess (s : Session D (JournalState D)) (call : WaveCall D) :
    Session D (JournalState D) :=
  match journal.executeDispatchWaveBundles sha call s with
  | (.ok receipt, t) => t.emit (.returned receipt)
  | (.error _, t) => t

def afterProcesses (calls : List (WaveCall D)) : Session D (JournalState D) :=
  calls.foldl (journal.nextProcess sha) ⟨JournalState.new fun _ => .written, []⟩

end DispatchAttemptJournal

end Pool

import Mathlib.Data.Finset.Insert
import LightConeSpec.Lib.Machine
import LightConeSpec.Lib.Method
import LightConeSpec.Telemetry.Completion

/-!
# The evidence writer

`EvidenceWriter` queues rows, flushes them to numbered WAL segments, and registers
the identity of each row in an index. `prepareClose` rebuilds the shards from the
segments and publishes a prepared receipt, `publishClose` publishes the terminal one.

A `Session` is a writer with the directory that it writes to and the number of clock
readings so far. What is written is stored: no call fails for want of space, and
temporary files are left out.
-/

namespace Telemetry

open Python Function Method

/-! ## The writer and its session -/

/-- The arguments of `EvidenceWriter.__init__`, with its process and attempt resolved. -/
structure Settings where
  runId : String
  rank : ℕ
  processId : ℕ
  attemptId : String
  maxQueuedRows : ℕ
  rowGroupRows : ℕ
  checkpointIntervalS : Option ℚ
  overflowPolicy : OverflowPolicy
  registeredPolicy : Option EvidenceWriterPolicy

/-- `EvidenceWriter`; `seen` is the index, which is closed when the writer is prepared
or aborted. -/
structure EvidenceWriter where
  settings : Settings
  stem : String
  queues : Table → List EvidenceRecord
  queuedRows : ℕ
  rowCounts : Table → ℕ
  rowGroups : Table → ℕ
  droppedByTable : Table → ℕ
  methodsByTable : Table → Finset String
  requestHashFormats : Finset String
  runRecord : Option RunRecord
  flushes : ℕ
  fsyncTimeNs : ℤ
  backpressureEvents : ℕ
  backpressuredRows : ℕ
  droppedRows : ℕ
  maxObservedQueuedRows : ℕ
  lastCheckpoint : ℚ
  closed : Bool
  preparedReceipt : Option Receipt
  preparedFiles : Option Resolved
  nativeTerminalBinding : Option NativeBinding
  state : WriterState
  seen : List (Table × List Scalar)
  indexOpen : Bool

/-- `time.monotonic` and `time.perf_counter_ns`, by the number of earlier readings. -/
structure Clock where
  monotonic : ℕ → ℚ
  perfCounterNs : ℕ → ℤ

structure Session where
  writer : EvidenceWriter
  files : Directory
  ticks : ℕ

namespace EvidenceWriter

variable (w : EvidenceWriter)

def runId : String := w.settings.runId

def rank : ℕ := w.settings.rank

def path (suffix : Suffix) : String := fileName w.stem suffix

def counters : Counters where
  backpressureEvents := w.backpressureEvents
  backpressuredRows := w.backpressuredRows
  droppedRows := w.droppedRows
  droppedByTable := Table.all.map fun table => (table, w.droppedByTable table)
  flushes := w.flushes
  fsyncTimeNs := w.fsyncTimeNs
  maxObservedQueuedRows := w.maxObservedQueuedRows

def checkpointValue : Checkpoint where
  runId := w.runId
  rank := w.rank
  processId := w.settings.processId
  attemptId := w.settings.attemptId
  stem := w.stem
  state := w.state
  durableRows := Table.all.map fun table => (table, w.rowCounts table)
  walRowGroups := Table.all.map fun table => (table, w.rowGroups table)
  queuedRows := w.queuedRows
  counters := w.counters
  nativeTerminalArtifact := w.nativeTerminalBinding
  writerPolicy := w.settings.registeredPolicy

/-- The checkpoint is due at this reading of the clock. -/
def isDue (now : ℚ) : Bool :=
  w.settings.checkpointIntervalS.any fun interval =>
    w.queuedRows ≠ 0 && interval ≤ now - w.lastCheckpoint

/-- The rows of a table went from its queue to a segment. -/
def drain (table : Table) (count : ℕ) : EvidenceWriter :=
  { w with
    rowCounts := update w.rowCounts table (w.rowCounts table + count)
    rowGroups := update w.rowGroups table (w.rowGroups table + 1)
    queuedRows := w.queuedRows - count
    queues := update w.queues table [] }

def countFlush (flushed : List ℕ) : EvidenceWriter :=
  if flushed.any (· ≠ 0) then { w with flushes := w.flushes + 1 } else w

def drop (table : Table) : EvidenceWriter :=
  { w with
    droppedRows := w.droppedRows + 1
    droppedByTable := update w.droppedByTable table (w.droppedByTable table + 1) }

def countBackpressure (count : ℕ) : EvidenceWriter :=
  { w with
    backpressureEvents := w.backpressureEvents + count
    backpressuredRows := w.backpressuredRows + count }

/-- `str` of an optional text. -/
def optionText : Option String → String
  | none => "None"
  | some value => value

/-- What a row adds to the sets of methods and hash formats, and the run row. -/
def note (record : EvidenceRecord) : EvidenceWriter :=
  match record with
  | .run row =>
    { w with
      methodsByTable := update w.methodsByTable .run
        (insert row.method (w.methodsByTable .run))
      runRecord := some row }
  | .request row =>
    { w with
      methodsByTable := update w.methodsByTable .request
        (insert row.method (w.methodsByTable .request))
      requestHashFormats := insert (optionText row.outputHashFormat) w.requestHashFormats }
  | .performance row =>
    { w with
      methodsByTable := update w.methodsByTable .performance
        (insert row.method (w.methodsByTable .performance)) }
  | _ => w

/-- A row enters the queue of its table. -/
def enqueue (record : EvidenceRecord) : EvidenceWriter :=
  { w.note record with
    queues := update w.queues record.table (w.queues record.table ++ [record])
    queuedRows := w.queuedRows + 1
    maxObservedQueuedRows := max w.maxObservedQueuedRows (w.queuedRows + 1) }

end EvidenceWriter

/-- The value that `EvidenceWriter.write` is called with. -/
inductive Argument
  | record (record : EvidenceRecord)
  | unsupported (type : String)

/-- A record that passes `_validate_row` fits the schema of its table. -/
def Argument.Storable : Argument → Prop
  | .record row => row.validate = .ok () → row.fits = true
  | .unsupported _ => True

namespace Session

variable (hash : Hashing) (clock : Clock)

/-! ## Checkpoints and segments -/

/-- `_write_checkpoint`. -/
def checkpointed (s : Session) : Session where
  writer := { s.writer with
    fsyncTimeNs := s.writer.fsyncTimeNs
      + (clock.perfCounterNs (s.ticks + 1) - clock.perfCounterNs s.ticks)
    lastCheckpoint := clock.monotonic (s.ticks + 2) }
  files := s.files.set (s.writer.path .checkpoint) (.checkpoint s.writer.checkpointValue)
  ticks := s.ticks + 3

def writeCheckpoint : Method Session Unit := Method.assign (checkpointed clock)

def update (f : EvidenceWriter → EvidenceWriter) : Method Session Unit :=
  Method.assign fun s => { s with writer := f s.writer }

/-- The columns of run evidence that files of earlier versions lack. -/
def optionalColumns : Table → List String
  | .run => nativeColumns ++ ["workload_contract", "experiment_budget_sha256"]
  | _ => []

/-- `_write_wal_segment`, and the counters of its table. -/
def segmented (table : Table) (rows : List EvidenceRecord) (s : Session) : Session where
  writer := { s.writer with
    fsyncTimeNs := s.writer.fsyncTimeNs
      + (clock.perfCounterNs (s.ticks + 1) - clock.perfCounterNs s.ticks) }
  files := s.files.set (s.writer.path (.wal table (s.writer.rowGroups table)))
    (.parquet ⟨table, optionalColumns table, [rows]⟩)
  ticks := s.ticks + 2

def writeWalSegment (table : Table) (rows : List EvidenceRecord) : Method Session Unit := do
  let output ← Method.read fun s => s.writer.path (.wal table (s.writer.rowGroups table))
  let existing ← Method.read fun s => s.files.get? output
  Method.check (require existing.isNone
    (runtimeError ("refusing to overwrite evidence WAL " ++ output)))
  -- `pa.Table.from_pylist` raises before any file is made; the text of the error is its own
  Method.check (require (rows.all EvidenceRecord.fits = true)
    (valueError ("a " ++ table.name ++ " row does not fit its schema")))
  Method.assign (segmented clock table rows)

def requireOpen (message : String) : Method Session Unit := do
  let closed ← Method.read fun s => s.writer.closed
  Method.check (require (closed = false) (runtimeError message))

def requireUnprepared (message : String) : Method Session Unit := do
  let unprepared ← Method.read fun s => !s.writer.closed && s.writer.preparedReceipt.isNone
  Method.check (require (unprepared = true) (runtimeError message))

def useIndex : Method Session Unit := do
  let indexOpen ← Method.read fun s => s.writer.indexOpen
  Method.check (require (indexOpen = true) (programmingError "Cannot operate on a closed database."))

/-- A check of a flag of the writer, and what follows it. -/
theorem meetsAt_flag {α : Type} {flag : Session → Bool} {error : Error} {wanted : Bool}
    {f : Unit → Method Session α} {s : Session} {Q : Except Error α → Session → Prop}
    (hraise : flag s ≠ wanted → Q (.error error) s)
    (hreturn : flag s = wanted → MeetsAt (f ()) s Q) :
    MeetsAt ((do
      let value ← Method.read flag
      Method.check (require (value = wanted) error)) >>= f) s Q := by
  refine meetsAt_bind (P := fun result t => t = s ∧
    result = require (flag s = wanted) error) ⟨rfl, rfl⟩ ?_ ?_
  · rintro e t ⟨rfl, hresult⟩
    rcases require_eq_error.mp hresult.symm with ⟨hflag, rfl⟩
    exact hraise hflag
  · rintro _ t ⟨rfl, hresult⟩
    exact hreturn (require_eq_ok.mp hresult.symm)

section

variable {α : Type} {f : Unit → Method Session α} {s : Session}
  {Q : Except Error α → Session → Prop}

theorem meetsAt_requireOpen {message : String}
    (hraise : s.writer.closed = true → Q (.error (runtimeError message)) s)
    (hreturn : s.writer.closed = false → MeetsAt (f ()) s Q) :
    MeetsAt (requireOpen message >>= f) s Q :=
  meetsAt_flag (fun h => hraise (by simpa using h)) hreturn

theorem meetsAt_requireUnprepared {message : String}
    (hraise : ¬ (s.writer.closed = false ∧ s.writer.preparedReceipt = none) →
      Q (.error (runtimeError message)) s)
    (hreturn : s.writer.closed = false → s.writer.preparedReceipt = none →
      MeetsAt (f ()) s Q) :
    MeetsAt (requireUnprepared message >>= f) s Q := by
  refine meetsAt_flag (fun h => hraise fun hfields => h ?_) fun h => ?_
  · simp [hfields.1, hfields.2]
  · simp only [Bool.and_eq_true, Bool.not_eq_true', Option.isNone_iff_eq_none] at h
    exact hreturn h.1 h.2

theorem meetsAt_useIndex
    (hraise : s.writer.indexOpen = false →
      Q (.error (programmingError "Cannot operate on a closed database.")) s)
    (hreturn : s.writer.indexOpen = true → MeetsAt (f ()) s Q) :
    MeetsAt (useIndex >>= f) s Q :=
  meetsAt_flag (fun h => hraise (by simpa using h)) hreturn

end

/-- The body of the loop of `flush`. -/
def flushTable (table : Table) : Method Session ℕ := do
  let rows ← Method.read fun s => s.writer.queues table
  if rows = [] then pure 0
  else do
    writeWalSegment clock table rows
    update fun w => w.drain table rows.length
    pure rows.length

def flush : Method Session (List ℕ) := do
  requireOpen "evidence writer is closed"
  let flushed ← Method.collect (flushTable clock) Table.all
  update fun w => w.countFlush flushed
  useIndex
  writeCheckpoint clock
  pure flushed

/-- `flush()`, with its value unused. -/
def flushAll : Method Session Unit := do
  let _ ← flush clock
  pure ()

/-! ## Writing a row -/

def registerIdentity (record : EvidenceRecord) : Method Session Unit := do
  useIndex
  let seen ← Method.read fun s => s.writer.seen
  Method.check (require ((record.table, record.identity) ∉ seen)
    (valueError ("duplicate " ++ record.table.name ++ " evidence identity")))
  update fun w => { w with seen := w.seen ++ [(record.table, record.identity)] }

/-- The end of `write`: the row enters the queue. -/
def accept (record : EvidenceRecord) : Method Session Bool := do
  registerIdentity record
  update fun w => w.enqueue record
  Method.onlyIf (fun s => s.writer.settings.rowGroupRows ≤ s.writer.queuedRows) (flushAll clock)
  pure true

/-- `write` with a full queue. -/
def whenFull (record : EvidenceRecord) : OverflowPolicy → Method Session Bool
  | .drop => do
      update fun w => w.drop record.table
      writeCheckpoint clock
      pure false
  | .backpressure => do
      update fun w => w.countBackpressure 1
      flushAll clock
      accept clock record

def monotonic : Method Session ℚ := fun s =>
  (.ok (clock.monotonic s.ticks), { s with ticks := s.ticks + 1 })

def writeRecord (record : EvidenceRecord) : Method Session Bool := do
  let runId ← Method.read fun s => s.writer.runId
  Method.check (require (record.runId = runId)
    (valueError "evidence record belongs to another run"))
  Method.check record.validate
  let now ← monotonic clock
  Method.onlyIf (fun s => s.writer.isDue now) (flushAll clock)
  let full ← Method.read fun s =>
    decide (s.writer.settings.maxQueuedRows ≤ s.writer.queuedRows)
  let policy ← Method.read fun s => s.writer.settings.overflowPolicy
  if full then whenFull clock record policy else accept clock record

def write (argument : Argument) : Method Session Bool := do
  requireOpen "evidence writer is closed"
  match argument with
  | .unsupported type => Method.raise (typeError ("unsupported evidence record " ++ type))
  | .record record => writeRecord clock record

/-- `EvidenceWriter.register_external_backpressure_events`; `none` is a value that is not
an integer. -/
def registerExternalBackpressureEvents (count : Option ℤ) : Method Session Unit := do
  requireOpen "evidence writer is closed"
  Method.check (require (count.any fun count => decide (1 ≤ count))
    (valueError "external backpressure count must be a positive integer"))
  update fun w => w.countBackpressure (count.getD 0).toNat
  writeCheckpoint clock

end Session

end Telemetry

import LightConeSpec.Telemetry.Preparation

/-!
# Every row is accounted for

Over any run of calls from a new writer whose valid rows fit their schemas, `write`
accepts a row, drops it under the drop policy and counts it, or raises and adds no row;
and the segments and the queue of a table are its accepted rows, in order
(`rows_conserved`). The shards of a prepared attempt are the accepted rows of their
tables. A row that does not fit is queued all the same, and no flush stores it
(`misfit_stays_queued`).
-/

namespace Telemetry

open Python List Method

variable {files : Directory}

namespace Session

/-! ## Runs -/

abbrev Event := Machine.Event Session Call (Except Error Reply)

def acceptedRow (e : Event) : Option EvidenceRecord :=
  match e.input, e.output with
  | .write (.record record), .ok (.written true) => some record
  | _, _ => none

def droppedRow (e : Event) : Option EvidenceRecord :=
  match e.input, e.output with
  | .write (.record record), .ok (.written false) => some record
  | _, _ => none

def acceptedRows (run : List Event) : List EvidenceRecord := run.filterMap acceptedRow

def rowsDropped (run : List Event) : List EvidenceRecord := run.filterMap droppedRow

/-- How a call of `write` is accounted for; the cases exclude each other by the output. -/
inductive Accounted (e : Event) : Prop
  | accepted (record : EvidenceRecord) (input : e.input = .write (.record record))
      (output : e.output = .ok (.written true))
      (stored : ∀ table, e.post.stored table = e.pre.stored table ++ rowsOf table [record])
      (dropped : e.post.writer.droppedByTable = e.pre.writer.droppedByTable)
  | dropped (record : EvidenceRecord) (input : e.input = .write (.record record))
      (output : e.output = .ok (.written false))
      (policy : e.pre.writer.settings.overflowPolicy = .drop)
      (stored : ∀ table, e.post.stored table = e.pre.stored table)
      (counted : e.post.writer.droppedRows = e.pre.writer.droppedRows + 1)
      (dropped : ∀ table, e.post.writer.droppedByTable table
        = e.pre.writer.droppedByTable table + (rowsOf table [record]).length)
  | raised (error : Error) (output : e.output = .error error)
      (stored : ∀ table, e.post.stored table = e.pre.stored table)
      (dropped : e.post.writer.droppedByTable = e.pre.writer.droppedByTable)

variable {hash : Hashing} {clock : Clock} {settings : Settings}
  {accepted dropped : List EvidenceRecord} {s t : Session}

theorem Conserved.stored_eq (hs : Conserved settings accepted dropped s)
    (ht : Conserved settings accepted dropped t) (table : Table) :
    t.stored table = s.stored table := by
  rw [hs.rows, ht.rows]

theorem Conserved.droppedByTable_eq (hs : Conserved settings accepted dropped s)
    (ht : Conserved settings accepted dropped t) :
    t.writer.droppedByTable = s.writer.droppedByTable := by
  funext table
  rw [hs.droppedByTable, ht.droppedByTable]

/-- What one call adds to the rows, and how it is accounted for. -/
structure Counts (settings : Settings) (accepted dropped : List EvidenceRecord) (e : Event) :
    Prop where
  conserved : Conserved settings (accepted ++ (acceptedRow e).toList)
    (dropped ++ (droppedRow e).toList) e.post
  accounted : ∀ argument, e.input = .write argument → Accounted e

/-- A row is accepted, dropped or refused, and counted as such. -/
theorem write_counts (hs : Conserved settings accepted dropped s) (hfit : Fit accepted)
    {argument : Argument} (hargument : argument.Storable) :
    Counts settings accepted dropped (Machine.event (step hash clock) s (.write argument)) := by
  have hwrote := write_meets clock hs argument
  unfold MeetsAt at hwrote
  unfold Machine.event step
  simp only [map_apply]
  cases hcall : write clock argument s with
  | mk result t =>
    rw [hcall] at hwrote
    rcases result with error | written
    · have ht := hwrote.conserved_of_fit hfit hargument
      refine ⟨?_, fun _ _ => .raised error rfl (hs.stored_eq ht) (hs.droppedByTable_eq ht)⟩
      cases argument <;> simpa [acceptedRow, droppedRow] using ht
    · cases written with
      | true =>
        rcases hwrote.accepts rfl with ⟨record, rfl, ht⟩
        refine ⟨by simpa [acceptedRow, droppedRow] using ht, fun _ _ => ?_⟩
        refine .accepted record rfl rfl (fun table => ?_) ?_
        · rw [ht.rows, hs.rows, rowsOf_append]
        · funext table
          rw [ht.droppedByTable, hs.droppedByTable]
      | false =>
        rcases hwrote.drops rfl with ⟨record, rfl, ht, hpolicy⟩
        refine ⟨by simpa [acceptedRow, droppedRow] using ht, fun _ _ => ?_⟩
        refine .dropped record rfl rfl hpolicy (fun table => ?_) ?_ fun table => ?_
        · rw [ht.rows, hs.rows]
        · rw [ht.droppedRows, hs.droppedRows, length_append]
          rfl
        · rw [ht.droppedByTable, hs.droppedByTable, rowsOf_append, length_append]

/-- A call that is no `write` neither accepts nor drops a row. -/
theorem counts_of_conserved {call : Call} (h : Conserved settings accepted dropped
      (step hash clock s call).2) (hcall : ∀ argument, call ≠ .write argument := by rintro _ ⟨⟩) :
    Counts settings accepted dropped (Machine.event (step hash clock) s call) := by
  refine ⟨?_, fun argument hinput => absurd hinput (hcall argument)⟩
  cases call with
  | write argument => exact absurd rfl (hcall argument)
  | _ => simpa [acceptedRow, droppedRow, Machine.event] using h

/-- A call that is no `write` leaves the rows as they are. -/
theorem step_leaves (hash : Hashing) (clock : Clock) (hs : Conserved settings accepted dropped s)
    {call : Call} (hcall : ∀ argument, call ≠ .write argument) :
    Conserved settings accepted dropped (step hash clock s call).2 := by
  cases call with
  | write argument => exact absurd rfl (hcall argument)
  | flush =>
    rw [step, map_apply]
    exact flush_leaves clock hs
  | registerExternalBackpressureEvents count =>
    rw [step, map_apply]
    exact register_leaves clock hs count
  | persistNativeTerminalArtifact artifact =>
    rw [step, map_apply]
    exact persist_leaves hash clock hs artifact
  | prepareClose =>
    rw [step, map_apply]
    exact prepareClose_leaves hash clock hs
  | publishClose validatePostBinding =>
    rw [step, map_apply]
    exact publishClose_leaves hash hs validatePostBinding
  | abort reason =>
    rw [step, map_apply]
    exact abort_leaves clock hs reason

def Call.Storable : Call → Prop
  | .write argument => argument.Storable
  | _ => True

/-- What each call preserves. -/
theorem step_counts (hash : Hashing) (clock : Clock) (hs : Conserved settings accepted dropped s)
    (hfit : Fit accepted) {call : Call} (hcall : call.Storable) :
    Counts settings accepted dropped (Machine.event (step hash clock) s call) := by
  cases call with
  | write argument => exact write_counts hs hfit hcall
  | _ => exact counts_of_conserved (step_leaves hash clock hs (by rintro _ ⟨⟩))

/-- Rows that fit or not, a call conserves some. -/
theorem step_conserved (hash : Hashing) (clock : Clock)
    (hs : ∃ accepted dropped, Conserved settings accepted dropped s) (call : Call) :
    ∃ accepted dropped, Conserved settings accepted dropped (step hash clock s call).2 := by
  rcases hs with ⟨accepted, dropped, hs⟩
  cases call with
  | write argument =>
    rw [step, map_apply]
    exact (write_meets clock hs argument).conserved
  | _ => exact ⟨accepted, dropped, step_leaves hash clock hs (by rintro _ ⟨⟩)⟩

/-! ## A new writer -/

theorem conserved_newWriter {lastCheckpoint : ℚ} (ticks : ℕ)
    (hpositive : 0 < settings.maxQueuedRows)
    (hglob : glob files (attemptStem settings ++ ".") "" = []) :
    Conserved settings [] [] ⟨newWriter settings lastCheckpoint, files, ticks⟩ := by
  refine ⟨rfl, hpositive, rfl, Nat.zero_le _, fun _ => rfl, fun _ => rfl,
    fun _ k hk => absurd hk (Nat.not_lt_zero k), ?_, rfl, nodup_nil, rfl,
    fun row hrow => absurd hrow not_mem_nil, fun _ => rfl, rfl⟩
  rintro table name file hfile ⟨middle, hname⟩
  have hmem : name ∈ glob files (attemptStem settings ++ ".") "" := by
    refine mem_glob.mpr ⟨⟨file, hfile⟩,
      table.name.toList ++ ".wal.".toList ++ middle ++ ".parquet".toList, ?_⟩
    rw [hname]
    simp [segmentStart, newWriter]
  rw [hglob] at hmem
  cases hmem

theorem init_conserved (h : init hash clock settings files = .ok s) :
    Conserved settings [] [] s := by
  unfold init at h
  simp only [bind_eq_ok, check_eq_ok, pure_eq_ok] at h
  rcases h with ⟨_, hsettings, completed, -, -, -, hglob, rfl⟩
  have hpositive : 0 < settings.maxQueuedRows := by
    unfold validateSettings at hsettings
    simp only [bind_eq_ok, check_eq_ok] at hsettings
    exact hsettings.2.1
  refine Conserved.quiet ?_ (quiet_checkpointed clock _)
  exact (conserved_newWriter 1 hpositive hglob).quiet (quiet_set _ _ (not_segment (by rintro _ _ ⟨⟩)))

/-- What holds after the calls of a run whose rows can be stored. -/
structure RunConserved (settings : Settings) (run : List Event) (s : Session) : Prop where
  conserved : Conserved settings (acceptedRows run) (rowsDropped run) s
  fit : Fit (acceptedRows run)
  accounted : ∀ e ∈ run, ∀ argument, e.input = .write argument → Accounted e

theorem filterMap_snoc (f : Event → Option EvidenceRecord) (run : List Event) (e : Event) :
    (run ++ [e]).filterMap f = run.filterMap f ++ (f e).toList := by
  rw [filterMap_append]
  cases hf : f e <;> simp [hf]

/-- A row that a storable call accepts fits. -/
theorem fits_of_accepted {e : Event} {record : EvidenceRecord} (he : acceptedRow e = some record)
    (hcall : e.input.Storable) (hvalid : record.validate = .ok ()) : record.fits = true := by
  unfold acceptedRow at he
  split at he
  · rename_i hinput _
    rw [hinput] at hcall
    cases he
    exact hcall hvalid
  · cases he

theorem RunConserved.snoc {run : List Event} (hs : RunConserved settings run s) {call : Call}
    (hcall : call.Storable) : RunConserved settings
      (run ++ [Machine.event (step hash clock) s call]) (step hash clock s call).2 := by
  have hcounts := step_counts hash clock hs.conserved hs.fit hcall
  have hconserved : Conserved settings
      (acceptedRows (run ++ [Machine.event (step hash clock) s call]))
      (rowsDropped (run ++ [Machine.event (step hash clock) s call]))
      (step hash clock s call).2 := by
    unfold acceptedRows rowsDropped
    rw [filterMap_snoc, filterMap_snoc]
    exact hcounts.conserved
  refine ⟨hconserved, fun row hrow => ?_, fun e he => ?_⟩
  · have hvalid := hconserved.valid row hrow
    rw [acceptedRows, filterMap_snoc] at hrow
    rcases mem_append.mp hrow with hold | hnew
    · exact hs.fit row hold
    · exact fits_of_accepted (Option.mem_toList.mp hnew) hcall hvalid
  · rcases mem_append.mp he with he | he
    · exact hs.accounted e he
    · rw [mem_singleton.mp he]
      exact hcounts.accounted

/-- Rows are conserved over a run. -/
theorem run_conserved (hstart : init hash clock settings files = .ok s) {calls : List Call}
    (hcalls : ∀ call ∈ calls, call.Storable) :
    RunConserved settings (Machine.trace (step hash clock) s calls)
      (Machine.final (step hash clock) s calls) := by
  have hstep : ∀ past t call, RunConserved settings past t → call.Storable →
      RunConserved settings (past ++ [Machine.event (step hash clock) t call])
        (step hash clock t call).2 := fun past t call ht hcall => ht.snoc hcall
  have hnew : RunConserved settings [] s :=
    ⟨init_conserved hstart, fun row hrow => absurd hrow not_mem_nil,
      fun e he => absurd he not_mem_nil⟩
  exact Machine.trace_induction hstep hnew fun e he =>
    hcalls e.input (Machine.input_mem_of_mem_trace he)

/-- After every run the session conserves some rows. -/
theorem exists_conserved (hstart : init hash clock settings files = .ok s) (calls : List Call) :
    ∃ accepted dropped, Conserved settings accepted dropped
      (Machine.final (step hash clock) s calls) := by
  have hstep : ∀ t call, (∃ accepted dropped, Conserved settings accepted dropped t) → True →
      ∃ accepted dropped, Conserved settings accepted dropped (step hash clock t call).2 :=
    fun t call ht _ => step_conserved hash clock ht call
  exact (Machine.trace_invariant hstep ⟨[], [], init_conserved hstart⟩ fun _ _ => trivial).2

/-! ## The shards of a prepared attempt -/

/-- The number of rows that a run row declares for a table. -/
def declared (run : RunRecord) : Table → Option ℤ
  | .run => none
  | .request => run.expectedRequestRows
  | .round => run.expectedRoundRows
  | .update => run.expectedUpdateRows
  | .performance => run.expectedPerformanceRows

/-- The shards of an attempt are the accepted rows of the tables of its run. -/
structure HoldsRows (accepted dropped : List EvidenceRecord) (resolved : Resolved)
    (files : Directory) (run : RunRecord) : Prop where
  /-- One run row was accepted. -/
  run_eq : rowsOf .run accepted = [.run run]
  /-- There is a shard for each expected table. -/
  tables : resolved.map Prod.fst = sortedTables (EvidenceWriter.expected run)
  /-- A shard is exactly the accepted rows of its table, in order. -/
  shards : ∀ row ∈ resolved, ∃ shard, files.get? row.2 = some (.parquet shard) ∧
    shard.rows = rowsOf row.1 accepted
  /-- No row of an expected table was dropped. -/
  dropped : ∀ table ∈ EvidenceWriter.expected run, rowsOf table dropped = []
  /-- No row of another table was accepted. -/
  others : ∀ table ∉ EvidenceWriter.expected run, rowsOf table accepted = []
  /-- The declared counts are met. -/
  counts : ∀ table count, declared run table = some count →
    ((rowsOf table accepted).length : ℤ) = count

/-- Without a contract nothing is declared. -/
theorem declared_eq_none {run : RunRecord} (hvalid : run.validate = .ok ())
    (hcontract : run.workloadContract = none) (table : Table) : declared run table = none := by
  unfold RunRecord.validate at hvalid
  rw [hcontract, require_eq_ok] at hvalid
  simp only [RunRecord.industrialPresent, all_append, Bool.and_eq_true, all_cons,
    Bool.not_eq_true', Option.isSome_eq_false_iff, Option.isNone_iff_eq_none] at hvalid
  cases table <;> simp [declared, hvalid]

theorem filterMap_asRun (rows : List EvidenceRecord) :
    rows.filterMap EvidenceRecord.asRun = (rowsOf .run rows).filterMap EvidenceRecord.asRun := by
  induction rows with
  | nil => rfl
  | cons row rows ih =>
    cases row <;> simp [rowsOf, EvidenceRecord.asRun, EvidenceRecord.table] <;> exact ih

/-- With one durable run row, the run record is that row. -/
theorem run_row {run : RunRecord} (hs : Conserved settings accepted dropped s)
    (hrecord : s.writer.runRecord = some run) (hone : (rowsOf .run accepted).length = 1) :
    rowsOf .run accepted = [.run run] := by
  rcases length_eq_one_iff.mp hone with ⟨row, hrow⟩
  have hmem : row ∈ rowsOf .run accepted := by
    rw [hrow]
    exact mem_singleton_self row
  have htable : row.table = .run := by simpa using (mem_filter.mp hmem).2
  rw [hs.runRecord, filterMap_asRun, hrow] at hrecord
  cases row with
  | run row' =>
    simp only [filterMap_cons, EvidenceRecord.asRun, filterMap_nil,
      getLast?_singleton, Option.some.injEq] at hrecord
    rw [hrow, hrecord]
  | _ => cases htable

theorem holdsRows_of_prepared {resolved : Resolved} (ht : Conserved settings accepted dropped t)
    (hprepared : Prepared resolved t) (hgroups : ∀ table, t.writer.rowGroups table ≤ 10 ^ 8) :
    ∃ run, HoldsRows accepted dropped resolved t.files run := by
  rcases hprepared.complete with ⟨run, hcomplete, htables⟩
  rcases hcomplete.satisfies with ⟨-, -, -, -, hpopulated, hdropped, -⟩
  -- the queues are empty, so the durable rows are all accepted ones
  have hdurable : ∀ table, t.durable table = rowsOf table accepted := by
    intro table
    rw [← ht.rows table, stored, hprepared.empty, append_nil]
  have hcounts : ∀ table, t.writer.rowCounts table = (rowsOf table accepted).length := by
    intro table
    rw [ht.counts, hdurable]
  have hrun : rowsOf .run accepted = [.run run] :=
    run_row ht hcomplete.record (by rw [← hcounts, hcomplete.single])
  refine ⟨run, hrun, htables, ?_, ?_, ?_, ?_⟩
  · intro row hrow
    rcases hprepared.shards row hrow with ⟨shard, hshard, hrows⟩
    exact ⟨shard, hshard, by rw [hrows (hgroups row.1), hdurable]⟩
  · intro table htable
    have hzero := hdropped table htable
    rw [ht.droppedByTable] at hzero
    exact length_eq_zero_iff.mp hzero
  · intro table htable
    have hzero : ¬ t.writer.rowCounts table ≠ 0 := fun h => htable ((hpopulated table).mp h)
    rw [not_not, hcounts] at hzero
    exact length_eq_zero_iff.mp hzero
  · intro table count hdeclared
    rw [← hcounts]
    cases hcontract : run.workloadContract with
    | none =>
      have hmem : EvidenceRecord.run run ∈ accepted := by
        have : EvidenceRecord.run run ∈ rowsOf .run accepted := by
          rw [hrun]
          exact mem_singleton_self _
        exact (mem_filter.mp this).1
      have hvalid := ht.valid _ hmem
      unfold EvidenceRecord.validate at hvalid
      split at hvalid
      · cases hvalid
      · rw [declared_eq_none hvalid hcontract] at hdeclared
        cases hdeclared
    | some contract =>
      have hchecked := hcomplete.counts contract hcontract
      unfold EvidenceWriter.checkCounts at hchecked
      rw [require_eq_ok] at hchecked
      cases table with
      | run => cases hdeclared
      | request => exact Option.some.inj (hchecked.1.trans hdeclared)
      | round => exact Option.some.inj (hchecked.2.1.trans hdeclared)
      | update => exact Option.some.inj (hchecked.2.2.1.trans hdeclared)
      | performance => exact Option.some.inj (hchecked.2.2.2.trans hdeclared)

theorem prepared_of_step {resolved : Resolved} (hs : Conserved settings accepted dropped s)
    (h : step hash clock s .prepareClose = (.ok (.resolved resolved), t)) :
    Conserved settings accepted dropped t ∧ Prepared resolved t := by
  have hmeets := prepareClose_meets hash clock hs
  unfold MeetsAt at hmeets
  rw [step, map_apply, Prod.mk.injEq, map_eq_ok] at h
  rcases h with ⟨⟨resolved', hresult, heq⟩, rfl⟩
  cases heq
  exact ⟨hmeets.1, hmeets.2 resolved hresult⟩

/-- Over every run of a new writer whose valid rows fit their schemas, rows are conserved,
every call of `write` is accounted for, and when `prepareClose` then returns, with no more
than `10 ^ 8` segments of a table, the shards are the accepted rows. -/
theorem rows_conserved {files : Directory} {start : Session}
    (hstart : init hash clock settings files = .ok start) (calls : List Call)
    (hcalls : ∀ call ∈ calls, call.Storable) :
    let run := Machine.trace (step hash clock) start calls
    let s := Machine.final (step hash clock) start calls
    s.writer.queuedRows = total (fun table => (s.writer.queues table).length) ∧
      s.writer.queuedRows ≤ settings.maxQueuedRows ∧
      (∀ table, s.durable table ++ s.writer.queues table = rowsOf table (acceptedRows run) ∧
        ((rowsOf table (acceptedRows run)).map EvidenceRecord.identity).Nodup) ∧
      (∀ e ∈ run, ∀ argument, e.input = .write argument → Accounted e) ∧
      ∀ resolved t, step hash clock s .prepareClose = (.ok (.resolved resolved), t) →
        (∀ table, t.writer.rowGroups table ≤ 10 ^ 8) →
          ∃ row, HoldsRows (acceptedRows run) (rowsDropped run) resolved t.files row := by
  rcases run_conserved hstart hcalls with ⟨hs, -, haccounted⟩
  refine ⟨hs.queued, ?_, fun table => ⟨hs.rows table, ?_⟩, haccounted, ?_⟩
  · rw [← hs.settings_eq]
    exact hs.bounded
  · -- in one table, identities are distinct when the keys of the index are
    have hdistinct := hs.distinct
    rw [List.Nodup, List.pairwise_map] at hdistinct ⊢
    refine (hdistinct.sublist List.filter_sublist).imp_of_mem ?_
    intro a b ha hb hne heq
    have hta : a.table = table := by simpa using (List.mem_filter.mp ha).2
    have htb : b.table = table := by simpa using (List.mem_filter.mp hb).2
    exact hne (by rw [hta, htb, heq])
  · intro resolved t hprepare hgroups
    rcases prepared_of_step hs hprepare with ⟨ht, hprepared⟩
    exact holdsRows_of_prepared ht hprepared hgroups

/-! ## A small attempt -/

/-- A run row of an allocation-free method without a contract. -/
def smallRun (runId : String) : RunRecord where
  runId := runId
  method := "static"
  status := "complete"
  completedNs := some 1
  industrialHashes := List.replicate 10 none
  rankConfigSha256 := none
  patchedSglangTree := none
  tensorParallelSize := none
  dataParallelSize := none
  worldSize := none
  rank := none
  expectedRequestRows := none
  expectedRoundRows := none
  expectedUpdateRows := none
  expectedPerformanceRows := none
  workloadContract := none
  experimentBudgetSha256 := none
  preflightAttestationSha256 := none
  sessionHashes := [none, none, none]
  sessionEpoch := none
  nativeTerminalArtifactPath := none
  nativeTerminalArtifactSize := none
  nativeTerminalRawSha256 := none
  nativeTerminalSha256 := none
  trustedAttesterPolicySha256 := none
  nonFinite := []
  unstorable := []

def smallRequest (runId requestId : String) : RequestRecord where
  runId := runId
  requestId := requestId
  method := "static"
  outputTokens := 1
  outputHashFormat := some outputHashFormat
  outputSha256 := none
  outputTokenIds := none
  outputTokenIdsSha256 := none
  tokenTimingCoverage := none
  coalescedIntervals := none
  retryAttempt := none
  nonFinite := []
  unstorable := []

def smallPerformance (runId : String) : PerformanceRecord where
  runId := runId
  promptId := "p"
  method := "static"
  repetitionBlock := 0
  region := "decode"
  concurrency := 1
  generatedBucketStart := 0
  generatedBucketEnd := 1
  nonFinite := []
  unstorable := []

def smallSettings (runId : String) : Settings where
  runId := runId
  rank := 0
  processId := 7
  attemptId := "a"
  maxQueuedRows := 2
  rowGroupRows := 2
  checkpointIntervalS := none
  overflowPolicy := .backpressure
  registeredPolicy := none

/-- Digests that tell files apart by what the writer changes in them. -/
def smallHash : Hashing where
  file
    | .checkpoint value => toString value.counters.backpressureEvents
    | .receipt value _ => value.runId
    | _ => ""
  size := fun _ => 1
  policy := fun _ => ""
  schema := fun _ => ""
  budget := fun _ => ""
  observation := fun _ => ""
  text := fun _ => ""

def stoppedClock : Clock := ⟨fun _ => 0, fun _ => 0⟩

def smallStart (runId : String) : Session :=
  match init smallHash stoppedClock (smallSettings runId) Dict.empty with
  | .ok s => s
  | .error _ => ⟨newWriter (smallSettings runId) 0, Dict.empty, 0⟩

theorem smallStart_eq : init smallHash stoppedClock (smallSettings "r") Dict.empty
    = .ok (smallStart "r") := by
  have hok : (init smallHash stoppedClock (smallSettings "r") Dict.empty).toBool = true := by
    decide +kernel
  unfold smallStart
  split
  · rename_i h
    exact h
  · rename_i h
    rw [h] at hok
    cases hok

def smallCalls (runId : String) : List Call :=
  [.write (.record (.run (smallRun runId))),
    .write (.record (.request (smallRequest runId "q1"))),
    .write (.record (.request (smallRequest runId "q1"))),
    .write (.record (.request (smallRequest runId "q2"))),
    .write (.record (.performance (smallPerformance runId)))]

/-- The session after the calls. -/
def smallFinal (runId : String) : Session :=
  Machine.final (step smallHash stoppedClock) (smallStart runId) (smallCalls runId)

example : (Machine.trace (step smallHash stoppedClock) (smallStart "r") (smallCalls "r")).map
    (fun e => e.output.toBool) = [true, true, false, true, true] := by decide +kernel

/-- The attempt is prepared, and its shards hold the accepted rows. -/
theorem rows_conserved_small : ∃ resolved t row,
    step smallHash stoppedClock (smallFinal "r") .prepareClose = (.ok (.resolved resolved), t) ∧
      HoldsRows (acceptedRows (Machine.trace (step smallHash stoppedClock) (smallStart "r")
        (smallCalls "r"))) (rowsDropped (Machine.trace (step smallHash stoppedClock) (smallStart "r")
          (smallCalls "r"))) resolved t.files row := by
  have hcalls : ∀ call ∈ smallCalls "r", call.Storable := by
    intro call hcall
    simp only [smallCalls, mem_cons, not_mem_nil, or_false] at hcall
    rcases hcall with rfl | rfl | rfl | rfl | rfl <;> exact fun _ => by decide
  have hrun := rows_conserved smallStart_eq (smallCalls "r") hcalls
  have hok : (prepareClose smallHash stoppedClock (smallFinal "r")).1.toBool = true := by
    decide +kernel
  have hgroups : ∀ table,
      (prepareClose smallHash stoppedClock (smallFinal "r")).2.writer.rowGroups table ≤ 10 ^ 8 := by
    decide +kernel
  cases hprepare : prepareClose smallHash stoppedClock (smallFinal "r") with
  | mk result t =>
      rw [hprepare] at hok hgroups
      rcases result with error | resolved
      · cases hok
      · have hstep : step smallHash stoppedClock (smallFinal "r") .prepareClose
            = (.ok (.resolved resolved), t) := by
          rw [step, Method.map_apply, hprepare]
          rfl
        rcases hrun.2.2.2.2 resolved t hstep hgroups with ⟨row, hrow⟩
        exact ⟨resolved, t, row, hstep, hrow⟩

/-- A run row, and a request whose number of output tokens needs 64 bits and a sign. -/
def misfitCalls (runId : String) : List Call :=
  [.write (.record (.run (smallRun runId))),
    .write (.record (.request { smallRequest runId "q1" with outputTokens := 2 ^ 63 }))]

/-- The second call raises when it flushes the full row group, with its row queued. -/
theorem misfit_stays_queued :
    init smallHash stoppedClock (smallSettings "r") Dict.empty = .ok (smallStart "r") ∧
      ¬ ∀ e ∈ Machine.trace (step smallHash stoppedClock) (smallStart "r") (misfitCalls "r"),
        ∀ argument, e.input = .write argument → Accounted e := by
  refine ⟨smallStart_eq, fun h => ?_⟩
  have haccounted := h _ (mem_cons_of_mem _ mem_cons_self) _ rfl
  cases haccounted with
  | accepted record hinput houtput hstored hdropped =>
    exact absurd (congrArg Except.toBool houtput) (by decide +kernel)
  | dropped record hinput houtput hpolicy hstored hcounted hdropped =>
    exact absurd (congrArg Except.toBool houtput) (by decide +kernel)
  | raised error houtput hstored hdropped =>
    exact absurd (congrArg List.length (hstored .request)) (by decide +kernel)

end Session

end Telemetry

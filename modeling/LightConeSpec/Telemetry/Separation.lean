import LightConeSpec.Telemetry.Accounting
import LightConeSpec.Telemetry.Namespaces

/-!
# Runs do not interfere

Any number of writers and publications for one run and rank work on a directory
(`perform`). They leave what was there as it was and create names of their own only
(`Separate`), so the completed evidence of another run and rank stays the same when its
glob does not find their terminal receipt (`load_unchanged`). When it does, loading
raises after the publication (`load_raises_of_captured`).
-/

namespace Telemetry

open Python Session List

/-! ## Operations for one run and rank -/

/-- A directory, and the writers on it. -/
structure Workspace where
  writers : List EvidenceWriter
  files : Directory

/-- An operation: a new writer, a call on one of the writers, or a publication by its
prepared receipt. Each reads a clock of its own. -/
inductive Operation
  | start (clock : Clock) (settings : Settings)
  | call (clock : Clock) (ticks index : ℕ) (call : Call)
  | publish (expectedReceiptSha256 : Option String) (validate : Resolved → Except Error Unit)
      (validatePostBinding : Except Error Unit)

/-- A new writer, when its constructor returns. -/
def startWriter (hash : Hashing) (clock : Clock) (settings : Settings) (w : Workspace) : Workspace :=
  match init hash clock settings w.files with
  | .ok s => ⟨w.writers ++ [s.writer], s.files⟩
  | .error _ => w

def callWriter (hash : Hashing) (clock : Clock) (ticks index : ℕ) (call : Call) (w : Workspace) :
    Workspace :=
  match w.writers[index]? with
  | some writer =>
    let s := (step hash clock ⟨writer, w.files, ticks⟩ call).2
    ⟨w.writers.set index s.writer, s.files⟩
  | none => w

/-- An operation for this run and rank; what it returns is left out. -/
def perform (hash : Hashing) (runId : String) (rank : ℕ) (w : Workspace) :
    Operation → Unit × Workspace
  | .start clock settings =>
    ((), startWriter hash clock { settings with runId := runId, rank := rank } w)
  | .call clock ticks index call => ((), callWriter hash clock ticks index call w)
  | .publish expectedReceiptSha256 validate validatePostBinding =>
    ((), { w with files := (publishPreparedCompletion hash runId rank expectedReceiptSha256 validate
      validatePostBinding w.files).2 })

structure Separate (runId : String) (rank : ℕ) (before : Directory) (w : Workspace) : Prop where
  /-- What was there is as it was. -/
  kept : ∀ name, before.get? name ≠ none → w.files.get? name = before.get? name
  /-- What is new has a name of their own. -/
  created : ∀ name, w.files.get? name ≠ before.get? name → Created runId rank name
  /-- Each writer works on files that were not there. -/
  writers : ∀ writer ∈ w.writers, writer.settings.runId = runId ∧ writer.settings.rank = rank ∧
    writer.stem = attemptStem writer.settings ∧
    ∀ suffix, before.get? (fileName writer.stem suffix) = none

variable {hash : Hashing} {runId : String} {rank : ℕ} {before : Directory} {w : Workspace}

variable {name : String} {files : Directory}

theorem Separate.absent (h : Separate runId rank before w) (hname : w.files.get? name = none) :
    before.get? name = none := by
  by_contra hsome
  rw [h.kept name hsome] at hname
  exact hsome hname

/-- A change of files that were not there keeps a directory separate. -/
theorem Separate.change (h : Separate runId rank before w) {writers : List EvidenceWriter}
    (hfiles : ∀ name, files.get? name = w.files.get? name ∨
      (before.get? name = none ∧ Created runId rank name))
    (hwriters : ∀ writer ∈ writers, writer.settings.runId = runId ∧
      writer.settings.rank = rank ∧ writer.stem = attemptStem writer.settings ∧
      ∀ suffix, before.get? (fileName writer.stem suffix) = none) :
    Separate runId rank before ⟨writers, files⟩ := by
  refine ⟨fun name hname => ?_, fun name hname => ?_, hwriters⟩
  · rcases hfiles name with hsame | ⟨hnone, -⟩
    · exact hsame.trans (h.kept name hname)
    · exact absurd hnone hname
  · rcases hfiles name with hsame | ⟨-, hcreated⟩
    · refine h.created name ?_
      rw [← hsame]
      exact hname
    · exact hcreated

theorem created_of_published {v : EvidenceWriter} (hrun : v.settings.runId = runId)
    (hrank : v.settings.rank = rank) (hstem : v.stem = attemptStem v.settings)
    (hname : Published v name) : OwnName runId rank name := by
  unfold Published EvidenceWriter.runId EvidenceWriter.rank EvidenceWriter.path at hname
  rw [hrun, hrank, hstem] at hname
  rcases hname with h | h | h
  · exact .inr (.inl h)
  · exact .inr (.inr h)
  · exact .inl ⟨v.settings, hrun, hrank, .nativeTerminal, h⟩

section

variable (h : Separate runId rank before w)

include h

theorem Separate.start (clock : Clock) {settings : Settings}
    (hrun : settings.runId = runId) (hrank : settings.rank = rank) :
    Separate runId rank before (startWriter hash clock settings w) := by
  unfold startWriter
  cases hinit : init hash clock settings w.files with
  | error e => exact h
  | ok s =>
    unfold init at hinit
    simp only [bind_eq_ok, check_eq_ok, pure_eq_ok] at hinit
    rcases hinit with ⟨_, -, _, -, -, -, hglob, rfl⟩
    have hfresh : ∀ suffix, before.get? (fileName (attemptStem settings) suffix) = none := by
      intro suffix
      refine h.absent ?_
      by_contra hsome
      rcases Option.ne_none_iff_exists'.mp hsome with ⟨file, hfile⟩
      have hmem : fileName (attemptStem settings) suffix
          ∈ glob w.files (attemptStem settings ++ ".") "" := by
        refine mem_glob.mpr ⟨⟨file, hfile⟩, suffix.text.toList, ?_⟩
        rw [toList_fileName, String.toList_append]
        simp
      rw [hglob] at hmem
      cases hmem
    refine h.change (fun name => ?_) fun writer hwriter => ?_
    · -- the constructor makes an index and a checkpoint
      have hown : ∀ suffix, name = fileName (attemptStem settings) suffix →
          before.get? name = none ∧ Created runId rank name := by
        rintro suffix rfl
        exact ⟨hfresh suffix, .inl (.inl ⟨settings, hrun, hrank, suffix, rfl⟩)⟩
      by_cases hcheckpoint : name = fileName (attemptStem settings) .checkpoint
      · exact .inr (hown _ hcheckpoint)
      by_cases hindex : name = fileName (attemptStem settings) .index
      · exact .inr (hown _ hindex)
      refine .inl ?_
      exact (Dict.get?_set ..).trans ((if_neg hcheckpoint).trans
        ((Dict.get?_set ..).trans (if_neg hindex)))
    · rcases mem_append.mp hwriter with hwriter | hwriter
      · exact h.writers writer hwriter
      · rw [mem_singleton.mp hwriter]
        exact ⟨hrun, hrank, rfl, hfresh⟩

theorem Separate.call (clock : Clock) (ticks index : ℕ) (call : Call) :
    Separate runId rank before (callWriter hash clock ticks index call w) := by
  unfold callWriter
  cases hwriter : w.writers[index]? with
  | none => exact h
  | some writer =>
    rcases h.writers writer (mem_of_getElem? hwriter) with ⟨hrun, hrank, hstem, hfresh⟩
    have hwrites := step_contained hash clock ⟨writer, w.files, ticks⟩ call
    refine h.change (fun name => ?_) fun other hother => ?_
    · rcases hwrites.files name with hsame | ⟨suffix, rfl⟩ | ⟨hnone, hname⟩
      · exact .inl hsame
      · refine .inr ⟨hfresh suffix, .inl (.inl ⟨writer.settings, hrun, hrank, suffix, ?_⟩)⟩
        rw [← hstem]
        rfl
      · refine .inr ⟨h.absent hnone, ?_⟩
        rcases hname with hname | ⟨other, hother, rfl⟩
        · exact .inl (created_of_published hrun hrank hstem hname)
        · exact .inr ⟨other, created_of_published hrun hrank hstem hother, rfl⟩
    · rcases mem_or_eq_of_mem_set hother with hmem | rfl
      · exact h.writers other hmem
      · rw [hwrites.settings, hwrites.stem]
        exact ⟨hrun, hrank, hstem, hfresh⟩

theorem Separate.publish (expectedReceiptSha256 : Option String)
    (validate : Resolved → Except Error Unit) (validatePostBinding : Except Error Unit) :
    Separate runId rank before (perform hash runId rank w
      (.publish expectedReceiptSha256 validate validatePostBinding)).2 := by
  refine h.change (fun name => ?_) h.writers
  rcases get?_publishPrepared_eq hash runId rank expectedReceiptSha256 validate
    validatePostBinding w.files name with hsame | ⟨hnone, rfl | rfl⟩
  · exact .inl hsame
  · exact .inr ⟨h.absent hnone, .inl (.inr (.inr rfl))⟩
  · exact .inr ⟨h.absent hnone, .inr ⟨_, .inr (.inr rfl), rfl⟩⟩

theorem Separate.perform (operation : Operation) :
    Separate runId rank before (perform hash runId rank w operation).2 := by
  cases operation with
  | start clock settings => exact h.start clock rfl rfl
  | call clock ticks index call => exact h.call clock ticks index call
  | publish expected validate validatePostBinding => exact h.publish expected validate _

end

/-- Operations for a run and a rank, on a directory without writers. -/
theorem run_separate (hash : Hashing) (runId : String) (rank : ℕ) (before : Directory)
    (operations : List Operation) : Separate runId rank before
      (Machine.final (Telemetry.perform hash runId rank) ⟨[], before⟩ operations) := by
  have hstart : Separate runId rank before ⟨[], before⟩ :=
    ⟨fun _ _ => rfl, fun _ h => absurd rfl h, fun _ h => absurd h not_mem_nil⟩
  have hstep : ∀ w operation, Separate runId rank before w → True →
      Separate runId rank before (Telemetry.perform hash runId rank w operation).2 :=
    fun w operation h _ => h.perform operation
  exact (Machine.trace_invariant hstep hstart fun _ _ => trivial).2

/-! ## The other run and rank -/

section

variable {runId' : String} {rank' : ℕ}

/-- No receipt of a run and a rank binds a missing file whose name operations for the other
create. -/
def Intact (runId : String) (rank : ℕ) (runId' : String) (rank' : ℕ) (before : Directory) : Prop :=
  ∀ name ∈ preparedName runId rank :: receiptNames before runId rank, ∀ receipt canonical,
    before.get? name = some (.receipt receipt canonical) →
      ∀ bound ∈ boundNames receipt, Created runId' rank' bound → before.get? bound ≠ none

theorem Separate.get?_eq (h : Separate runId' rank' before w)
    (hname : Created runId' rank' name → before.get? name ≠ none) :
    w.files.get? name = before.get? name := by
  by_contra hne
  exact hne (h.kept name (hname (h.created name hne)))

/-- The receipts that are found are the same. -/
theorem Separate.receiptNames_eq (h : Separate runId' rank' before w)
    (hne : (runId, rank) ≠ (runId', rank'))
    (hfree : ¬ (runStem runId rank ++ ".pid").toList <+: runId'.toList) :
    receiptNames w.files runId rank = receiptNames before runId rank := by
  have hcomplete : w.files.get? (completeName runId rank) = before.get? (completeName runId rank) :=
    h.get?_eq fun hcreated => absurd hcreated (not_created_complete hne)
  have hglob : sortedBy id (glob w.files (runStem runId rank ++ ".pid") ".complete.json")
      = sortedBy id (glob before (runStem runId rank ++ ".pid") ".complete.json") := by
    refine sortedBy_congr ?_ ?_
    · rw [map_id]
      exact nodup_glob _ _ _
    · rw [perm_ext_iff_of_nodup (nodup_glob _ _ _) (nodup_glob _ _ _)]
      intro name
      rw [mem_glob, mem_glob]
      refine and_congr_left fun hname => ?_
      rw [h.get?_eq fun hcreated => absurd hcreated (not_created_found hfree hname)]
  unfold receiptNames
  rw [hcomplete, hglob]

/-- A name that the receipts are found by is not created. -/
theorem not_created_of_mem (hne : (runId, rank) ≠ (runId', rank'))
    (hfree : ¬ (runStem runId rank ++ ".pid").toList <+: runId'.toList)
    (hname : name ∈ preparedName runId rank :: receiptNames before runId rank) :
    ¬ Created runId' rank' name := by
  rcases mem_cons.mp hname with rfl | hname
  · exact not_created_prepared hne
  · rcases mem_append.mp hname with hname | hname
    · split at hname
      · rw [mem_singleton.mp hname]
        exact not_created_complete hne
      · cases hname
    · rw [mem_sortedBy, mem_glob] at hname
      exact not_created_found hfree hname.2

theorem Separate.agree (h : Separate runId' rank' before w) (hne : (runId, rank) ≠ (runId', rank'))
    (hfree : ¬ (runStem runId rank ++ ".pid").toList <+: runId'.toList)
    (hintact : Intact runId rank runId' rank' before) : Agree runId rank before w.files where
  found := (h.receiptNames_eq hne hfree).symm
  observation := (h.get?_eq fun hcreated => absurd hcreated not_created_observation).symm
  sidecar := (h.get?_eq fun hcreated => absurd hcreated not_created_sidecar).symm
  receipts := by
    intro name hname
    refine ⟨(h.get?_eq fun hcreated => absurd hcreated (not_created_of_mem hne hfree hname)).symm, ?_⟩
    intro receipt canonical hreceipt bound hbound
    exact (h.get?_eq (hintact name hname receipt canonical hreceipt bound hbound)).symm

/-- Operations for one run and rank leave the completed evidence of another as it was, when
its id does not begin with `{run_id}.rank{rank}.pid` of the other. -/
theorem load_unchanged (hne : (runId, rank) ≠ (runId', rank'))
    (hfree : ¬ (runStem runId rank ++ ".pid").toList <+: runId'.toList)
    (hintact : Intact runId rank runId' rank' before) (operations : List Operation) :
    loadCompletedEvidence hash
        (Machine.final (perform hash runId' rank') ⟨[], before⟩ operations).files runId rank
      = loadCompletedEvidence hash before runId rank :=
  (load_congr ((run_separate hash runId' rank' before operations).agree hne hfree hintact)).symm

/-! ## Captured receipts -/

theorem collect_eq_error_of_mem {α : Type} {outcomes : List (Except Error α)} {e : Error}
    (h : .error e ∈ outcomes) : ∃ e', collect outcomes = .error e' := by
  cases hcollect : collect outcomes with
  | error e' => exact ⟨e', rfl⟩
  | ok values =>
    rw [collect_eq_ok] at hcollect
    rw [hcollect] at h
    rcases mem_map.mp h with ⟨value, -, hvalue⟩
    cases hvalue

/-- After a publication whose receipt the glob of another run and rank finds, loading the
evidence of that run and rank raises. -/
theorem load_raises_of_captured {files' : Directory} {resolved : Resolved}
    {expectedReceiptSha256 : Option String} {validate : Resolved → Except Error Unit}
    {validatePostBinding : Except Error Unit} (hne : (runId, rank) ≠ (runId', rank'))
    (hcaptured : (runStem runId rank ++ ".pid").toList <+: runId'.toList)
    (hpublish : publishPreparedCompletion hash runId' rank' expectedReceiptSha256 validate
      validatePostBinding files = (.ok resolved, files')) :
    ∃ e, loadCompletedEvidence hash files' runId rank = .error e := by
  -- the terminal receipt is there, and is that of the other run and rank
  have hloaded : ∃ loaded,
      loadReceipt hash files' (completeName runId' rank') runId' rank' = .ok loaded := by
    unfold publishPreparedCompletion at hpublish
    split at hpublish
    · cases hpublish
    · split at hpublish
      · cases hpublish
      · rw [Prod.mk.injEq, bind_eq_ok] at hpublish
        rcases hpublish with ⟨⟨loaded, hloaded, -⟩, rfl⟩
        exact ⟨loaded, hloaded⟩
  rcases hloaded with ⟨loaded, hloaded⟩
  rcases loadReceipt_names hloaded with ⟨receipt, canonical, hread, hrun, hrank, -⟩
  have hfound : completeName runId' rank' ∈ receiptNames files' runId rank := by
    refine mem_append_right _ (mem_sortedBy.mpr (mem_glob.mpr ⟨?_, captures_iff.mpr hcaptured⟩))
    exact ⟨_, get?_of_readReceipt hread⟩
  have hone : ∃ e, loadOne hash files' runId rank (completeName runId' rank') = .error e := by
    cases hload : loadOne hash files' runId rank (completeName runId' rank') with
    | error e => exact ⟨e, rfl⟩
    | ok value =>
      unfold loadOne at hload
      rw [bind_eq_ok] at hload
      rcases hload with ⟨resolved', hreceipt, -⟩
      rcases loadReceipt_names hreceipt with ⟨receipt', canonical', hread', hrun', hrank', -⟩
      rw [hread, Except.ok.injEq, Prod.mk.injEq] at hread'
      rw [← hread'.1, hrun] at hrun'
      rw [← hread'.1, hrank] at hrank'
      exact absurd (by rw [hrun', hrank']) hne
  rcases hone with ⟨e, hone⟩
  have hmem : .error e ∈ (receiptNames files' runId rank).map (loadOne hash files' runId rank) :=
    mem_map.mpr ⟨_, hfound, hone⟩
  rcases collect_eq_error_of_mem hmem with ⟨e', hcollect⟩
  unfold loadCompletedEvidence
  rw [hcollect]
  by_cases hsafe : isSafeComponent runId
  · rw [require, if_pos hsafe]
    exact ⟨e', rfl⟩
  · rw [require, if_neg hsafe]
    exact ⟨_, rfl⟩

end

/-! ## A directory with a prepared attempt -/

def legacyShard (runId : String) : Table → Shard
  | .run => ⟨.run, ["workload_contract", "experiment_budget_sha256"], [[.run (smallRun runId)]]⟩
  | .request => ⟨.request, [], [[.request (smallRequest runId "q")]]⟩
  | table => ⟨table, [], [[.performance (smallPerformance runId)]]⟩

def legacyEntry (hash : Hashing) (runId : String) (table : Table) : Table × FileEntry :=
  (table, { EvidenceWriter.fileEntry hash (table.name ++ ".parquet") (legacyShard runId table) with
    rowGroups := 1 })

/-- A receipt of schema 2 for them. -/
def legacyReceipt (hash : Hashing) (runId : String) (rank : ℕ) : Receipt where
  schemaVersion := 2
  runId := runId
  rank := rank
  processId := 0
  attemptId := "a"
  stem := none
  files := [.run, .request, .performance].map (legacyEntry hash runId)
  checkpoint := none
  coverage := none
  counters := none
  writerPolicy := none
  writerPolicySha256 := none
  experimentBudgetSha256 := none
  nativeTerminalArtifact := none
  postBinding := none

def legacyDirectory (hash : Hashing) (runId : String) (rank : ℕ) : Directory :=
  let shards := [Table.run, .request, .performance].foldl (fun files table =>
    files.set (table.name ++ ".parquet") (.parquet (legacyShard runId table))) Dict.empty
  shards.set (preparedName runId rank) (.receipt (legacyReceipt hash runId rank) true)

/-- A receipt of these shards is loaded. -/
theorem load_legacyReceipt
    (hname : files.get? name = some (.receipt (legacyReceipt hash runId rank) true))
    (hshards : ∀ table ∈ [Table.run, .request, .performance],
      files.get? (table.name ++ ".parquet") = some (.parquet (legacyShard runId table))) :
    loadReceipt hash files name runId rank
      = .ok [(.run, "run.parquet"), (.request, "request.parquet"),
          (.performance, "performance.parquet")] := by
  have hread : readReceipt files name = .ok (legacyReceipt hash runId rank, true) := by
    unfold readReceipt
    rw [hname]
  have hentry : ∀ table ∈ [Table.run, .request, .performance],
      resolveEntry hash files name (legacyReceipt hash runId rank) (legacyEntry hash runId table)
        = .ok (table, table.name ++ ".parquet", legacyShard runId table) := by
    intro table htable
    have hplain : isPlainName (table.name ++ ".parquet") := by
      cases table <;> decide
    unfold resolveEntry readShard legacyEntry
    simp only [EvidenceWriter.fileEntry, hshards table htable]
    simp [require, bind, Except.bind, pure, Except.pure, hplain, legacyReceipt]
  have hcollect : collect ((legacyReceipt hash runId rank).files.map
      (resolveEntry hash files name (legacyReceipt hash runId rank)))
        = .ok ([Table.run, .request, .performance].map fun table =>
          (table, table.name ++ ".parquet", legacyShard runId table)) := by
    rw [collect_eq_ok]
    unfold legacyReceipt
    simp only [map_cons, map_nil]
    exact congr (congrArg _ (hentry .run (by decide))) (congr (congrArg _ (hentry .request (by decide)))
      (congrArg (· :: []) (hentry .performance (by decide))))
  have hidentity : ∀ table ∈ [Table.run, .request, .performance],
      readIdentityColumns (table.name ++ ".parquet") (legacyShard runId table) runId "static"
        = .ok () := by
    intro table htable
    unfold readIdentityColumns
    simp only [bind_eq_ok, check_eq_ok]
    cases table <;> simp [legacyShard, Shard.rows, smallRun, smallRequest, smallPerformance,
      EvidenceRecord.runId, EvidenceRecord.method, EvidenceRecord.asRun] at htable ⊢
  have hidentities : forEach (fun row => readIdentityColumns row.2.1 row.2.2 runId "static")
      ([Table.run, .request, .performance].map fun table =>
        (table, table.name ++ ".parquet", legacyShard runId table)) = .ok () := by
    rw [forEach_eq_ok]
    rintro _ hrow
    rcases mem_map.mp hrow with ⟨table, htable, rfl⟩
    exact hidentity table htable
  have hrow : runRow name (legacyShard runId .run) = .ok (smallRun runId) := by
    simp [runRow, legacyShard, Shard.rows, EvidenceRecord.asRun, smallRun]
  unfold loadReceipt
  rw [bind_eq_ok]
  refine ⟨_, hread, ?_⟩
  simp only [bind_eq_ok, check_eq_ok]
  refine ⟨⟨.inl rfl, rfl, rfl⟩, ?_, fun h => (by cases h), _, hcollect, ?_, _, rfl, ?_, _, hrow, ?_, ?_, ?_⟩
  · exact ⟨mem_cons_self, mem_cons_of_mem _ (mem_cons_of_mem _ mem_cons_self)⟩
  · change [Table.run.name ++ ".parquet", Table.request.name ++ ".parquet",
      Table.performance.name ++ ".parquet"].Nodup
    decide
  · intro h
    have hcolumns : ¬ nativeColumns.any
        (· ∈ ["workload_contract", "experiment_budget_sha256"]) = true := by
      decide
    exact absurd h hcolumns
  · exact fun _ => ⟨fun h => (by cases h), rfl, rfl⟩
  · change ∀ table, table ∈ [Table.run, .request, .performance] ↔
      table ∈ if "static" ∈ evidenceMethods then expectedTables "static" none else []
    decide
  · have hschema : (legacyReceipt hash runId rank).schemaVersion ≠ 3 := by
      change 2 ≠ 3
      decide
    rw [if_neg hschema]
    simp only [bind_eq_ok, pure_eq_ok]
    exact ⟨(), hidentities, rfl⟩

section

theorem get?_legacyDirectory (hash : Hashing) (runId : String) (rank : ℕ) (name : String) :
    (legacyDirectory hash runId rank).get? name =
      if name = preparedName runId rank then some (.receipt (legacyReceipt hash runId rank) true)
      else if name = Table.performance.name ++ ".parquet" then
        some (.parquet (legacyShard runId .performance))
      else if name = Table.request.name ++ ".parquet" then
        some (.parquet (legacyShard runId .request))
      else if name = Table.run.name ++ ".parquet" then some (.parquet (legacyShard runId .run))
      else none := by
  unfold legacyDirectory
  simp only [foldl_cons, foldl_nil]
  rw [Dict.get?_set, Dict.get?_set, Dict.get?_set, Dict.get?_set]
  rfl

theorem getLast?_shardName (table : Table) :
    (table.name ++ ".parquet").toList.getLast? = some 't' := by
  rw [String.toList_append, getLast?_append]
  rfl

theorem ne_shardName {c : Char} (hlast : name.toList.getLast? = some c) (hc : c ≠ 't')
    (table : Table) : name ≠ table.name ++ ".parquet" := by
  rintro rfl
  rw [getLast?_shardName, Option.some.injEq] at hlast
  exact hc hlast.symm

theorem legacyDirectory_absent {c : Char} (hlast : name.toList.getLast? = some c) (hc : c ≠ 't')
    (hne : name ≠ preparedName runId rank) :
    (legacyDirectory hash runId rank).get? name = none := by
  rw [get?_legacyDirectory, if_neg hne, if_neg (ne_shardName hlast hc .performance),
    if_neg (ne_shardName hlast hc .request), if_neg (ne_shardName hlast hc .run)]

theorem get?_legacyShard (hash : Hashing) (runId : String) (rank : ℕ) (hfiles : ∀ table : Table,
      files.get? (table.name ++ ".parquet")
        = (legacyDirectory hash runId rank).get? (table.name ++ ".parquet")) :
    ∀ table ∈ [Table.run, .request, .performance],
      files.get? (table.name ++ ".parquet") = some (.parquet (legacyShard runId table)) := by
  intro table htable
  rw [hfiles, get?_legacyDirectory, if_neg
    (ne_shardName (getLast?_preparedName runId rank) (by decide) table).symm]
  simp only [mem_cons, not_mem_nil, or_false] at htable
  rcases htable with rfl | rfl | rfl
  · rw [if_neg (by decide), if_neg (by decide), if_pos (by decide)]
  · rw [if_neg (by decide), if_pos (by decide)]
  · rw [if_pos (by decide)]

theorem ne_preparedName {name : String} (h : ".complete.json".toList <:+ name.toList) :
    name ≠ preparedName runId rank := by
  rintro rfl
  have hsame := ending_unique (by decide) (by decide) h (preparedName_ending _ _)
  exact absurd hsame (by decide)

theorem complete_ne_prepared (runId runId' : String) (rank rank' : ℕ) :
    completeName runId rank ≠ preparedName runId' rank' :=
  ne_preparedName (completeName_ending _ _)

/-- What is checked before the publication. -/
theorem prepareTerminal_legacyDirectory (hash : Hashing) (rank : ℕ)
    (hsafe : isSafeComponent runId) :
    prepareTerminal hash (legacyDirectory hash runId rank) runId rank none (fun _ => .ok ()) (.ok ())
      = .ok (legacyReceipt hash runId rank, [(.run, "run.parquet"), (.request, "request.parquet"),
          (.performance, "performance.parquet")], none) := by
  have hprepared : (legacyDirectory hash runId rank).get? (preparedName runId rank)
      = some (.receipt (legacyReceipt hash runId rank) true) := by
    rw [get?_legacyDirectory, if_pos rfl]
  have hcomplete : (legacyDirectory hash runId rank).get? (completeName runId rank) = none :=
    legacyDirectory_absent (getLast?_completeName _ _) (by decide) (complete_ne_prepared _ _ _ _)
  have hshards := get?_legacyShard hash runId rank fun _ => rfl
  have hread : readReceipt (legacyDirectory hash runId rank) (preparedName runId rank)
      = .ok (legacyReceipt hash runId rank, true) := by
    unfold readReceipt
    rw [hprepared]
  have hbinding : runCompletionBinding (legacyDirectory hash runId rank)
      [(.run, "run.parquet"), (.request, "request.parquet"), (.performance, "performance.parquet")]
        = .ok (none, none) := by
    have hrun := hshards .run (by decide)
    change (legacyDirectory hash runId rank).get? "run.parquet" = _ at hrun
    unfold runCompletionBinding
    rw [show List.lookup Table.run [(Table.run, "run.parquet"), (.request, "request.parquet"),
      (.performance, "performance.parquet")] = some "run.parquet" from rfl, Option.bind_some, hrun]
    rfl
  unfold prepareTerminal
  simp only [bind_eq_ok, require_eq_ok, exists_const, hcomplete, hprepared]
  exact ⟨hsafe, rfl, _, hread, rfl, rfl, _, load_legacyReceipt hprepared hshards, trivial, _,
    hbinding, rfl⟩

/-- The attempt of the directory can be published. -/
theorem publish_legacyDirectory (hash : Hashing) (rank : ℕ) (hsafe : isSafeComponent runId) :
    ∃ resolved files, publishPreparedCompletion hash runId rank none (fun _ => .ok ()) (.ok ())
      (legacyDirectory hash runId rank) = (.ok resolved, files) := by
  have hcomplete : (legacyDirectory hash runId rank).get? (completeName runId rank) = none :=
    legacyDirectory_absent (getLast?_completeName _ _) (by decide) (complete_ne_prepared _ _ _ _)
  have hpublish : publishExclusive (legacyDirectory hash runId rank) (completeName runId rank)
      (.receipt (legacyReceipt hash runId rank) true) runId
        = (.ok (), (withLock (legacyDirectory hash runId rank) (completeName runId rank)).set
          (completeName runId rank) (.receipt (legacyReceipt hash runId rank) true)) := by
    unfold publishExclusive
    rw [hcomplete]
    rfl
  have hreceipt : ((withLock (legacyDirectory hash runId rank) (completeName runId rank)).set
      (completeName runId rank) (.receipt (legacyReceipt hash runId rank) true)).get?
        (completeName runId rank) = some (.receipt (legacyReceipt hash runId rank) true) := by
    rw [Dict.get?_set, if_pos rfl]
  have hshards := get?_legacyShard hash runId rank (fun table => show
      ((withLock (legacyDirectory hash runId rank) (completeName runId rank)).set
        (completeName runId rank) (.receipt (legacyReceipt hash runId rank) true)).get? _ = _ by
        rw [Dict.get?_set, if_neg (ne_shardName (getLast?_completeName _ _) (by decide) table).symm]
        exact get?_withLock _ _ (ne_shardName (getLast?_lockName _) (by decide) table).symm)
  unfold publishPreparedCompletion
  rw [prepareTerminal_legacyDirectory hash rank hsafe]
  simp only [hpublish]
  refine ⟨[(.run, "run.parquet"), (.request, "request.parquet"),
    (.performance, "performance.parquet")], _, Prod.ext ?_ rfl⟩
  rw [bind_eq_ok]
  exact ⟨_, load_legacyReceipt hreceipt hshards, rfl⟩

/-- Nothing of another run and rank is in the directory. -/
theorem receiptNames_legacyDirectory (hash : Hashing) (runId runId' : String) (rank rank' : ℕ) :
    receiptNames (legacyDirectory hash runId' rank') runId rank = [] := by
  have hcomplete : (legacyDirectory hash runId' rank').get? (completeName runId rank) = none :=
    legacyDirectory_absent (getLast?_completeName _ _) (by decide) (complete_ne_prepared _ _ _ _)
  have hglob : glob (legacyDirectory hash runId' rank') (runStem runId rank ++ ".pid")
      ".complete.json" = [] := by
    rw [eq_nil_iff_forall_not_mem]
    intro name hname
    rcases mem_glob.mp hname with ⟨⟨file, hfile⟩, middle, hlist⟩
    have hlast : name.toList.getLast? = some 'n' := by
      rw [hlist, getLast?_append]
      rfl
    rw [legacyDirectory_absent hlast (by decide) (ne_preparedName ⟨_, hlist.symm⟩)] at hfile
    cases hfile
  unfold receiptNames
  rw [hcomplete, hglob]
  rfl

/-- Operations for one run and rank never change the completed evidence of another, over all
directories whose receipts bind no missing file that they create, exactly when its id does not
begin with `{run_id}.rank{rank}.pid` of the other. -/
theorem namespaces_separate_iff {runId' : String} {rank' : ℕ} (hash : Hashing)
    (hsafe : isSafeComponent runId) (hsafe' : isSafeComponent runId')
    (hne : (runId, rank) ≠ (runId', rank')) :
    (∀ before, Intact runId rank runId' rank' before → ∀ operations,
        loadCompletedEvidence hash
            (Machine.final (perform hash runId' rank') ⟨[], before⟩ operations).files runId rank
          = loadCompletedEvidence hash before runId rank) ↔
      ¬ (runStem runId rank ++ ".pid").toList <+: runId'.toList := by
  constructor
  · intro hall hcaptured
    have hnone := receiptNames_legacyDirectory hash runId runId' rank rank'
    have hintact : Intact runId rank runId' rank' (legacyDirectory hash runId' rank') := by
      intro name hname receipt canonical hreceipt
      rw [hnone, List.mem_singleton] at hname
      rw [hname, legacyDirectory_absent (getLast?_preparedName _ _) (by decide)
        fun h => hne (Prod.ext (preparedName_injective h).1 (preparedName_injective h).2)] at hreceipt
      cases hreceipt
    rcases publish_legacyDirectory hash rank' hsafe' with ⟨resolved, files, hpublish⟩
    rcases load_raises_of_captured hne hcaptured hpublish with ⟨e, hraise⟩
    have hsame := hall _ hintact [.publish none (fun _ => .ok ()) (.ok ())]
    rw [Machine.final_cons, Machine.final_nil] at hsame
    change loadCompletedEvidence hash (publishPreparedCompletion hash runId' rank' none
      (fun _ => .ok ()) (.ok ()) (legacyDirectory hash runId' rank')).2 runId rank = _ at hsame
    rw [hpublish, hraise] at hsame
    unfold loadCompletedEvidence at hsame
    rw [hnone, require, if_pos hsafe] at hsame
    cases hsame
  · intro hfree before hintact operations
    exact load_unchanged hne hfree hintact operations

/-- The operations of a small attempt, from its constructor to its publication. -/
def smallOperations (runId : String) : List Operation :=
  .start stoppedClock (smallSettings runId) ::
    (smallCalls runId ++ [Call.prepareClose, Call.publishClose (.ok ())]).map
      (.call stoppedClock 0 0)

def smallEvidence (runId : String) : Directory :=
  (Machine.final (perform smallHash runId 0) ⟨[], Dict.empty⟩ (smallOperations runId)).files

/-- A completed attempt keeps its evidence when a small attempt of another run, whose id has
nothing in common with its own, is made in the same directory. -/
theorem namespaces_separate_apart :
    ((loadCompletedEvidence smallHash (smallEvidence "a") "a" 0).toOption.join.isSome = true) ∧
      loadCompletedEvidence smallHash (Machine.final (perform smallHash "b" 0)
          ⟨[], smallEvidence "a"⟩ (smallOperations "b")).files "a" 0
        = loadCompletedEvidence smallHash (smallEvidence "a") "a" 0 := by
  have hbound : (preparedName "a" 0 :: receiptNames (smallEvidence "a") "a" 0).all (fun name =>
      (readReceipt (smallEvidence "a") name).toOption.all fun read =>
        (boundNames read.1).all fun bound => ((smallEvidence "a").get? bound).isSome) = true := by
    decide +kernel
  have hintact : Intact "a" 0 "b" 0 (smallEvidence "a") := by
    intro name hname receipt canonical hreceipt bound hmem _ hnone
    have hall := all_eq_true.mp hbound name hname
    rw [readReceipt, hreceipt] at hall
    have hsome := all_eq_true.mp hall bound hmem
    rw [hnone] at hsome
    cases hsome
  exact ⟨by decide +kernel, (namespaces_separate_iff smallHash (by decide) (by decide)
    (by decide)).mpr (by decide) (smallEvidence "a") hintact (smallOperations "b")⟩

/-- The evidence of run `r.rank0.pid7` makes that of run `r` unreadable. -/
theorem completed_run_captured :
    loadCompletedEvidence smallHash Dict.empty "r" 0 = .ok none ∧
      loadCompletedEvidence smallHash (Machine.final (perform smallHash "r.rank0.pid7" 0)
          ⟨[], Dict.empty⟩ (smallOperations "r.rank0.pid7")).files "r" 0
        = .error (runtimeError
          "invalid completion receipt r.rank0.pid7.rank0.complete.json") := by
  constructor
  · rfl
  · decide +kernel

end

end Telemetry

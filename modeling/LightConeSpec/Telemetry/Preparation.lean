import LightConeSpec.Telemetry.Conservation

/-!
# What a prepared attempt holds

The operations besides `write` and `flush` conserve rows. When `prepareClose` returns,
the shard of each expected table holds the accepted rows of the table: the segments that
its glob finds are the numbered ones, in their order (`finalShard_rows`).
-/

namespace Telemetry

open Python List Method

/-! ## Names -/

theorem getLast?_preparedName (runId : String) (rank : ℕ) :
    (preparedName runId rank).toList.getLast? = some 'n' := by
  unfold preparedName
  rw [String.toList_append, getLast?_append]
  rfl

theorem getLast?_completeName (runId : String) (rank : ℕ) :
    (completeName runId rank).toList.getLast? = some 'n' := by
  unfold completeName
  rw [String.toList_append, getLast?_append]
  rfl

theorem getLast?_lockName (name : String) : (lockName name).toList.getLast? = some 'k' := by
  unfold lockName
  rw [String.toList_append, getLast?_append]
  rfl

/-- The endings of the names that are given to files, of which none is the end of another. -/
def endings : List String :=
  [".complete.json", ".prepared.json", "/observation.json", "/observation.json.sha256",
    ".publish.lock", "checkpoint.json", "index.sqlite3", "native-terminal.json", "aborted.json",
    ".parquet"]

variable {name : String} {files : Directory} {w : EvidenceWriter}

/-- A name has one ending at most. -/
theorem ending_unique {a b : String} (ha : a ∈ endings) (hb : b ∈ endings)
    (h : a.toList <:+ name.toList) (h' : b.toList <:+ name.toList) : a = b := by
  have hapart : ∀ a ∈ endings, ∀ b ∈ endings, a.toList <:+ b.toList → a = b := by decide
  rcases suffix_or_suffix_of_suffix h h' with h | h
  · exact hapart a ha b hb h
  · exact (hapart b hb a ha h).symm

theorem preparedName_ending (runId : String) (rank : ℕ) :
    ".prepared.json".toList <:+ (preparedName runId rank).toList :=
  ⟨_, (String.toList_append ..).symm⟩

theorem completeName_ending (runId : String) (rank : ℕ) :
    ".complete.json".toList <:+ (completeName runId rank).toList :=
  ⟨_, (String.toList_append ..).symm⟩

theorem lockName_ending (name : String) : ".publish.lock".toList <:+ (lockName name).toList :=
  ⟨_, (String.toList_append ..).symm⟩

/-- A name with an ending before those of the files of an attempt is none of them. -/
theorem ne_fileName {ending : String} (hending : ending ∈ endings.take 5)
    (h : ending.toList <:+ name.toList) (stem : String) (suffix : Suffix) :
    name ≠ fileName stem suffix := by
  rintro rfl
  have hfile : ∃ b ∈ endings.drop 5, b.toList <:+ (fileName stem suffix).toList := by
    rw [toList_fileName]
    cases suffix with
    | checkpoint => exact ⟨"checkpoint.json", by decide, suffix_append _ _⟩
    | index => exact ⟨"index.sqlite3", by decide, suffix_append _ _⟩
    | nativeTerminal => exact ⟨"native-terminal.json", by decide, suffix_append _ _⟩
    | aborted => exact ⟨"aborted.json", by decide, suffix_append _ _⟩
    | wal => exact ⟨".parquet", by decide, by simp [Suffix.text, ← append_assoc]⟩
    | shard => exact ⟨".parquet", by decide, by simp [Suffix.text, ← append_assoc]⟩
  rcases hfile with ⟨b, hb, hfile⟩
  have heq := ending_unique (mem_of_mem_take hending) (mem_of_mem_drop hb) h hfile
  have hapart : ∀ a ∈ endings.take 5, a ∉ endings.drop 5 := by decide
  exact hapart ending hending (heq ▸ hb)

theorem get?_withLock (files : Directory) (name : String) {name' : String}
    (hlock : name' ≠ lockName name) : (withLock files name).get? name' = files.get? name' := by
  unfold withLock
  split
  · rfl
  · rw [Dict.get?_set, if_neg hlock]

/-- Files of a publication. -/
theorem get?_publishExclusive (files : Directory) (name : String) (file : File) (runId : String)
    {name' : String} (hname : name' ≠ name) (hlock : name' ≠ lockName name) :
    (publishExclusive files name file runId).2.get? name' = files.get? name' := by
  unfold publishExclusive
  split
  · exact get?_withLock files name hlock
  · rw [Dict.get?_set, if_neg hname]
    exact get?_withLock files name hlock

/-- Files of a publication over a prepared receipt. -/
theorem get?_publishPrepared (hash : Hashing) (runId : String) (rank : ℕ)
    (expectedReceiptSha256 : Option String) (validate : Resolved → Except Error Unit)
    (validatePostBinding : Except Error Unit) (files : Directory)
    (hname : name ≠ completeName runId rank) (hlock : name ≠ lockName (completeName runId rank)) :
    (publishPreparedCompletion hash runId rank expectedReceiptSha256 validate validatePostBinding
      files).2.get? name = files.get? name := by
  unfold publishPreparedCompletion
  split
  · rfl
  · rename_i terminal resolved budget _
    have hget := get?_publishExclusive files (completeName runId rank) (.receipt terminal true)
      runId hname hlock
    split
    · rename_i hpublish
      rw [hpublish] at hget
      exact hget
    · rename_i hpublish
      rw [hpublish] at hget
      exact hget

namespace Session

variable {s t : Session} {settings : Settings} {accepted dropped : List EvidenceRecord}

/-! ## Operations without rows -/

theorem quiet_of_files
    (h : ∀ table name, Matches (segmentStart s.writer.stem table) ".parquet" name →
      files.get? name = s.files.get? name) : Quiet s { s with files := files } :=
  ⟨rfl, rfl, rfl, rfl, rfl, rfl, rfl, rfl, rfl, rfl, h⟩

/-- A receipt or an artifact has no segment's name, and neither has its lock. -/
theorem quiet_publish {file : File} {runId : String}
    (hname : ∀ table, ¬ Matches (segmentStart s.writer.stem table) ".parquet" name) :
    Quiet s (publish name file runId s).2 := by
  refine quiet_of_files fun table name' hmatch => ?_
  refine get?_publishExclusive _ _ _ _ ?_ ?_
  · rintro rfl
    exact hname table hmatch
  · rintro rfl
    exact not_segment_of_last (getLast?_lockName name) (by decide) table hmatch

theorem quiet_publishPrepared (hash : Hashing) (receipt : Receipt)
    (validatePostBinding : Except Error Unit) :
    Quiet s (publishPrepared hash receipt validatePostBinding s).2 := by
  refine quiet_of_files fun table name hmatch => ?_
  refine get?_publishPrepared _ _ _ _ _ _ _ ?_ ?_
  · rintro rfl
    exact not_segment_of_last (getLast?_completeName _ _) (by decide) table hmatch
  · rintro rfl
    exact not_segment_of_last (getLast?_lockName _) (by decide) table hmatch

theorem flush_leaves (clock : Clock) (hs : Conserved settings accepted dropped s) :
    LeavesAt (flush clock) s (Conserved settings accepted dropped) :=
  (flush_meets clock hs).mono fun _ _ h => h.1.conserved

theorem register_leaves (clock : Clock) (hs : Conserved settings accepted dropped s) (count : Option ℤ) :
    LeavesAt (registerExternalBackpressureEvents clock count) s
      (Conserved settings accepted dropped) := by
  refine meetsAt_requireOpen (Q := fun _ => Conserved settings accepted dropped) (fun _ => hs) fun _ => ?_
  refine leavesAt_check hs fun _ _ => leavesAt_assign ?_
  have hcount : Quiet s { s with writer := s.writer.countBackpressure (count.getD 0).toNat } :=
    ⟨rfl, rfl, rfl, rfl, rfl, rfl, rfl, rfl, rfl, rfl, fun _ _ _ => rfl⟩
  exact (hs.quiet hcount).quiet (quiet_checkpointed clock _)

theorem persist_leaves (hash : Hashing) (clock : Clock) (hs : Conserved settings accepted dropped s)
    (artifact : NativeArtifact) :
    LeavesAt (persistNativeTerminalArtifact hash clock artifact) s
      (Conserved settings accepted dropped) := by
  refine meetsAt_requireUnprepared (Q := fun _ => Conserved settings accepted dropped) (fun _ => hs)
    fun _ _ => ?_
  refine leavesAt_read (leavesAt_check hs fun _ _ => ?_)
  refine leavesAt_check hs fun _ _ => leavesAt_check hs fun _ _ => ?_
  refine leavesAt_check hs fun _ _ => ?_
  refine leavesAt_bind (Q := Conserved settings accepted dropped) ?_ (fun _ ht => ht) fun _ t ht => ?_
  · exact hs.quiet (quiet_publish (not_segment nofun))
  refine leavesAt_read (leavesAt_check ht fun _ _ => leavesAt_assign ?_)
  refine leavesAt_assign (leavesAt_pure ?_)
  have hbinding : Quiet t { t with writer := { t.writer with
      nativeTerminalBinding := some (nativeBindingOf hash (s.writer.path .nativeTerminal) artifact)
      } } := ⟨rfl, rfl, rfl, rfl, rfl, rfl, rfl, rfl, rfl, rfl, fun _ _ _ => rfl⟩
  exact (ht.quiet hbinding).quiet (quiet_checkpointed clock _)

theorem publishClose_leaves (hash : Hashing) (hs : Conserved settings accepted dropped s)
    (validatePostBinding : Except Error Unit) :
    LeavesAt (publishClose hash validatePostBinding) s (Conserved settings accepted dropped) := by
  refine meetsAt_requireOpen (Q := fun _ => Conserved settings accepted dropped) (fun _ => hs) fun _ => ?_
  refine leavesAt_read ?_
  cases s.writer.preparedReceipt with
  | none => exact hs
  | some receipt =>
    have hpublished := hs.quiet (quiet_publishPrepared hash receipt validatePostBinding)
    refine leavesAt_bind (Q := Conserved settings accepted dropped) hpublished (fun _ ht => ht)
      fun _ t ht => leavesAt_assign ?_
    exact ht.quiet ⟨rfl, rfl, rfl, rfl, rfl, rfl, rfl, rfl, rfl, rfl, fun _ _ _ => rfl⟩

theorem abort_leaves (clock : Clock) (hs : Conserved settings accepted dropped s)
    (reason : Option String) :
    LeavesAt (abort clock reason) s (Conserved settings accepted dropped) := by
  refine meetsAt_requireUnprepared (Q := fun _ => Conserved settings accepted dropped) (fun _ => hs)
    fun _ _ => ?_
  have hflush := (flushAll_meets clock hs).mono fun _ _ h => h.1.conserved
  refine leavesAt_bind (Q := Conserved settings accepted dropped) hflush (fun _ ht => ht)
    fun _ t ht => leavesAt_assign (leavesAt_read ?_)
  have hstate : Conserved settings accepted dropped
      { t with writer := { t.writer with state := .aborted } } :=
    ht.quiet ⟨rfl, rfl, rfl, rfl, rfl, rfl, rfl, rfl, rfl, rfl, fun _ _ _ => rfl⟩
  refine meetsAt_useIndex (Q := fun _ => Conserved settings accepted dropped) (fun _ => hstate) fun _ => ?_
  refine leavesAt_assign (leavesAt_assign ?_)
  have hfile := hstate.quiet (quiet_set (t.writer.path .aborted)
    (.aborted { t.writer with state := WriterState.aborted }.checkpointValue reason)
    (not_segment nofun))
  exact hfile.quiet ⟨rfl, rfl, rfl, rfl, rfl, rfl, rfl, rfl, rfl, rfl, fun _ _ _ => rfl⟩

/-! ## Final shards -/

/-- The glob of a table finds its numbered segments, in order. -/
theorem Conserved.segmentNames_eq (hs : Conserved settings accepted dropped s) {table : Table}
    (hgroups : s.writer.rowGroups table ≤ 10 ^ 8) : s.writer.segmentNames s.files table
      = (List.range (s.writer.rowGroups table)).map fun k => s.writer.path (.wal table k) := by
  refine segments_eq hgroups fun name => ?_
  rw [mem_glob]
  constructor
  · rintro ⟨⟨file, hfile⟩, hname⟩
    exact hs.numbered table name file hfile hname
  · rintro ⟨k, hk, rfl⟩
    rcases hs.written table k hk with ⟨shard, hshard⟩
    exact ⟨⟨_, hshard⟩, matches_path s table k⟩

theorem readSegment_eq {rows : List EvidenceRecord} (h : w.readSegment files name = .ok rows) :
    rows = segmentRows files name := by
  unfold EvidenceWriter.readSegment at h
  unfold segmentRows
  split at h
  · rename_i shard hshard
    rw [hshard]
    simp only [bind_eq_ok, check_eq_ok, pure_eq_ok] at h
    exact h.2.symm
  · cases h
  · cases h

/-- The rows that are read are those of the names. -/
theorem collect_readSegment {names : List String} {groups : List (List EvidenceRecord)}
    (h : collect (names.map (w.readSegment files)) = .ok groups) :
    groups = names.map (segmentRows files) := by
  rw [collect_eq_ok] at h
  induction names generalizing groups with
  | nil =>
    rw [map_nil, eq_comm, map_eq_nil_iff] at h
    exact h
  | cons name names ih =>
    cases groups with
    | nil => cases h
    | cons rows groups =>
      rw [map_cons, map_cons] at h
      rcases List.cons.inj h with ⟨hhead, htail⟩
      rw [map_cons, readSegment_eq hhead, ih htail]

/-- The shard of a table holds its durable rows. -/
theorem finalShard_rows (hs : Conserved settings accepted dropped s) {table : Table} {shard : Shard}
    (hgroups : s.writer.rowGroups table ≤ 10 ^ 8)
    (h : s.writer.finalShard s.files table = .ok shard) : shard.rows = s.durable table := by
  unfold EvidenceWriter.finalShard at h
  simp only [bind_eq_ok, check_eq_ok, pure_eq_ok] at h
  rcases h with ⟨-, -, groups, hcollect, rfl⟩
  have hnames := collect_readSegment hcollect
  rw [hs.segmentNames_eq hgroups, map_map] at hnames
  unfold Shard.rows durable
  rw [hnames, flatten_eq_flatMap, flatMap_map]
  rfl

/-- The final shards of these tables were written. -/
structure Built (tables : List Table) (shards : List (Table × String × Shard)) (s : Session) :
    Prop where
  tables_eq : shards.map Prod.fst = tables
  stored : ∀ row ∈ shards, row.2.1 = s.writer.path (.shard row.1) ∧
    s.files.get? row.2.1 = some (.parquet row.2.2)
  rows : ∀ row ∈ shards, s.writer.rowGroups row.1 ≤ 10 ^ 8 → row.2.2.rows = s.durable row.1

/-- What the loop over the expected tables keeps. -/
structure Building (settings : Settings) (accepted dropped : List EvidenceRecord) (tables : List Table)
    (shards : List (Table × String × Shard)) (s t : Session) : Prop where
  conserved : Conserved settings accepted dropped t
  writer : t.writer = s.writer
  built : Built tables shards t
  others : ∀ name, (∀ table, name ≠ s.writer.path (.shard table)) →
    t.files.get? name = s.files.get? name

theorem buildFinalTables_meets (hs : Conserved settings accepted dropped s) (tables : List Table) :
    MeetsAt (Method.collect buildFinalTable tables) s fun result t =>
      (∀ shards, result = .ok shards → Building settings accepted dropped tables shards s t) ∧
        ∀ e, result = .error e → Conserved settings accepted dropped t := by
  refine meetsAt_collect (f := buildFinalTable) (E := fun _ => Conserved settings accepted dropped)
    (I := fun behind shards t => Building settings accepted dropped behind shards s t)
    [] [] ⟨hs, rfl, ⟨rfl, nofun, nofun⟩, fun _ _ => rfl⟩ ?_
  rintro behind shards table t ht
  refine meetsAt_read (meetsAt_check_bind (fun _ _ => ⟨nofun, fun _ _ => ht.conserved⟩)
    fun shard hshard => meetsAt_assign (meetsAt_pure ⟨?_, nofun⟩))
  rintro _ ⟨⟩
  have hquiet : Quiet t
      { t with files := t.files.set (t.writer.path (.shard table)) (.parquet shard) } :=
    quiet_set _ _ (not_segment nofun)
  have hnew : t.files.get? (t.writer.path (.shard table)) = none := by
    unfold EvidenceWriter.finalShard at hshard
    simp only [bind_eq_ok, check_eq_ok, pure_eq_ok] at hshard
    exact Option.isNone_iff_eq_none.mp hshard.2.1
  refine ⟨ht.conserved.quiet hquiet, ht.writer, ⟨?_, ?_, ?_⟩, ?_⟩
  · rw [map_append, ht.built.tables_eq]
    rfl
  · intro row hrow
    change _ ∧ (t.files.set (t.writer.path (.shard table)) (.parquet shard)).get? row.2.1 = _
    rw [Dict.get?_set]
    rcases mem_append.mp hrow with hrow | hrow
    · rcases ht.built.stored row hrow with ⟨hname, hfile⟩
      refine ⟨hname, ?_⟩
      -- a shard that is there is not written over
      rw [if_neg]
      · exact hfile
      · intro heq
        rw [heq, hnew] at hfile
        cases hfile
    · rw [mem_singleton.mp hrow]
      exact ⟨rfl, if_pos rfl⟩
  · intro row hrow hgroups
    rw [hquiet.durable]
    rcases mem_append.mp hrow with hrow | hrow
    · exact ht.built.rows row hrow hgroups
    · rw [mem_singleton.mp hrow] at hgroups ⊢
      exact finalShard_rows ht.conserved hgroups hshard
  · intro name hname
    change (t.files.set (t.writer.path (.shard table)) (.parquet shard)).get? name = _
    rw [Dict.get?_set, if_neg, ht.others name hname]
    rw [ht.writer]
    exact hname table

/-! ## `prepare_close` -/

/-- The condition under which an attempt is complete. -/
structure Complete (w : EvidenceWriter) (run : RunRecord) : Prop where
  record : w.runRecord = some run
  single : w.rowCounts .run = 1
  satisfies : w.Satisfies run
  counts : ∀ contract, run.workloadContract = some contract → w.checkCounts run = .ok ()

theorem complete_of_validate {hash : Hashing} {tables : List Table}
    (h : w.validateCompletion hash files = .ok tables) :
    ∃ run, Complete w run ∧ tables = EvidenceWriter.expected run := by
  unfold EvidenceWriter.validateCompletion at h
  split at h
  · cases h
  · rename_i run hrun
    simp only [bind_eq_ok, check_eq_ok] at h
    rcases h with ⟨hsingle, hsatisfies, h⟩
    split at h
    · rename_i hcontract
      cases h
      exact ⟨run, ⟨hrun, hsingle, hsatisfies, by rw [hcontract]; rintro _ ⟨⟩⟩, rfl⟩
    · rename_i contract hcontract
      simp only [bind_eq_ok, pure_eq_ok] at h
      rcases h with ⟨⟨⟩, hchecks, rfl⟩
      unfold EvidenceWriter.checkContract at hchecks
      rw [bind_eq_ok] at hchecks
      rcases hchecks with ⟨⟨⟩, hcounts, -⟩
      exact ⟨run, ⟨hrun, hsingle, hsatisfies, fun _ _ => hcounts⟩, rfl⟩

/-- The state that `prepareClose` leaves when it returns these shards. -/
structure Prepared (resolved : Resolved) (t : Session) : Prop where
  /-- The writer is not closed, but its index is. -/
  opened : t.writer.closed = false
  index : t.writer.indexOpen = false
  /-- Nothing is queued. -/
  empty : ∀ table, t.writer.queues table = []
  /-- The run is complete, and its tables are those of the shards. -/
  complete : ∃ run, Complete t.writer run ∧
    resolved.map Prod.fst = sortedTables (EvidenceWriter.expected run)
  /-- The shards hold the durable rows. -/
  shards : ∀ row ∈ resolved, ∃ shard, t.files.get? row.2 = some (.parquet shard) ∧
    (t.writer.rowGroups row.1 ≤ 10 ^ 8 → shard.rows = t.durable row.1)
  /-- The receipt binds the checkpoint. -/
  receipt : ∃ receipt binding, t.writer.preparedReceipt = some receipt ∧
    receipt.checkpoint = some binding ∧ binding.name = t.writer.path .checkpoint
  /-- The checkpoint has the events of the writer. -/
  checkpoint : ∃ value, t.files.get? (t.writer.path .checkpoint) = some (.checkpoint value) ∧
    value.counters.backpressureEvents = t.writer.backpressureEvents

/-- The receipt is published under a name of its own. -/
theorem publishReceipt_meets (hash : Hashing) (shards : List (Table × String × Shard))
    (checkpoint : File) (u : Session) :
    MeetsAt (publishReceipt hash shards checkpoint) u fun result t => Quiet u t ∧
      ∀ resolved, result = .ok resolved → resolved = shards.map (fun row => (row.1, row.2.1)) ∧
        t.writer = { u.writer with
          indexOpen := false
          preparedReceipt := some (u.writer.preparedReceiptOf hash shards checkpoint)
          preparedFiles := some resolved
          state := .prepared } ∧
        ∀ suffix, t.files.get? (u.writer.path suffix) = u.files.get? (u.writer.path suffix) := by
  refine meetsAt_read (meetsAt_check_bind (fun _ _ => ⟨Quiet.refl u, nofun⟩) ?_)
  rintro - -
  have hquiet : Quiet u (publish (preparedName u.writer.runId u.writer.rank)
      (.receipt (u.writer.preparedReceiptOf hash shards checkpoint) true) u.writer.runId u).2 :=
    quiet_publish (not_segment_of_last (getLast?_preparedName _ _) (by decide))
  refine meetsAt_bind (P := fun _ v => v = (publish (preparedName u.writer.runId
    u.writer.rank) (.receipt (u.writer.preparedReceiptOf hash shards checkpoint) true)
      u.writer.runId u).2) rfl ?_ ?_
  · rintro e v rfl
    exact ⟨hquiet, nofun⟩
  rintro _ v rfl
  refine meetsAt_useIndex (fun _ => ⟨hquiet, nofun⟩) fun _ => ?_
  refine meetsAt_assign (meetsAt_pure ⟨?_, ?_⟩)
  · exact hquiet.trans ⟨rfl, rfl, rfl, rfl, rfl, rfl, rfl, rfl, rfl, rfl, fun _ _ _ => rfl⟩
  rintro _ ⟨⟩
  refine ⟨rfl, rfl, fun suffix => ?_⟩
  exact get?_publishExclusive _ _ _ _ (ne_fileName (by decide) (preparedName_ending _ _) _ _).symm
    (ne_fileName (by decide) (lockName_ending _) _ _).symm

theorem sortedTables_map (shards : List (Table × String × Shard)) :
    (shards.map fun row => (row.1, row.2.1)).map Prod.fst = shards.map Prod.fst := by
  rw [map_map]
  rfl

theorem prepareClose_meets (hash : Hashing) (clock : Clock) (hs : Conserved settings accepted dropped s) :
    MeetsAt (prepareClose hash clock) s fun result t => Conserved settings accepted dropped t ∧
      ∀ resolved, result = .ok resolved → Prepared resolved t := by
  refine meetsAt_requireUnprepared (fun _ => ⟨hs, nofun⟩) fun hclosed _ => ?_
  refine meetsAt_bind (flushAll_meets clock hs) ?_ ?_
  · rintro e t ⟨ht, -⟩
    exact ⟨ht.conserved, nofun⟩
  rintro _ t ⟨ht, hempty, -⟩
  refine meetsAt_read (meetsAt_check_bind (fun _ _ => ⟨ht.conserved, nofun⟩) ?_)
  intro tables htables
  rcases complete_of_validate htables with ⟨run, hrun, rfl⟩
  refine meetsAt_check_bind (fun _ _ => ⟨ht.conserved, nofun⟩) fun completed _ => ?_
  refine meetsAt_check_bind (fun _ _ => ⟨ht.conserved, nofun⟩) fun _ _ => ?_
  refine meetsAt_assign (meetsAt_read (meetsAt_assign ?_))
  -- the state that the checkpoint of the receipt describes
  have hpublishing : Quiet t { t with writer := { t.writer with state := .publishing } } :=
    ⟨rfl, rfl, rfl, rfl, rfl, rfl, rfl, rfl, rfl, rfl, fun _ _ _ => rfl⟩
  have hcheckpoint := (ht.conserved.quiet hpublishing).quiet (quiet_checkpointed clock _)
  refine meetsAt_bind (buildFinalTables_meets hcheckpoint _) ?_ ?_
  · rintro e u ⟨-, herror⟩
    exact ⟨herror e rfl, nofun⟩
  rintro shards u ⟨hreturn, -⟩
  have hu := hreturn shards rfl
  refine (publishReceipt_meets hash shards _ u).mono ?_
  rintro result v ⟨hquiet, hok⟩
  refine ⟨hu.conserved.quiet hquiet, fun resolved hresult => ?_⟩
  rcases hok resolved hresult with ⟨rfl, hwriter, hfiles⟩
  rw [hu.writer] at hwriter
  have hpath : ∀ suffix, v.writer.path suffix = u.writer.path suffix := fun suffix => by
    rw [hwriter, hu.writer]
    rfl
  constructor
  · rw [hwriter]
    exact ht.alike.closed.trans hclosed
  · rw [hwriter]
  · intro table
    rw [hwriter]
    exact hempty rfl table
  · refine ⟨run, ?_, ?_⟩
    · rw [hwriter]
      exact ⟨hrun.record, hrun.single, hrun.satisfies, hrun.counts⟩
    · rw [sortedTables_map, hu.built.tables_eq]
  · intro row hrow
    rcases mem_map.mp hrow with ⟨built, hbuilt, rfl⟩
    rcases hu.built.stored built hbuilt with ⟨hname, hfile⟩
    refine ⟨built.2.2, ?_, fun hgroups => ?_⟩
    · rw [hname] at hfile
      rw [hname, hfiles, hfile]
    · rw [hquiet.durable]
      exact hu.built.rows built hbuilt (by rw [hquiet.rowGroups] at hgroups; exact hgroups)
  · refine ⟨_, _, by rw [hwriter], rfl, ?_⟩
    rw [hpath, hu.writer]
  · refine ⟨{ t.writer with state := WriterState.publishing }.checkpointValue, ?_, ?_⟩
    · rw [hpath, hfiles, hu.others _ ?_, hu.writer]
      · exact (Dict.get?_set ..).trans (if_pos rfl)
      · intro table heq
        rw [hu.writer] at heq
        exact absurd (fileName_injective _ heq) nofun
    · rw [hwriter]
      rfl

theorem prepareClose_leaves (hash : Hashing) (clock : Clock)
    (hs : Conserved settings accepted dropped s) :
    LeavesAt (prepareClose hash clock) s (Conserved settings accepted dropped) :=
  (prepareClose_meets hash clock hs).mono fun _ _ h => h.1

end Session

end Telemetry

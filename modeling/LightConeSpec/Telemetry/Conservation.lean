import Mathlib.Algebra.GroupWithZero.Nat
import LightConeSpec.Telemetry.Closing

/-!
# Rows are conserved

`Conserved` relates a session to the rows that `write` accepted and dropped so far: the
segments of a table followed by its queue hold the accepted rows of the table in order,
and the index holds their identities. A flush moves rows from the queues to new
segments (`flush_meets`), `write` adds one row, drops one or raises (`write_meets`), and
what else the writer does is `Quiet`. A flush of rows that do not fit their schema
raises; where `write` had queued its row before, the row stays in the queue.
-/

namespace Telemetry

open Python List Method

/-! ## Rows of a table -/

def rowsOf (table : Table) (rows : List EvidenceRecord) : List EvidenceRecord :=
  rows.filter fun row => row.table = table

theorem rowsOf_append (table : Table) (rows rows' : List EvidenceRecord) :
    rowsOf table (rows ++ rows') = rowsOf table rows ++ rowsOf table rows' :=
  filter_append ..

theorem rowsOf_self (record : EvidenceRecord) : rowsOf record.table [record] = [record] := by
  simp [rowsOf]

variable {record : EvidenceRecord}

variable {table : Table}

theorem rowsOf_other (h : table ≠ record.table) : rowsOf table [record] = [] := by
  simp [rowsOf, Ne.symm h]

/-- Every row fits the schema of its table. -/
def Fit (rows : List EvidenceRecord) : Prop := ∀ row ∈ rows, row.fits = true

def total (f : Table → ℕ) : ℕ := (Table.all.map f).sum

theorem total_update (f : Table → ℕ) (table : Table) (n : ℕ) :
    total (Function.update f table n) + f table = total f + n := by
  cases table <;> simp [total, Table.all] <;> omega

theorem total_eq_zero {f : Table → ℕ} (h : ∀ table, f table = 0) : total f = 0 := by
  simp [total, Table.all, h]

theorem le_total (f : Table → ℕ) (table : Table) : f table ≤ total f := by
  cases table <;> simp [total, Table.all] <;> omega

/-! ## Names that are no segments -/

theorem not_segment {stem : String} {suffix : Suffix} (h : ∀ table k, suffix ≠ .wal table k)
    (table : Table) : ¬ Matches (segmentStart stem table) ".parquet" (fileName stem suffix) := by
  intro hmatch
  rcases matches_segment.mp hmatch with ⟨k, rfl⟩
  exact h table k rfl

/-- A name with another last character is no segment. -/
theorem not_segment_of_last {stem name : String} {c : Char} (hlast : name.toList.getLast? = some c)
    (hc : c ≠ 't') (table : Table) : ¬ Matches (segmentStart stem table) ".parquet" name := by
  rintro ⟨middle, hname⟩
  rw [hname, getLast?_append] at hlast
  have : some 't' = some c := hlast
  exact hc (by simpa using this.symm)

namespace Session

/-! ## Stored rows -/

def segmentRows (files : Directory) (name : String) : List EvidenceRecord :=
  match files.get? name with
  | some (.parquet shard) => shard.rows
  | _ => []

/-- The rows of the segments of a table, in the order of their numbers. -/
def durable (s : Session) (table : Table) : List EvidenceRecord :=
  (List.range (s.writer.rowGroups table)).flatMap fun k =>
    segmentRows s.files (s.writer.path (.wal table k))

/-- The durable rows of a table, followed by its queue. -/
def stored (s : Session) (table : Table) : List EvidenceRecord :=
  s.durable table ++ s.writer.queues table

/-- What the writer has done with the rows that it was given. -/
structure Conserved (settings : Settings) (accepted dropped : List EvidenceRecord) (s : Session) : Prop where
  /-- The settings are those of the writer. -/
  settings_eq : s.writer.settings = settings
  /-- The bounds are positive. -/
  positive : 0 < s.writer.settings.maxQueuedRows
  /-- The counter is the length of the queues. -/
  queued : s.writer.queuedRows = total fun table => (s.writer.queues table).length
  /-- The queues respect their bound. -/
  bounded : s.writer.queuedRows ≤ s.writer.settings.maxQueuedRows
  /-- The rows of a table are the accepted ones, in order. -/
  rows : ∀ table, s.stored table = rowsOf table accepted
  /-- The durable rows are counted. -/
  counts : ∀ table, s.writer.rowCounts table = (s.durable table).length
  /-- Each numbered segment is there. -/
  written : ∀ table, ∀ k < s.writer.rowGroups table, ∃ shard,
    s.files.get? (s.writer.path (.wal table k)) = some (.parquet shard)
  /-- No other file has the name of a segment. -/
  numbered : ∀ table name file, s.files.get? name = some file →
    Matches (segmentStart s.writer.stem table) ".parquet" name →
      ∃ k < s.writer.rowGroups table, name = s.writer.path (.wal table k)
  /-- The index holds the identities of the accepted rows. -/
  seen : s.writer.seen = accepted.map fun row => (row.table, row.identity)
  /-- Identities are distinct. -/
  distinct : (accepted.map fun row => (row.table, row.identity)).Nodup
  /-- The run record is the last run row. -/
  runRecord : s.writer.runRecord = (accepted.filterMap EvidenceRecord.asRun).getLast?
  /-- Accepted rows are valid. -/
  valid : ∀ row ∈ accepted, row.validate = .ok ()
  /-- Dropped rows are counted by table. -/
  droppedByTable : ∀ table, s.writer.droppedByTable table = (rowsOf table dropped).length
  /-- All dropped rows are counted. -/
  droppedRows : s.writer.droppedRows = dropped.length

/-! ## Quiet steps -/

/-- Neither rows nor segments change. -/
structure Quiet (s t : Session) : Prop where
  settings : t.writer.settings = s.writer.settings
  stem : t.writer.stem = s.writer.stem
  queues : t.writer.queues = s.writer.queues
  queuedRows : t.writer.queuedRows = s.writer.queuedRows
  rowCounts : t.writer.rowCounts = s.writer.rowCounts
  rowGroups : t.writer.rowGroups = s.writer.rowGroups
  seen : t.writer.seen = s.writer.seen
  runRecord : t.writer.runRecord = s.writer.runRecord
  droppedByTable : t.writer.droppedByTable = s.writer.droppedByTable
  droppedRows : t.writer.droppedRows = s.writer.droppedRows
  segments : ∀ table name, Matches (segmentStart s.writer.stem table) ".parquet" name →
    t.files.get? name = s.files.get? name

variable {s t u : Session}

theorem Quiet.refl (s : Session) : Quiet s s :=
  ⟨rfl, rfl, rfl, rfl, rfl, rfl, rfl, rfl, rfl, rfl, fun _ _ _ => rfl⟩

theorem Quiet.trans (h : Quiet s t) (h' : Quiet t u) : Quiet s u where
  settings := h'.settings.trans h.settings
  stem := h'.stem.trans h.stem
  queues := h'.queues.trans h.queues
  queuedRows := h'.queuedRows.trans h.queuedRows
  rowCounts := h'.rowCounts.trans h.rowCounts
  rowGroups := h'.rowGroups.trans h.rowGroups
  seen := h'.seen.trans h.seen
  runRecord := h'.runRecord.trans h.runRecord
  droppedByTable := h'.droppedByTable.trans h.droppedByTable
  droppedRows := h'.droppedRows.trans h.droppedRows
  segments := by
    intro table name hname
    rw [h'.segments table name (by rw [h.stem]; exact hname), h.segments table name hname]

theorem Quiet.path (h : Quiet s t) (suffix : Suffix) : t.writer.path suffix = s.writer.path suffix := by
  unfold EvidenceWriter.path
  rw [h.stem]

/-- The file of a numbered segment. -/
theorem matches_path (s : Session) (table : Table) (k : ℕ) :
    Matches (segmentStart s.writer.stem table) ".parquet" (s.writer.path (.wal table k)) :=
  matches_segment.mpr ⟨k, rfl⟩

theorem Quiet.durable (h : Quiet s t) (table : Table) : t.durable table = s.durable table := by
  unfold Session.durable segmentRows
  rw [h.rowGroups]
  refine flatMap_congr fun k _ => ?_
  rw [h.path, h.segments table _ (matches_path s table k)]

theorem Quiet.stored (h : Quiet s t) (table : Table) : t.stored table = s.stored table := by
  unfold Session.stored
  rw [h.durable, h.queues]

variable {settings : Settings} {accepted dropped : List EvidenceRecord}

/-- A quiet step conserves rows. -/
theorem Conserved.quiet (hs : Conserved settings accepted dropped s) (h : Quiet s t) :
    Conserved settings accepted dropped t where
  settings_eq := h.settings.trans hs.settings_eq
  positive := by
    rw [h.settings]
    exact hs.positive
  queued := by
    rw [h.queuedRows, h.queues]
    exact hs.queued
  bounded := by
    rw [h.queuedRows, h.settings]
    exact hs.bounded
  rows table := by
    rw [h.stored]
    exact hs.rows table
  counts table := by
    rw [h.rowCounts, h.durable]
    exact hs.counts table
  written := by
    intro table k hk
    rw [h.rowGroups] at hk
    rw [h.path, h.segments table _ (matches_path s table k)]
    exact hs.written table k hk
  numbered := by
    intro table name file hfile hname
    rw [h.stem] at hname
    rw [h.segments table name hname] at hfile
    simp only [h.rowGroups, h.path]
    exact hs.numbered table name file hfile hname
  seen := h.seen.trans hs.seen
  distinct := hs.distinct
  runRecord := h.runRecord.trans hs.runRecord
  valid := hs.valid
  droppedByTable table := by
    rw [h.droppedByTable]
    exact hs.droppedByTable table
  droppedRows := h.droppedRows.trans hs.droppedRows

/-- A file whose name is no segment's. -/
theorem quiet_set (name : String) (file : File)
    (hname : ∀ table, ¬ Matches (segmentStart s.writer.stem table) ".parquet" name) :
    Quiet s { s with files := s.files.set name file } where
  settings := rfl
  stem := rfl
  queues := rfl
  queuedRows := rfl
  rowCounts := rfl
  rowGroups := rfl
  seen := rfl
  runRecord := rfl
  droppedByTable := rfl
  droppedRows := rfl
  segments := by
    intro table name' hname'
    change (s.files.set name file).get? name' = _
    rw [Dict.get?_set, if_neg]
    rintro rfl
    exact hname table hname'

variable (clock : Clock)

theorem quiet_checkpointed (s : Session) : Quiet s (checkpointed clock s) := by
  have h := quiet_set (s := s) (s.writer.path .checkpoint)
    (.checkpoint s.writer.checkpointValue) (not_segment nofun)
  exact ⟨rfl, rfl, rfl, rfl, rfl, rfl, rfl, rfl, rfl, rfl, h.segments⟩

/-- What no operation but closing and aborting changes. -/
structure Alike (s t : Session) : Prop where
  settings : t.writer.settings = s.writer.settings
  stem : t.writer.stem = s.writer.stem
  closed : t.writer.closed = s.writer.closed
  indexOpen : t.writer.indexOpen = s.writer.indexOpen
  preparedReceipt : t.writer.preparedReceipt = s.writer.preparedReceipt

theorem Alike.refl (s : Session) : Alike s s := ⟨rfl, rfl, rfl, rfl, rfl⟩

theorem Alike.trans (h : Alike s t) (h' : Alike t u) : Alike s u :=
  ⟨h'.settings.trans h.settings, h'.stem.trans h.stem, h'.closed.trans h.closed,
    h'.indexOpen.trans h.indexOpen, h'.preparedReceipt.trans h.preparedReceipt⟩

/-! ## Flushing -/

/-- The queue of a table became a segment. -/
def drained (clock : Clock) (table : Table) (s : Session) : Session :=
  let t := segmented clock table (s.writer.queues table) s
  { t with writer := t.writer.drain table (s.writer.queues table).length }

/-- The next segment of a table is not there yet. -/
theorem Conserved.fresh (hs : Conserved settings accepted dropped s) (table : Table) :
    s.files.get? (s.writer.path (.wal table (s.writer.rowGroups table))) = none := by
  by_contra hsome
  rcases Option.ne_none_iff_exists'.mp hsome with ⟨file, hfile⟩
  rcases hs.numbered table _ file hfile (matches_path s table _) with ⟨k, hk, heq⟩
  have hwal := fileName_injective _ heq
  simp only [Suffix.wal.injEq, true_and] at hwal
  omega

/-- Queued rows are accepted ones. -/
theorem Conserved.mem_of_queued (hs : Conserved settings accepted dropped s) {row : EvidenceRecord}
    (hrow : row ∈ s.writer.queues table) : row ∈ accepted := by
  have hstored : row ∈ s.stored table := mem_append_right _ hrow
  rw [hs.rows] at hstored
  exact (mem_filter.mp hstored).1

/-- The loop body of `flush`: nothing is queued, the queue becomes a segment, or a queued
row does not fit and nothing changes. -/
theorem flushTable_cases (hs : Conserved settings accepted dropped s) (table : Table) :
    (s.writer.queues table = [] ∧ flushTable clock table s = (.ok 0, s)) ∨
      (flushTable clock table s
        = (.ok (s.writer.queues table).length, drained clock table s)) ∨
      (¬ Fit accepted ∧ ∃ e, flushTable clock table s = (.error e, s)) := by
  unfold flushTable
  rw [read_bind]
  split
  · rename_i hqueue
    exact .inl ⟨hqueue, rfl⟩
  · have hwrite : writeWalSegment clock table (s.writer.queues table) s
        = (check (require ((s.writer.queues table).all EvidenceRecord.fits = true)
            (valueError ("a " ++ table.name ++ " row does not fit its schema"))) >>= fun _ =>
          assign (segmented clock table (s.writer.queues table))) s := by
      unfold writeWalSegment
      rw [read_bind, read_bind, hs.fresh table]
      rfl
    by_cases hfits : (s.writer.queues table).all EvidenceRecord.fits = true
    · rw [require, if_pos hfits] at hwrite
      rw [bind_apply_ok hwrite]
      exact .inr (.inl rfl)
    · rw [require, if_neg hfits] at hwrite
      rw [bind_apply_error hwrite]
      refine .inr (.inr ⟨fun hall => hfits (all_eq_true.mpr fun row hrow => ?_), _, rfl⟩)
      exact hall row (hs.mem_of_queued hrow)

theorem drained_path (table : Table) (s : Session) (suffix : Suffix) :
    (drained clock table s).writer.path suffix = s.writer.path suffix := rfl

theorem drained_files (table : Table) (s : Session) (name : String) :
    (drained clock table s).files.get? name =
      if name = s.writer.path (.wal table (s.writer.rowGroups table)) then
        some (.parquet ⟨table, optionalColumns table, [s.writer.queues table]⟩)
      else s.files.get? name :=
  Dict.get?_set ..

/-- The segments that were there stay as they are. -/
theorem segmentRows_drained (table table' : Table) (s : Session) {k : ℕ}
    (hk : k < s.writer.rowGroups table') :
    segmentRows (drained clock table s).files (s.writer.path (.wal table' k))
      = segmentRows s.files (s.writer.path (.wal table' k)) := by
  unfold segmentRows
  rw [drained_files, if_neg]
  intro heq
  have hwal := fileName_injective _ heq
  simp only [Suffix.wal.injEq] at hwal
  rcases hwal with ⟨rfl, rfl⟩
  omega

theorem durable_drained (table : Table) (s : Session) :
    (drained clock table s).durable table = s.durable table ++ s.writer.queues table := by
  have hgroups : (drained clock table s).writer.rowGroups table = s.writer.rowGroups table + 1 :=
    Function.update_self ..
  unfold durable
  rw [hgroups, range_succ, flatMap_append, flatMap_singleton]
  congr 1
  · refine flatMap_congr fun k hk => ?_
    exact segmentRows_drained clock table table s (mem_range.mp hk)
  · unfold segmentRows
    rw [drained_path, drained_files, if_pos rfl]
    simp [Shard.rows]

theorem durable_drained_other {table' : Table} (h : table' ≠ table) (s : Session) :
    (drained clock table s).durable table' = s.durable table' := by
  have hgroups : (drained clock table s).writer.rowGroups table' = s.writer.rowGroups table' :=
    Function.update_of_ne h ..
  unfold durable
  rw [hgroups]
  refine flatMap_congr fun k hk => ?_
  exact segmentRows_drained clock table table' s (mem_range.mp hk)

theorem queues_drained (table : Table) (s : Session) :
    (drained clock table s).writer.queues table = [] :=
  Function.update_self ..

theorem queues_drained_other {table' : Table} (h : table' ≠ table) (s : Session) :
    (drained clock table s).writer.queues table' = s.writer.queues table' :=
  Function.update_of_ne h ..

theorem stored_drained (table table' : Table) (s : Session) :
    (drained clock table s).stored table' = s.stored table' := by
  unfold stored
  by_cases h : table' = table
  · subst h
    rw [durable_drained, queues_drained, append_nil]
  · rw [durable_drained_other clock h, queues_drained_other clock h]

/-- The queue of a table becomes its next segment. -/
theorem Conserved.drained (hs : Conserved settings accepted dropped s) (table : Table) :
    Conserved settings accepted dropped (drained clock table s) := by
  have hle := le_total (fun table => (s.writer.queues table).length) table
  have hqueued : (s.drained clock table).writer.queuedRows
      = s.writer.queuedRows - (s.writer.queues table).length := rfl
  have htotal : total (fun table' => ((s.drained clock table).writer.queues table').length)
      + (s.writer.queues table).length = total fun table' => (s.writer.queues table').length := by
    have hupdate := total_update (fun table' => (s.writer.queues table').length) table 0
    rw [← Nat.add_zero (total fun table' => (s.writer.queues table').length), ← hupdate]
    congr 2
    funext table'
    by_cases h : table' = table
    · subst h
      rw [queues_drained, Function.update_self]
      rfl
    · rw [queues_drained_other clock h, Function.update_of_ne h]
  constructor
  · exact hs.settings_eq
  · exact hs.positive
  · rw [hqueued, hs.queued]
    omega
  · have := hs.bounded
    change s.writer.queuedRows - (s.writer.queues table).length ≤ s.writer.settings.maxQueuedRows
    omega
  · intro table'
    rw [stored_drained]
    exact hs.rows table'
  · intro table'
    by_cases h : table' = table
    · subst h
      rw [durable_drained, length_append, ← hs.counts table']
      exact Function.update_self ..
    · rw [durable_drained_other clock h, ← hs.counts table']
      exact Function.update_of_ne h ..
  · intro table' k hk
    rw [drained_path, drained_files]
    split
    · exact ⟨_, rfl⟩
    · rename_i hne
      refine hs.written table' k ?_
      by_cases h : table' = table
      · -- the last number is that of the new segment
        subst h
        have hgroups : (s.drained clock table').writer.rowGroups table'
            = s.writer.rowGroups table' + 1 := Function.update_self ..
        have : k ≠ s.writer.rowGroups table' := by
          rintro rfl
          exact hne rfl
        omega
      · have hgroups : (s.drained clock table).writer.rowGroups table'
            = s.writer.rowGroups table' := Function.update_of_ne h ..
        omega
  · intro table' name file hfile hname
    rw [drained_files] at hfile
    split at hfile
    · rename_i heq
      subst heq
      rcases matches_segment.mp hname with ⟨k, hk⟩
      simp only [Suffix.wal.injEq] at hk
      rcases hk with ⟨rfl, -⟩
      refine ⟨s.writer.rowGroups table, ?_, rfl⟩
      have hgroups : (s.drained clock table).writer.rowGroups table
          = s.writer.rowGroups table + 1 := Function.update_self ..
      omega
    · rcases hs.numbered table' name file hfile hname with ⟨k, hk, rfl⟩
      refine ⟨k, ?_, rfl⟩
      by_cases h : table' = table
      · subst h
        have hgroups : (s.drained clock table').writer.rowGroups table'
            = s.writer.rowGroups table' + 1 := Function.update_self ..
        omega
      · have hgroups : (s.drained clock table).writer.rowGroups table'
            = s.writer.rowGroups table' := Function.update_of_ne h ..
        omega
  · exact hs.seen
  · exact hs.distinct
  · exact hs.runRecord
  · exact hs.valid
  · exact hs.droppedByTable
  · exact hs.droppedRows

/-- Conserved rows, and what a flush leaves as it was. -/
structure Flushing (settings : Settings) (accepted dropped : List EvidenceRecord) (s t : Session) : Prop where
  conserved : Conserved settings accepted dropped t
  alike : Alike s t

theorem Flushing.quiet {t u : Session} (h : Flushing settings accepted dropped s t) (hquiet : Quiet t u)
    (halike : Alike t u) : Flushing settings accepted dropped s u :=
  ⟨h.conserved.quiet hquiet, h.alike.trans halike⟩

/-- How a flush ends: it raises only when an accepted row does not fit. -/
structure Flushed (settings : Settings) (accepted dropped : List EvidenceRecord)
    (result : Except Error (List ℕ)) (s t : Session) : Prop where
  flushing : Flushing settings accepted dropped s t
  empty : ∀ counts, result = .ok counts → ∀ table, t.writer.queues table = []
  returns : Fit accepted → ∃ counts, result = .ok counts

/-- The loop of `flush` empties the queues or meets a row that does not fit. -/
theorem flushTables_meets (hs : Conserved settings accepted dropped s) :
    MeetsAt (Method.collect (flushTable clock) Table.all) s fun result t =>
      Flushed settings accepted dropped result s t := by
  refine (meetsAt_collect
    (E := fun _ t => Flushing settings accepted dropped s t ∧ ¬ Fit accepted)
    (I := fun behind _ t => Flushing settings accepted dropped s t ∧
      ∀ table ∈ behind, t.writer.queues table = [])
    [] [] ⟨⟨hs, Alike.refl s⟩, nofun⟩ ?_).mono ?_
  rotate_left
  · rintro (e | counts) t ⟨hreturn, herror⟩
    · rcases herror e rfl with ⟨ht, hfit⟩
      exact ⟨ht, nofun, fun h => absurd h hfit⟩
    · rcases hreturn counts rfl with ⟨ht, hempty⟩
      exact ⟨ht, fun _ _ table => hempty table (by cases table <;> decide), fun _ => ⟨counts, rfl⟩⟩
  · rintro behind counts table t ⟨ht, hempty⟩
    unfold MeetsAt
    rcases flushTable_cases clock ht.conserved table with ⟨hqueue, heq⟩ | heq | ⟨hfit, e, heq⟩
    · rw [heq]
      refine ⟨fun _ _ => ⟨ht, fun table' hmem => ?_⟩, nofun⟩
      rcases mem_append.mp hmem with hbehind | hlast
      · exact hempty table' hbehind
      · rw [mem_singleton.mp hlast]
        exact hqueue
    · rw [heq]
      refine ⟨fun _ _ => ⟨⟨ht.conserved.drained clock table, ?_⟩, fun table' hmem => ?_⟩, nofun⟩
      · exact ht.alike.trans ⟨rfl, rfl, rfl, rfl, rfl⟩
      · by_cases h : table' = table
        · rw [h, queues_drained]
        · rw [queues_drained_other clock h]
          rcases mem_append.mp hmem with hbehind | hlast
          · exact hempty table' hbehind
          · exact absurd (mem_singleton.mp hlast) h
    · -- the segment is refused, and nothing was written
      rw [heq]
      exact ⟨nofun, fun _ _ => ⟨ht, hfit⟩⟩

theorem quiet_countFlush (counts : List ℕ) (s : Session) :
    Quiet s { s with writer := s.writer.countFlush counts } ∧
      Alike s { s with writer := s.writer.countFlush counts } := by
  unfold EvidenceWriter.countFlush
  split
  · exact ⟨⟨rfl, rfl, rfl, rfl, rfl, rfl, rfl, rfl, rfl, rfl, fun _ _ _ => rfl⟩,
      rfl, rfl, rfl, rfl, rfl⟩
  · exact ⟨Quiet.refl s, Alike.refl s⟩

theorem alike_checkpointed (s : Session) : Alike s (checkpointed clock s) :=
  ⟨rfl, rfl, rfl, rfl, rfl⟩

/-- A flush conserves rows. It returns when the writer is open and every row fits, and
the queues are then empty. -/
theorem flush_meets (hs : Conserved settings accepted dropped s) :
    MeetsAt (flush clock) s fun result t => Flushing settings accepted dropped s t ∧
      (∀ counts, result = .ok counts → ∀ table, t.writer.queues table = []) ∧
      (s.writer.closed = false → s.writer.indexOpen = true → Fit accepted →
        ∃ counts, result = .ok counts) := by
  have hstart : Flushing settings accepted dropped s s := ⟨hs, Alike.refl s⟩
  refine meetsAt_requireOpen (fun hclosed => ?_) fun _ => ?_
  · exact ⟨hstart, nofun, fun hopen => absurd (hclosed.symm.trans hopen) nofun⟩
  · refine meetsAt_bind (flushTables_meets clock hs) ?_ ?_
    · rintro e u hu
      refine ⟨hu.flushing, nofun, fun _ _ hfit => ?_⟩
      rcases hu.returns hfit with ⟨counts, ⟨⟩⟩
    · rintro counts u hu
      refine meetsAt_assign ?_
      rcases quiet_countFlush counts u with ⟨hquiet, halike⟩
      have hcount := hu.flushing.quiet hquiet halike
      have hqueues : ∀ table, (u.writer.countFlush counts).queues table = [] := by
        intro table
        rw [hquiet.queues, hu.empty counts rfl]
      refine meetsAt_useIndex (fun hindex => ?_) fun _ => ?_
      · refine ⟨hcount, nofun, fun _ hopen _ => ?_⟩
        rw [← hcount.alike.indexOpen] at hopen
        exact absurd (hindex.symm.trans hopen) nofun
      · refine ⟨hcount.quiet (quiet_checkpointed clock _) (alike_checkpointed clock _), ?_,
          fun _ _ _ => ⟨counts, rfl⟩⟩
        exact fun _ _ => hqueues

/-- The queues are empty, and so is their counter. -/
theorem Conserved.queuedRows_eq_zero (hs : Conserved settings accepted dropped s)
    (h : ∀ table, s.writer.queues table = []) : s.writer.queuedRows = 0 := by
  rw [hs.queued]
  exact total_eq_zero fun table => by rw [h table, length_nil]

/-- `flush_meets` for a call that ignores the counts. -/
theorem flushAll_meets (hs : Conserved settings accepted dropped s) :
    MeetsAt (flushAll clock) s fun result t => Flushing settings accepted dropped s t ∧
      (result = .ok () → ∀ table, t.writer.queues table = []) ∧
      (s.writer.closed = false → s.writer.indexOpen = true → Fit accepted → result = .ok ()) := by
  refine meetsAt_bind (flush_meets clock hs) ?_ ?_
  · rintro e t ⟨ht, -, hreturn⟩
    refine ⟨ht, nofun, fun hclosed hindex hfit => ?_⟩
    rcases hreturn hclosed hindex hfit with ⟨counts, ⟨⟩⟩
  · rintro counts t ⟨ht, hempty, -⟩
    exact ⟨ht, fun _ => hempty counts rfl, fun _ _ _ => rfl⟩

/-! ## Writing -/

/-- The session after a row was registered and queued. -/
def admitted (record : EvidenceRecord) (s : Session) : Session :=
  { s with
    writer := { s.writer with
      seen := s.writer.seen ++ [(record.table, record.identity)] }.enqueue record }

theorem queues_admitted (record : EvidenceRecord) (s : Session) : (admitted record s).writer.queues
      = Function.update s.writer.queues record.table (s.writer.queues record.table ++ [record]) := by
  cases record <;> rfl

theorem runRecord_admitted (record : EvidenceRecord) (s : Session) :
    (admitted record s).writer.runRecord = record.asRun.or s.writer.runRecord := by
  cases record <;> rfl

/-- What admitting a row leaves as it was. -/
theorem admitted_same (record : EvidenceRecord) (s : Session) :
    (admitted record s).writer.settings = s.writer.settings ∧
      (admitted record s).writer.stem = s.writer.stem ∧
      (admitted record s).writer.rowCounts = s.writer.rowCounts ∧
      (admitted record s).writer.rowGroups = s.writer.rowGroups ∧
      (admitted record s).writer.droppedByTable = s.writer.droppedByTable ∧
      (admitted record s).writer.droppedRows = s.writer.droppedRows := by
  cases record <;> exact ⟨rfl, rfl, rfl, rfl, rfl, rfl⟩

theorem alike_admitted (record : EvidenceRecord) (s : Session) : Alike s (admitted record s) := by
  cases record <;> exact ⟨rfl, rfl, rfl, rfl, rfl⟩

theorem path_admitted (record : EvidenceRecord) (s : Session) (suffix : Suffix) :
    (admitted record s).writer.path suffix = s.writer.path suffix := by
  unfold EvidenceWriter.path
  rw [(admitted_same record s).2.1]

theorem durable_admitted (record : EvidenceRecord) (s : Session) (table : Table) :
    (admitted record s).durable table = s.durable table := by
  unfold durable
  rw [(admitted_same record s).2.2.2.1]
  refine flatMap_congr fun k _ => ?_
  rw [path_admitted]
  rfl

theorem stored_admitted (record : EvidenceRecord) (s : Session) (table : Table) :
    (admitted record s).stored table = s.stored table ++ rowsOf table [record] := by
  unfold stored
  rw [durable_admitted, queues_admitted]
  by_cases h : table = record.table
  · subst h
    rw [Function.update_self, rowsOf_self, append_assoc]
  · rw [Function.update_of_ne h, rowsOf_other h, append_nil]

/-- A row with a new identity enters the queue of its table. -/
theorem Conserved.admitted (hs : Conserved settings accepted dropped s)
    (hvalid : record.validate = .ok ()) (hseen : (record.table, record.identity) ∉ s.writer.seen)
    (hroom : s.writer.queuedRows < s.writer.settings.maxQueuedRows) :
    Conserved settings (accepted ++ [record]) dropped (admitted record s) := by
  rcases admitted_same record s with ⟨hsettings, hstem, hcounts, hgroups, hbyTable, hdropped⟩
  have hqueued : (s.admitted record).writer.queuedRows = s.writer.queuedRows + 1 := by
    cases record <;> rfl
  constructor
  · rw [hsettings]
    exact hs.settings_eq
  · rw [hsettings]
    exact hs.positive
  · -- the queue of the table of the row is one longer
    rw [hqueued, hs.queued, queues_admitted]
    have hupdate := total_update (fun table => (s.writer.queues table).length) record.table
      ((s.writer.queues record.table).length + 1)
    have hfun : (fun table => (Function.update s.writer.queues record.table
        (s.writer.queues record.table ++ [record]) table).length)
          = Function.update (fun table => (s.writer.queues table).length) record.table
            ((s.writer.queues record.table).length + 1) := by
      funext table
      by_cases h : table = record.table
      · subst h
        rw [Function.update_self, Function.update_self, length_append]
        rfl
      · rw [Function.update_of_ne h, Function.update_of_ne h]
    rw [hfun]
    omega
  · rw [hqueued, hsettings]
    omega
  · intro table
    rw [stored_admitted, rowsOf_append, hs.rows]
  · intro table
    rw [hcounts, durable_admitted]
    exact hs.counts table
  · intro table k hk
    rw [hgroups] at hk
    rw [path_admitted]
    exact hs.written table k hk
  · intro table name file hfile hname
    rw [hstem] at hname
    simp only [hgroups, path_admitted]
    exact hs.numbered table name file hfile hname
  · have : (s.admitted record).writer.seen
        = s.writer.seen ++ [(record.table, record.identity)] := by
      cases record <;> rfl
    rw [this, hs.seen, map_append]
    rfl
  · rw [map_append, nodup_append]
    refine ⟨hs.distinct, nodup_singleton _, ?_⟩
    intro a ha b hb
    rw [map_singleton, mem_singleton] at hb
    rw [← hs.seen] at ha
    rintro rfl
    rw [hb] at ha
    exact hseen ha
  · rw [runRecord_admitted, hs.runRecord, filterMap_append, getLast?_append]
    cases record <;> rfl
  · intro row hrow
    rcases mem_append.mp hrow with hrow | hrow
    · exact hs.valid row hrow
    · rw [mem_singleton.mp hrow]
      exact hvalid
  · intro table
    rw [hbyTable]
    exact hs.droppedByTable table
  · rw [hdropped]
    exact hs.droppedRows

/-- A dropped row is counted. -/
theorem Conserved.drop (hs : Conserved settings accepted dropped s) (record : EvidenceRecord) :
    Conserved settings accepted (dropped ++ [record])
      { s with writer := s.writer.drop record.table } := by
  refine ⟨hs.settings_eq, hs.positive, hs.queued, hs.bounded, hs.rows, hs.counts, hs.written, hs.numbered, hs.seen,
    hs.distinct, hs.runRecord, hs.valid, ?_, ?_⟩
  · intro table
    rw [rowsOf_append, length_append, ← hs.droppedByTable table]
    change Function.update s.writer.droppedByTable record.table _ table = _
    by_cases h : table = record.table
    · subst h
      rw [Function.update_self, rowsOf_self]
      rfl
    · rw [Function.update_of_ne h, rowsOf_other h]
      rfl
  · rw [length_append, ← hs.droppedRows]
    rfl

/-- A call of `write` raised: it added no row, or it had queued its row and the flush
after that met a row that does not fit. -/
def Raised (settings : Settings) (accepted dropped : List EvidenceRecord) (record : EvidenceRecord)
    (t : Session) : Prop :=
  Conserved settings accepted dropped t ∨
    (Conserved settings (accepted ++ [record]) dropped t ∧ ¬ Fit (accepted ++ [record]))

/-- How a call of `write` with this row ends: it is accepted, dropped under the drop
policy, or the call raises. -/
structure Admits (settings : Settings) (accepted dropped : List EvidenceRecord) (record : EvidenceRecord)
    (result : Except Error Bool) (s t : Session) : Prop where
  alike : Alike s t
  accepts : result = .ok true → Conserved settings (accepted ++ [record]) dropped t
  drops : result = .ok false →
    Conserved settings accepted (dropped ++ [record]) t ∧ s.writer.settings.overflowPolicy = .drop
  raises : ∀ e, result = .error e → Raised settings accepted dropped record t

theorem registerIdentity_meets (s : Session) (record : EvidenceRecord) :
    MeetsAt (registerIdentity record) s fun result t =>
      (result = .ok () ∧ s.writer.indexOpen = true ∧
        (record.table, record.identity) ∉ s.writer.seen ∧
        t = { s with writer := { s.writer with
          seen := s.writer.seen ++ [(record.table, record.identity)] } }) ∨
      ((∃ e, result = .error e) ∧ t = s) := by
  refine meetsAt_useIndex (fun _ => .inr ⟨⟨_, rfl⟩, rfl⟩) fun hopen => ?_
  · refine meetsAt_read (meetsAt_check_bind ?_ ?_)
    · rintro e -
      exact .inr ⟨⟨e, rfl⟩, rfl⟩
    · rintro _ hnew
      exact .inl ⟨rfl, hopen, require_eq_ok.mp hnew, rfl⟩

/-- The end of `write`, with room in the queue. -/
theorem accept_meets (hs : Conserved settings accepted dropped s)
    (hclosed : s.writer.closed = false) (hvalid : record.validate = .ok ())
    (hroom : s.writer.queuedRows < s.writer.settings.maxQueuedRows) :
    MeetsAt (accept clock record) s fun result t =>
      Admits settings accepted dropped record result s t := by
  refine meetsAt_bind (registerIdentity_meets s record) ?_ ?_
  · rintro e t (⟨h, -⟩ | ⟨-, rfl⟩)
    · cases h
    · exact ⟨Alike.refl t, nofun, nofun, fun _ _ => .inl hs⟩
  · rintro _ t (⟨-, hindex, hseen, rfl⟩ | ⟨⟨e, h⟩, -⟩)
    · refine meetsAt_assign ?_
      have hadmitted := hs.admitted hvalid hseen hroom
      have halike := alike_admitted record s
      refine meetsAt_bind (P := fun result t =>
        Flushing settings (accepted ++ [record]) dropped (s.admitted record) t ∧
          (Fit (accepted ++ [record]) → result = .ok ())) ?_ ?_ ?_
      · refine meetsAt_onlyIf (fun _ => ?_) fun _ => ⟨⟨hadmitted, Alike.refl _⟩, fun _ => rfl⟩
        -- the row group is full, and the writer is open: the flush returns if the rows fit
        refine (flushAll_meets clock hadmitted).mono ?_
        rintro result u ⟨hu, -, hreturn⟩
        refine ⟨hu, hreturn ?_ ?_⟩
        · rw [halike.closed, hclosed]
        · rw [halike.indexOpen, hindex]
      · rintro e u ⟨hu, hreturn⟩
        -- the row is in its queue already
        refine ⟨halike.trans hu.alike, nofun, nofun, fun _ _ => .inr ⟨hu.conserved, fun hfit => ?_⟩⟩
        cases hreturn hfit
      · rintro - u ⟨hu, -⟩
        exact ⟨halike.trans hu.alike, fun _ => hu.conserved, nofun, nofun⟩
    · cases h

theorem Admits.trans {t u : Session} {result : Except Error Bool} (halike : Alike s t)
    (h : Admits settings accepted dropped record result t u) :
    Admits settings accepted dropped record result s u where
  alike := halike.trans h.alike
  accepts := h.accepts
  drops hresult := by
    rcases h.drops hresult with ⟨hdrop, hpolicy⟩
    rw [halike.settings] at hpolicy
    exact ⟨hdrop, hpolicy⟩
  raises := h.raises

theorem whenFull_meets (hs : Conserved settings accepted dropped s)
    (hclosed : s.writer.closed = false) (hvalid : record.validate = .ok ()) :
    MeetsAt (whenFull clock record s.writer.settings.overflowPolicy) s fun result t =>
      Admits settings accepted dropped record result s t := by
  cases hpolicy : s.writer.settings.overflowPolicy with
  | drop =>
    refine meetsAt_assign (meetsAt_assign (meetsAt_pure ?_))
    refine ⟨⟨rfl, rfl, rfl, rfl, rfl⟩, nofun, fun _ => ⟨?_, hpolicy⟩, nofun⟩
    exact (hs.drop record).quiet (quiet_checkpointed clock _)
  | backpressure =>
    refine meetsAt_assign ?_
    have hcounted : Quiet s { s with writer := s.writer.countBackpressure 1 } :=
      ⟨rfl, rfl, rfl, rfl, rfl, rfl, rfl, rfl, rfl, rfl, fun _ _ _ => rfl⟩
    have halike : Alike s { s with writer := s.writer.countBackpressure 1 } :=
      ⟨rfl, rfl, rfl, rfl, rfl⟩
    refine meetsAt_bind (flushAll_meets clock (hs.quiet hcounted)) ?_ ?_
    · rintro e t ⟨ht, -⟩
      exact ⟨halike.trans ht.alike, nofun, nofun, fun _ _ => .inl ht.conserved⟩
    · rintro _ t ⟨ht, hempty, -⟩
      have hall := halike.trans ht.alike
      have hzero := ht.conserved.queuedRows_eq_zero (hempty rfl)
      refine (accept_meets clock ht.conserved (by rw [hall.closed, hclosed]) hvalid ?_).mono ?_
      · rw [hzero]
        exact ht.conserved.positive
      · intro result u hu
        exact hu.trans hall

/-- A call of `write` accepts the row, drops it or raises. -/
theorem writeRecord_meets (hs : Conserved settings accepted dropped s)
    (hclosed : s.writer.closed = false) (record : EvidenceRecord) :
    MeetsAt (writeRecord clock record) s fun result t =>
      Admits settings accepted dropped record result s t := by
  refine meetsAt_read (meetsAt_check_bind ?_ ?_)
  · rintro e -
    exact ⟨Alike.refl s, nofun, nofun, fun _ _ => .inl hs⟩
  rintro - -
  refine meetsAt_check_bind ?_ ?_
  · rintro e -
    exact ⟨Alike.refl s, nofun, nofun, fun _ _ => .inl hs⟩
  rintro _ hvalid
  -- the clock is read, which is quiet
  have hread : Quiet s { s with ticks := s.ticks + 1 } :=
    ⟨rfl, rfl, rfl, rfl, rfl, rfl, rfl, rfl, rfl, rfl, fun _ _ _ => rfl⟩
  have halike : Alike s { s with ticks := s.ticks + 1 } := ⟨rfl, rfl, rfl, rfl, rfl⟩
  refine meetsAt_bind (P := fun _ t => t = { s with ticks := s.ticks + 1 }) rfl ?_ ?_
  · rintro e t rfl
    exact ⟨halike, nofun, nofun, fun _ _ => .inl (hs.quiet hread)⟩
  rintro now t rfl
  refine meetsAt_bind (P := fun _ t => Flushing settings accepted dropped s t) ?_ ?_ ?_
  · refine meetsAt_onlyIf (fun _ => ?_) fun _ => ⟨hs.quiet hread, halike⟩
    refine (flushAll_meets clock (hs.quiet hread)).mono ?_
    rintro result u ⟨hu, -⟩
    exact ⟨hu.conserved, halike.trans hu.alike⟩
  · rintro e u hu
    exact ⟨hu.alike, nofun, nofun, fun _ _ => .inl hu.conserved⟩
  rintro - u hu
  have hopen : u.writer.closed = false := by rw [hu.alike.closed, hclosed]
  refine meetsAt_read (meetsAt_read ?_)
  split
  · refine (whenFull_meets clock hu.conserved hopen hvalid).mono ?_
    exact fun result v hv => hv.trans hu.alike
  · rename_i hfull
    have hroom : u.writer.queuedRows < u.writer.settings.maxQueuedRows := by
      rw [decide_eq_true_iff] at hfull
      omega
    refine (accept_meets clock hu.conserved hopen hvalid hroom).mono ?_
    exact fun result v hv => hv.trans hu.alike

/-- How a call of `write` ends. -/
structure Wrote (settings : Settings) (accepted dropped : List EvidenceRecord) (argument : Argument)
    (result : Except Error Bool) (s t : Session) : Prop where
  alike : Alike s t
  accepts : result = .ok true → ∃ record, argument = .record record ∧
    Conserved settings (accepted ++ [record]) dropped t
  drops : result = .ok false → ∃ record, argument = .record record ∧
    Conserved settings accepted (dropped ++ [record]) t ∧ s.writer.settings.overflowPolicy = .drop
  raises : ∀ e, result = .error e → Conserved settings accepted dropped t ∨
    ∃ record, argument = .record record ∧ Raised settings accepted dropped record t

/-- Each end of a call conserves some rows. -/
theorem Wrote.conserved {argument : Argument} {result : Except Error Bool}
    (h : Wrote settings accepted dropped argument result s t) :
    ∃ accepted dropped, Conserved settings accepted dropped t := by
  rcases result with error | written
  · rcases h.raises error rfl with ht | ⟨record, -, ht | ⟨ht, -⟩⟩
    · exact ⟨_, _, ht⟩
    · exact ⟨_, _, ht⟩
    · exact ⟨_, _, ht⟩
  · cases written with
    | true =>
      rcases h.accepts rfl with ⟨record, -, ht⟩
      exact ⟨_, _, ht⟩
    | false =>
      rcases h.drops rfl with ⟨record, -, ht, -⟩
      exact ⟨_, _, ht⟩

/-- Where accepted rows fit, a call that raises adds no row. -/
theorem Wrote.conserved_of_fit {argument : Argument} {error : Error}
    (h : Wrote settings accepted dropped argument (.error error) s t) (hfit : Fit accepted)
    (hargument : argument.Storable) : Conserved settings accepted dropped t := by
  rcases h.raises error rfl with ht | ⟨record, rfl, ht | ⟨ht, hmisfit⟩⟩
  · exact ht
  · exact ht
  · refine absurd (fun row hrow => ?_) hmisfit
    rcases mem_append.mp hrow with hold | hnew
    · exact hfit row hold
    · rw [mem_singleton.mp hnew]
      exact hargument (ht.valid record (mem_append_right _ (mem_singleton_self _)))

theorem write_meets (hs : Conserved settings accepted dropped s) (argument : Argument) :
    MeetsAt (write clock argument) s fun result t =>
      Wrote settings accepted dropped argument result s t := by
  have hraise : ∀ e : Error, Wrote settings accepted dropped argument (.error e) s s := fun e =>
    ⟨Alike.refl s, nofun, nofun, fun _ _ => .inl hs⟩
  refine meetsAt_requireOpen (fun _ => hraise _) fun hopen => ?_
  · cases argument with
    | unsupported type => exact hraise _
    | record record =>
      refine (writeRecord_meets clock hs hopen record).mono ?_
      rintro result u hu
      refine ⟨hu.alike, fun h => ⟨record, rfl, hu.accepts h⟩, fun h => ?_, fun e h => ?_⟩
      · exact ⟨record, rfl, hu.drops h⟩
      · exact .inr ⟨record, rfl, hu.raises e h⟩

end Session

end Telemetry

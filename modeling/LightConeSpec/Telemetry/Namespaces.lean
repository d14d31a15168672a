import LightConeSpec.Telemetry.Confinement

/-!
# Namespaces of evidence

What `loadCompletedEvidence` returns or raises for a run and a rank depends on a few
files: the receipts that it finds by name, the prepared receipt, the budget observation,
and the files that these receipts bind (`load_congr`).

Operations for another run and rank create their own names only (`Created`), and leave
what was in the directory as it was. So they change the result only when the name of
their terminal receipt is found as one of the receipts, or when a receipt binds a missing
file whose name they create (`load_unchanged`).
-/

namespace Telemetry

open Python List

/-! ## What loading depends on -/

variable {name : String} {receipt : Receipt}

variable {ending runId : String} {resolved : Resolved}

section

variable {hash : Hashing} {files files' : Directory}

theorem readReceipt_congr (h : files.get? name = files'.get? name) :
    readReceipt files name = readReceipt files' name := by
  unfold readReceipt
  rw [h]

theorem get?_of_readReceipt {canonical : Bool}
    (h : readReceipt files name = .ok (receipt, canonical)) :
    files.get? name = some (.receipt receipt canonical) := by
  unfold readReceipt at h
  split at h
  · rename_i hfile
    cases h
    exact hfile
  · cases h
  · cases h

theorem readShard_congr {receiptName sha256 : String} {size : ℕ}
    (h : files.get? name = files'.get? name) : readShard hash files receiptName name sha256 size
      = readShard hash files' receiptName name sha256 size := by
  unfold readShard
  rw [h]

theorem validateNativeBinding_congr {binding : NativeBinding} {runId : String} {rank : ℕ}
    {expectedStem : String} (h : files.get? binding.path = files'.get? binding.path) :
    validateNativeBinding hash files binding runId rank expectedStem
      = validateNativeBinding hash files' binding runId rank expectedStem := by
  unfold validateNativeBinding
  rw [h]

theorem resolveEntry_congr {row : Table × FileEntry}
    (h : files.get? row.2.name = files'.get? row.2.name) :
    resolveEntry hash files name receipt row = resolveEntry hash files' name receipt row := by
  unfold resolveEntry
  simp only [readShard_congr h]

def AgreeOn (receipt : Receipt) (files files' : Directory) : Prop :=
  ∀ name ∈ boundNames receipt, files.get? name = files'.get? name

theorem checkNativeBinding_congr {shard : Shard} {run : RunRecord} {runId : String} {rank : ℕ}
    (h : AgreeOn receipt files files') :
    checkNativeBinding hash files name receipt shard run runId rank
      = checkNativeBinding hash files' name receipt shard run runId rank := by
  unfold checkNativeBinding
  split
  · split
    · cases run.nativeBinding with
      | none => rfl
      | some binding =>
        by_cases hbinding : receipt.nativeTerminalArtifact = some binding
        · have hpath : binding.path ∈ boundNames receipt := by
            unfold boundNames
            rw [hbinding]
            simp
          simp only [validateNativeBinding_congr (h _ hpath)]
        · -- another binding is refused before its file is read
          simp only [require, if_neg hbinding]
          rfl
    · rfl
  · rfl

theorem checkCheckpoint_congr (h : AgreeOn receipt files files') :
    checkCheckpoint hash files name receipt = checkCheckpoint hash files' name receipt := by
  unfold checkCheckpoint
  cases hcheckpoint : receipt.checkpoint with
  | none => rfl
  | some binding =>
    have hname : binding.name ∈ boundNames receipt := by
      unfold boundNames
      rw [hcheckpoint]
      simp
    simp only [h _ hname]

theorem checkSchema3_congr {shard : Shard} {run : RunRecord} {runId : String} {rank : ℕ}
    {expected : List Table} {shards : List (Table × String × Shard)}
    (h : AgreeOn receipt files files') :
    checkSchema3 hash files name receipt shard run runId rank expected shards
      = checkSchema3 hash files' name receipt shard run runId rank expected shards := by
  unfold checkSchema3
  rw [checkNativeBinding_congr h, checkCheckpoint_congr h]

/-- A receipt is loaded the same where it and what it binds are the same. -/
theorem loadReceipt_congr {runId : String} {rank : ℕ} (hname : files.get? name = files'.get? name)
    (hbound : ∀ receipt canonical, files.get? name = some (.receipt receipt canonical) →
      AgreeOn receipt files files') :
    loadReceipt hash files name runId rank = loadReceipt hash files' name runId rank := by
  unfold loadReceipt
  rw [← readReceipt_congr hname]
  cases hread : readReceipt files name with
  | error e => rfl
  | ok read =>
    have hagree : AgreeOn read.1 files files' :=
      hbound read.1 read.2 (get?_of_readReceipt hread)
    have hentries : read.1.files.map (resolveEntry hash files name read.1)
        = read.1.files.map (resolveEntry hash files' name read.1) := by
      refine map_congr_left fun row hrow => resolveEntry_congr (hagree _ ?_)
      unfold boundNames
      exact mem_append_left _ (mem_append_right _ (mem_map.mpr ⟨row, hrow, rfl⟩))
    simp only [bind, Except.bind, hentries, checkSchema3_congr hagree]

/-- The shards that a receipt resolves to are those that it binds. -/
theorem resolveEntries_names {rows : List (Table × FileEntry)}
    {shards : List (Table × String × Shard)}
    (h : collect (rows.map (resolveEntry hash files name receipt)) = .ok shards) :
    shards.map (fun row => row.2.1) = rows.map fun row => row.2.name := by
  rw [collect_eq_ok] at h
  induction rows generalizing shards with
  | nil =>
    rw [map_nil, eq_comm, map_eq_nil_iff] at h
    rw [h]
    rfl
  | cons row rows ih =>
    cases shards with
    | nil => cases h
    | cons shard shards =>
      rw [map_cons, map_cons] at h
      rcases List.cons.inj h with ⟨hhead, htail⟩
      unfold resolveEntry at hhead
      simp only [bind_eq_ok, check_eq_ok, pure_eq_ok] at hhead
      rcases hhead with ⟨-, content, -, -, rfl⟩
      rw [map_cons, map_cons, ih htail]

theorem loadReceipt_names {runId : String} {rank : ℕ}
    (h : loadReceipt hash files name runId rank = .ok resolved) :
    ∃ receipt canonical, readReceipt files name = .ok (receipt, canonical) ∧
      receipt.runId = runId ∧ receipt.rank = rank ∧
      resolved.map Prod.snd = receipt.files.map fun row => row.2.name := by
  unfold loadReceipt at h
  rw [bind_eq_ok] at h
  rcases h with ⟨⟨receipt, canonical⟩, hread, h⟩
  simp only [bind_eq_ok, check_eq_ok] at h
  rcases h with ⟨hidentity, -, -, shards, hshards, -, shard, -, -, run, -, -, -, h⟩
  have hresolved : resolved = shards.map fun row => (row.1, row.2.1) := by
    split at h
    · simp only [bind_eq_ok, check_eq_ok, pure_eq_ok] at h
      rcases h with ⟨_, -, _, -, -, requests, -, _, -, rfl⟩
      rfl
    · simp only [bind_eq_ok, pure_eq_ok] at h
      rcases h with ⟨_, -, rfl⟩
      rfl
  refine ⟨receipt, canonical, hread, hidentity.2.1, hidentity.2.2, ?_⟩
  rw [hresolved, map_map, ← resolveEntries_names hshards]
  rfl

theorem runCompletionBinding_congr (h : ∀ row ∈ resolved, files.get? row.2 = files'.get? row.2) :
    runCompletionBinding files resolved = runCompletionBinding files' resolved := by
  unfold runCompletionBinding
  cases hrow : resolved.lookup .run with
  | none => rfl
  | some name =>
    have hmem : (Table.run, name) ∈ resolved := by
      rw [lookup_eq_some_iff] at hrow
      rcases hrow with ⟨before, after, rfl, -⟩
      simp
    simp only [Option.bind_some, h _ hmem]

theorem validateObservation_congr {runId : String} {rank : ℕ}
    {experimentBudgetSha256 terminalEvidenceSha256 : String}
    (hobservation : files.get? (observationName runId rank) = files'.get? (observationName runId rank))
    (hsidecar : files.get? (sidecarName runId rank) = files'.get? (sidecarName runId rank)) :
    validateObservation hash files runId rank experimentBudgetSha256 terminalEvidenceSha256
      = validateObservation hash files' runId rank experimentBudgetSha256 terminalEvidenceSha256 := by
  unfold validateObservation
  rw [hobservation, hsidecar]

/-- What two directories have in common when they hold the same evidence of a run and a
rank. -/
structure Agree (runId : String) (rank : ℕ) (files files' : Directory) : Prop where
  found : receiptNames files runId rank = receiptNames files' runId rank
  observation : files.get? (observationName runId rank) = files'.get? (observationName runId rank)
  sidecar : files.get? (sidecarName runId rank) = files'.get? (sidecarName runId rank)
  receipts : ∀ name ∈ preparedName runId rank :: receiptNames files runId rank,
    files.get? name = files'.get? name ∧
      ∀ receipt canonical, files.get? name = some (.receipt receipt canonical) →
        AgreeOn receipt files files'

variable {runId : String} {rank : ℕ}

section

variable (h : Agree runId rank files files')

include h

theorem Agree.loadReceipt
    (hname : name ∈ preparedName runId rank :: receiptNames files runId rank) :
    loadReceipt hash files name runId rank = loadReceipt hash files' name runId rank :=
  loadReceipt_congr (h.receipts name hname).1 (h.receipts name hname).2

theorem Agree.validateTerminalBinding {terminal : Receipt} {experimentBudgetSha256 : String} :
    validateTerminalBinding hash files runId rank terminal resolved experimentBudgetSha256
      = validateTerminalBinding hash files' runId rank terminal resolved experimentBudgetSha256 := by
  have hprepared := h.receipts (preparedName runId rank) mem_cons_self
  unfold Telemetry.validateTerminalBinding
  simp only [hprepared.1, readReceipt_congr hprepared.1, h.loadReceipt mem_cons_self,
    validateObservation_congr h.observation h.sidecar]

theorem Agree.loadOne (hname : name ∈ receiptNames files runId rank) :
    loadOne hash files runId rank name = loadOne hash files' runId rank name := by
  have hmem : name ∈ preparedName runId rank :: receiptNames files runId rank :=
    mem_cons_of_mem _ hname
  have hfile := h.receipts name hmem
  unfold Telemetry.loadOne
  rw [← h.loadReceipt hmem, ← readReceipt_congr hfile.1]
  cases hload : Telemetry.loadReceipt hash files name runId rank with
  | error e => rfl
  | ok resolved =>
    rcases loadReceipt_names hload with ⟨receipt, canonical, hread, -, -, hnames⟩
    have hbound : ∀ row ∈ resolved, files.get? row.2 = files'.get? row.2 := by
      intro row hrow
      refine hfile.2 receipt canonical (get?_of_readReceipt hread) _ ?_
      have hmem' : row.2 ∈ resolved.map Prod.snd := mem_map.mpr ⟨row, hrow, rfl⟩
      rw [hnames] at hmem'
      exact mem_append_left _ (mem_append_right _ hmem')
    simp only [bind, Except.bind, runCompletionBinding_congr hbound, h.validateTerminalBinding]

/-- Directories that agree have the same completed evidence. -/
theorem load_congr :
    loadCompletedEvidence hash files runId rank = loadCompletedEvidence hash files' runId rank := by
  have hmap : (receiptNames files runId rank).map (loadOne hash files runId rank)
      = (receiptNames files' runId rank).map (loadOne hash files' runId rank) := by
    rw [← h.found]
    exact map_congr_left fun name hname => h.loadOne hname
  unfold loadCompletedEvidence
  rw [hmap]

end

end

/-! ## Names that operations create -/

/-- A file of an attempt of this run and rank, or one of its receipts. -/
def OwnName (runId : String) (rank : ℕ) (name : String) : Prop :=
  (∃ settings : Settings, settings.runId = runId ∧ settings.rank = rank ∧
      ∃ suffix, name = fileName (Session.attemptStem settings) suffix) ∨
    name = preparedName runId rank ∨ name = completeName runId rank

def Created (runId : String) (rank : ℕ) (name : String) : Prop :=
  OwnName runId rank name ∨ ∃ other, OwnName runId rank other ∧ name = lockName other

variable {rank : ℕ} {runId' : String}

/-- A name with the ending of a receipt or an observation is created only as the receipt. -/
theorem not_created {ending : String} (hending : ending ∈ endings.take 4)
    (h : ending.toList <:+ name.toList)
    (hprepared : ending = ".prepared.json" → name ≠ preparedName runId rank)
    (hcomplete : ending = ".complete.json" → name ≠ completeName runId rank) :
    ¬ Created runId rank name := by
  have hmem : ending ∈ endings := mem_of_mem_take hending
  rintro ((⟨settings, -, -, suffix, rfl⟩ | rfl | rfl) | ⟨other, -, rfl⟩)
  · exact ne_fileName (take_subset_take_left _ (by decide) hending) h _ suffix rfl
  · exact hprepared (ending_unique hmem (by decide) h (preparedName_ending _ _)) rfl
  · exact hcomplete (ending_unique hmem (by decide) h (completeName_ending _ _)) rfl
  · rw [ending_unique hmem (by decide) h (lockName_ending _)] at hending
    exact absurd hending (by decide)

/-- Receipts have the names of their run and rank. -/
theorem completeName_injective {rank' : ℕ}
    (h : completeName runId rank = completeName runId' rank') : runId = runId' ∧ rank = rank' := by
  have hlist := congrArg String.toList h
  unfold completeName at hlist
  rw [String.toList_append, String.toList_append] at hlist
  exact runStem_injective (String.toList_injective (append_cancel_right hlist))

theorem preparedName_injective {rank' : ℕ}
    (h : preparedName runId rank = preparedName runId' rank') : runId = runId' ∧ rank = rank' := by
  have hlist := congrArg String.toList h
  unfold preparedName at hlist
  rw [String.toList_append, String.toList_append] at hlist
  exact runStem_injective (String.toList_injective (append_cancel_right hlist))

/-- The glob for a run and a rank finds the terminal receipt of a run whose id begins with
`{run_id}.rank{rank}.pid`. -/
theorem captures_iff {rank' : ℕ} :
    Matches (runStem runId rank ++ ".pid") ".complete.json" (completeName runId' rank') ↔
      (runStem runId rank ++ ".pid").toList <+: runId'.toList := by
  rw [← pid_isPrefix_iff rank']
  constructor
  · rintro ⟨middle, hname⟩
    unfold completeName at hname
    rw [String.toList_append] at hname
    exact ⟨middle, (append_cancel_right hname).symm⟩
  · rintro ⟨middle, hmiddle⟩
    refine ⟨middle, ?_⟩
    unfold completeName
    rw [String.toList_append, hmiddle]

section

variable {runId runId' : String} {rank rank' : ℕ}

theorem not_created_complete (hne : (runId, rank) ≠ (runId', rank')) :
    ¬ Created runId' rank' (completeName runId rank) := by
  refine not_created (by decide) (completeName_ending _ _) (fun h => absurd h (by decide))
    fun _ h => hne ?_
  rw [Prod.mk.injEq]
  exact completeName_injective h

theorem not_created_prepared (hne : (runId, rank) ≠ (runId', rank')) :
    ¬ Created runId' rank' (preparedName runId rank) := by
  refine not_created (by decide) (preparedName_ending _ _) (fun _ h => hne ?_)
    fun h => absurd h (by decide)
  rw [Prod.mk.injEq]
  exact preparedName_injective h

theorem not_created_observation : ¬ Created runId' rank' (observationName runId rank) :=
  not_created (by decide : "/observation.json" ∈ _) ⟨_, (String.toList_append ..).symm⟩
    (fun h => absurd h (by decide)) fun h => absurd h (by decide)

theorem not_created_sidecar : ¬ Created runId' rank' (sidecarName runId rank) :=
  not_created (by decide : "/observation.json.sha256" ∈ _) ⟨_, (String.toList_append ..).symm⟩
    (fun h => absurd h (by decide)) fun h => absurd h (by decide)

/-- Of the names that are created, the glob finds the terminal receipt only. -/
theorem not_created_found (hfree : ¬ (runStem runId rank ++ ".pid").toList <+: runId'.toList)
    {name : String} (hname : Matches (runStem runId rank ++ ".pid") ".complete.json" name) :
    ¬ Created runId' rank' name := by
  refine not_created (by decide) (matches_iff.mp hname).2.1 (fun h => absurd h (by decide)) ?_
  rintro _ rfl
  exact hfree (captures_iff.mp hname)

end

end Telemetry

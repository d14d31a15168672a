import LightConeSpec.RollingArchive.Eviction

/-!
# What an eviction reads and reports

The paths that an eviction is about (`Watched`) and where they lie: the planned files are
below the candidate root, and everything that the executor publishes is outside of it
(`Layout`). `Accounts` is the specification of a receipt: it lists the files with a
durable progress record, and the absent files without one.
-/

namespace RollingArchive

open FileSystem Program Python List

variable {Sha : Type} [DecidableEq Sha]

/-! ## Names -/

theorem ne_of_getLast?_ne {a b : String} (h : a.toList.getLast? ≠ b.toList.getLast?) : a ≠ b := by
  rintro rfl
  exact h rfl

/-- The name of a temporary is not the name of a progress record. -/
theorem partial_ne_progressName (name uuid : String) (index : ℕ) :
    "." ++ name ++ "." ++ uuid ++ ".partial" ≠ progressName index := by
  refine ne_of_getLast?_ne ?_
  unfold progressName
  rw [String.toList_append, String.toList_append (s := Telemetry.sequenceText index)]
  rw [getLast?_append_of_ne_nil _ (by decide), getLast?_append_of_ne_nil _ (by decide)]
  decide

theorem progressName_injective : Function.Injective progressName := by
  intro i j h
  unfold progressName at h
  have hlist := congrArg String.toList h
  rw [String.toList_append, String.toList_append] at hlist
  exact Telemetry.sequenceText_injective (String.toList_injective (append_cancel_right hlist))

variable {path : Path} {receipt : RemoteEvictionReceipt Sha}

theorem dropLast_append_fileName (h : path ≠ []) : path.dropLast ++ [fileName path] = path := by
  unfold fileName
  rw [getLast?_eq_some_getLast h, Option.getD_some]
  exact dropLast_append_getLast h

/-- A longer name makes another path. -/
theorem withName_ne {name : String} (h : path ≠ [])
    (hlength : (fileName path).length < name.length) : withName path name ≠ path := by
  intro heq
  have hpath := dropLast_append_fileName h
  rw [← hpath] at heq
  unfold withName at heq
  rw [dropLast_concat] at heq
  have hname := (append_inj' heq rfl).2
  rw [List.cons.injEq] at hname
  rw [hname.1] at hlength
  exact absurd hlength (lt_irrefl _)

/-- A path below a root is not in a directory outside of the root. -/
theorem below_ne_of_outside {root relative directory : Path} {name : String}
    (hdirectory : ¬ root <+: directory) (hrelative : relative ≠ []) :
    root ++ relative ≠ directory ++ [name] := by
  intro heq
  refine hdirectory ⟨relative.dropLast, ?_⟩
  have hdrop := congrArg List.dropLast heq
  rw [dropLast_concat, dropLast_append_of_ne_nil hrelative] at hdrop
  exact hdrop

/-- A path below a root is not on the way to a directory outside of the root. -/
theorem below_ne_of_prefix {root relative directory : Path} (hdirectory : ¬ root <+: directory)
    (hpath : path <+: directory) : root ++ relative ≠ path := by
  rintro rfl
  exact hdirectory ((prefix_append root relative).trans hpath)

/-! ## The layout of an eviction -/

/-- Where the files of an eviction lie. -/
structure Layout (paths : EvictionPaths) (plan : RemoteEvictionPlan Sha) : Prop where
  plan_outside : ¬ plan.archiveCandidateRoot <+: paths.plan
  receipt_ne_nil : paths.receipt ≠ []
  receipt_outside : ¬ plan.archiveCandidateRoot <+: paths.receipt
  progress_outside : ¬ plan.archiveCandidateRoot <+: progressRoot paths.receipt
  member : ∀ binding ∈ plan.files,
    plan.archiveCandidateRoot ++ binding.archiveRelativePath = binding.absolutePath
  relative : ∀ binding ∈ plan.files, binding.archiveRelativePath ≠ []
  distinct : (plan.files.map (·.absolutePath)).Nodup

theorem nodup_sortedPaths (paths : List Path) : (sortedPaths paths).Nodup :=
  (sortedBy_perm pathText paths.dedup).nodup_iff.mpr (nodup_dedup paths)

variable {hash : Hashing Sha} {paths : EvictionPaths} {plan : RemoteEvictionPlan Sha}
  {fs fs' : Tree Sha}

omit [DecidableEq Sha] in
/-- A plan that was constructed. -/
theorem postInit_plan (h : plan.postInit fs = .ok ()) :
    (∀ binding ∈ plan.files, binding.archiveRelativePath ≠ []) ∧
      (plan.files.map (·.absolutePath)).Nodup ∧ ∀ binding ∈ plan.files,
        plan.archiveCandidateRoot ++ binding.archiveRelativePath = binding.absolutePath := by
  unfold RemoteEvictionPlan.postInit requirePositiveInt at h
  simp only [bind_eq_ok, ensure_eq_ok, forEachRecord_eq_ok, absoluteNormalized_eq_ok,
    exists_const] at h
  rcases h with ⟨hfiles, _, _, _, _, _, _, _, _, _, _, ⟨_, hsorted, _, _⟩, hmember⟩
  refine ⟨?_, ?_, hmember⟩
  · intro binding hbinding
    have hrow := hfiles binding hbinding
    unfold EvictionFileBinding.postInit checkRelative requirePositiveInt at hrow
    simp only [bind_eq_ok, ensure_eq_ok, absoluteNormalized_eq_ok, exists_const] at hrow
    rcases hrow with ⟨_, hsafe, _⟩
    unfold isSafeRelative at hsafe
    simp only [Bool.and_eq_true, decide_eq_true_eq] at hsafe
    exact hsafe.1.1
  · rw [hsorted]
    exact nodup_sortedPaths _

/-! ## Checks that stay true -/

section

variable {W : Path → Prop} {path : Path} {label : String}

omit [DecidableEq Sha]

theorem existingFile_eq_ok : existingFile fs path label = .ok () ↔
    fs.isNormalized path = true ∧ ∃ i, fs.node? path = some (.file i) := by
  unfold existingFile
  simp only [bind_eq_ok, ensure_eq_ok, absoluteNormalized_eq_ok, exists_const]
  refine and_congr_right fun _ => ?_
  rw [Option.isSome_iff_exists]
  simp only [Files.inode?_eq_some]
  constructor
  · exact fun h => h.2
  · rintro ⟨i, hi⟩
    exact ⟨Files.lexists_iff.mpr ⟨_, hi⟩, i, hi⟩

theorem outsideCandidate_eq_ok {candidate : Path} : outsideCandidate fs path candidate label = .ok () ↔
    fs.isNormalized path = true ∧ ¬ candidate <+: path := by
  unfold outsideCandidate isRelativeTo
  simp only [bind_eq_ok, ensure_eq_ok, absoluteNormalized_eq_ok, exists_const,
    decide_eq_false_iff_not]

theorem existingFile_mono (h : existingFile fs path label = .ok ()) (hagrees : Files.Agrees W fs fs')
    (hpath : W path) : existingFile fs' path label = .ok () := by
  rw [existingFile_eq_ok] at h ⊢
  rcases h with ⟨hnormal, i, hi⟩
  refine ⟨hagrees.isNormalized hnormal, i, ?_⟩
  rw [hagrees.node path hpath]
  exact hi

theorem outsideCandidate_mono {candidate : Path} (h : outsideCandidate fs path candidate label = .ok ())
    (hagrees : Files.Agrees W fs fs') : outsideCandidate fs' path candidate label = .ok () := by
  rw [outsideCandidate_eq_ok] at h ⊢
  exact ⟨hagrees.isNormalized h.1, h.2⟩

/-- The document that a file holds. -/
theorem readCanonicalObject_eq_some {document : Document Sha} :
    readCanonicalObject fs path label = .ok (some document) ↔
      existingFile fs path label = .ok () ∧ fs.read? path = some (.document document) := by
  unfold readCanonicalObject
  rw [then_eq_ok]
  refine and_congr_right fun _ => ?_
  cases hread : fs.read? path with
  | none => simp
  | some body => cases body <;> simp [pure, Except.pure]

theorem readCanonicalObject_mono {document : Document Sha}
    (h : readCanonicalObject fs path label = .ok (some document)) (hagrees : Files.Agrees W fs fs')
    (hpath : W path) : readCanonicalObject fs' path label = .ok (some document) := by
  rw [readCanonicalObject_eq_some] at h ⊢
  refine ⟨existingFile_mono h.1 hagrees hpath, ?_⟩
  rw [hagrees.read path hpath]
  exact h.2

theorem postInit_plan_mono (h : plan.postInit fs = .ok ()) (hagrees : Files.Agrees W fs fs') :
    plan.postInit fs' = .ok () := by
  unfold RemoteEvictionPlan.postInit EvictionFileBinding.postInit requirePositiveInt at h ⊢
  simp only [bind_eq_ok, ensure_eq_ok, forEachRecord_eq_ok, absoluteNormalized_eq_ok,
    exists_const] at h ⊢
  rcases h with ⟨hfiles, hid, hrun, hcandidate, hlies, hmanifest, hname, hretained, hrest⟩
  refine ⟨?_, hid, hagrees.isNormalized hrun, hagrees.isNormalized hcandidate, hlies,
    hagrees.isNormalized hmanifest, hname, hagrees.isNormalized hretained, hrest⟩
  intro binding hbinding
  rcases hfiles binding hbinding with ⟨hnormal, hrow⟩
  exact ⟨hagrees.isNormalized hnormal, hrow⟩

structure PlanPaths (fs : Tree Sha) (plan : RemoteEvictionPlan Sha) : Prop where
  candidate : fs.isNormalized plan.archiveCandidateRoot = true
  manifest : fs.isNormalized (plan.archiveCandidateRoot ++ [archiveManifestName]) = true
  files : ∀ binding ∈ plan.files, fs.isNormalized binding.absolutePath = true ∧
    isSafeRelative binding.archiveRelativePath = true
  archiveId : plan.archiveId ≠ ""
  relatives : (plan.files.map (·.archiveRelativePath)).Nodup
  sorted : plan.files.map (·.absolutePath) = sortedPaths (plan.files.map (·.absolutePath))

theorem planPaths_of_postInit (h : plan.postInit fs = .ok ()) : PlanPaths fs plan := by
  unfold RemoteEvictionPlan.postInit EvictionFileBinding.postInit checkRelative at h
  simp only [then_eq_ok, ensure_eq_ok, forEachRecord_eq_ok, absoluteNormalized_eq_ok] at h
  rcases h with ⟨hfiles, ⟨-, hid⟩, -, hcandidate, -, hmanifest, hname, -, -, -, -,
    ⟨-, hsorted, hrelatives, -⟩, -⟩
  rw [hname] at hmanifest
  exact ⟨hcandidate, hmanifest, fun binding hbinding =>
    ⟨(hfiles binding hbinding).1, (hfiles binding hbinding).2.1⟩, hid, hrelatives, hsorted⟩

theorem postInit_receipt_mono (h : receipt.postInit fs = .ok ()) (hagrees : Files.Agrees W fs fs') :
    receipt.postInit fs' = .ok () := by
  unfold RemoteEvictionReceipt.postInit EvictedFileReceipt.postInit requirePositiveInt at h ⊢
  simp only [bind_eq_ok, ensure_eq_ok, forEachRecord_eq_ok, absoluteNormalized_eq_ok,
    exists_const] at h ⊢
  rcases h with ⟨hfiles, hid, htime, hcoverage, hmissing, hstatus⟩
  refine ⟨?_, hid, htime, hcoverage, fun p hp => hagrees.isNormalized (hmissing p hp), ?_⟩
  · intro row hrow
    rcases hfiles row hrow with ⟨hnormal, hrest⟩
    exact ⟨hagrees.isNormalized hnormal, hrest⟩
  · unfold RemoteEvictionReceipt.checkStatus at hstatus ⊢
    cases hs : receipt.status with
    | complete =>
      rw [hs] at hstatus
      exact hstatus
    | failedZero =>
      rw [hs] at hstatus
      simp only [bind_eq_ok, ensure_eq_ok, forEachRecord_eq_ok, absoluteNormalized_eq_ok,
        exists_const] at hstatus ⊢
      exact ⟨hstatus.1, fun p hp => hagrees.isNormalized (hstatus.2 p hp)⟩
    | failedPartial =>
      rw [hs] at hstatus
      simp only [bind_eq_ok, ensure_eq_ok, forEachRecord_eq_ok, absoluteNormalized_eq_ok,
        exists_const] at hstatus ⊢
      exact ⟨hstatus.1, fun p hp => hagrees.isNormalized (hstatus.2 p hp)⟩

theorem missing_of_complete (h : receipt.postInit fs = .ok ())
    (hstatus : receipt.status = .complete) : receipt.missingUnrecordedFiles = [] := by
  unfold RemoteEvictionReceipt.postInit RemoteEvictionReceipt.checkStatus at h
  rw [hstatus] at h
  simp only [then_eq_ok, ensure_eq_ok] at h
  rcases h with ⟨-, -, -, -, -, hcomplete⟩
  exact hcomplete.2.2.1

theorem loadRemoteEvictionPlan_eq_ok : loadRemoteEvictionPlan fs path = .ok plan ↔
    readCanonicalObject fs path "remote eviction plan" = .ok (some (.plan plan)) ∧
      plan.postInit fs = .ok () := by
  unfold loadRemoteEvictionPlan
  constructor
  · intro h
    rcases bind_eq_ok.mp h with ⟨document, hread, h⟩
    split at h
    · rcases bind_eq_ok.mp h with ⟨_, hinit, h⟩
      cases h
      exact ⟨hread, hinit⟩
    · cases h
  · rintro ⟨hread, hinit⟩
    exact bind_eq_ok.mpr ⟨_, hread, bind_eq_ok.mpr ⟨_, hinit, rfl⟩⟩

theorem loadRemoteEvictionReceipt_eq_ok : loadRemoteEvictionReceipt fs path = .ok receipt ↔
      readCanonicalObject fs path "remote eviction receipt" = .ok (some (.evictionReceipt receipt)) ∧
        receipt.postInit fs = .ok () := by
  unfold loadRemoteEvictionReceipt
  constructor
  · intro h
    rcases bind_eq_ok.mp h with ⟨document, hread, h⟩
    split at h
    · rcases bind_eq_ok.mp h with ⟨_, hinit, h⟩
      cases h
      exact ⟨hread, hinit⟩
    · cases h
  · rintro ⟨hread, hinit⟩
    exact bind_eq_ok.mpr ⟨_, hread, bind_eq_ok.mpr ⟨_, hinit, rfl⟩⟩

/-- A plan that a call has opened, and where it lies. -/
theorem openPlan_eq_ok : openPlan fs paths = .ok plan ↔
    loadRemoteEvictionPlan fs paths.plan = .ok plan ∧
      existingFile fs paths.plan "published remote eviction plan" = .ok () ∧
      outsideCandidate fs paths.plan plan.archiveCandidateRoot "plan" = .ok () ∧
      outsideCandidate fs paths.receipt plan.archiveCandidateRoot "eviction receipt" = .ok () ∧
      paths.receipt ≠ [] ∧
      outsideCandidate fs (progressRoot paths.receipt) plan.archiveCandidateRoot
        "eviction progress" = .ok () ∧
      outsideCandidate fs paths.lock plan.archiveCandidateRoot "eviction executor lock" = .ok () := by
  unfold openPlan
  rw [then_eq_ok, bind_eq_ok]
  simp only [then_eq_ok, ensure_eq_ok, pure_eq_ok]
  constructor
  · rintro ⟨hfile, plan', hload, hplan, hreceipt, hne, hprogress, hlock, rfl⟩
    exact ⟨hload, hfile, hplan, hreceipt, hne, hprogress, hlock⟩
  · rintro ⟨hload, hfile, hplan, hreceipt, hne, hprogress, hlock⟩
    exact ⟨hfile, plan, hload, hplan, hreceipt, hne, hprogress, hlock, rfl⟩

theorem openPlan_mono (h : openPlan fs paths = .ok plan) (hagrees : Files.Agrees W fs fs')
    (hpath : W paths.plan) : openPlan fs' paths = .ok plan := by
  rw [openPlan_eq_ok] at h ⊢
  rcases h with ⟨hload, hfile, hplan, hreceipt, hne, hprogress, hlock⟩
  rw [loadRemoteEvictionPlan_eq_ok] at hload
  refine ⟨?_, existingFile_mono hfile hagrees hpath, outsideCandidate_mono hplan hagrees,
    outsideCandidate_mono hreceipt hagrees, hne, outsideCandidate_mono hprogress hagrees,
    outsideCandidate_mono hlock hagrees⟩
  rw [loadRemoteEvictionPlan_eq_ok]
  exact ⟨readCanonicalObject_mono hload.1 hagrees hpath, postInit_plan_mono hload.2 hagrees⟩

theorem layout_of_openPlan (h : openPlan fs paths = .ok plan) : Layout paths plan := by
  rw [openPlan_eq_ok] at h
  rcases h with ⟨hload, _, hplan, hreceipt, hne, hprogress, _⟩
  rcases postInit_plan (loadRemoteEvictionPlan_eq_ok.mp hload).2 with ⟨hrelative, hdistinct, hmember⟩
  exact ⟨(outsideCandidate_eq_ok.mp hplan).2, hne, (outsideCandidate_eq_ok.mp hreceipt).2, (outsideCandidate_eq_ok.mp hprogress).2,
    hmember, hrelative, hdistinct⟩

end

/-! ## The watched paths -/

/-- The paths that an eviction is about: its plan, its receipt, its progress records and
the planned files. -/
def Watched (paths : EvictionPaths) (plan : RemoteEvictionPlan Sha) (path : Path) : Prop :=
  path = paths.plan ∨ path = paths.receipt ∨
    (∃ index < plan.files.length, path = progressPath paths.receipt index) ∨
    path ∈ plan.files.map (·.absolutePath)

section

omit [DecidableEq Sha]

theorem length_withName (h : path ≠ []) (name : String) :
    (withName path name).length = path.length := by
  have hpos := length_pos_iff.mpr h
  unfold withName
  rw [length_append, length_dropLast, length_singleton]
  omega

theorem length_progressPath (h : paths.receipt ≠ []) (index : ℕ) :
    (progressPath paths.receipt index).length = paths.receipt.length + 1 := by
  unfold progressPath progressRoot
  rw [length_append, length_withName h, length_singleton]

theorem progressPath_injective (output : Path) : Function.Injective (progressPath output) := by
  intro i j h
  unfold progressPath at h
  have hname := (append_inj' h rfl).2
  exact progressName_injective (List.cons.inj hname).1

theorem progressPath_ne_receipt (h : paths.receipt ≠ []) (index : ℕ) :
    progressPath paths.receipt index ≠ paths.receipt := by
  intro heq
  have hlength := length_progressPath h index
  rw [heq] at hlength
  omega

theorem progressRoot_ne (h : paths.receipt ≠ []) : progressRoot paths.receipt ≠ paths.receipt := by
  refine withName_ne h ?_
  rw [String.length_append, String.length_append]
  have hdot : (".progress" : String).length = 9 := by decide
  omega

/-- A planned file is none of the files that the executor publishes, and on the way to
none of them. -/
theorem Layout.planned_ne (h : Layout paths plan) (hpath : path ∈ plan.files.map (·.absolutePath)) :
    (∀ p, p <+: paths.receipt → path ≠ p) ∧ (∀ p, p <+: progressRoot paths.receipt → path ≠ p) ∧
      (∀ name, path ≠ paths.receipt.dropLast ++ [name]) ∧
      ∀ name, path ≠ progressRoot paths.receipt ++ [name] := by
  rcases mem_map.mp hpath with ⟨binding, hbinding, rfl⟩
  rw [← h.member binding hbinding]
  have hrelative := h.relative binding hbinding
  have hparent : ¬ plan.archiveCandidateRoot <+: paths.receipt.dropLast :=
    fun hbelow => h.receipt_outside (hbelow.trans (List.dropLast_prefix _))
  exact ⟨fun p hp => below_ne_of_prefix h.receipt_outside hp,
    fun p hp => below_ne_of_prefix h.progress_outside hp,
    fun name => below_ne_of_outside hparent hrelative,
    fun name => below_ne_of_outside h.progress_outside hrelative⟩

/-- The only watched path that the temporary of a receipt can have is that of the plan. -/
theorem Layout.receiptTemporary (h : Layout paths plan) {uuid : String}
    (hW : Watched paths plan (partialPath paths.receipt uuid)) :
    partialPath paths.receipt uuid = paths.plan := by
  rcases hW with hplan | hreceipt | ⟨index, -, hindex⟩ | hplanned
  · exact hplan
  · refine absurd hreceipt (withName_ne h.receipt_ne_nil ?_)
    rw [String.length_append, String.length_append, String.length_append, String.length_append]
    have hdot : (".partial" : String).length = 8 := by decide
    omega
  · have hlength := congrArg List.length hindex
    unfold partialPath at hlength
    rw [length_withName h.receipt_ne_nil, length_progressPath h.receipt_ne_nil] at hlength
    omega
  · exact absurd rfl ((h.planned_ne hplanned).2.2.1 _)

/-- The same for the temporary of a progress record. -/
theorem Layout.progressTemporary (h : Layout paths plan) {uuid : String} {index : ℕ}
    (hW : Watched paths plan (partialPath (progressPath paths.receipt index) uuid)) :
    partialPath (progressPath paths.receipt index) uuid = paths.plan := by
  have htemporary : partialPath (progressPath paths.receipt index) uuid =
      progressRoot paths.receipt ++ ["." ++ progressName index ++ "." ++ uuid ++ ".partial"] := by
    unfold partialPath withName progressPath fileName
    rw [dropLast_concat, getLast?_append_of_ne_nil _ (by simp), getLast?_singleton]
    rfl
  rcases hW with hplan | hreceipt | ⟨index', -, hindex⟩ | hplanned
  · exact hplan
  · have hlength := congrArg List.length hreceipt
    rw [htemporary, length_append, progressRoot, length_withName h.receipt_ne_nil,
      length_singleton] at hlength
    omega
  · rw [htemporary] at hindex
    have hname := (append_inj' hindex rfl).2
    exact absurd (List.cons.inj hname).1 (partial_ne_progressName _ _ _)
  · rw [htemporary] at hplanned
    exact absurd rfl ((h.planned_ne hplanned).2.2.2 _)

/-- The only watched path on the way to a published file is that of the plan. -/
theorem Layout.directory (h : Layout paths plan) (hW : Watched paths plan path)
    (hpath : path <+: paths.receipt.dropLast ∨ path <+: progressRoot paths.receipt) :
    path = paths.plan := by
  have hlength : path.length ≤ paths.receipt.length := by
    rcases hpath with hpath | hpath
    · exact (hpath.trans (List.dropLast_prefix _)).length_le
    · have hle := hpath.length_le
      rwa [progressRoot, length_withName h.receipt_ne_nil] at hle
  rcases hW with hplan | rfl | ⟨index, -, rfl⟩ | hplanned
  · exact hplan
  · rcases hpath with hpath | hpath
    · have hle := hpath.length_le
      have hpos := length_pos_iff.mpr h.receipt_ne_nil
      rw [length_dropLast] at hle
      omega
    · refine absurd (hpath.eq_of_length ?_).symm (progressRoot_ne h.receipt_ne_nil)
      rw [progressRoot, length_withName h.receipt_ne_nil]
  · rw [length_progressPath h.receipt_ne_nil] at hlength
    omega
  · rcases hpath with hpath | hpath
    · exact absurd rfl ((h.planned_ne hplanned).1 _ (hpath.trans (List.dropLast_prefix _)))
    · exact absurd rfl ((h.planned_ne hplanned).2.1 _ hpath)

end

/-! ## Progress records -/

section

variable (hash : Hashing Sha) (paths : EvictionPaths) (plan : RemoteEvictionPlan Sha) (fs : Tree Sha)

/-- The planned file with this index has a durable progress record. -/
def RecordedFile (index : ℕ) (binding : EvictionFileBinding Sha) (row : EvictedFileReceipt Sha) :
    Prop :=
  ∃ progress, fs.read? (progressPath paths.receipt index) =
      some (.document (.evictionProgress progress)) ∧
    progress.binds hash plan binding index ∧ progress.file = row

def Recorded (index : ℕ) (binding : EvictionFileBinding Sha) : Prop :=
  ∃ row, RecordedFile hash paths plan fs index binding row

/-- The rows are exactly the planned files with a durable progress record. -/
def RecordedRows (rows : List (EvictedFileReceipt Sha)) : Prop :=
  ∀ row, row ∈ rows ↔ ∃ index binding, plan.files[index]? = some binding ∧
    RecordedFile hash paths plan fs index binding row

/-- The paths are exactly the absent planned files without a durable progress record. -/
def UnrecordedPaths (missing : List Path) : Prop :=
  ∀ path, path ∈ missing ↔ ∃ index binding, plan.files[index]? = some binding ∧
    path = binding.absolutePath ∧ fs.lexists path = false ∧
    ¬ Recorded hash paths plan fs index binding

/-- A receipt accounts for every planned file. -/
structure Accounts (receipt : RemoteEvictionReceipt Sha) : Prop where
  deleted : RecordedRows hash paths plan fs receipt.deletedFiles
  complete : receipt.status = .complete → ∀ index binding, plan.files[index]? = some binding →
    Recorded hash paths plan fs index binding ∧ fs.lexists binding.absolutePath = false
  missing : receipt.status ≠ .complete →
    UnrecordedPaths hash paths plan fs receipt.missingUnrecordedFiles

end

section

variable {W : Path → Prop} {index : ℕ} {binding : EvictionFileBinding Sha}
  {row : EvictedFileReceipt Sha} {rows : List (EvictedFileReceipt Sha)}

omit [DecidableEq Sha]

theorem RecordedFile.path_eq (h : RecordedFile hash paths plan fs index binding row) :
    row.absolutePath = binding.absolutePath := by
  rcases h with ⟨progress, -, hbinds, rfl⟩
  exact hbinds.2.2.1

theorem RecordedFile.unique {row' : EvictedFileReceipt Sha}
    (h : RecordedFile hash paths plan fs index binding row)
    (h' : RecordedFile hash paths plan fs index binding row') : row = row' := by
  rcases h with ⟨progress, hread, -, rfl⟩
  rcases h' with ⟨progress', hread', -, rfl⟩
  rw [hread] at hread'
  cases hread'
  rfl

theorem watched_progressPath (hindex : plan.files[index]? = some binding) :
    Watched paths plan (progressPath paths.receipt index) :=
  .inr (.inr (.inl ⟨index, (List.getElem?_eq_some_iff.mp hindex).1, rfl⟩))

theorem watched_planned (hindex : plan.files[index]? = some binding) :
    Watched paths plan binding.absolutePath :=
  .inr (.inr (.inr (mem_map.mpr ⟨binding, mem_of_getElem? hindex, rfl⟩)))

section

variable (h : fs'.read? (progressPath paths.receipt index) = fs.read? (progressPath paths.receipt index))

include h

/-- What a file system records depends on what it reads at the progress path. -/
theorem recordedFile_congr : RecordedFile hash paths plan fs' index binding row ↔
      RecordedFile hash paths plan fs index binding row := by
  unfold RecordedFile
  rw [h]

theorem recorded_congr :
    Recorded hash paths plan fs' index binding ↔ Recorded hash paths plan fs index binding :=
  exists_congr fun _ => recordedFile_congr h

end

/-- The account of a receipt stays true while the watched paths stay as they are. -/
theorem Accounts.congr (h : Accounts hash paths plan fs receipt)
    (hread : ∀ (index : ℕ) (binding : EvictionFileBinding Sha), plan.files[index]? = some binding →
      fs'.read? (progressPath paths.receipt index) = fs.read? (progressPath paths.receipt index))
    (hexists : ∀ (index : ℕ) (binding : EvictionFileBinding Sha), plan.files[index]? = some binding →
      fs'.lexists binding.absolutePath = fs.lexists binding.absolutePath) :
    Accounts hash paths plan fs' receipt := by
  refine ⟨?_, ?_, ?_⟩
  · intro row
    rw [h.deleted row]
    refine exists_congr fun index => exists_congr fun binding => and_congr_right fun hindex => ?_
    exact (recordedFile_congr (hread index binding hindex)).symm
  · intro hstatus index binding hindex
    rw [recorded_congr (hread index binding hindex), hexists index binding hindex]
    exact h.complete hstatus index binding hindex
  · intro hstatus path
    rw [h.missing hstatus path]
    refine exists_congr fun index => exists_congr fun binding => and_congr_right fun hindex => ?_
    rw [recorded_congr (hread index binding hindex)]
    refine and_congr_right fun hpath => ?_
    rw [hpath, hexists index binding hindex]

/-- Two planned files with one path are the same. -/
theorem Layout.eq_of_path (h : Layout paths plan) {index' : ℕ} {binding' : EvictionFileBinding Sha}
    (hindex : plan.files[index]? = some binding) (hindex' : plan.files[index']? = some binding')
    (hpath : binding.absolutePath = binding'.absolutePath) : index = index' ∧ binding = binding' := by
  have hlt : index < (plan.files.map (·.absolutePath)).length := by
    rw [length_map]
    exact (List.getElem?_eq_some_iff.mp hindex).1
  have hsame : index = index' := by
    refine (getElem?_inj hlt h.distinct).mp ?_
    rw [getElem?_map, getElem?_map, hindex, hindex', Option.map_some, Option.map_some,
      hpath]
  subst hsame
  rw [hindex] at hindex'
  exact ⟨rfl, Option.some.inj hindex'⟩

/-- A planned path is among the rows exactly when its file is recorded. -/
theorem RecordedRows.mem_path (h : RecordedRows hash paths plan fs rows) (hlayout : Layout paths plan)
    (hindex : plan.files[index]? = some binding) :
    binding.absolutePath ∈ rows.map (·.absolutePath) ↔
      Recorded hash paths plan fs index binding := by
  rw [mem_map]
  constructor
  · rintro ⟨row, hrow, hpath⟩
    rcases (h row).mp hrow with ⟨index', binding', hindex', hrecorded⟩
    rw [hrecorded.path_eq] at hpath
    rcases hlayout.eq_of_path hindex' hindex hpath with ⟨rfl, rfl⟩
    exact ⟨row, hrecorded⟩
  · rintro ⟨row, hrow⟩
    exact ⟨row, (h row).mpr ⟨index, binding, hindex, hrow⟩, hrow.path_eq⟩

end

/-! ## Loading and reporting -/

section

variable {index : ℕ} {binding : EvictionFileBinding Sha} {row : EvictedFileReceipt Sha}
  {rows : List (EvictedFileReceipt Sha)}

theorem loadProgressRecord_eq_ok
    (h : loadProgressRecord hash fs paths.receipt plan index binding = .ok rows) :
    row ∈ rows ↔ RecordedFile hash paths plan fs index binding row := by
  unfold loadProgressRecord at h
  split at h
  · rcases bind_eq_ok.mp h with ⟨document, hread, hdocument⟩
    rcases document with _ | document
    · cases hdocument
    · have hbody := (readCanonicalObject_eq_some.mp hread).2
      cases document with
      | evictionProgress progress =>
        simp only [then_eq_ok, ensure_eq_ok, pure_eq_ok] at hdocument
        rcases hdocument with ⟨-, hbinds, rfl⟩
        rw [mem_singleton]
        constructor
        · rintro rfl
          exact ⟨progress, hbody, hbinds, rfl⟩
        · rintro ⟨progress', hbody', -, rfl⟩
          rw [hbody] at hbody'
          cases hbody'
          rfl
      | _ => cases hdocument
  · rename_i habsent
    cases h
    constructor
    · exact fun h => absurd h not_mem_nil
    · rintro ⟨progress, hread, -⟩
      exact absurd (Files.lexists_of_read? hread) habsent

/-- By induction on the bindings, numbered from `start`. -/
theorem loadProgressRecords_eq_ok {start : ℕ} {bindings : List (EvictionFileBinding Sha)}
    (h : loadProgressRecords hash fs paths.receipt plan start bindings = .ok rows) :
    row ∈ rows ↔ ∃ index binding, bindings[index]? = some binding ∧
      RecordedFile hash paths plan fs (start + index) binding row := by
  induction bindings generalizing start rows with
  | nil =>
    cases h
    constructor
    · exact fun h => absurd h not_mem_nil
    · rintro ⟨index, binding, hindex, -⟩
      cases hindex
  | cons binding rest ih =>
    rcases bind_eq_ok.mp h with ⟨head, hhead, htail⟩
    rcases bind_eq_ok.mp htail with ⟨tail, hload, hrows⟩
    cases pure_eq_ok.mp hrows
    rw [mem_append, loadProgressRecord_eq_ok hhead, ih hload]
    constructor
    · rintro (hrow | ⟨index, binding', hindex, hrow⟩)
      · exact ⟨0, binding, rfl, hrow⟩
      · refine ⟨index + 1, binding', hindex, ?_⟩
        rw [← Nat.add_assoc, Nat.add_right_comm]
        exact hrow
    · rintro ⟨index, binding', hindex, hrow⟩
      cases index with
      | zero =>
        cases hindex
        exact .inl hrow
      | succ index =>
        refine .inr ⟨index, binding', hindex, ?_⟩
        rw [Nat.add_right_comm, Nat.add_assoc]
        exact hrow

/-- The progress that is loaded is the recorded one. -/
theorem loadEvictionProgress_eq_ok (hrooted : fs.Rooted)
    (h : loadEvictionProgress hash fs paths.receipt plan = .ok rows) :
    RecordedRows hash paths plan fs rows := by
  intro row
  unfold loadEvictionProgress at h
  split at h
  · rw [then_eq_ok, then_eq_ok] at h
    rw [loadProgressRecords_eq_ok h.2.2]
    simp only [Nat.zero_add]
  · -- no directory, no record
    rename_i habsent
    cases h
    constructor
    · exact fun h => absurd h not_mem_nil
    · rintro ⟨index, binding, -, progress, hread, -⟩
      rw [Bool.not_eq_true, Files.lexists_eq_false] at habsent
      rw [progressPath, hrooted.read?_eq_none habsent] at hread
      cases hread

theorem loadBehindGate_eq_ok {callbacks : Callbacks Sha} (hrooted : fs.Rooted)
    (h : loadBehindGate hash fs paths.receipt plan callbacks = .ok rows) :
    RecordedRows hash paths plan fs rows := by
  unfold loadBehindGate at h
  rcases bind_eq_ok.mp h with ⟨snapshot, _, hload⟩
  rw [then_eq_ok] at hload
  exact loadEvictionProgress_eq_ok hrooted hload.2

omit [DecidableEq Sha] in
/-- The progress state that a call goes on from: a planned file is absent exactly when it
is recorded. -/
theorem validateProgressState_eq_ok (hlayout : Layout paths plan)
    (hrows : RecordedRows hash paths plan fs rows)
    (h : validateProgressState fs plan rows = .ok ()) (hindex : plan.files[index]? = some binding) :
    fs.lexists binding.absolutePath = false ↔ Recorded hash paths plan fs index binding := by
  unfold validateProgressState at h
  rw [forEachRecord_eq_ok] at h
  have hrow := h binding (mem_of_getElem? hindex)
  simp only [then_eq_ok, ensure_eq_ok] at hrow
  rw [hrows.mem_path hlayout hindex] at hrow
  rcases hrow with ⟨hrecreated, hmissing⟩
  constructor
  · intro habsent
    rcases hmissing with hrecorded | hpresent
    · exact hrecorded
    · rw [habsent] at hpresent
      cases hpresent
  · intro hrecorded
    rw [← Bool.not_eq_true]
    exact fun hpresent => hrecreated ⟨hrecorded, hpresent⟩

omit [DecidableEq Sha] in
/-- The missing paths that a call reports next to the recorded files. -/
theorem mem_missingPaths (hlayout : Layout paths plan)
    (hrows : RecordedRows hash paths plan fs rows) :
    UnrecordedPaths hash paths plan fs (missingPaths fs plan rows) := by
  intro path
  unfold missingPaths
  rw [mem_sortedBy, mem_filter, decide_eq_true_eq]
  constructor
  · rintro ⟨hpath, hnot, habsent⟩
    rcases mem_map.mp hpath with ⟨binding, hbinding, rfl⟩
    rcases mem_iff_getElem?.mp hbinding with ⟨index, hindex⟩
    rw [hrows.mem_path hlayout hindex] at hnot
    exact ⟨index, binding, hindex, rfl, habsent, hnot⟩
  · rintro ⟨index, binding, hindex, rfl, habsent, hnot⟩
    rw [hrows.mem_path hlayout hindex]
    exact ⟨mem_map.mpr ⟨binding, mem_of_getElem? hindex, rfl⟩, hnot, habsent⟩

end

end RollingArchive

import LightConeSpec.RollingArchive.EvictionFacts
import LightConeSpec.RollingArchive.Restore

/-!
# The effects of a restoration

`EvictedCandidate` is the situation in which a restoration starts. `RestoreSafe` says what
every single effect of its calls satisfies, and `Restoring` what holds in every state of
a run, also after a call was killed: what was there is unchanged, and targets, records
and the receipt are absent or right. A safe effect keeps it (`restoring_handle`).

A kill can leave more than that: a temporary in the candidate tree, and a target with a
second link. A state without them is `Clean`.
-/

namespace RollingArchive

open FileSystem Program Python Machine List Files

variable {Sha : Type} [DecidableEq Sha]

section

variable (hash : Hashing Sha) (paths : RestorePaths) (authorities : RestoreAuthorities Sha)

/-- The directory of a record or of the receipt, or one above it. -/
def OnTheWay (path : Path) : Prop :=
  path <+: paths.progressRoot ∨ path <+: paths.receipt.dropLast

/-- A tree that a manifest seals, before and after the planned files were evicted. -/
structure EvictedCandidate (manifest : FormalArchiveSha256Manifest Sha) (before initial : Tree Sha) :
    Prop where
  rootedBefore : before.Rooted
  rooted : initial.Rooted
  sealed : loadFormalArchiveSha256Manifest hash before authorities.plan.archiveCandidateRoot =
    .ok manifest
  planned : ∃ selection, planFiles hash before authorities.plan.archiveCandidateRoot selection
    manifest = .ok authorities.plan.files
  kept : ∀ path, authorities.plan.archiveCandidateRoot <+: path →
    path ∉ authorities.plan.files.map (·.absolutePath) →
    initial.node? path = before.node? path ∧ initial.read? path = before.read? path
  evicted : ∀ binding ∈ authorities.plan.files, initial.node? binding.absolutePath = none
  identity : initial.node? authorities.plan.archiveCandidateRoot =
    some (.directory authorities.plan.archiveCandidateRootInode)
  opens : openRestore hash initial paths = .ok authorities
  lock : outsideCandidate initial paths.lock authorities.plan.archiveCandidateRoot
    "stream restore lock" = .ok ()
  noProgress : ∀ index, initial.node? (paths.progress index) = none
  noReceipt : initial.node? paths.receipt = none
  directories : ∀ path, OnTheWay paths path →
    initial.node? path = none ∨ initial.isDirectory path = true
  apart : ¬ paths.receipt <+: paths.progressRoot ∧ ∀ index, ¬ paths.progress index <+: paths.receipt

/-- What is there when the restoration starts. -/
def Base (initial : Tree Sha) (path : Path) : Prop :=
  path = paths.plan ∨ path = paths.evictionReceipt ∨ path = paths.remoteArchiveResult ∨
    (authorities.plan.archiveCandidateRoot <+: path ∧ initial.lexists path = true)

/-- What the invariant is about: what was there, the targets, the records and the receipt. -/
def Kept (initial : Tree Sha) (path : Path) : Prop :=
  Base paths authorities initial path ∨
    path ∈ authorities.plan.files.map (·.absolutePath) ∨
    (∃ index < authorities.plan.files.length, path = paths.progress index) ∨ path = paths.receipt

/-- The member is in place. -/
def Restored (fs : Tree Sha) (binding : EvictionFileBinding Sha) : Prop :=
  describe hash fs binding.absolutePath = some (.file binding.sha256 binding.sizeBytes)

/-- The path holds the record of this member. -/
def HoldsProgress (fs : Tree Sha) (index : ℕ) (binding : EvictionFileBinding Sha) (path : Path) :
    Prop :=
  ∃ progress, fs.read? path = some (.document (.restoreProgress progress)) ∧
    progress.isOf hash ⟨authorities, index, binding⟩ ∧ 0 < progress.restoredAtNs

def HoldsReceipt (fs : Tree Sha) (path : Path) : Prop :=
  ∃ receipt, fs.read? path = some (.document (.restoreReceipt receipt)) ∧
    receipt.postInit fs = .ok () ∧ receipt.planSha256 = hash.planSha256 authorities.plan ∧
    receipt.archiveId = authorities.plan.archiveId ∧
    receipt.archiveManifestSha256 = authorities.plan.archiveManifestSha256 ∧
    receipt.remoteArchiveResultSha256 = hash.resultSha256 authorities.result ∧
    sameRows (receipt.restoredFiles ++ receipt.alreadyPresentFiles)
      (authorities.plan.files.map (·.restored))

/-- What holds in every state of a restoration. -/
structure Restoring (initial fs : Tree Sha) : Prop where
  rooted : fs.Rooted
  base : Files.Agrees (Base paths authorities initial) initial fs
  targets : ∀ binding ∈ authorities.plan.files,
    fs.node? binding.absolutePath = none ∨ Restored hash fs binding
  progress : ∀ index binding, authorities.plan.files[index]? = some binding →
    fs.node? (paths.progress index) = none ∨
      (HoldsProgress hash authorities fs index binding (paths.progress index) ∧
        Restored hash fs binding)
  receipt : fs.node? paths.receipt = none ∨
    (HoldsReceipt hash authorities fs paths.receipt ∧
      ∀ binding ∈ authorities.plan.files, Restored hash fs binding)
  directories : ∀ path, OnTheWay paths path →
    fs.node? path = none ∨ fs.isDirectory path = true

/-- What every effect of a restoration satisfies. -/
def RestoreSafe (initial : Tree Sha) (s : Disk Sha) (_ : Choice) : Effect Sha → Prop
  | .acquire => True
  | .create path => (Kept paths authorities initial path ∨ OnTheWay paths path) →
      s.files.lexists path = true
  | .link source path =>
    (∃ binding ∈ authorities.plan.files, path = binding.absolutePath ∧
      describe hash s.files source = some (.file binding.sha256 binding.sizeBytes)) ∨
    (∃ index binding, authorities.plan.files[index]? = some binding ∧
      path = paths.progress index ∧ HoldsProgress hash authorities s.files index binding source ∧
      Restored hash s.files binding) ∨
    (path = paths.receipt ∧ HoldsReceipt hash authorities s.files source ∧
      ∀ binding ∈ authorities.plan.files, Restored hash s.files binding)
  | e => QuietEffect (Kept paths authorities initial) s e

/-- The candidate tree holds what it held after the eviction and targets with one link. -/
structure Clean (initial fs : Tree Sha) : Prop where
  names : ∀ path node, authorities.plan.archiveCandidateRoot <+: path →
    fs.node? path = some node → initial.lexists path = true ∨
      path ∈ authorities.plan.files.map (·.absolutePath)
  owned : ∀ binding ∈ authorities.plan.files, ∀ inode,
    fs.node? binding.absolutePath = some (.file inode) → fs.Owns binding.absolutePath inode

end

variable {hash : Hashing Sha} {paths : RestorePaths} {authorities : RestoreAuthorities Sha}
  {manifest : FormalArchiveSha256Manifest Sha} {before initial fs fs' : Tree Sha} {s t : Disk Sha}
  {binding : EvictionFileBinding Sha} {index : ℕ} {path source : Path}

/-! ## Where a restoration starts -/

/-- The authorities that were loaded. -/
theorem loadStreamRestoreAuthorities_eq_ok :
    loadStreamRestoreAuthorities hash fs paths = .ok authorities ↔
      loadRemoteEvictionPlan fs paths.plan = .ok authorities.plan ∧
      loadRemoteEvictionReceipt fs paths.evictionReceipt = .ok authorities.eviction ∧
      readCanonicalObject fs paths.remoteArchiveResult "staged remote archive result" =
        .ok (some (.archiveResult authorities.result)) ∧
      (hash.resultSha256 authorities.result = authorities.plan.remoteArchiveResultSha256 ∧
        authorities.result.archiveId = authorities.plan.archiveId ∧
        authorities.result.remotePayloadRoot = authorities.plan.archiveCandidateRoot ∧
        authorities.result.manifestSha256 = authorities.plan.archiveManifestSha256 ∧
        authorities.eviction.status = .complete ∧
        authorities.eviction.planSha256 = hash.planSha256 authorities.plan ∧
        authorities.eviction.archiveId = authorities.plan.archiveId ∧
        authorities.eviction.archiveAuthorizationSha256 =
          authorities.plan.archiveAuthorizationSha256 ∧
        sameRows (authorities.plan.files.map (·.restored))
          (authorities.eviction.deletedFiles.map (·.restored))) := by
  rcases authorities with ⟨plan, eviction, result⟩
  unfold loadStreamRestoreAuthorities
  constructor
  · intro h
    rcases bind_eq_ok.mp h with ⟨plan', hplan, h⟩
    rcases bind_eq_ok.mp h with ⟨eviction', heviction, h⟩
    rcases bind_eq_ok.mp h with ⟨document, hread, h⟩
    rcases document with _ | document
    · cases h
    · cases document with
      | archiveResult result' =>
        rw [then_eq_ok, ensure_eq_ok, pure_eq_ok, RestoreAuthorities.mk.injEq] at h
        rcases h with ⟨hchecks, rfl, rfl, rfl⟩
        exact ⟨hplan, heviction, hread, hchecks⟩
      | _ => cases h
  · rintro ⟨hplan, heviction, hread, hchecks⟩
    rw [hplan, heviction, hread]
    simp only [bind, Except.bind, ensure, if_pos hchecks, pure, Except.pure]

theorem openRestore_eq_ok : openRestore hash fs paths = .ok authorities ↔
    loadStreamRestoreAuthorities hash fs paths = .ok authorities ∧
      existingDirectory fs authorities.plan.archiveCandidateRoot "stream restore candidate root" =
        .ok () ∧ fs.isNormalized paths.progressRoot = true ∧
      ¬ authorities.plan.archiveCandidateRoot <+: paths.progressRoot ∧
      outsideCandidate fs paths.receipt authorities.plan.archiveCandidateRoot
        "stream restore receipt" = .ok () ∧
      outsideCandidate fs paths.finalizeLock authorities.plan.archiveCandidateRoot
        "stream restore finalize lock" = .ok () := by
  unfold openRestore isRelativeTo
  rw [bind_eq_ok]
  simp only [then_eq_ok, ensure_eq_ok, pure_eq_ok, absoluteNormalized_eq_ok, decide_eq_false_iff_not]
  constructor
  · rintro ⟨_, hload, hdirectory, hnormal, houtside, hreceipt, hlock, rfl⟩
    exact ⟨hload, hdirectory, hnormal, houtside, hreceipt, hlock⟩
  · rintro ⟨hload, hdirectory, hnormal, houtside, hreceipt, hlock⟩
    exact ⟨_, hload, hdirectory, hnormal, houtside, hreceipt, hlock, rfl⟩

omit [DecidableEq Sha] in
theorem lexists_of_readCanonicalObject {document : Document Sha} {label : String}
    (h : readCanonicalObject fs path label = .ok (some document)) : fs.lexists path = true :=
  lexists_of_read? (readCanonicalObject_eq_some.mp h).2

namespace EvictedCandidate

variable (h : EvictedCandidate hash paths authorities manifest before initial)

include h

theorem loads : loadStreamRestoreAuthorities hash initial paths = .ok authorities :=
  (openRestore_eq_ok.mp h.opens).1

theorem progress_outside (index : ℕ) :
    ¬ authorities.plan.archiveCandidateRoot <+: paths.progress index := by
  intro hbelow
  unfold RestorePaths.progress at hbelow
  rcases prefix_concat_iff.mp hbelow with heq | hroot
  · have hvacant := h.noProgress index
    rw [RestorePaths.progress, ← heq, h.identity] at hvacant
    cases hvacant
  · exact (openRestore_eq_ok.mp h.opens).2.2.2.1 hroot

theorem receipt_outside : ¬ authorities.plan.archiveCandidateRoot <+: paths.receipt :=
  (outsideCandidate_eq_ok.mp (openRestore_eq_ok.mp h.opens).2.2.2.2.1).2

theorem member (hbinding : binding ∈ authorities.plan.files) :
    authorities.plan.archiveCandidateRoot ++ binding.archiveRelativePath = binding.absolutePath := by
  have hload := (loadStreamRestoreAuthorities_eq_ok.mp h.loads).1
  exact (postInit_plan (loadRemoteEvictionPlan_eq_ok.mp hload).2).2.2 binding hbinding

theorem target_below (hpath : path ∈ authorities.plan.files.map (·.absolutePath)) :
    authorities.plan.archiveCandidateRoot <+: path := by
  rcases mem_map.mp hpath with ⟨binding, hbinding, rfl⟩
  rw [← h.member hbinding]
  exact prefix_append _ _

theorem base_exists (hbase : Base paths authorities initial path) : initial.lexists path = true := by
  rcases loadStreamRestoreAuthorities_eq_ok.mp h.loads with ⟨hplan, heviction, hresult, -⟩
  rcases hbase with rfl | rfl | rfl | ⟨-, hexists⟩
  · exact lexists_of_readCanonicalObject (loadRemoteEvictionPlan_eq_ok.mp hplan).1
  · exact lexists_of_readCanonicalObject (loadRemoteEvictionReceipt_eq_ok.mp heviction).1
  · exact lexists_of_readCanonicalObject hresult
  · exact hexists

/-- The directory of a target is there. -/
theorem parent (hbinding : binding ∈ authorities.plan.files) :
    authorities.plan.archiveCandidateRoot <+: binding.absolutePath.dropLast ∧
      initial.isDirectory binding.absolutePath.dropLast = true := by
  have hload := (loadStreamRestoreAuthorities_eq_ok.mp h.loads).1
  have hrelative := (postInit_plan (loadRemoteEvictionPlan_eq_ok.mp hload).2).1 binding hbinding
  have hmember := h.member hbinding
  have hbelow : authorities.plan.archiveCandidateRoot <+: binding.absolutePath.dropLast := by
    rw [← hmember, dropLast_append_of_ne_nil hrelative]
    exact prefix_append _ _
  refine ⟨hbelow, ?_⟩
  rcases h.planned with ⟨selection, hplanned⟩
  have hfile := (planFiles_eq_ok hplanned hbinding).2
  rcases describe_eq_file.mp hfile with ⟨body, hread, -⟩
  rcases read?_eq_some.mp hread with ⟨inode, hnode, -⟩
  have hne : binding.absolutePath ≠ [] := by
    rw [← hmember]
    exact append_ne_nil_of_right_ne_nil _ hrelative
  have hdirectory := h.rootedBefore _ _ hnode hne
  rcases isDirectory_iff.mp hdirectory with ⟨i, hi⟩
  -- a directory of the tree is not planned
  have hkept := h.kept binding.absolutePath.dropLast hbelow ?_
  · rw [isDirectory_iff, hkept.1]
    exact ⟨i, hi⟩
  · intro hmem
    rcases mem_map.mp hmem with ⟨other, hother, hpath⟩
    rcases describe_eq_file.mp (planFiles_eq_ok hplanned hother).2 with ⟨_, hread', -⟩
    rcases read?_eq_some.mp hread' with ⟨_, hnode', -⟩
    rw [hpath, hi] at hnode'
    cases hnode'

theorem target_ne_progress (hpath : path ∈ authorities.plan.files.map (·.absolutePath)) (index : ℕ) :
    path ≠ paths.progress index := by
  rintro rfl
  exact h.progress_outside index (h.target_below hpath)

theorem target_ne_receipt (hpath : path ∈ authorities.plan.files.map (·.absolutePath)) :
    path ≠ paths.receipt := by
  rintro rfl
  exact h.receipt_outside (h.target_below hpath)

theorem progress_ne_receipt (index : ℕ) : paths.progress index ≠ paths.receipt := by
  intro heq
  refine h.apart.2 index ?_
  rw [heq]

theorem root_isDirectory : initial.isDirectory [] = true := by
  by_cases hroot : authorities.plan.archiveCandidateRoot = []
  · rw [isDirectory_iff]
    have hidentity := h.identity
    rw [hroot] at hidentity
    exact ⟨_, hidentity⟩
  · exact h.rooted.isDirectory_root h.identity hroot

theorem receipt_ne_nil : paths.receipt ≠ [] := by
  intro hnil
  rcases isDirectory_iff.mp h.root_isDirectory with ⟨i, hi⟩
  have hvacant := h.noReceipt
  rw [hnil, hi] at hvacant
  cases hvacant

theorem target_not_onTheWay (hpath : path ∈ authorities.plan.files.map (·.absolutePath)) :
    ¬ OnTheWay paths path := by
  have hbelow := h.target_below hpath
  rintro (hway | hway)
  · exact (openRestore_eq_ok.mp h.opens).2.2.2.1 (hbelow.trans hway)
  · exact h.receipt_outside (hbelow.trans (hway.trans (List.dropLast_prefix _)))

theorem progress_not_onTheWay (index : ℕ) : ¬ OnTheWay paths (paths.progress index) := by
  rintro (hway | hway)
  · have hlength := hway.length_le
    rw [RestorePaths.progress, length_append, length_singleton] at hlength
    omega
  · exact h.apart.2 index (hway.trans (List.dropLast_prefix _))

theorem receipt_not_onTheWay : ¬ OnTheWay paths paths.receipt := by
  rintro (hway | hway)
  · exact h.apart.1 hway
  · have hlength := hway.length_le
    have hpos := length_pos_iff.mpr h.receipt_ne_nil
    rw [length_dropLast] at hlength
    omega

/-- Planned files with one path are one. -/
theorem eq_of_path {other : EvictionFileBinding Sha} (hbinding : binding ∈ authorities.plan.files)
    (hother : other ∈ authorities.plan.files) (hpath : binding.absolutePath = other.absolutePath) :
    binding = other := by
  have hload := (loadStreamRestoreAuthorities_eq_ok.mp h.loads).1
  have hdistinct := (postInit_plan (loadRemoteEvictionPlan_eq_ok.mp hload).2).2.1
  exact inj_on_of_nodup_map hdistinct hbinding hother hpath

end EvictedCandidate

/-! ## One effect -/

section

variable {W : Path → Prop}

omit [DecidableEq Sha]

theorem Restored.agrees (h : Restored hash fs binding) (hagrees : Files.Agrees W fs fs')
    (hW : W binding.absolutePath) : Restored hash fs' binding :=
  (describe_congr (hagrees.node _ hW) (hagrees.read _ hW)).trans h

theorem Restored.lexists (h : Restored hash fs binding) : fs.lexists binding.absolutePath = true := by
  rcases describe_eq_file.mp h with ⟨body, hread, -⟩
  exact lexists_of_read? hread

theorem HoldsProgress.congr (h : HoldsProgress hash authorities fs index binding source)
    (hread : fs'.read? path = fs.read? source) :
    HoldsProgress hash authorities fs' index binding path := by
  rcases h with ⟨progress, hprogress, hrest⟩
  exact ⟨progress, hread.trans hprogress, hrest⟩

/-- A receipt that was constructed can be constructed again. -/
theorem postInit_restoreReceipt_mono {receipt : ArchiveRestoreReceipt Sha}
    (h : receipt.postInit fs = .ok ()) (hagrees : Files.Agrees W fs fs') :
    receipt.postInit fs' = .ok () := by
  unfold ArchiveRestoreReceipt.postInit RestoredFileReceipt.postInit at h ⊢
  simp only [then_eq_ok, ensure_eq_ok, forEachRecord_eq_ok, absoluteNormalized_eq_ok] at h ⊢
  rcases h with ⟨hrestored, hpresent, hrest⟩
  refine ⟨fun row hrow => ?_, fun row hrow => ?_, hrest⟩
  · exact ⟨hagrees.isNormalized (hrestored row hrow).1, (hrestored row hrow).2⟩
  · exact ⟨hagrees.isNormalized (hpresent row hrow).1, (hpresent row hrow).2⟩

theorem HoldsReceipt.congr (h : HoldsReceipt hash authorities fs source)
    (hagrees : Files.Agrees W fs fs') (hread : fs'.read? path = fs.read? source) :
    HoldsReceipt hash authorities fs' path := by
  rcases h with ⟨receipt, hreceipt, hinit, hrest⟩
  exact ⟨receipt, hread.trans hreceipt, postInit_restoreReceipt_mono hinit hagrees, hrest⟩

/-- The invariant is about the kept paths and the directories on the way to the outputs. -/
theorem Restoring.agrees (h : Restoring hash paths authorities initial fs)
    (hagrees : Files.Agrees (Kept paths authorities initial) fs fs') (hrooted : fs'.Rooted)
    (hdirectories : ∀ path, OnTheWay paths path →
      fs'.node? path = none ∨ fs'.isDirectory path = true) :
    Restoring hash paths authorities initial fs' := by
  have htarget : ∀ binding ∈ authorities.plan.files,
      Kept paths authorities initial binding.absolutePath :=
    fun binding hbinding => .inr (.inl (mem_map.mpr ⟨binding, hbinding, rfl⟩))
  have hkeep : ∀ binding ∈ authorities.plan.files, Restored hash fs binding →
      Restored hash fs' binding :=
    fun binding hbinding hrestored => hrestored.agrees hagrees (htarget binding hbinding)
  refine ⟨hrooted, h.base.trans (hagrees.mono fun _ hp => .inl hp), ?_, ?_, ?_, hdirectories⟩
  · intro binding hbinding
    rcases h.targets binding hbinding with hnone | hrestored
    · exact .inl ((hagrees.node _ (htarget binding hbinding)).trans hnone)
    · exact .inr (hkeep binding hbinding hrestored)
  · intro index binding hindex
    have hkept : Kept paths authorities initial (paths.progress index) :=
      .inr (.inr (.inl ⟨index, (List.getElem?_eq_some_iff.mp hindex).1, rfl⟩))
    rcases h.progress index binding hindex with hnone | ⟨hholds, hrestored⟩
    · exact .inl ((hagrees.node _ hkept).trans hnone)
    · exact .inr ⟨hholds.congr (hagrees.read _ hkept),
        hkeep binding (mem_of_getElem? hindex) hrestored⟩
  · have hkept : Kept paths authorities initial paths.receipt := .inr (.inr (.inr rfl))
    rcases h.receipt with hnone | ⟨hholds, hrestored⟩
    · exact .inl ((hagrees.node _ hkept).trans hnone)
    · exact .inr ⟨hholds.congr hagrees (hagrees.read _ hkept),
        fun binding hbinding => hkeep binding hbinding (hrestored binding hbinding)⟩

theorem describe_link (hlink : fs.link source path = .ok fs') :
    describe hash fs' path = describe hash fs source := by
  rcases link_eq_ok.mp hlink with ⟨inode, hsource, -, -, rfl⟩
  have hnode := node?_link hlink path
  rw [if_pos rfl, hsource] at hnode
  unfold describe
  rw [hnode, hsource]

end

/-- The link of a target, of a record or of the receipt. -/
theorem Restoring.link (h : EvictedCandidate hash paths authorities manifest before initial)
    (hs : Restoring hash paths authorities initial fs) (hlink : fs.link source path = .ok fs')
    (hway : ¬ OnTheWay paths path)
    (htarget : ∀ binding ∈ authorities.plan.files, binding.absolutePath = path →
      describe hash fs source = some (.file binding.sha256 binding.sizeBytes))
    (hprogress : ∀ index binding, authorities.plan.files[index]? = some binding →
      paths.progress index = path →
      HoldsProgress hash authorities fs index binding source ∧ Restored hash fs binding)
    (hreceipt : paths.receipt = path → HoldsReceipt hash authorities fs source ∧
      ∀ binding ∈ authorities.plan.files, Restored hash fs binding) :
    Restoring hash paths authorities initial fs' := by
  rcases link_eq_ok.mp hlink with ⟨_, _, hvacant, _, _⟩
  have hothers : Files.Agrees (fun p => p ≠ path) fs fs' :=
    agrees_link hlink fun hne => hne rfl
  have hread : fs'.read? path = fs.read? source := by
    rw [read?_link hlink, if_pos rfl]
  -- what exists already is not the new name
  have hne_of_exists : ∀ p, fs.lexists p = true → p ≠ path := by
    rintro p hp rfl
    rw [lexists_eq_false.mpr hvacant] at hp
    cases hp
  have hkeep : ∀ binding, Restored hash fs binding → Restored hash fs' binding :=
    fun binding hrestored => hrestored.agrees hothers (hne_of_exists _ hrestored.lexists)
  refine ⟨rooted_link hs.rooted hlink, ?_, ?_, ?_, ?_, ?_⟩
  · refine hs.base.trans (hothers.mono fun p hbase => hne_of_exists p ?_)
    rw [hs.base.lexists hbase]
    exact h.base_exists hbase
  · intro binding hbinding
    by_cases hpath : binding.absolutePath = path
    · refine .inr ?_
      unfold Restored
      rw [hpath, describe_link hlink]
      exact htarget binding hbinding hpath
    · rcases hs.targets binding hbinding with hnone | hrestored
      · exact .inl ((hothers.node _ hpath).trans hnone)
      · exact .inr (hkeep binding hrestored)
  · intro index binding hindex
    by_cases hpath : paths.progress index = path
    · rcases hprogress index binding hindex hpath with ⟨hholds, hrestored⟩
      rw [hpath]
      exact .inr ⟨hholds.congr hread, hkeep binding hrestored⟩
    · rcases hs.progress index binding hindex with hnone | ⟨hholds, hrestored⟩
      · exact .inl ((hothers.node _ hpath).trans hnone)
      · exact .inr ⟨hholds.congr (hothers.read _ hpath), hkeep binding hrestored⟩
  · by_cases hpath : paths.receipt = path
    · rcases hreceipt hpath with ⟨hholds, hrestored⟩
      rw [hpath]
      exact .inr ⟨hholds.congr hothers hread, fun binding hb => hkeep binding (hrestored binding hb)⟩
    · rcases hs.receipt with hnone | ⟨hholds, hrestored⟩
      · exact .inl ((hothers.node _ hpath).trans hnone)
      · exact .inr ⟨hholds.congr hothers (hothers.read _ hpath),
          fun binding hb => hkeep binding (hrestored binding hb)⟩
  · intro p hp
    have hpath : p ≠ path := by
      rintro rfl
      exact hway hp
    rw [isDirectory_iff, hothers.node _ hpath, ← isDirectory_iff]
    exact hs.directories p hp

/-- A safe effect keeps a restoration. -/
theorem restoring_handle (h : EvictedCandidate hash paths authorities manifest before initial)
    (hs : Restoring hash paths authorities initial s.files) {choice : Choice} {e : Effect Sha}
    (hsafe : RestoreSafe hash paths authorities initial s choice e) :
    Restoring hash paths authorities initial (handle s choice e).2.files := by
  cases e with
  | acquire => exact hs
  | observe => exact hs
  | uuid4 => exact hs
  | fsync path => exact hs
  | schedulerStop reason => exact hsafe.elim
  | mkdir path =>
    refine files_attempt hs (fun _ => rfl) fun fs hfs => ?_
    refine hs.agrees (frame_mkdir hfs hsafe).toAgrees (rooted_mkdir hs.rooted hfs) ?_
    intro p hp
    rw [isDirectory_iff, node?_mkdir hfs]
    split
    · exact .inr ⟨_, rfl⟩
    · rw [← isDirectory_iff]
      exact hs.directories p hp
  | create path =>
    refine files_attempt hs (fun _ => rfl) fun fs hfs => ?_
    have hvacant := (create_eq_ok.mp hfs).1
    refine hs.agrees (frame_create hfs fun hK => hsafe (.inl hK)).toAgrees
      (rooted_create hs.rooted hfs) ?_
    intro p hp
    have hpath : p ≠ path := by
      rintro rfl
      have hexists := hsafe (.inr hp)
      rw [lexists_eq_false.mpr hvacant] at hexists
      cases hexists
    rw [isDirectory_iff, node?_create hfs, if_neg hpath, ← isDirectory_iff]
    exact hs.directories p hp
  | write path body =>
    rcases hsafe with ⟨hK, -, i, howns⟩
    refine files_attempt hs (fun _ => rfl) fun fs hfs => ?_
    refine hs.agrees (frame_write howns hfs hK).toAgrees (rooted_write hs.rooted hfs) ?_
    intro p hp
    rw [isDirectory_iff, node?_write hfs, ← isDirectory_iff]
    exact hs.directories p hp
  | unlink path =>
    refine files_attempt hs (fun _ => rfl) fun fs hfs => ?_
    refine hs.agrees (agrees_unlink hfs hsafe.1) (rooted_unlink hs.rooted hfs) ?_
    intro p hp
    rw [isDirectory_iff, node?_unlink hfs]
    split
    · exact .inl rfl
    · rw [← isDirectory_iff]
      exact hs.directories p hp
  | link source path =>
    refine files_attempt hs (fun _ => rfl) fun fs hfs => ?_
    -- a member, a progress record or the receipt
    rcases hsafe with ⟨binding, hbinding, rfl, hsource⟩ | ⟨index, binding, hindex, rfl, hsource⟩ |
      ⟨rfl, hsource⟩
    · have hplanned : binding.absolutePath ∈ authorities.plan.files.map (·.absolutePath) :=
        mem_map.mpr ⟨binding, hbinding, rfl⟩
      refine Restoring.link h hs hfs (h.target_not_onTheWay hplanned) ?_ ?_ ?_
      · intro other hother hpath
        rw [h.eq_of_path hother hbinding hpath]
        exact hsource
      · exact fun j _ _ hpath => absurd hpath.symm (h.target_ne_progress hplanned j)
      · exact fun hpath => absurd hpath.symm (h.target_ne_receipt hplanned)
    · refine Restoring.link h hs hfs (h.progress_not_onTheWay index) ?_ ?_ ?_
      · exact fun other hother hpath => absurd hpath
          (h.target_ne_progress (mem_map.mpr ⟨other, hother, rfl⟩) index)
      · intro j other hother hpath
        have hj : j = index :=
          progressName_injective (List.cons.inj (append_inj' hpath rfl).2).1
        subst hj
        rw [hindex] at hother
        cases hother
        exact hsource
      · exact fun hpath => absurd hpath.symm (h.progress_ne_receipt index)
    · refine Restoring.link h hs hfs h.receipt_not_onTheWay ?_ ?_ fun _ => hsource
      · exact fun other hother hpath => absurd hpath
          (h.target_ne_receipt (mem_map.mpr ⟨other, hother, rfl⟩))
      · exact fun j _ _ hpath => absurd hpath (h.progress_ne_receipt j)

end RollingArchive

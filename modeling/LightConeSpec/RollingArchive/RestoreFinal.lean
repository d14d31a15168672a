import LightConeSpec.RollingArchive.RestoreOutputs

/-!
# Finalizing a restoration

Finalization collects the records of all members and publishes a receipt. In a clean
state of a restoration in which every member is in place, the manifest verifies the
candidate tree again (`loads_manifest`).
-/

namespace RollingArchive

open FileSystem Program Python Machine List Files

variable {Sha : Type} [DecidableEq Sha] {hash : Hashing Sha} {paths : RestorePaths}
  {authorities : RestoreAuthorities Sha} {manifest : FormalArchiveSha256Manifest Sha}
  {before initial fs fs' : Tree Sha} {s t : Disk Sha} {binding : EvictionFileBinding Sha}
  {index : ℕ} {path : Path}

/-- Every member has a record. -/
def AllRecorded (paths : RestorePaths) (authorities : RestoreAuthorities Sha) (fs : Tree Sha) : Prop :=
  ∀ (index : ℕ) (binding : EvictionFileBinding Sha), authorities.plan.files[index]? = some binding →
    fs.lexists (paths.progress index) = true

/-- What a finalization that returns leaves. -/
structure Finalized (hash : Hashing Sha) (paths : RestorePaths) (authorities : RestoreAuthorities Sha)
    (initial : Tree Sha) (receipt : ArchiveRestoreReceipt Sha) (t : Disk Sha) : Prop where
  clean : Clean authorities initial t.files
  restored : ∀ binding ∈ authorities.plan.files, Restored hash t.files binding
  recorded : t.files.read? paths.receipt = some (.document (.restoreReceipt receipt))

/-! ## The rows of a receipt -/

omit [DecidableEq Sha] in
/-- A part of a sorted list of distinct paths is one. -/
theorem sortedPaths_of_sublist {values rest : List Path} (h : values = sortedPaths values)
    (hsub : rest.Sublist values) : rest = sortedPaths rest := by
  have hnodup : values.Nodup := by
    rw [h]
    exact nodup_sortedPaths _
  have hsorted : values.Pairwise fun p q => pathText p ≤ pathText q := by
    rw [h]
    exact sortedBy_pairwise pathText values.dedup
  unfold sortedPaths sortedBy
  rw [(hnodup.sublist hsub).dedup]
  exact ((hsorted.sublist hsub).insertionSort_eq).symm

section

variable (h : EvictedCandidate hash paths authorities manifest before initial)
  (hs : Restoring hash paths authorities initial fs) (hclean : Clean authorities initial fs)

include h hs

/-- The records of consecutive members. -/
theorem collectRestored_eq_ok (hclean : Clean authorities initial fs)
    (hall : AllRecorded paths authorities fs) {k : ℕ} {rest : List (EvictionFileBinding Sha)}
    (hrest : ∀ (i : ℕ) (b : EvictionFileBinding Sha), rest[i]? = some b →
      authorities.plan.files[k + i]? = some b) :
    ∃ rows, collectRestored hash fs paths authorities k rest = .ok rows ∧
      (rows.1 ++ rows.2).Perm (rest.map (·.restored)) ∧
      rows.1.Sublist (rest.map (·.restored)) ∧ rows.2.Sublist (rest.map (·.restored)) := by
  induction rest generalizing k with
  | nil => exact ⟨([], []), rfl, .refl _, .refl _, .refl _⟩
  | cons binding rest ih =>
    have hindex : authorities.plan.files[k]? = some binding := hrest 0 binding rfl
    have hbinding := mem_of_getElem? hindex
    have hrest' : ∀ (i : ℕ) (b : EvictionFileBinding Sha), rest[i]? = some b →
        authorities.plan.files[k + 1 + i]? = some b := by
      intro i b hb
      rw [Nat.add_assoc, Nat.add_comm 1 i]
      exact hrest (i + 1) b hb
    rcases ih hrest' with ⟨⟨restored, present⟩, hrows, hperm, hsub, hsub'⟩
    rcases (hs.progress k binding hindex).resolve_left (fun hnone => by
      have hexists := hall k binding hindex
      rw [lexists_eq_false.mpr hnone] at hexists
      cases hexists) with ⟨⟨progress, hread, hof, htime⟩, hrestored⟩
    have hload := loadProgress_eq_ok h hs hindex hread hof htime
    have hverified := verifyRestoredTarget_eq_ok hrestored (hclean.owned binding hbinding)
    unfold collectRestored
    rw [hload, map_cons]
    simp only [bind, Except.bind, ensure, if_pos hof, hverified, hrows]
    cases progress.disposition with
    | restored =>
      refine ⟨_, rfl, ?_, hsub.cons_cons _, hsub'.cons _⟩
      exact hperm.cons _
    | alreadyPresent =>
      refine ⟨_, rfl, ?_, hsub.cons _, hsub'.cons_cons _⟩
      exact perm_middle.trans (hperm.cons _)

omit h hs in
/-- Members whose records were collected have one. -/
theorem lexists_of_collectRestored {k : ℕ} {rest : List (EvictionFileBinding Sha)}
    {rows : List (RestoredFileReceipt Sha) × List (RestoredFileReceipt Sha)}
    (hrows : collectRestored hash fs paths authorities k rest = .ok rows) {i : ℕ}
    (hi : rest[i]? = some binding) : fs.lexists (paths.progress (k + i)) = true := by
  induction rest generalizing k i rows with
  | nil => cases hi
  | cons first rest ih =>
    unfold collectRestored at hrows
    rcases bind_eq_ok.mp hrows with ⟨progress, hload, hrows⟩
    rw [then_eq_ok, then_eq_ok] at hrows
    rcases bind_eq_ok.mp hrows.2.2 with ⟨tail, htail, -⟩
    cases i with
    | zero =>
      unfold loadRemoteStreamRestoreProgress at hload
      rcases bind_eq_ok.mp hload with ⟨document, hread, hdocument⟩
      cases document with
      | none => cases hdocument
      | some document => exact lexists_of_readCanonicalObject hread
    | succ i =>
      have hnext := ih htail hi
      rw [Nat.add_assoc, Nat.add_comm 1 i] at hnext
      exact hnext

/-- The receipt of all members passes its constructor. -/
theorem restoreReceipt_postInit {rows : List (RestoredFileReceipt Sha) × List (RestoredFileReceipt Sha)}
    (hperm : (rows.1 ++ rows.2).Perm (authorities.plan.files.map (·.restored)))
    (hsub : rows.1.Sublist (authorities.plan.files.map (·.restored)))
    (hsub' : rows.2.Sublist (authorities.plan.files.map (·.restored))) {now : ℤ} (hnow : 0 < now) :
    (restoreReceipt hash authorities rows.1 rows.2 now).postInit fs = .ok () := by
  have hpaths := h.planPaths
  have hmap : (authorities.plan.files.map (·.restored)).map (·.absolutePath) =
      authorities.plan.files.map (·.absolutePath) := by
    rw [map_map]
    rfl
  have hsorted : ∀ part : List (RestoredFileReceipt Sha),
      part.Sublist (authorities.plan.files.map (·.restored)) →
      part.map (·.absolutePath) = sortedPaths (part.map (·.absolutePath)) := by
    intro part hpart
    have hpart' := hpart.map (·.absolutePath)
    rw [hmap] at hpart'
    exact sortedPaths_of_sublist hpaths.sorted hpart'
  have hrow : ∀ row ∈ authorities.plan.files.map (·.restored),
      RestoredFileReceipt.postInit fs row = .ok () := by
    intro row hrow
    rcases mem_map.mp hrow with ⟨binding, hbinding, rfl⟩
    unfold RestoredFileReceipt.postInit checkRelative
    simp only [then_eq_ok, ensure_eq_ok, absoluteNormalized_eq_ok]
    exact ⟨hs.isNormalized (hpaths.files binding hbinding).1, (hpaths.files binding hbinding).2⟩
  have hdistinct : ((rows.1 ++ rows.2).map (·.absolutePath)).Nodup := by
    rw [(hperm.map _).nodup_iff, hmap, hpaths.sorted]
    exact nodup_sortedPaths _
  rw [map_append] at hdistinct
  unfold ArchiveRestoreReceipt.postInit requirePositiveInt restoreReceipt
  simp only [then_eq_ok, ensure_eq_ok, forEachRecord_eq_ok]
  refine ⟨fun row hmem => hrow row (hsub.subset hmem), fun row hmem => hrow row (hsub'.subset hmem),
    hpaths.archiveId, hnow, hsorted _ hsub, hsorted _ hsub', ?_, trivial⟩
  exact fun p hp hp' => (disjoint_of_nodup_append hdistinct) hp hp'

/-- A receipt of this restoration is loaded and verified. -/
theorem readRestoreReceipt_eq_ok (hclean : Clean authorities initial fs)
    (hholds : HoldsReceipt hash authorities fs paths.receipt)
    (hrestored : ∀ binding ∈ authorities.plan.files, Restored hash fs binding) :
    ∃ receipt, fs.read? paths.receipt = some (.document (.restoreReceipt receipt)) ∧
      loadArchiveRestoreReceipt fs paths.receipt = .ok receipt ∧
      verifyStreamRestoreReceipt hash fs authorities receipt = .ok () := by
  rcases hholds with ⟨receipt, hread, hinit, hplan, hid, hmanifest, hresult, hrows⟩
  have hnormal := hs.isNormalized h.receipt_isOutput.normalized
  have hobject : readCanonicalObject fs paths.receipt "archive restore receipt" =
      .ok (some (.restoreReceipt receipt)) :=
    readCanonicalObject_eq_some.mpr ⟨existingFile_of_read? hnormal hread, hread⟩
  refine ⟨receipt, hread, ?_, ?_⟩
  · unfold loadArchiveRestoreReceipt
    rw [hobject]
    simp only [bind, Except.bind, hinit, pure, Except.pure]
  · unfold verifyStreamRestoreReceipt
    simp only [then_eq_ok, ensure_eq_ok, forEachRecord_eq_ok]
    exact ⟨⟨hplan, hid, hmanifest, hresult, hrows⟩, fun binding hbinding =>
      verifyRestoredTarget_eq_ok (hrestored binding hbinding) (hclean.owned binding hbinding)⟩

/-- Finalization opens the restoration. -/
theorem openRestore_later : openRestore hash fs paths = .ok authorities := by
  rcases openRestore_eq_ok.mp h.opens with ⟨-, -, hnormal, houtside, hreceipt, hlock⟩
  exact openRestore_eq_ok.mpr ⟨h.loads_later hs, h.candidate_directory hs _, hs.isNormalized hnormal,
    houtside, outsideCandidate_mono hreceipt hs.base, outsideCandidate_mono hlock hs.base⟩

end

theorem wp_readRestoreReceipt {X : Raised → Disk Sha → Prop}
    (h : EvictedCandidate hash paths authorities manifest before initial)
    (hs : Restoring hash paths authorities initial s.files)
    (hclean : Clean authorities initial s.files)
    (hholds : HoldsReceipt hash authorities s.files paths.receipt)
    (hrestored : ∀ binding ∈ authorities.plan.files, Restored hash s.files binding) :
    wp handle (restoreContract hash paths authorities initial)
      (Finalized hash paths authorities initial) X (readRestoreReceipt hash paths authorities) s := by
  rcases readRestoreReceipt_eq_ok h hs hclean hholds hrestored with ⟨receipt, hread, hload, hverify⟩
  refine wp_observe (fun _ => trivial) ?_
  rw [hload]
  change wp handle _ _ _ ((lift (verifyStreamRestoreReceipt hash s.files authorities receipt)).bind _) s
  rw [hverify]
  exact wp_alone_ret ⟨hclean, hrestored, hread⟩

/-- `finalize_remote_stream_restore` in a clean state of a restoration. -/
theorem wp_finalize (h : EvictedCandidate hash paths authorities manifest before initial)
    (hs : Restoring hash paths authorities initial s.files)
    (hclean : Clean authorities initial s.files) (completedAt : Except Raised ℤ) :
    wp handle (restoreContract hash paths authorities initial)
      (Finalized hash paths authorities initial) (fun _ t => Clean authorities initial t.files ∧
        ¬ (AllRecorded paths authorities s.files ∧ ∃ now, completedAt = .ok now ∧ 0 < now))
      (finalizeRemoteStreamRestore hash paths completedAt) s := by
  refine wp_observe (fun _ => trivial) ?_
  rw [openRestore_later h hs]
  refine wp_alone_vis fun choice _ => ⟨trivial, wp_observe (fun _ => trivial) ?_⟩
  -- the lock is not on the disk
  have hfiles : (handle s choice .acquire).2.files = s.files := rfl
  rw [← hfiles] at hs hclean
  rw [← hfiles]
  generalize (handle s choice .acquire).2 = u at *
  split
  · -- a receipt of an earlier call
    rename_i hexists
    rcases hs.receipt with hnone | ⟨hholds, hrestored⟩
    · rw [lexists_eq_false.mpr hnone] at hexists
      cases hexists
    · exact wp_readRestoreReceipt h hs hclean hholds hrestored
  rename_i habsent
  have hvacant : u.files.node? paths.receipt = none :=
    lexists_eq_false.mp (Bool.not_eq_true _ ▸ habsent)
  cases hrows : collectRestored hash u.files paths authorities 0 authorities.plan.files with
  | error e =>
    -- a record is missing: nothing is written
    refine wp_alone_throw ⟨hclean, fun hboth => ?_⟩
    rcases collectRestored_eq_ok h hs hclean hboth.1 (k := 0) (fun i b hb =>
      (Nat.zero_add i).symm ▸ hb) with ⟨rows, hok, -⟩
    rw [hrows] at hok
    cases hok
  | ok rows =>
    have hall : AllRecorded paths authorities u.files := by
      intro index binding hindex
      have hexists := lexists_of_collectRestored hrows hindex
      rw [Nat.zero_add] at hexists
      exact hexists
    have hrestored : ∀ binding ∈ authorities.plan.files, Restored hash u.files binding := by
      intro binding hbinding
      rcases getElem?_of_mem hbinding with ⟨index, hindex⟩
      refine ((hs.progress index binding hindex).resolve_left fun hnone => ?_).2
      have hexists := hall index binding hindex
      rw [lexists_eq_false.mpr hnone] at hexists
      cases hexists
    rcases collectRestored_eq_ok h hs hclean hall (k := 0) (fun i b hb =>
      (Nat.zero_add i).symm ▸ hb) with ⟨rows', hok, hperm, hsub, hsub'⟩
    rw [hrows] at hok
    cases hok
    change wp handle _ _ _ ((lift (positiveTime completedAt)).bind _) u
    refine wp_bind (wp_lift (fun now hnow => ?_) fun e he => ⟨hclean, ?_⟩)
    rotate_left
    · rintro ⟨-, now, hnow⟩
      rw [positiveTime_eq_ok.mpr hnow] at he
      cases he
    have hpos := (positiveTime_eq_ok.mp hnow).2
    have hinit := restoreReceipt_postInit h hs hperm hsub hsub' hpos
    have hholds : ∀ (t : Tree Sha) (p : Path), t.read? p = some (.document (.restoreReceipt
        (restoreReceipt hash authorities rows.1 rows.2 now))) →
        Files.Agrees (Kept paths authorities initial) u.files t →
        HoldsReceipt hash authorities t p := by
      intro t p hread hagrees
      exact ⟨_, hread, postInit_restoreReceipt_mono hinit hagrees, rfl, rfl, rfl, rfl,
        fun row hrow => hperm.subset hrow, fun row hrow => hperm.symm.subset hrow⟩
    refine wp_bind (wp_lift (fun _ _ => ?_) fun e he => ?_)
    rotate_left
    · rw [hinit] at he
      cases he
    have hpublish := wp_publishOutput (X := fun _ t => Clean authorities initial t.files ∧
      ¬ (AllRecorded paths authorities u.files ∧ ∃ now, completedAt = .ok now ∧ 0 < now)) h
      (.restoreReceipt (restoreReceipt hash authorities rows.1 rows.2 now)) hs hclean
      h.receipt_isOutput hvacant ?_
    · refine wp_bind (wp_mono (wp_alone_invariant
        (fun s ω e hI hsafe => restoring_handle h hI hsafe) hs hpublish) ?_ fun _ _ hX => hX.1)
      rintro _ t ⟨⟨hclean', -, hread⟩, ht⟩
      rcases ht.receipt with hnone | ⟨hholds', hrestored'⟩
      · have hexists := lexists_of_read? hread
        rw [lexists_eq_false.mpr hnone] at hexists
        cases hexists
      · exact wp_readRestoreReceipt h ht hclean' hholds' hrestored'
    · -- the receipt is linked while every member is in place
      intro t choice temporary hagrees hread
      refine .inr (.inr ⟨rfl, hholds _ _ hread hagrees, fun binding hbinding => ?_⟩)
      exact (hrestored binding hbinding).agrees hagrees
        (.inr (.inl (mem_map.mpr ⟨binding, hbinding, rfl⟩)))

/-! ## The restored tree -/

/-- A manifest that was loaded with its tree. -/
theorem loadFormalArchiveSha256Manifest_eq_ok {root : Path} :
    loadFormalArchiveSha256Manifest hash fs root = .ok manifest ↔
      readCanonicalObject fs (root ++ [archiveManifestName]) "formal archive SHA-256 manifest" =
        .ok (some (.manifest manifest)) ∧
      manifest.postInit = .ok () ∧ scanArchiveTree hash fs root true = .ok manifest.files := by
  -- the digest of the file is that of the manifest that it holds
  have hverify : readCanonicalObject fs (root ++ [archiveManifestName])
      "formal archive SHA-256 manifest" = .ok (some (.manifest manifest)) →
      (verifyManifestTree hash fs root manifest = .ok () ↔
        scanArchiveTree hash fs root true = .ok manifest.files) := by
    intro hobject
    rcases readCanonicalObject_eq_some.mp hobject with ⟨hfile, hread⟩
    rcases existingFile_eq_ok.mp hfile with ⟨hnormal, -⟩
    rcases read?_eq_some.mp hread with ⟨inode, hnode, hbody⟩
    unfold verifyManifestTree stableFileIdentity
    rw [then_eq_ok, existingFile_eq_ok, hnode]
    simp only [bind_eq_ok, ensure_eq_ok, hbody, Except.ok.injEq, exists_eq_left']
    constructor
    · rintro ⟨-, -, -, rows, hscan, rfl⟩
      exact hscan
    · exact fun hscan => ⟨⟨hnormal, inode, rfl⟩, (), rfl, manifest.files, hscan, rfl⟩
  unfold loadFormalArchiveSha256Manifest
  constructor
  · intro h
    rcases bind_eq_ok.mp h with ⟨document, hobject, hrest⟩
    rcases document with _ | document
    · cases hrest
    · cases document with
      | manifest loaded =>
        rw [then_eq_ok, then_eq_ok, pure_eq_ok] at hrest
        rcases hrest with ⟨hinit, hloaded, rfl⟩
        exact ⟨hobject, hinit, (hverify hobject).mp hloaded⟩
      | _ => cases hrest
  · rintro ⟨hobject, hinit, hscan⟩
    rw [hobject]
    change (manifest.postInit >>= _) = _
    rw [then_eq_ok, then_eq_ok, pure_eq_ok]
    exact ⟨hinit, (hverify hobject).mpr hscan, rfl⟩

section

variable (h : EvictedCandidate hash paths authorities manifest before initial)

include h

/-- The manifest is not a planned file. -/
theorem EvictedCandidate.manifest_not_planned :
    authorities.plan.archiveCandidateRoot ++ [archiveManifestName] ∉
      authorities.plan.files.map (·.absolutePath) := by
  intro hmem
  rcases mem_map.mp hmem with ⟨binding, hbinding, hpath⟩
  have hsafe := (h.planPaths.files binding hbinding).2
  rw [← h.member hbinding] at hpath
  rw [append_cancel_left hpath] at hsafe
  revert hsafe
  decide

/-- When every member is in place, each path is what it was before the eviction. -/
theorem describe_restored
    (hs : Restoring hash paths authorities initial fs) (hclean : Clean authorities initial fs)
    (hrestored : ∀ binding ∈ authorities.plan.files, Restored hash fs binding)
    (hbelow : authorities.plan.archiveCandidateRoot <+: path) :
    describe hash fs path = describe hash before path := by
  by_cases hplanned : path ∈ authorities.plan.files.map (·.absolutePath)
  · rcases mem_map.mp hplanned with ⟨binding, hbinding, rfl⟩
    rcases h.planned with ⟨selection, hfiles⟩
    rw [(planFiles_eq_ok hfiles hbinding).2]
    exact hrestored binding hbinding
  · have hkept := h.kept path hbelow hplanned
    refine Eq.trans ?_ (describe_congr hkept.1 hkept.2)
    by_cases hexists : initial.lexists path = true
    · exact describe_congr (hs.base.node _ (base_below hbelow hexists))
        (hs.base.read _ (base_below hbelow hexists))
    · -- nothing has appeared there
      rw [Bool.not_eq_true] at hexists
      have hnone : fs.node? path = none := by
        cases hnode : fs.node? path with
        | none => rfl
        | some node =>
          rcases hclean.names path node hbelow hnode with hinitial | hmem
          · rw [hinitial] at hexists
            cases hexists
          · exact absurd hmem hplanned
      unfold describe
      rw [hnone, lexists_eq_false.mp hexists, Option.map_none, Option.map_none]

/-- The manifest verifies the restored tree. -/
theorem loads_manifest
    (hs : Restoring hash paths authorities initial fs) (hclean : Clean authorities initial fs)
    (hrestored : ∀ binding ∈ authorities.plan.files, Restored hash fs binding) :
    loadFormalArchiveSha256Manifest hash fs authorities.plan.archiveCandidateRoot =
      .ok manifest := by
  rcases loadFormalArchiveSha256Manifest_eq_ok.mp h.sealed with ⟨hobject, hinit, hscan⟩
  rcases readCanonicalObject_eq_some.mp hobject with ⟨-, hread⟩
  have hbelow : authorities.plan.archiveCandidateRoot <+:
      authorities.plan.archiveCandidateRoot ++ [archiveManifestName] := prefix_append _ _
  have hkept := h.kept _ hbelow h.manifest_not_planned
  have hread' : initial.read? (authorities.plan.archiveCandidateRoot ++ [archiveManifestName]) =
      some (.document (.manifest manifest)) := hkept.2.trans hread
  have hbase : Base paths authorities initial _ :=
    base_below hbelow (lexists_of_read? hread')
  have hnow : fs.read? (authorities.plan.archiveCandidateRoot ++ [archiveManifestName]) =
      some (.document (.manifest manifest)) := (hs.base.read _ hbase).trans hread'
  refine loadFormalArchiveSha256Manifest_eq_ok.mpr ⟨?_, hinit, ?_⟩
  · exact readCanonicalObject_eq_some.mpr
      ⟨existingFile_of_read? (hs.isNormalized h.planPaths.manifest) hnow, hnow⟩
  · exact scanArchiveTree_congr hscan (h.candidate_directory hs _)
      fun path hpath => describe_restored h hs hclean hrestored hpath

end

end RollingArchive

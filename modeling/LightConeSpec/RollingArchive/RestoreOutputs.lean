import LightConeSpec.RollingArchive.RestoreCalls

/-!
# The outputs of a restoration

A record or the receipt is published outside the candidate tree, so that a clean
state stays clean. `wp_restore` and `wp_finalize` are the rules for whole calls.
-/

namespace RollingArchive

open FileSystem Program Python Machine List

variable {Sha : Type} [DecidableEq Sha] {hash : Hashing Sha} {paths : RestorePaths}
  {authorities : RestoreAuthorities Sha} {manifest : FormalArchiveSha256Manifest Sha}
  {before initial fs fs' : Tree Sha} {s t : Disk Sha} {binding : EvictionFileBinding Sha}
  {index : ℕ} {path source destination : Path} {call : RestoreCall}

/-- What a publication leaves alone: the kept paths, and everything in the candidate tree. -/
def Wide (paths : RestorePaths) (authorities : RestoreAuthorities Sha) (initial : Tree Sha)
    (path : Path) : Prop :=
  Kept paths authorities initial path ∨ authorities.plan.archiveCandidateRoot <+: path

/-- An output of the restoration: a record or the receipt. -/
structure IsOutput (paths : RestorePaths) (authorities : RestoreAuthorities Sha) (initial : Tree Sha)
    (path : Path) : Prop where
  kept : Kept paths authorities initial path
  outside : ¬ authorities.plan.archiveCandidateRoot <+: path
  way : ∀ p, p <+: path.dropLast → OnTheWay paths p
  normalized : initial.isNormalized path = true

variable {X : Raised → Disk Sha → Prop}

section

variable (h : EvictedCandidate hash paths authorities manifest before initial)

include h

theorem EvictedCandidate.progress_isOutput
    (hindex : authorities.plan.files[index]? = some binding) :
    IsOutput paths authorities initial (paths.progress index) := by
  refine ⟨?_, h.progress_outside index, fun p hp => ?_, ?_⟩
  · exact .inr (.inr (.inl ⟨index, (List.getElem?_eq_some_iff.mp hindex).1, rfl⟩))
  · rw [RestorePaths.progress, dropLast_concat] at hp
    exact .inl hp
  · exact Files.isNormalized_concat (openRestore_eq_ok.mp h.opens).2.2.1 (h.noProgress index)

theorem EvictedCandidate.receipt_isOutput : IsOutput paths authorities initial paths.receipt := by
  have houtside := outsideCandidate_eq_ok.mp (openRestore_eq_ok.mp h.opens).2.2.2.2.1
  exact ⟨.inr (.inr (.inr rfl)), houtside.2, fun p hp => .inr hp, houtside.1⟩

/-- What is on the way to an output and watched exists. -/
theorem lexists_of_wide (hs : Restoring hash paths authorities initial fs)
    (hdestination : IsOutput paths authorities initial destination)
    (hway : path <+: destination.dropLast) (hwide : Wide paths authorities initial path) :
    fs.lexists path = true := by
  have hon := hdestination.way path hway
  rcases hwide with (hbase | htarget | ⟨index, -, rfl⟩ | rfl) | hbelow
  · rw [hs.base.lexists hbase]
    exact h.base_exists hbase
  · exact absurd hon (h.target_not_onTheWay htarget)
  · exact absurd hon (h.progress_not_onTheWay index)
  · exact absurd hon h.receipt_not_onTheWay
  · exact absurd (hbelow.trans (hway.trans (List.dropLast_prefix _))) hdestination.outside

omit [DecidableEq Sha] h in
/-- A clean state stays clean when nothing in the candidate tree changes. -/
theorem Clean.frame {W : Path → Prop} (hclean : Clean authorities initial fs)
    (hframe : Files.Frame W fs fs') (hW : ∀ p, authorities.plan.archiveCandidateRoot <+: p → W p)
    (hbelow : ∀ binding ∈ authorities.plan.files,
      authorities.plan.archiveCandidateRoot <+: binding.absolutePath) :
    Clean authorities initial fs' := by
  constructor
  · intro p node hp hnode
    rw [hframe.node p (hW p hp)] at hnode
    exact hclean.names p node hp hnode
  · intro binding hbinding inode hnode
    have hp := hW _ (hbelow binding hbinding)
    rw [hframe.node _ hp] at hnode
    exact hframe.owns hp (hclean.owned binding hbinding inode hnode)

/-- Nothing hinders the publication of an output. -/
theorem unhindered_output (hs : Restoring hash paths authorities initial s.files)
    (hdestination : IsOutput paths authorities initial destination)
    (hvacant : s.files.node? destination = none) :
    Unhindered (RestoreAllowed paths authorities initial) s.files destination := by
  refine ⟨hs.isNormalized hdestination.normalized, hvacant, ⟨⟨?_, ?_⟩, ?_, ?_⟩, ?_⟩
  · exact fun _ _ _ hallowed => hallowed
  · exact fun _ _ _ hallowed => hallowed
  · by_cases hroot : authorities.plan.archiveCandidateRoot = []
    · have hnode := h.candidate_node hs
      rw [hroot] at hnode
      exact Files.isDirectory_iff.mpr ⟨_, hnode⟩
    · exact hs.rooted.isDirectory_root (h.candidate_node hs) hroot
  · intro q hq
    have hprefix := (mem_inits _ _).mp (mem_of_mem_tail hq)
    exact hs.directories q (hdestination.way q hprefix)
  · exact fun _ _ hallowed => (hallowed _ ⟨destination, .inl rfl⟩).1

/-- The publication of an output. -/
theorem wp_publishOutput (document : Document Sha)
    (hs : Restoring hash paths authorities initial s.files)
    (hclean : Clean authorities initial s.files)
    (hdestination : IsOutput paths authorities initial destination)
    (hvacant : s.files.node? destination = none)
    (hlink : ∀ t choice temporary, Files.Agrees (Kept paths authorities initial) s.files t.files →
      t.files.read? temporary = some (.document document) →
      RestoreSafe hash paths authorities initial t choice (.link temporary destination)) :
    wp handle (restoreContract hash paths authorities initial)
      (fun _ t => Clean authorities initial t.files ∧
        Files.Agrees (fun p => Kept paths authorities initial p ∧ p ≠ destination) s.files t.files ∧
        t.files.read? destination = some (.document document)) X
      (publishCanonicalNoReplace destination document) s := by
  refine wp_publish (W := Wide paths authorities initial) ?_ ?_ (.inl hdestination.kept) ?_ ?_ ?_ ?_ ?_
  · -- an effect that leaves the wider set alone leaves the kept paths alone
    intro t choice e hquiet hcreate
    cases e with
    | acquire => trivial
    | observe => trivial
    | uuid4 => trivial
    | fsync p => trivial
    | mkdir p => exact fun hkept => hquiet (.inl hkept)
    | create p => exact absurd rfl (hcreate p)
    | write p body => exact ⟨fun hkept => hquiet.1 (.inl hkept), hquiet.2⟩
    | unlink p => exact ⟨fun hkept => hquiet.1 (.inl hkept), hquiet.2⟩
    | link p q => exact hquiet.elim
    | schedulerStop reason => exact hquiet.elim
  · intro t choice choice' _ hallowed
    rcases hallowed _ ⟨destination, .inl rfl⟩ with ⟨-, hkept, hway⟩
    exact fun hor => absurd hor (not_or.mpr ⟨hkept, hway⟩)
  · -- the temporary is not in the candidate tree; the tree itself exists
    intro t choice hallowed hwide
    rcases hallowed _ ⟨destination, .inl rfl⟩ with ⟨-, hkept, -⟩
    rcases prefix_concat_iff.mp (hwide.resolve_left hkept) with heq | hbelow
    · change s.files.lexists (destination.dropLast ++ [_]) = true
      rw [← heq]
      exact Files.lexists_iff.mpr ⟨_, h.candidate_node hs⟩
    · exact absurd (hbelow.trans (List.dropLast_prefix _)) hdestination.outside
  · intro q hq hwide
    exact lexists_of_wide h hs hdestination
      ((mem_inits _ _).mp (mem_of_mem_tail hq)) hwide
  · exact fun t choice temporary ht hread =>
      hlink t choice temporary (ht.frame.toAgrees.mono fun _ hp => .inl hp) hread
  · intro t ht
    refine ⟨hclean.frame ht.quiet.frame ?_ ?_, ?_, ht.read⟩
    · rintro p hp
      refine ⟨.inr hp, ?_⟩
      rintro rfl
      exact hdestination.outside hp
    · exact fun other hother => h.target_below (mem_map.mpr ⟨other, hother, rfl⟩)
    · exact ht.quiet.frame.toAgrees.mono fun p hp => ⟨.inl hp.1, hp.2⟩
  · exact fun e t _ _ hhindered => absurd (unhindered_output h hs hdestination hvacant) hhindered

end

/-! ## Restoring a member -/

/-- What a call that returns leaves. -/
structure Returns (hash : Hashing Sha) (paths : RestorePaths) (authorities : RestoreAuthorities Sha)
    (initial : Tree Sha) (index : ℕ) (binding : EvictionFileBinding Sha)
    (progress : RemoteStreamRestoreProgress Sha) (t : Disk Sha) : Prop where
  clean : Clean authorities initial t.files
  restored : Restored hash t.files binding
  recorded : t.files.read? (paths.progress index) = some (.document (.restoreProgress progress))
  isOf : progress.isOf hash ⟨authorities, index, binding⟩

/-- The stream of a member that is in place is read, and nothing changes. -/
theorem wp_replayMember (hfeeds : Feeds hash binding call.stream)
    (hverified : verifyRestoredTarget hash s.files binding = .ok ()) :
    wp handle (restoreContract hash paths authorities initial)
      (fun data t => (data.length = binding.sizeBytes ∧ hash.bytes data = binding.sha256) ∧ t = s) X
      (replayMember hash binding call) s := by
  rcases hfeeds with ⟨chunks, hstream, hchunks, hsize, hsha⟩
  refine wp_observe (fun _ => trivial) (wp_bind (wp_lift (fun _ _ => ?_) ?_))
  · -- without a descriptor no chunk is written
    have hwrite : ∀ (data chunk : List UInt8) (u : Disk Sha), u = s →
        wp handle (restoreContract hash paths authorities initial) (fun _ v => v = s) X
          (writeChunk none (data ++ chunk)) u :=
      fun _ _ _ hu => wp_alone_ret hu
    have hread : wp handle (restoreContract hash paths authorities initial)
        (fun result t => result = [] ++ chunks.flatten ∧ t = s) X
        (consumeRestoreStream none binding.sizeBytes (chunks.map fun chunk => .ok (some chunk)) [])
        s :=
      wp_consumeRestoreStream (J := fun _ t => t = s) hwrite hchunks
        ((Nat.zero_add _).trans hsize) rfl
    rw [hstream]
    refine wp_mono hread ?_ fun _ _ hX => hX
    rintro data t ⟨rfl, ht⟩
    rw [nil_append]
    exact ⟨⟨hsize, hsha⟩, ht⟩
  · intro e he
    rw [hverified] at he
    cases he

/-- A member in place is recorded, unless it is. -/
theorem wp_recordMember (h : EvictedCandidate hash paths authorities manifest before initial)
    {existing : Option (RemoteStreamRestoreProgress Sha)} {disposition : Disposition}
    {data : List UInt8} (hs : Restoring hash paths authorities initial s.files)
    (hclean : Clean authorities initial s.files)
    (hasks : Asks hash paths authorities fs' call index binding)
    (hdata : data.length = binding.sizeBytes ∧ hash.bytes data = binding.sha256)
    (hrestored : Restored hash s.files binding)
    (hknown : KnownProgress hash paths authorities s.files index binding existing) :
    wp handle (restoreContract hash paths authorities initial)
      (Returns hash paths authorities initial index binding) X
      (recordMember hash ⟨authorities, index, binding⟩ call existing disposition data) s := by
  have hbinding := mem_of_getElem? hasks.file
  have hverified := verifyRestoredTarget_eq_ok hrestored (hclean.owned binding hbinding)
  refine wp_bind (wp_lift (fun _ _ => wp_observe (fun _ => trivial) ?_) ?_)
  rotate_left
  · intro e he
    exact absurd hdata (ensure_eq_error.mp he).1
  cases existing with
  | some progress =>
    refine wp_bind (wp_lift (fun _ _ => wp_alone_ret ⟨hclean, hrestored, hknown.1, hknown.2⟩) ?_)
    intro e he
    rw [hverified] at he
    cases he
  | none =>
    rcases hasks.clock with ⟨now, hnow, hpos⟩
    have htime := positiveTime_eq_ok.mpr ⟨hnow, hpos⟩
    have hpaths := h.planPaths.files binding hbinding
    let progress := restoreProgress hash ⟨authorities, index, binding⟩ disposition now
    have hof : progress.isOf hash ⟨authorities, index, binding⟩ := ⟨rfl, rfl, rfl, rfl, rfl⟩
    have hinit : progress.postInit s.files = .ok () := by
      unfold RemoteStreamRestoreProgress.postInit RestoredFileReceipt.postInit checkRelative
        requirePositiveInt
      simp only [then_eq_ok, ensure_eq_ok, absoluteNormalized_eq_ok]
      exact ⟨⟨hs.isNormalized hpaths.1, hpaths.2⟩, hpos⟩
    change wp handle _ _ _ ((lift (positiveTime call.restoredAt)).bind _) s
    rw [htime]
    change wp handle _ _ _ ((lift (progress.postInit s.files)).bind _) s
    rw [hinit]
    change wp handle _ _ _ ((publishCanonicalNoReplace call.progressOutput _).bind _) s
    rw [hasks.output]
    have hpublish := wp_publishOutput (X := X) h (.restoreProgress progress) hs hclean
      (h.progress_isOutput hasks.file) hknown ?_
    · refine wp_bind (wp_mono (wp_alone_invariant
        (fun s ω e hI hsafe => restoring_handle h hI hsafe) hs hpublish) ?_ fun _ _ hX => hX.1)
      rintro _ t ⟨⟨hclean', hagrees, hread⟩, ht⟩
      have hload := loadProgress_eq_ok h ht hasks.file hread hof hpos
      refine wp_observe (fun _ => trivial) (wp_lift ?_ ?_)
      · intro loaded hloaded
        rw [hload] at hloaded
        cases hloaded
        refine ⟨hclean', hrestored.agrees hagrees ⟨?_, ?_⟩, hread, hof⟩
        · exact .inr (.inl (mem_map.mpr ⟨binding, hbinding, rfl⟩))
        · exact h.target_ne_progress (mem_map.mpr ⟨binding, hbinding, rfl⟩) index
      · intro e he
        rw [hload] at he
        cases he
    · -- the record is linked while the member is in place
      intro t choice temporary hagrees hread
      refine .inr (.inl ⟨index, binding, hasks.file, rfl, ⟨progress, hread, hof, hpos⟩, ?_⟩)
      exact hrestored.agrees hagrees (.inr (.inl (mem_map.mpr ⟨binding, hbinding, rfl⟩)))

/-- `restore_remote_member_from_stream` in a clean state of a restoration. -/
theorem wp_restore (h : EvictedCandidate hash paths authorities manifest before initial)
    (hs : Restoring hash paths authorities initial s.files)
    (hclean : Clean authorities initial s.files)
    (hasks : Asks hash paths authorities s.files call index binding) :
    wp handle (restoreContract hash paths authorities initial)
      (Returns hash paths authorities initial index binding)
      (fun e t => call.afterTargetLink = .error e ∧ Clean authorities initial t.files)
      (restoreRemoteMemberFromStream hash paths call) s := by
  have hbinding := mem_of_getElem? hasks.file
  rcases prepareMember_eq_ok h hs hclean hasks with ⟨existing, hprepare, hknown⟩
  refine wp_observe (fun _ => trivial) ?_
  rw [openMember_eq_ok h hs hasks]
  refine wp_alone_vis fun choice _ => ⟨trivial, wp_observe (fun _ => trivial) ?_⟩
  change wp handle _ _ _ ((lift (prepareMember hash s.files ⟨authorities, index, binding⟩ call)).bind _) _
  rw [hprepare]
  -- the lock is not on the disk
  have hclean' : Clean authorities initial (handle s choice .acquire).2.files := hclean
  have hs' : Restoring hash paths authorities initial (handle s choice .acquire).2.files := hs
  have hknown' : KnownProgress hash paths authorities (handle s choice .acquire).2.files index binding
    existing := hknown
  generalize (handle s choice .acquire).2 = u at *
  change wp handle _ _ _ (if u.files.lexists binding.absolutePath then _ else _) u
  rcases hs'.targets binding hbinding with hvacant | hrestored
  · rw [if_neg (by rw [Files.lexists_eq_false.mpr hvacant]; exact Bool.false_ne_true)]
    have hnone : u.files.node? (paths.progress index) = none := by
      refine (hs'.progress index binding hasks.file).resolve_right fun hrecorded => ?_
      have hexists := hrecorded.2.lexists
      rw [Files.lexists_eq_false.mpr hvacant] at hexists
      cases hexists
    have hwithout : existing = none := by
      cases existing with
      | none => rfl
      | some progress =>
        have hexists := Files.lexists_of_read? hknown'.1
        rw [Files.lexists_eq_false.mpr hnone] at hexists
        cases hexists
    refine wp_bind (wp_mono (wp_alone_invariant
      (fun s ω e hI hsafe => restoring_handle h hI hsafe) hs'
      (wp_rehydrateMember h hs' hbinding hvacant hasks.stream)) ?_ ?_)
    · rintro data t ⟨⟨hdata, inode, hplace⟩, ht⟩
      refine wp_recordMember h ht (hplace.clean hclean' hbinding) hasks hdata hplace.restored ?_
      rw [hwithout]
      change t.files.node? (paths.progress index) = none
      rw [hplace.nodes, if_neg ?_]
      · exact hnone
      · exact (h.target_ne_progress (mem_map.mpr ⟨binding, hbinding, rfl⟩) index).symm
    · rintro e t ⟨⟨he, inode, hplace⟩, -⟩
      exact ⟨he, hplace.clean hclean' hbinding⟩
  · rw [if_pos hrestored.lexists]
    have hverified := verifyRestoredTarget_eq_ok hrestored (hclean'.owned binding hbinding)
    refine wp_bind (wp_mono (wp_replayMember hasks.stream hverified) ?_ fun _ _ hX => hX)
    rintro data t ⟨hdata, rfl⟩
    exact wp_recordMember h hs' hclean' hasks hdata hrestored hknown'

end RollingArchive

import LightConeSpec.RollingArchive.RestoreRuns

/-!
# The calls of a restoration

A call for a member that starts in a clean state of a restoration passes all its checks,
puts the member in place and records it, and leaves a clean state. It raises only what
its `after_target_link` raises. Finalization of a complete restoration returns a receipt.
-/

namespace RollingArchive

open FileSystem Program Python Machine List Files

variable {Sha : Type} [DecidableEq Sha] {hash : Hashing Sha} {paths : RestorePaths}
  {authorities : RestoreAuthorities Sha} {manifest : FormalArchiveSha256Manifest Sha}
  {before initial fs fs' : Tree Sha} {s t : Disk Sha} {binding : EvictionFileBinding Sha}
  {index : ℕ} {path source : Path} {call : RestoreCall}

section

variable (hash : Hashing Sha) (paths : RestorePaths) (authorities : RestoreAuthorities Sha)

/-- A stream answers the bytes of this file, in any chunks. -/
def Feeds (binding : EvictionFileBinding Sha) (stream : Stream) : Prop :=
  ∃ chunks : List (List UInt8), stream = chunks.map (fun chunk => .ok (some chunk)) ∧
    (∀ chunk ∈ chunks, chunk ≠ []) ∧ chunks.flatten.length = binding.sizeBytes ∧
    hash.bytes chunks.flatten = binding.sha256

/-- A call that asks for the member with this index, is fed its bytes, and has enough
space on every device. -/
structure Asks (fs : Tree Sha) (call : RestoreCall) (index : ℕ)
    (binding : EvictionFileBinding Sha) : Prop where
  file : authorities.plan.files[index]? = some binding
  member : call.archiveRelativePath = binding.archiveRelativePath
  output : call.progressOutput = paths.progress index
  stream : Feeds hash binding call.stream
  reserve : 0 ≤ call.minimumFreeBytes
  capacity : ∀ rows, streamRestoreHighWaters hash fs authorities.plan = .ok rows →
    checkCapacity call 0 rows = .ok ()
  clock : ∃ now, call.restoredAt = .ok now ∧ 0 < now

/-- A name that a publication or a restoration with this `uuid` writes to. -/
def IsTemporary (uuid : String) (path : Path) : Prop :=
  ∃ destination, path = partialPath destination uuid ∨ path = rehydratePath destination uuid

/-- The system picks inodes that are not in use, and `uuid4` is not one that any name has
already. -/
def RestoreAllowed (initial : Tree Sha) (s : Disk Sha) (choice : Choice) : Effect Sha → Prop
  | .mkdir _ | .create _ => s.files.unused choice.inode = true
  | .uuid4 => ∀ path, IsTemporary choice.uuid path →
      s.files.lexists path = false ∧ ¬ Kept paths authorities initial path ∧ ¬ OnTheWay paths path
  | _ => True

abbrev restoreContract (initial : Tree Sha) : Contract (Effect Sha) (Disk Sha) Choice :=
  Contract.alone (RestoreAllowed paths authorities initial)
    (RestoreSafe hash paths authorities initial)

end

/-! ## Checks that pass -/

omit [DecidableEq Sha] in
/-- Nothing but a normal path is normalized, and no symbolic link appears. -/
theorem Restoring.isNormalized (hs : Restoring hash paths authorities initial fs)
    (h : initial.isNormalized path = true) : fs.isNormalized path = true :=
  hs.base.isNormalized h

omit [DecidableEq Sha] in
theorem base_below (hbelow : authorities.plan.archiveCandidateRoot <+: path)
    (hexists : initial.lexists path = true) : Base paths authorities initial path :=
  .inr (.inr (.inr ⟨hbelow, hexists⟩))

namespace EvictedCandidate

variable (h : EvictedCandidate hash paths authorities manifest before initial)
  (hs : Restoring hash paths authorities initial fs)

include h

theorem planPaths : PlanPaths initial authorities.plan :=
  planPaths_of_postInit (loadRemoteEvictionPlan_eq_ok.mp
    (loadStreamRestoreAuthorities_eq_ok.mp h.loads).1).2

include hs

theorem loads_later : loadStreamRestoreAuthorities hash fs paths = .ok authorities := by
  rcases loadStreamRestoreAuthorities_eq_ok.mp h.loads with ⟨hplan, heviction, hresult, hchecks⟩
  rw [loadRemoteEvictionPlan_eq_ok] at hplan
  rw [loadRemoteEvictionReceipt_eq_ok] at heviction
  rw [loadStreamRestoreAuthorities_eq_ok, loadRemoteEvictionPlan_eq_ok,
    loadRemoteEvictionReceipt_eq_ok]
  exact ⟨⟨readCanonicalObject_mono hplan.1 hs.base (.inl rfl), postInit_plan_mono hplan.2 hs.base⟩,
    ⟨readCanonicalObject_mono heviction.1 hs.base (.inr (.inl rfl)),
      postInit_receipt_mono heviction.2 hs.base⟩,
    readCanonicalObject_mono hresult hs.base (.inr (.inr (.inl rfl))), hchecks⟩

theorem candidate_node : fs.node? authorities.plan.archiveCandidateRoot =
    some (.directory authorities.plan.archiveCandidateRootInode) := by
  rw [hs.base.node _ (base_below (prefix_refl _) (lexists_iff.mpr ⟨_, h.identity⟩))]
  exact h.identity

theorem candidate_directory (label : String) :
    existingDirectory fs authorities.plan.archiveCandidateRoot label = .ok () := by
  have hnode := h.candidate_node hs
  unfold existingDirectory
  simp only [then_eq_ok, ensure_eq_ok, absoluteNormalized_eq_ok]
  exact ⟨hs.isNormalized h.planPaths.candidate, lexists_iff.mpr ⟨_, hnode⟩,
    isDirectory_iff.mpr ⟨_, hnode⟩⟩

theorem candidate_identity : verifyCandidateIdentity fs authorities.plan.archiveCandidateRoot
    authorities.plan.archiveCandidateRootInode = .ok () := by
  unfold verifyCandidateIdentity
  rw [then_eq_ok, ensure_eq_ok]
  exact ⟨h.candidate_directory hs _, h.candidate_node hs⟩

theorem parent_later (hbinding : binding ∈ authorities.plan.files) :
    fs.isDirectory binding.absolutePath.dropLast = true := by
  rcases h.parent hbinding with ⟨hbelow, hdirectory⟩
  rcases isDirectory_iff.mp hdirectory with ⟨i, hi⟩
  rw [isDirectory_iff, hs.base.node _ (base_below hbelow (lexists_iff.mpr ⟨_, hi⟩))]
  exact ⟨i, hi⟩

theorem validate_parent (hbinding : binding ∈ authorities.plan.files) :
    validateRestoreParent fs authorities.plan.archiveCandidateRoot binding.absolutePath =
      .ok () := by
  have hload := (loadStreamRestoreAuthorities_eq_ok.mp h.loads).1
  have hrelative := (postInit_plan (loadRemoteEvictionPlan_eq_ok.mp hload).2).1 binding hbinding
  unfold validateRestoreParent isRelativeTo
  simp only [then_eq_ok, ensure_eq_ok, decide_eq_true_eq]
  refine ⟨hs.isNormalized (h.planPaths.files binding hbinding).1, ⟨?_, ?_⟩,
    h.parent_later hs hbinding⟩
  · exact h.target_below (mem_map.mpr ⟨binding, hbinding, rfl⟩)
  · rw [← h.member hbinding]
    exact fun heq => hrelative (append_right_eq_self.mp heq)

end EvictedCandidate

/-- A target that is in place, with one link, is verified. -/
theorem verifyRestoredTarget_eq_ok (hrestored : Restored hash fs binding)
    (howned : ∀ inode, fs.node? binding.absolutePath = some (.file inode) →
      fs.Owns binding.absolutePath inode) : verifyRestoredTarget hash fs binding = .ok () := by
  rcases describe_eq_file.mp hrestored with ⟨body, hread, hsha, hsize⟩
  rcases read?_eq_some.mp hread with ⟨inode, hnode, rfl⟩
  have hidentity : stableFileIdentity fs hash binding.absolutePath =
      .ok ⟨inode, 1, binding.sizeBytes, binding.sha256⟩ := by
    unfold stableFileIdentity
    rw [hnode]
    dsimp only
    rw [hsha, hsize, (links_eq_one hnode).mpr (howned inode hnode)]
  unfold verifyRestoredTarget
  rw [hidentity]
  simp only [bind, Except.bind, ensure_eq_ok, and_self]

/-- The remaining bytes can be computed. -/
theorem remainingByDevice_eq_ok (h : EvictedCandidate hash paths authorities manifest before initial)
    (hs : Restoring hash paths authorities initial fs) (hclean : Clean authorities initial fs)
    {bindings : List (EvictionFileBinding Sha)}
    (hbindings : ∀ binding ∈ bindings, binding ∈ authorities.plan.files)
    (remaining : Dict ℕ (Path × ℕ)) :
    ∃ result, remainingByDevice hash fs authorities.plan.archiveCandidateRoot bindings remaining =
      .ok result := by
  induction bindings generalizing remaining with
  | nil => exact ⟨remaining, rfl⟩
  | cons binding rest ih =>
    have hbinding := hbindings binding mem_cons_self
    have hrest := fun b hb => hbindings b (mem_cons_of_mem _ hb)
    unfold remainingByDevice
    simp only [then_eq_ok, h.validate_parent hs hbinding, true_and]
    split
    · rename_i hexists
      have hrestored : Restored hash fs binding := by
        refine (hs.targets binding hbinding).resolve_left fun hnone => ?_
        rw [lexists_eq_false.mpr hnone] at hexists
        cases hexists
      simp only [then_eq_ok, verifyRestoredTarget_eq_ok hrestored (hclean.owned binding hbinding),
        true_and]
      exact ih hrest remaining
    · exact ih hrest _

theorem highWaters_eq_ok (h : EvictedCandidate hash paths authorities manifest before initial)
    (hs : Restoring hash paths authorities initial fs) (hclean : Clean authorities initial fs) :
    ∃ rows, streamRestoreHighWaters hash fs authorities.plan = .ok rows := by
  rcases remainingByDevice_eq_ok h hs hclean (fun _ hb => hb) Dict.empty with ⟨remaining, hok⟩
  unfold streamRestoreHighWaters
  rw [hok]
  exact ⟨_, rfl⟩

/-- The only row with a given key. -/
theorem filter_zipIdx_eq_singleton {α β : Type} [DecidableEq β] {f : α → β} {values : List α}
    {k i : ℕ} {a : α} (hnodup : (values.map f).Nodup) (hi : values[i]? = some a) :
    (values.zipIdx k).filter (fun row => f row.1 = f a) = [(a, k + i)] := by
  induction values generalizing k i with
  | nil => cases hi
  | cons b rest ih =>
    rw [map_cons, nodup_cons] at hnodup
    rw [zipIdx_cons, filter_cons]
    cases i with
    | zero =>
      cases hi
      have hnone : (rest.zipIdx (k + 1)).filter (fun row => f row.1 = f a) = [] := by
        rw [filter_eq_nil_iff]
        rintro ⟨c, j⟩ hmem hc
        have hrest := mem_map_of_mem (f := f) (fst_mem_of_mem_zipIdx hmem)
        rw [decide_eq_true_eq] at hc
        exact hnodup.1 (hc ▸ hrest)
      rw [if_pos (decide_eq_true rfl), hnone]
      rfl
    | succ i =>
      have ha : f b ≠ f a := by
        intro heq
        refine hnodup.1 ?_
        rw [heq]
        exact mem_map_of_mem (mem_of_getElem? hi)
      rw [if_neg (by rw [decide_eq_true_eq]; exact ha), ih hnodup.2 hi]
      rw [Nat.add_right_comm, Nat.add_assoc]

omit [DecidableEq Sha] in
/-- The member that a call asks for. -/
theorem findMember_eq_ok {plan : RemoteEvictionPlan Sha}
    (hnodup : (plan.files.map (·.archiveRelativePath)).Nodup)
    (hindex : plan.files[index]? = some binding) :
    findMember plan binding.archiveRelativePath = .ok (index, binding) := by
  have hfilter := filter_zipIdx_eq_singleton (k := 0) hnodup hindex
  rw [Nat.zero_add] at hfilter
  unfold findMember
  rw [hfilter]

/-- A call opens the member that it asks for. -/
theorem openMember_eq_ok (h : EvictedCandidate hash paths authorities manifest before initial)
    (hs : Restoring hash paths authorities initial fs)
    (hasks : Asks hash paths authorities fs' call index binding) :
    openMember hash fs paths call = .ok ⟨authorities, index, binding⟩ := by
  have hbinding := mem_of_getElem? hasks.file
  have hfound := findMember_eq_ok h.planPaths.relatives hasks.file
  have houtside : outsideCandidate fs call.progressOutput authorities.plan.archiveCandidateRoot
      "stream restore progress" = .ok () := by
    rw [outsideCandidate_eq_ok, hasks.output]
    refine ⟨hs.isNormalized ?_, h.progress_outside index⟩
    exact isNormalized_concat (openRestore_eq_ok.mp h.opens).2.2.1 (h.noProgress index)
  unfold openMember
  rw [h.loads_later hs]
  simp only [bind, Except.bind, hasks.member, hfound, h.candidate_directory hs,
    h.candidate_identity hs, h.validate_parent hs hbinding, houtside,
    outsideCandidate_mono h.lock hs.base, ensure, if_pos hasks.reserve, pure, Except.pure]

theorem EvictedCandidate.progress_normalized
    (h : EvictedCandidate hash paths authorities manifest before initial)
    (hs : Restoring hash paths authorities initial fs) (index : ℕ) :
    fs.isNormalized (paths.progress index) = true :=
  hs.isNormalized (isNormalized_concat (openRestore_eq_ok.mp h.opens).2.2.1
    (h.noProgress index))

omit [DecidableEq Sha] in
theorem existingFile_of_read? {body : Body Sha} {label : String}
    (hnormal : fs.isNormalized path = true) (hread : fs.read? path = some body) :
    existingFile fs path label = .ok () := by
  rcases read?_eq_some.mp hread with ⟨i, hi, -⟩
  exact existingFile_eq_ok.mpr ⟨hnormal, i, hi⟩

/-- The record of a member is loaded. -/
theorem loadProgress_eq_ok (h : EvictedCandidate hash paths authorities manifest before initial)
    (hs : Restoring hash paths authorities initial fs)
    (hindex : authorities.plan.files[index]? = some binding)
    {progress : RemoteStreamRestoreProgress Sha}
    (hread : fs.read? (paths.progress index) = some (.document (.restoreProgress progress)))
    (hof : progress.isOf hash ⟨authorities, index, binding⟩) (htime : 0 < progress.restoredAtNs) :
    loadRemoteStreamRestoreProgress fs (paths.progress index) = .ok progress := by
  have hobject : readCanonicalObject fs (paths.progress index) "remote stream restore progress" =
      .ok (some (.restoreProgress progress)) :=
    readCanonicalObject_eq_some.mpr
      ⟨existingFile_of_read? (h.progress_normalized hs index) hread, hread⟩
  have hpaths := h.planPaths.files binding (mem_of_getElem? hindex)
  have hinit : progress.postInit fs = .ok () := by
    unfold RemoteStreamRestoreProgress.postInit RestoredFileReceipt.postInit checkRelative
      requirePositiveInt
    simp only [then_eq_ok, ensure_eq_ok, absoluteNormalized_eq_ok]
    rw [hof.2.2.2.2]
    exact ⟨⟨hs.isNormalized hpaths.1, hpaths.2⟩, htime⟩
  unfold loadRemoteStreamRestoreProgress
  rw [hobject]
  simp only [bind, Except.bind, hinit, pure, Except.pure]

/-- What a call knows of the record of its member: the record, or that there is none. -/
def KnownProgress (hash : Hashing Sha) (paths : RestorePaths) (authorities : RestoreAuthorities Sha)
    (fs : Tree Sha) (index : ℕ) (binding : EvictionFileBinding Sha) :
    Option (RemoteStreamRestoreProgress Sha) → Prop
  | none => fs.node? (paths.progress index) = none
  | some progress =>
    fs.read? (paths.progress index) = some (.document (.restoreProgress progress)) ∧
      progress.isOf hash ⟨authorities, index, binding⟩

theorem prepareMember_eq_ok (h : EvictedCandidate hash paths authorities manifest before initial)
    (hs : Restoring hash paths authorities initial fs) (hclean : Clean authorities initial fs)
    (hasks : Asks hash paths authorities fs call index binding) :
    ∃ existing, prepareMember hash fs ⟨authorities, index, binding⟩ call = .ok existing ∧
      KnownProgress hash paths authorities fs index binding existing := by
  have hexisting : ∃ existing,
      existingProgress hash fs ⟨authorities, index, binding⟩ (paths.progress index) = .ok existing ∧
        KnownProgress hash paths authorities fs index binding existing := by
    unfold existingProgress
    rcases hs.progress index binding hasks.file with hnone | ⟨⟨progress, hread, hof, htime⟩, -⟩
    · rw [lexists_eq_false.mpr hnone]
      exact ⟨none, rfl, hnone⟩
    · rw [lexists_of_read? hread, loadProgress_eq_ok h hs hasks.file hread hof htime]
      refine ⟨some progress, ?_, hread, hof⟩
      simp only [if_true, bind, Except.bind, ensure, if_pos hof, pure, Except.pure]
  rcases hexisting with ⟨existing, hok, hknown⟩
  rcases highWaters_eq_ok h hs hclean with ⟨rows, hrows⟩
  refine ⟨existing, ?_, hknown⟩
  unfold prepareMember
  rw [hasks.output, hok]
  simp only [bind, Except.bind, hrows, hasks.capacity rows hrows, pure, Except.pure]

theorem positiveTime_eq_ok {reading : Except Raised ℤ} {now : ℤ} :
    positiveTime reading = .ok now ↔ reading = .ok now ∧ 0 < now := by
  unfold positiveTime requirePositiveInt
  rw [bind_eq_ok]
  simp only [then_eq_ok, ensure_eq_ok, pure_eq_ok]
  constructor
  · rintro ⟨value, hreading, hpos, rfl⟩
    exact ⟨hreading, hpos⟩
  · rintro ⟨hreading, hpos⟩
    exact ⟨now, hreading, hpos, rfl⟩

/-! ## Reading the stream -/

section

variable {X : Raised → Disk Sha → Prop}

omit [DecidableEq Sha] in
/-- The chunks are read to the end, and written one after the other. -/
theorem wp_consumeRestoreStream
    {allowed safe : Disk Sha → Choice → Effect Sha → Prop} {J : List UInt8 → Disk Sha → Prop}
    {descriptor : Option Path} {size : ℕ} {chunks : List (List UInt8)}
    (hwrite : ∀ data chunk t, J data t → wp handle (Contract.alone allowed safe)
      (fun _ => J (data ++ chunk)) X (writeChunk descriptor (data ++ chunk)) t)
    (hne : ∀ chunk ∈ chunks, chunk ≠ []) {data : List UInt8}
    (hsize : data.length + chunks.flatten.length = size) (hJ : J data s) :
    wp handle (Contract.alone allowed safe)
      (fun result t => result = data ++ chunks.flatten ∧ J result t) X
      (consumeRestoreStream descriptor size (chunks.map fun chunk => .ok (some chunk)) data) s := by
  induction chunks generalizing data s with
  | nil =>
    rw [flatten_nil, length_nil, Nat.add_zero] at hsize
    have hfinish : finishStream size data [] = .ok data := by
      unfold finishStream
      simp only [ensure, if_pos hsize, bind, Except.bind, pure, Except.pure]
    rw [map_nil, consumeRestoreStream, hfinish, flatten_nil, append_nil]
    exact wp_alone_ret ⟨rfl, hJ⟩
  | cons chunk rest ih =>
    have hchunk := hne chunk mem_cons_self
    have hpos := length_pos_iff.mpr hchunk
    rw [flatten_cons, length_append] at hsize
    have hlt : data.length < size := by omega
    rw [map_cons, consumeRestoreStream, if_pos hlt]
    change wp handle _ _ _ (if chunk = [] then _ else _) s
    rw [if_neg hchunk]
    refine wp_bind (wp_mono (hwrite data chunk s hJ) ?_ fun _ _ h => h)
    intro _ t ht
    have hsize' : (data ++ chunk).length + rest.flatten.length = size := by
      rw [length_append]
      omega
    have hrest := ih (fun c hc => hne c (mem_cons_of_mem _ hc)) hsize' ht
    rw [flatten_cons, ← append_assoc]
    exact hrest

/-! ## Putting a member in place -/

/-- The disk with a temporary that holds these bytes. -/
structure WithTemporary (s t : Disk Sha) (temporary : Path) (inode : Inode) (data : List UInt8) :
    Prop where
  nodes : ∀ p, t.files.node? p =
    if p = temporary then some (.file inode) else s.files.node? p
  body : t.files.read? temporary = some (.bytes data)
  owns : t.files.Owns temporary inode
  created : temporary ∈ t.created

structure InPlace (hash : Hashing Sha) (s t : Disk Sha) (binding : EvictionFileBinding Sha)
    (inode : Inode) : Prop where
  nodes : ∀ p, t.files.node? p =
    if p = binding.absolutePath then some (.file inode) else s.files.node? p
  owns : t.files.Owns binding.absolutePath inode
  restored : Restored hash t.files binding

omit [DecidableEq Sha] in
/-- A member in place, where everything else is as it was. -/
theorem InPlace.clean {inode : Inode} (h : InPlace hash s t binding inode)
    (hclean : Clean authorities initial s.files) (hbinding : binding ∈ authorities.plan.files) :
    Clean authorities initial t.files := by
  constructor
  · intro p node hbelow hnode
    rw [h.nodes] at hnode
    split at hnode
    · rename_i hp
      rw [hp]
      exact .inr (mem_map.mpr ⟨binding, hbinding, rfl⟩)
    · exact hclean.names p node hbelow hnode
  · intro other hother j hnode
    by_cases hpath : other.absolutePath = binding.absolutePath
    · rw [hpath] at hnode ⊢
      rw [h.owns.node?] at hnode
      cases hnode
      exact h.owns
    · rw [h.nodes, if_neg hpath] at hnode
      have howns := hclean.owned other hother j hnode
      intro q
      rw [h.nodes]
      split
      · -- the new file has an inode of its own
        rename_i hq
        rw [hq]
        constructor
        · intro heq
          cases heq
          refine absurd ((h.owns other.absolutePath).mp ?_) hpath
          rw [h.nodes, if_neg hpath]
          exact hnode
        · exact fun heq => absurd heq.symm hpath
      · exact howns q

section

variable {temporary : Path} {inode : Inode}

omit [DecidableEq Sha] in
/-- The bytes of the stream are written to the temporary. -/
theorem wp_readMember {stream : Stream} (hkept : ¬ Kept paths authorities initial temporary)
    (hfeeds : Feeds hash binding stream) (ht : WithTemporary s t temporary inode []) :
    wp handle (restoreContract hash paths authorities initial)
      (fun data u => (data.length = binding.sizeBytes ∧ hash.bytes data = binding.sha256) ∧
        WithTemporary s u temporary inode data) X
      (consumeRestoreStream (some temporary) binding.sizeBytes stream []) t := by
  rcases hfeeds with ⟨chunks, rfl, hchunks, hsize, hsha⟩
  -- every chunk goes to the temporary
  have hwrite : ∀ (data chunk : List UInt8) (u : Disk Sha), WithTemporary s u temporary inode data →
      wp handle (restoreContract hash paths authorities initial)
        (fun _ v => WithTemporary s v temporary inode (data ++ chunk)) X
        (writeChunk (some temporary) (data ++ chunk)) u := by
    intro data chunk u hu
    refine wp_sysWrite (fun _ => ⟨hkept, hu.created, inode, hu.owns⟩) ?_ ?_
    · intro e he
      have hok : u.files.write temporary (.bytes (data ++ chunk)) = .ok _ :=
        write_eq_ok.mpr ⟨inode, hu.owns.node?, rfl⟩
      rw [hok] at he
      cases he
    · intro fs hfs
      refine ⟨fun p => ?_, ?_, hu.owns.congr (node?_write hfs), hu.created⟩
      · rw [node?_write hfs]
        exact hu.nodes p
      · rw [read?_write hu.owns hfs, if_pos rfl]
  refine wp_mono (wp_consumeRestoreStream hwrite hchunks ((Nat.zero_add _).trans hsize) ht) ?_
    fun _ _ hX => hX
  rintro data u ⟨rfl, hu⟩
  exact ⟨⟨hsize, hsha⟩, hu⟩

/-- A temporary with the bytes of the member passes its checks. -/
theorem WithTemporary.verified {data : List UInt8} (hu : WithTemporary s u temporary inode data)
    (hdata : data.length = binding.sizeBytes ∧ hash.bytes data = binding.sha256)
    (htarget : u.files.node? binding.absolutePath = none) :
    verifyRehydrated hash u.files binding temporary = .ok () := by
  rcases read?_eq_some.mp hu.body with ⟨i, hi, hbody⟩
  have hidentity : stableFileIdentity u.files hash temporary =
      .ok ⟨i, 1, binding.sizeBytes, binding.sha256⟩ := by
    rw [hu.owns.node?] at hi
    cases hi
    unfold stableFileIdentity
    rw [hu.owns.node?]
    dsimp only
    rw [hbody, (links_eq_one hu.owns.node?).mpr hu.owns]
    unfold Hashing.fileSize Hashing.fileSha256
    dsimp only
    rw [hdata.1, hdata.2]
  unfold verifyRehydrated
  rw [hidentity]
  simp only [bind, Except.bind, ensure, and_self, if_true, lexists_eq_false.mpr htarget]

end

variable (h : EvictedCandidate hash paths authorities manifest before initial)

include h

section

variable (hs : Restoring hash paths authorities initial s.files)

include hs

/-- The bytes are written to the temporary, verified and linked. -/
theorem wp_linkMember {temporary : Path} {inode : Inode} {stream : Stream}
    (hbinding : binding ∈ authorities.plan.files)
    (hvacant : s.files.node? binding.absolutePath = none)
    (htemporary : s.files.node? temporary = none)
    (hkept : ¬ Kept paths authorities initial temporary) (hfeeds : Feeds hash binding stream)
    (ht : WithTemporary s t temporary inode []) :
    wp handle (restoreContract hash paths authorities initial)
      (fun data u => (data.length = binding.sizeBytes ∧ hash.bytes data = binding.sha256) ∧
        temporary ∈ u.created ∧ Restored hash u.files binding ∧
        ∀ p, u.files.node? p = if p = binding.absolutePath ∨ p = temporary then some (.file inode)
          else s.files.node? p) X (linkMember hash binding stream temporary) t := by
  have hne : binding.absolutePath ≠ temporary := by
    rintro rfl
    exact hkept (.inr (.inl (mem_map.mpr ⟨binding, hbinding, rfl⟩)))
  refine wp_bind (wp_mono (wp_readMember hkept hfeeds ht) ?_ fun _ _ hX => hX)
  rintro data u ⟨hdata, hu⟩
  have htarget : u.files.node? binding.absolutePath = none := by
    rw [hu.nodes, if_neg hne]
    exact hvacant
  have hdescribe : describe hash u.files temporary =
      some (.file binding.sha256 binding.sizeBytes) :=
    describe_eq_file.mpr ⟨_, hu.body, hdata.2, hdata.1⟩
  have hparent : u.files.isDirectory binding.absolutePath.dropLast = true := by
    have hdirectory := h.parent_later hs hbinding
    rw [isDirectory_iff] at hdirectory ⊢
    rw [hu.nodes, if_neg ?_]
    · exact hdirectory
    · rintro heq
      rcases hdirectory with ⟨i, hi⟩
      rw [heq, htemporary] at hi
      cases hi
  refine wp_observe (fun _ => trivial) (wp_bind (wp_lift ?_ ?_))
  rotate_left
  · intro e he
    rw [hu.verified hdata htarget] at he
    cases he
  intro _ _
  refine wp_bind (wp_sysLink (fun _ => .inl ⟨binding, hbinding, rfl, hdescribe⟩) ?_ ?_)
  · intro e he
    have hok : u.files.link temporary binding.absolutePath = .ok _ :=
      link_eq_ok.mpr ⟨inode, hu.owns.node?, htarget, hparent, rfl⟩
    rw [hok] at he
    cases he
  intro fs hlink
  have hnodes : ∀ p, fs.node? p = if p = binding.absolutePath ∨ p = temporary then
      some (.file inode) else s.files.node? p := by
    intro p
    rw [node?_link hlink, hu.owns.node?, hu.nodes]
    by_cases hp : p = binding.absolutePath
    · rw [if_pos hp, if_pos (.inl hp)]
    · rw [if_neg hp]
      by_cases hp' : p = temporary
      · rw [if_pos hp', if_pos (.inr hp')]
      · rw [if_neg hp', if_neg fun hor => hor.elim hp hp']
  have hdirectory : fs.isDirectory binding.absolutePath.dropLast = true :=
    isDirectory_of_set htarget
      (fun p hp => by rw [node?_link hlink, if_neg hp]) hparent
  refine wp_bind (wp_sysFsync (fun _ => trivial) ?_ ?_)
  · intro hmissing
    rw [hdirectory] at hmissing
    cases hmissing
  · intro _
    exact wp_alone_ret ⟨hdata, hu.created, (describe_link hlink).trans hdescribe, hnodes⟩

/-- A vacant target is filled, and nothing else has changed. -/
theorem wp_rehydrateThrough {temporary : Path} (hbinding : binding ∈ authorities.plan.files)
    (hvacant : s.files.node? binding.absolutePath = none) (hfeeds : Feeds hash binding call.stream)
    (hsibling : temporary.dropLast = binding.absolutePath.dropLast)
    (hfree : s.files.lexists temporary = false)
    (hkept : ¬ Kept paths authorities initial temporary) (hway : ¬ OnTheWay paths temporary) :
    wp handle (restoreContract hash paths authorities initial)
      (fun data t => (data.length = binding.sizeBytes ∧ hash.bytes data = binding.sha256) ∧
        ∃ inode, InPlace hash s t binding inode)
      (fun e t => call.afterTargetLink = .error e ∧ ∃ inode, InPlace hash s t binding inode)
      (rehydrateThrough hash binding call temporary) s := by
  have hdirectory := h.parent_later hs hbinding
  refine wp_bind (wp_sysCreate (fun _ hor => absurd hor (not_or.mpr ⟨hkept, hway⟩)) ?_ ?_)
  · intro choice' e hfresh he
    have hok : s.files.create temporary choice'.inode (.bytes []) = .ok _ :=
      create_eq_ok.mpr
        ⟨lexists_eq_false.mp hfree, by rw [hsibling]; exact hdirectory, hfresh, rfl⟩
    rw [hok] at he
    cases he
  intro inode fs hcreate
  have hunused := (create_eq_ok.mp hcreate).2.2.1
  have ht : WithTemporary s { s with files := fs, created := s.created ++ [temporary] } temporary
      inode [] := by
    refine ⟨node?_create hcreate, ?_, owns_create hcreate,
      mem_append_right _ mem_cons_self⟩
    rw [read?_create hcreate, if_pos rfl]
  refine wp_bind (wp_tryFinally (wp_mono (wp_linkMember h hs hbinding hvacant
    (lexists_eq_false.mp hfree) hkept hfeeds ht) ?_ fun _ _ hX => hX))
  rintro data u ⟨hdata, hcreated, hrestored, hnodes⟩
  have hne : binding.absolutePath ≠ temporary := by
    rintro heq
    exact hkept (.inr (.inl (mem_map.mpr ⟨binding, hbinding, heq⟩)))
  have hsource : u.files.node? temporary = some (.file inode) := by
    rw [hnodes, if_pos (.inr rfl)]
  refine wp_bind (wp_unlinkMissingOk (fun _ => ⟨hkept, hcreated⟩) hsource ?_)
  intro fs' hunlink
  have hplace : InPlace hash s { u with files := fs', unlinked := u.unlinked ++ [temporary] } binding
      inode := by
    have hafter : ∀ p, fs'.node? p =
        if p = binding.absolutePath then some (.file inode) else s.files.node? p := by
      intro p
      rw [node?_unlink hunlink, hnodes]
      by_cases hp : p = temporary
      · rw [if_pos hp, hp, if_neg hne.symm]
        exact (lexists_eq_false.mp hfree).symm
      · rw [if_neg hp]
        by_cases hp' : p = binding.absolutePath
        · rw [if_pos hp', if_pos (.inl hp')]
        · rw [if_neg hp', if_neg fun hor => hor.elim hp' hp]
    refine ⟨hafter, fun p => ?_, ?_⟩
    · -- no other name had the inode of the new file
      rw [hafter]
      split
      · rename_i hp
        exact ⟨fun _ => hp, fun _ => rfl⟩
      · rename_i hp
        exact ⟨fun hnode => absurd hnode (unused_iff.mp hunused p).1,
          fun heq => absurd heq hp⟩
    · refine (describe_congr ?_ ?_).trans hrestored
      · rw [node?_unlink hunlink, if_neg hne]
      · rw [read?_unlink hunlink, if_neg hne]
  refine wp_sysFsync (fun _ => trivial) ?_ ?_
  · intro hmissing
    rcases isDirectory_iff.mp hdirectory with ⟨i, hi⟩
    have hsame : fs'.isDirectory binding.absolutePath.dropLast = true := by
      rw [isDirectory_iff, hplace.nodes, if_neg ?_]
      · exact ⟨i, hi⟩
      · intro heq
        rw [heq, hvacant] at hi
        cases hi
    change fs'.isDirectory binding.absolutePath.dropLast = false at hmissing
    rw [hsame] at hmissing
    cases hmissing
  intro _
  have hverified := verifyRestoredTarget_eq_ok hplace.restored fun j hj => by
    rw [hplace.owns.node?] at hj
    cases hj
    exact hplace.owns
  refine wp_observe (fun _ => trivial) (wp_bind (wp_lift ?_ ?_))
  · exact fun _ _ => wp_bind (wp_lift (fun _ _ => wp_alone_ret ⟨hdata, inode, hplace⟩)
      fun e he => ⟨he, inode, hplace⟩)
  · intro e he
    rw [hverified] at he
    cases he

theorem wp_rehydrateMember (hbinding : binding ∈ authorities.plan.files)
    (hvacant : s.files.node? binding.absolutePath = none)
    (hfeeds : Feeds hash binding call.stream) :
    wp handle (restoreContract hash paths authorities initial)
      (fun data t => (data.length = binding.sizeBytes ∧ hash.bytes data = binding.sha256) ∧
        ∃ inode, InPlace hash s t binding inode)
      (fun e t => call.afterTargetLink = .error e ∧ ∃ inode, InPlace hash s t binding inode)
      (rehydrateMember hash binding call) s := by
  refine wp_alone_vis fun choice hallowed => ⟨trivial, ?_⟩
  rcases hallowed _ ⟨binding.absolutePath, .inr rfl⟩ with ⟨hfree, hkept, hway⟩
  exact wp_rehydrateThrough h hs hbinding hvacant hfeeds dropLast_concat hfree hkept hway

end

end

end RollingArchive

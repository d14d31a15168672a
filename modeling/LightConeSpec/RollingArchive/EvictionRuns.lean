import LightConeSpec.RollingArchive.EvictionFacts

/-!
# The effects of an eviction

`EvictionSafe` says what every single effect of a call satisfies, and `Sound` what holds
in every state of a run, also after a call was killed: a safe effect keeps a run sound
(`sound_handle`). The rules for the parts of a call follow the source: a receipt and a
progress record are published, a planned file is verified, unlinked and recorded, and
the loop goes on with the next one.
-/

namespace RollingArchive

open FileSystem Program Python Machine List Files

variable {Sha : Type}

section

variable (hash : Hashing Sha) (paths : EvictionPaths) (plan : RemoteEvictionPlan Sha)

/-- The file of a binding is the one that was planned. -/
def Matches (fs : Tree Sha) (binding : EvictionFileBinding Sha) : Prop :=
  fs.Owns binding.absolutePath binding.inode ∧
    hash.fileSize (fs.bodies binding.inode) = binding.sizeBytes ∧
    hash.fileSha256 (fs.bodies binding.inode) = binding.sha256

/-- What holds of a receipt when it is published. -/
structure Settled (fs : Tree Sha) (receipt : RemoteEvictionReceipt Sha) : Prop where
  planSha256 : receipt.planSha256 = hash.planSha256 plan
  loads : receipt.postInit fs = .ok ()
  opens : openPlan fs paths = .ok plan
  accounts : Accounts hash paths plan fs receipt

def LinksReceipt (s : Disk Sha) (source path : Path) : Prop :=
  path = paths.receipt ∧ ∃ receipt,
    s.files.read? source = some (.document (.evictionReceipt receipt)) ∧
    Settled hash paths plan s.files receipt ∧
    (receipt.status ≠ .complete → s.stopRequested = true)

/-- A link that records a file which has been unlinked. -/
def LinksRecord (s : Disk Sha) (path : Path) : Prop :=
  ∃ index binding, plan.files[index]? = some binding ∧ path = progressPath paths.receipt index ∧
    binding.absolutePath ∈ s.unlinked

/-- What every effect of a call satisfies. -/
def EvictionSafe (s : Disk Sha) (_ : Choice) : Effect Sha → Prop
  | .acquire | .schedulerStop _ => True
  | .link source path => openPlan s.files paths = .ok plan ∧
      s.files.lexists paths.receipt = false ∧
      (LinksReceipt hash paths plan s source path ∨ LinksRecord paths plan s path)
  | .unlink path =>
    (openPlan s.files paths = .ok plan ∧ s.files.lexists paths.receipt = false ∧
      ∃ binding ∈ plan.files, path = binding.absolutePath ∧ Matches hash s.files binding) ∨
    (path ∈ s.created ∧ ¬ Watched paths plan path)
  | e => QuietEffect (Watched paths plan) s e

/-- What holds in every state of a run that starts with these files. -/
structure Sound (initial : Tree Sha) (s : Disk Sha) : Prop where
  rooted : s.files.Rooted
  planFile : s.files.read? paths.plan = some (.document (.plan plan))
  records : ∀ index binding, plan.files[index]? = some binding →
    Recorded hash paths plan s.files index binding →
    binding.absolutePath ∈ s.unlinked ∨ Recorded hash paths plan initial index binding
  receipt : s.files.lexists paths.receipt = true → initial.lexists paths.receipt = false →
    ∃ receipt, s.files.read? paths.receipt = some (.document (.evictionReceipt receipt)) ∧
      Settled hash paths plan s.files receipt
  stays : initial.lexists paths.receipt = true → s.files.lexists paths.receipt = true

end

variable {hash : Hashing Sha} {paths : EvictionPaths} {plan : RemoteEvictionPlan Sha}
  {fs fs' initial : Tree Sha} {s t : Disk Sha}

/-! ## One effect -/

/-- The disk stays a tree. -/
theorem rooted_handle (hs : s.files.Rooted) (choice : Choice) (e : Effect Sha) :
    (handle s choice e).2.files.Rooted := by
  cases e with
  | acquire => exact hs
  | observe => exact hs
  | uuid4 => exact hs
  | fsync path => exact hs
  | schedulerStop reason => exact hs
  | mkdir path => exact files_attempt hs (fun _ => rfl) fun _ h => rooted_mkdir hs h
  | create path => exact files_attempt hs (fun _ => rfl) fun _ h => rooted_create hs h
  | write path body => exact files_attempt hs (fun _ => rfl) fun _ h => rooted_write hs h
  | link source path => exact files_attempt hs (fun _ => rfl) fun _ h => rooted_link hs h
  | unlink path => exact files_attempt hs (fun _ => rfl) fun _ h => rooted_unlink hs h

/-- A settled receipt stays settled while nothing watched changes. -/
theorem Settled.agrees {receipt : RemoteEvictionReceipt Sha}
    (h : Settled hash paths plan fs receipt) (hagrees : Files.Agrees (Watched paths plan) fs fs') :
    Settled hash paths plan fs' receipt := by
  refine ⟨h.planSha256, postInit_receipt_mono h.loads hagrees,
    openPlan_mono h.opens hagrees (.inl rfl), h.accounts.congr ?_ ?_⟩
  · exact fun index binding hindex => hagrees.read _ (watched_progressPath hindex)
  · exact fun index binding hindex => hagrees.lexists (watched_planned hindex)

section

variable (h : Sound hash paths plan initial s)

include h

/-- Soundness is about the watched paths. -/
theorem Sound.agrees
    (hagrees : Files.Agrees (Watched paths plan) s.files t.files) (hrooted : t.files.Rooted)
    (hunlinked : ∀ p ∈ s.unlinked, p ∈ t.unlinked) : Sound hash paths plan initial t := by
  refine ⟨hrooted, ?_, ?_, ?_, ?_⟩
  · rw [hagrees.read _ (.inl rfl)]
    exact h.planFile
  · intro index binding hindex hrecorded
    rw [recorded_congr (hagrees.read _ (watched_progressPath hindex))] at hrecorded
    exact (h.records index binding hindex hrecorded).imp_left (hunlinked _)
  · intro hexists hinitial
    rw [hagrees.lexists (.inr (.inl rfl))] at hexists
    rcases h.receipt hexists hinitial with ⟨receipt, hread, hsettled⟩
    refine ⟨receipt, ?_, hsettled.agrees hagrees⟩
    rw [hagrees.read _ (.inr (.inl rfl))]
    exact hread
  · rw [hagrees.lexists (.inr (.inl rfl))]
    exact h.stays

/-- A system call that fails changes nothing. -/
theorem sound_attempt {outcome : Except Errno (Tree Sha)} {done : Disk Sha → Disk Sha}
    (hok : ∀ fs, outcome = .ok fs → Sound hash paths plan initial (done { s with files := fs })) :
    Sound hash paths plan initial (s.attempt outcome done).2 := by
  unfold Disk.attempt
  cases outcome with
  | error e => exact h
  | ok fs => exact hok fs rfl

/-- The link of a receipt. -/
theorem Sound.linkReceipt {source path : Path}
    (hlink : s.files.link source path = .ok fs) (hopens : openPlan s.files paths = .ok plan)
    (hreceipt : LinksReceipt hash paths plan s source path) :
    Sound hash paths plan initial { s with files := fs } := by
  rcases hreceipt with ⟨rfl, receipt, hread, hsettled, -⟩
  have hlayout := layout_of_openPlan hopens
  have hvacant := (link_eq_ok.mp hlink).choose_spec.2.1
  -- a link changes what is read at its own name only
  have hagrees : Files.Agrees (fun p => Watched paths plan p ∧ p ≠ paths.receipt) s.files fs :=
    agrees_link hlink fun hW => hW.2 rfl
  have hprogress : ∀ index binding, plan.files[index]? = some binding →
      fs.read? (progressPath paths.receipt index) =
        s.files.read? (progressPath paths.receipt index) :=
    fun index binding hindex => hagrees.read _ ⟨watched_progressPath hindex,
      progressPath_ne_receipt hlayout.receipt_ne_nil index⟩
  have hplan : paths.plan ≠ paths.receipt := by
    intro heq
    have hplan := h.planFile
    rw [heq] at hplan
    have hexists := lexists_of_read? hplan
    rw [lexists_eq_false.mpr hvacant] at hexists
    cases hexists
  have hplanned : ∀ (index : ℕ) (binding : EvictionFileBinding Sha), plan.files[index]? = some binding →
      fs.lexists binding.absolutePath = s.files.lexists binding.absolutePath := by
    intro index binding hindex
    have hW : Watched paths plan binding.absolutePath := watched_planned hindex
    refine hagrees.lexists ⟨hW, ?_⟩
    have hmem : binding.absolutePath ∈ plan.files.map (·.absolutePath) :=
      mem_map.mpr ⟨binding, mem_of_getElem? hindex, rfl⟩
    exact (hlayout.planned_ne hmem).1 _ (prefix_refl _)
  have hread' : fs.read? paths.receipt = some (.document (.evictionReceipt receipt)) := by
    rw [read?_link hlink, if_pos rfl]
    exact hread
  refine ⟨rooted_link h.rooted hlink, ?_, ?_, ?_, fun _ => lexists_of_read? hread'⟩
  · rw [hagrees.read _ ⟨.inl rfl, hplan⟩]
    exact h.planFile
  · intro index binding hindex hrecorded
    rw [recorded_congr (hprogress index binding hindex)] at hrecorded
    exact h.records index binding hindex hrecorded
  · intro _ _
    exact ⟨receipt, hread', hsettled.planSha256, postInit_receipt_mono hsettled.loads hagrees,
      openPlan_mono hsettled.opens hagrees ⟨.inl rfl, hplan⟩,
      hsettled.accounts.congr hprogress hplanned⟩

/-- The link of a progress record. -/
theorem Sound.linkRecord {source path : Path}
    (hlink : s.files.link source path = .ok fs) (hopens : openPlan s.files paths = .ok plan)
    (habsent : s.files.lexists paths.receipt = false) (hrecord : LinksRecord paths plan s path) :
    Sound hash paths plan initial { s with files := fs } := by
  rcases hrecord with ⟨index, binding, hindex, rfl, hunlinked⟩
  have hlayout := layout_of_openPlan hopens
  have hvacant := (link_eq_ok.mp hlink).choose_spec.2.1
  have hagrees : Files.Agrees (fun p => p ≠ progressPath paths.receipt index) s.files fs :=
    agrees_link hlink fun hW => hW rfl
  refine ⟨rooted_link h.rooted hlink, ?_, ?_, ?_, ?_⟩
  · rw [hagrees.read _ ?_]
    · exact h.planFile
    · intro heq
      have hexists := lexists_of_read? h.planFile
      rw [heq, lexists_eq_false.mpr hvacant] at hexists
      cases hexists
  · intro index' binding' hindex' hrecorded
    by_cases heq : index' = index
    · subst heq
      rw [hindex] at hindex'
      cases hindex'
      exact .inl hunlinked
    · have hne : progressPath paths.receipt index' ≠ progressPath paths.receipt index :=
        fun hpath => heq (progressPath_injective _ hpath)
      rw [recorded_congr (hagrees.read _ hne)] at hrecorded
      exact h.records index' binding' hindex' hrecorded
  · intro hexists
    have hne := (progressPath_ne_receipt hlayout.receipt_ne_nil index).symm
    change fs.lexists paths.receipt = true at hexists
    rw [hagrees.lexists hne, habsent] at hexists
    cases hexists
  · intro hinitial
    have hexists := h.stays hinitial
    rw [habsent] at hexists
    cases hexists

/-- The removal of a planned file. -/
theorem Sound.unlinkPlanned {binding : EvictionFileBinding Sha}
    (hunlink : s.files.unlink binding.absolutePath = .ok fs)
    (hopens : openPlan s.files paths = .ok plan) (habsent : s.files.lexists paths.receipt = false)
    (hbinding : binding ∈ plan.files) : Sound hash paths plan initial
      { s with files := fs, unlinked := s.unlinked ++ [binding.absolutePath] } := by
  have hlayout := layout_of_openPlan hopens
  have hplanned : binding.absolutePath ∈ plan.files.map (·.absolutePath) :=
    mem_map.mpr ⟨binding, hbinding, rfl⟩
  have hagrees : Files.Agrees (fun p => p ≠ binding.absolutePath) s.files fs :=
    agrees_unlink hunlink fun hW => hW rfl
  refine ⟨rooted_unlink h.rooted hunlink, ?_, ?_, ?_, ?_⟩
  · rw [hagrees.read _ ?_]
    · exact h.planFile
    · rw [← hlayout.member binding hbinding]
      intro heq
      refine hlayout.plan_outside ?_
      rw [heq]
      exact prefix_append _ _
  · intro index binding' hindex hrecorded
    have hne : progressPath paths.receipt index ≠ binding.absolutePath :=
      ((hlayout.planned_ne hplanned).2.2.2 _).symm
    rw [recorded_congr (hagrees.read _ hne)] at hrecorded
    exact (h.records index binding' hindex hrecorded).imp_left (mem_append_left _)
  · intro hexists
    have hne : paths.receipt ≠ binding.absolutePath :=
      ((hlayout.planned_ne hplanned).1 _ (prefix_refl _)).symm
    change fs.lexists paths.receipt = true at hexists
    rw [hagrees.lexists hne, habsent] at hexists
    cases hexists
  · intro hinitial
    have hexists := h.stays hinitial
    rw [habsent] at hexists
    cases hexists

/-- A safe effect keeps a run sound. -/
theorem sound_handle {choice : Choice} {e : Effect Sha}
    (hsafe : EvictionSafe hash paths plan s choice e) :
    Sound hash paths plan initial (handle s choice e).2 := by
  have hrooted := rooted_handle h.rooted choice e
  cases e with
  | acquire => exact h.agrees (.refl _) hrooted fun _ h => h
  | schedulerStop reason => exact h.agrees (.refl _) hrooted fun _ h => h
  | observe => exact h
  | uuid4 => exact h
  | fsync path => exact h
  | mkdir path =>
    refine sound_attempt h fun fs hfs => ?_
    exact h.agrees (frame_mkdir hfs hsafe).toAgrees (rooted_mkdir h.rooted hfs)
      fun _ h => h
  | create path =>
    refine sound_attempt h fun fs hfs => ?_
    exact h.agrees (frame_create hfs hsafe).toAgrees (rooted_create h.rooted hfs)
      fun _ h => h
  | write path body =>
    rcases hsafe with ⟨hW, -, i, howns⟩
    refine sound_attempt h fun fs hfs => ?_
    exact h.agrees (frame_write howns hfs hW).toAgrees (rooted_write h.rooted hfs)
      fun _ h => h
  | link source path =>
    rcases hsafe with ⟨hopens, habsent, hlinks⟩
    refine sound_attempt h fun fs hfs => ?_
    rcases hlinks with hreceipt | hrecord
    · exact h.linkReceipt hfs hopens hreceipt
    · exact h.linkRecord hfs hopens habsent hrecord
  | unlink path =>
    refine sound_attempt h fun fs hfs => ?_
    rcases hsafe with ⟨hopens, habsent, binding, hbinding, rfl, -⟩ | ⟨-, hW⟩
    · exact h.unlinkPlanned hfs hopens habsent hbinding
    · exact h.agrees (agrees_unlink hfs hW) (rooted_unlink h.rooted hfs)
        fun _ h => mem_append_left _ h

end

/-! ## The parts of a call -/

abbrev evictionContract (hash : Hashing Sha) (paths : EvictionPaths) (plan : RemoteEvictionPlan Sha) :
    Contract (Effect Sha) (Disk Sha) Choice :=
  Contract.alone (fun _ _ _ => True) (EvictionSafe hash paths plan)

def IsPublished (paths : EvictionPaths) (receipt : RemoteEvictionReceipt Sha) (t : Disk Sha) : Prop :=
  t.files.read? paths.receipt = some (.document (.evictionReceipt receipt))

/-- There is no receipt on the disk. -/
def IsUnpublished (paths : EvictionPaths) (_ : Raised) (t : Disk Sha) : Prop :=
  t.files.lexists paths.receipt = false

/-- The call has opened the plan, and there is no receipt. -/
structure Opened (paths : EvictionPaths) (plan : RemoteEvictionPlan Sha) (fs : Tree Sha) : Prop where
  opens : openPlan fs paths = .ok plan
  absent : fs.lexists paths.receipt = false

theorem Opened.layout (h : Opened paths plan fs) : Layout paths plan :=
  layout_of_openPlan h.opens

theorem Opened.plan_exists (h : Opened paths plan fs) : fs.lexists paths.plan = true := by
  have hfile := (openPlan_eq_ok.mp h.opens).2.1
  rcases (existingFile_eq_ok.mp hfile).2 with ⟨i, hi⟩
  exact lexists_iff.mpr ⟨_, hi⟩

theorem Opened.agrees {W : Path → Prop} (h : Opened paths plan fs) (hagrees : Files.Agrees W fs fs')
    (hplan : W paths.plan) (hreceipt : W paths.receipt) : Opened paths plan fs' := by
  refine ⟨openPlan_mono h.opens hagrees hplan, ?_⟩
  rw [hagrees.lexists hreceipt]
  exact h.absent

/-- The removal of a planned file, when the plan is open. -/
theorem Opened.unlink {binding : EvictionFileBinding Sha} (h : Opened paths plan fs) (hbinding : binding ∈ plan.files)
    (hagrees : Files.Agrees (fun p => Watched paths plan p ∧ p ≠ binding.absolutePath) fs fs') :
    Opened paths plan fs' := by
  have hlayout := h.layout
  have hplanned : binding.absolutePath ∈ plan.files.map (·.absolutePath) :=
    mem_map.mpr ⟨binding, hbinding, rfl⟩
  refine h.agrees hagrees ⟨.inl rfl, ?_⟩ ⟨.inr (.inl rfl), ?_⟩
  · rw [← hlayout.member binding hbinding]
    intro heq
    refine hlayout.plan_outside ?_
    rw [heq]
    exact prefix_append _ _
  · exact ((hlayout.planned_ne hplanned).1 _ (prefix_refl _)).symm

theorem quiet_safe (t : Disk Sha) (choice : Choice) (e : Effect Sha)
    (h : QuietEffect (Watched paths plan) t e) (_ : ∀ path, e ≠ .create path) :
    EvictionSafe hash paths plan t choice e := by
  cases e with
  | unlink path => exact .inr ⟨h.2, h.1⟩
  | acquire => trivial
  | schedulerStop reason => trivial
  | link source path => exact h.elim
  | observe => exact h
  | uuid4 => exact h
  | fsync path => exact h
  | mkdir path => exact h
  | create path => exact h
  | write path body => exact h

/-- The directories that a publication makes are not watched, the plan apart. -/
theorem Opened.directories (h : Opened paths plan fs) {directory : Path}
    (hdirectory : directory = paths.receipt.dropLast ∨ directory = progressRoot paths.receipt) :
    ∀ q ∈ directory.inits.tail, Watched paths plan q → fs.lexists q = true := by
  intro q hq hW
  have hbelow : q <+: directory := (mem_inits _ _).mp (mem_of_mem_tail hq)
  have hplan : q = paths.plan := by
    refine h.layout.directory hW ?_
    rcases hdirectory with rfl | rfl
    · exact .inl hbelow
    · exact .inr hbelow
  rw [hplan]
  exact h.plan_exists

/-- A receipt that accounts for every file is published and loaded. -/
theorem wp_publishReceipt {receipt : RemoteEvictionReceipt Sha} (hopened : Opened paths plan s.files)
    (hsha : receipt.planSha256 = hash.planSha256 plan)
    (haccounts : Accounts hash paths plan s.files receipt)
    (hstop : receipt.status ≠ .complete → s.stopRequested = true) :
    wp handle (evictionContract hash paths plan) (IsPublished paths) (IsUnpublished paths)
      (publishReceipt paths.receipt receipt) s := by
  have hlayout := hopened.layout
  refine wp_observe (fun _ => trivial) (wp_bind (wp_lift ?_ fun e _ => hopened.absent))
  intro _ hloads
  have htemporary : ∀ uuid, Watched paths plan (partialPath paths.receipt uuid) →
      s.files.lexists (partialPath paths.receipt uuid) = true := by
    intro uuid hW
    rw [hlayout.receiptTemporary hW]
    exact hopened.plan_exists
  refine wp_bind (wp_publish quiet_safe ?_ (.inr (.inl rfl)) (fun _ _ _ => htemporary _)
    (hopened.directories (.inl rfl)) ?_ ?_ ?_)
  · intro t choice choice' ht _ hW
    exact (ht.frame.lexists hW).trans (htemporary _ hW)
  · intro t choice temporary hquiet hread
    have hopened' := hopened.agrees hquiet.frame.toAgrees (.inl rfl) (.inr (.inl rfl))
    refine ⟨hopened'.opens, hopened'.absent, .inl ⟨rfl, receipt, hread, ?_, ?_⟩⟩
    · exact Settled.agrees ⟨hsha, hloads, hopened.opens, haccounts⟩ hquiet.frame.toAgrees
    · intro hstatus
      rw [hquiet.stop]
      exact hstop hstatus
  · intro t hpublished
    refine wp_observe (fun _ => trivial) (wp_lift ?_ ?_)
    · intro loaded hloaded
      have hread := (readCanonicalObject_eq_some.mp (loadRemoteEvictionReceipt_eq_ok.mp hloaded).1).2
      exact hread
    · -- what was published is read back
      intro e he
      have hagrees := hpublished.quiet.frame.toAgrees
      have hnormal := (outsideCandidate_eq_ok.mp (openPlan_eq_ok.mp hopened.opens).2.2.2.1).1
      rcases read?_eq_some.mp hpublished.read with ⟨i, hi, -⟩
      have hexisting : existingFile t.files paths.receipt "remote eviction receipt" = .ok () :=
        existingFile_eq_ok.mpr ⟨hagrees.isNormalized hnormal, i, hi⟩
      have hload : loadRemoteEvictionReceipt t.files paths.receipt = .ok receipt :=
        loadRemoteEvictionReceipt_eq_ok.mpr
          ⟨readCanonicalObject_eq_some.mpr ⟨hexisting, hpublished.read⟩,
            postInit_receipt_mono hloads hagrees⟩
      rw [hload] at he
      cases he
  · intro e t _ hquiet _
    exact (hquiet.frame.lexists (.inr (.inl rfl))).trans hopened.absent

variable {callbacks : Callbacks Sha}

/-- A failure is reported after the scheduler was asked to stop. -/
theorem wp_publishEvictionFailure {deleted : List (EvictedFileReceipt Sha)} {missing : List Path}
    {code : String} {failurePath : Option Path} (hopened : Opened paths plan s.files)
    (hdeleted : RecordedRows hash paths plan s.files deleted)
    (hmissing : UnrecordedPaths hash paths plan s.files missing) :
    wp handle (evictionContract hash paths plan) (IsPublished paths) (IsUnpublished paths)
      (publishEvictionFailure hash paths.receipt plan callbacks deleted missing code failurePath)
      s := by
  have hstop : wp handle (evictionContract hash paths plan)
      (fun _ t => t = { s with stopRequested := true }) (IsUnpublished paths)
      (requestStop callbacks.schedulerStop) s := by
    refine wp_alone_vis fun choice _ => ⟨trivial, ?_⟩
    cases callbacks.schedulerStop with
    | ok _ => exact wp_alone_ret rfl
    | error e =>
      dsimp only
      split
      · exact wp_alone_ret rfl
      · exact wp_alone_throw hopened.absent
  refine wp_bind (wp_mono hstop ?_ fun _ _ h => h)
  rintro stopped t rfl
  refine wp_bind (wp_lift ?_ fun e _ => hopened.absent)
  intro now _
  have hstatus : (failureReceipt hash plan deleted missing code failurePath stopped now).status ≠
      .complete := by
    unfold failureReceipt
    dsimp only
    split <;> exact nofun
  refine wp_publishReceipt hopened rfl ⟨?_, fun h => absurd h hstatus, fun _ => ?_⟩ fun _ => rfl
  · intro row
    rw [failureReceipt, mem_sortedBy]
    exact hdeleted row
  · intro path
    rw [failureReceipt, mem_sortedPaths]
    exact hmissing path

/-! ## One planned file -/

section

variable [DecidableEq Sha] {binding : EvictionFileBinding Sha} {index : ℕ} {row : EvictedFileReceipt Sha}
  {deleted : List (EvictedFileReceipt Sha)}

theorem matches_of_verifyIdentity (h : verifyIdentity fs hash plan binding = .ok ()) :
    Matches hash fs binding := by
  unfold verifyIdentity at h
  rw [then_eq_ok] at h
  rcases bind_eq_ok.mp h.2 with ⟨path, -, hrest⟩
  rw [then_eq_ok, ensure_eq_ok] at hrest
  rcases hrest with ⟨rfl, hrest⟩
  rcases bind_eq_ok.mp hrest with ⟨identity, hidentity, hsame⟩
  rw [ensure_eq_ok] at hsame
  subst hsame
  unfold stableFileIdentity at hidentity
  split at hidentity
  · cases hidentity
  · rename_i inode hnode
    simp only [Except.ok.injEq, StableIdentity.mk.injEq] at hidentity
    rcases hidentity with ⟨rfl, hlinks, hsize, hsha⟩
    exact ⟨(links_eq_one hnode).mp hlinks, hsize, hsha⟩
  · cases hidentity

/-- The verification of a binding only reads. -/
theorem wp_verifyEvictionFileBinding {probe : Except Raised (Option Bool)}
    {Q : Unit → Disk Sha → Prop} {X : Raised → Disk Sha → Prop}
    (hok : Matches hash s.files binding → Q () s) (hraise : ∀ e, X e s) :
    wp handle (evictionContract hash paths plan) Q X
      (verifyEvictionFileBinding hash plan binding probe) s := by
  refine wp_observe (fun _ => trivial) (wp_bind (wp_lift ?_ fun e _ => hraise e))
  intro _ hidentity
  refine wp_bind (wp_lift ?_ fun e _ => hraise e)
  intro _ _
  refine wp_observe (fun _ => trivial) (wp_lift ?_ fun e _ => hraise e)
  intro _ _
  exact hok (matches_of_verifyIdentity hidentity)

/-- A file that was unlinked is recorded, or nothing is. -/
theorem wp_publishEvictionProgress (hopened : Opened paths plan s.files)
    (hindex : plan.files[index]? = some binding) (hunlinked : binding.absolutePath ∈ s.unlinked)
    (hbinds : EvictionProgress.binds hash plan binding index ⟨hash.planSha256 plan, index, row⟩) :
    wp handle (evictionContract hash paths plan) (fun _ t => Opened paths plan t.files ∧
        Files.Agrees (fun p => Watched paths plan p ∧ p ≠ progressPath paths.receipt index)
          s.files t.files ∧ RecordedFile hash paths plan t.files index binding row)
      (fun _ t => Files.Agrees (Watched paths plan) s.files t.files)
      (publishEvictionProgress hash paths.receipt plan index row) s := by
  have hlayout := hopened.layout
  have hwatched : Watched paths plan (progressPath paths.receipt index) :=
    watched_progressPath hindex
  refine wp_bind (wp_mono (wp_makedirs quiet_safe (hopened.directories (.inr rfl))) ?_
    fun e t h => h.2.1.frame.toAgrees)
  rintro _ t ⟨ht, -⟩
  have hagrees := ht.frame.toAgrees
  have hopened' := hopened.agrees hagrees (.inl rfl) (.inr (.inl rfl))
  refine wp_observe (fun _ => trivial) (wp_bind (wp_lift ?_ fun e _ => hagrees))
  intro _ _
  dsimp only
  split
  · -- there is a record already
    refine wp_bind (wp_lift ?_ fun e _ => hagrees)
    intro existing hread
    refine wp_lift ?_ fun e _ => hagrees
    intro _ hsame
    rw [ensure_eq_ok] at hsame
    rw [hsame] at hread
    refine ⟨hopened', hagrees.mono fun p hp => hp.1, _, ?_, hbinds, rfl⟩
    exact (readCanonicalObject_eq_some.mp hread).2
  · rename_i hvacant
    have htemporary : ∀ uuid, Watched paths plan (partialPath (progressPath paths.receipt index) uuid) →
        t.files.lexists (partialPath (progressPath paths.receipt index) uuid) = true := by
      intro uuid hW
      rw [hlayout.progressTemporary hW]
      exact hopened'.plan_exists
    refine wp_publish quiet_safe ?_ hwatched (fun _ _ _ => htemporary _) ?_ ?_ ?_ ?_
    · intro u choice choice' hu _ hW
      exact (hu.frame.lexists hW).trans (htemporary _ hW)
    · have hparent : (progressPath paths.receipt index).dropLast = progressRoot paths.receipt := by
        rw [progressPath, dropLast_concat]
      rw [hparent]
      exact hopened'.directories (.inr rfl)
    · intro u choice temporary hquiet _
      have hopened'' := hopened'.agrees hquiet.frame.toAgrees (.inl rfl) (.inr (.inl rfl))
      refine ⟨hopened''.opens, hopened''.absent, .inr ⟨index, binding, hindex, rfl, ?_⟩⟩
      exact hquiet.unlinked _ (ht.unlinked _ hunlinked)
    · intro u hpublished
      have hframe := hpublished.quiet.frame.toAgrees
      have hplan : paths.plan ≠ progressPath paths.receipt index := by
        intro heq
        rw [← heq] at hvacant
        exact hvacant hopened'.plan_exists
      refine ⟨hopened'.agrees hframe ⟨.inl rfl, hplan⟩ ⟨.inr (.inl rfl), ?_⟩,
        (hagrees.mono fun p hp => hp.1).trans hframe, _, hpublished.read, hbinds, rfl⟩
      exact (progressPath_ne_receipt hlayout.receipt_ne_nil index).symm
    · intro e u _ hquiet _
      exact hagrees.trans hquiet.frame.toAgrees

/-- What a file is like that has just been evicted. -/
structure Evicted (hash : Hashing Sha) (paths : EvictionPaths) (plan : RemoteEvictionPlan Sha)
    (index : ℕ) (binding : EvictionFileBinding Sha) (row : EvictedFileReceipt Sha)
    (fs fs' : Tree Sha) : Prop where
  opened : Opened paths plan fs'
  agrees : Files.Agrees (fun p => (Watched paths plan p ∧ p ≠ binding.absolutePath) ∧
    p ≠ progressPath paths.receipt index) fs fs'
  recorded : RecordedFile hash paths plan fs' index binding row
  absent : fs'.lexists binding.absolutePath = false

/-- One planned file is evicted, or at most removed. -/
theorem wp_evictFile (hopened : Opened paths plan s.files)
    (hindex : plan.files[index]? = some binding) : wp handle (evictionContract hash paths plan)
      (fun row t => Evicted hash paths plan index binding row s.files t.files)
      (fun _ t => Files.Agrees (fun p => Watched paths plan p ∧ p ≠ binding.absolutePath)
        s.files t.files) (evictFile hash paths.receipt plan callbacks index binding) s := by
  have hbinding := mem_of_getElem? hindex
  refine wp_bind (wp_verifyEvictionFileBinding ?_ fun e => .refl _)
  intro hmatches
  refine wp_bind (wp_sysUnlink (fun _ => .inl ⟨hopened.opens, hopened.absent, binding, hbinding,
    rfl, hmatches⟩) (fun e _ => .refl _) ?_)
  intro fs hunlink
  have hagrees : Files.Agrees (fun p => Watched paths plan p ∧ p ≠ binding.absolutePath)
      s.files fs := agrees_unlink hunlink fun hW => hW.2 rfl
  have hopened' := hopened.unlink hbinding hagrees
  refine wp_bind (wp_sysFsync (fun _ => trivial) (fun _ => hagrees) fun _ => ?_)
  refine wp_bind (wp_lift ?_ fun e _ => hagrees)
  intro _ _
  refine wp_bind (wp_lift ?_ fun e _ => hagrees)
  intro now _
  refine wp_observe (fun _ => trivial) (wp_bind (wp_lift ?_ fun e _ => hagrees))
  intro _ _
  have hbinds : EvictionProgress.binds hash plan binding index ⟨hash.planSha256 plan, index,
      binding.absolutePath, binding.archiveRelativePath, binding.sizeBytes, binding.sha256, now⟩ :=
    ⟨rfl, rfl, rfl, rfl, rfl, rfl⟩
  refine wp_bind (wp_mono (wp_publishEvictionProgress hopened' hindex
    (mem_append_right _ mem_cons_self) hbinds) ?_ ?_)
  · rintro _ t ⟨hopened'', hprogress, hrecorded⟩
    refine wp_alone_ret ⟨hopened'', ?_, hrecorded, ?_⟩
    · exact (hagrees.mono fun p hp => hp.1).trans (hprogress.mono fun p hp => ⟨hp.1.1, hp.2⟩)
    · have hplanned : binding.absolutePath ∈ plan.files.map (·.absolutePath) :=
        mem_map.mpr ⟨binding, hbinding, rfl⟩
      have hne := (hopened.layout.planned_ne hplanned).2.2.2 (progressName index)
      rw [hprogress.lexists ⟨watched_planned hindex, hne⟩, lexists_eq_false,
        node?_unlink hunlink, if_pos rfl]
  · intro e t ht
    exact hagrees.trans (ht.mono fun p hp => hp.1)

end

end RollingArchive

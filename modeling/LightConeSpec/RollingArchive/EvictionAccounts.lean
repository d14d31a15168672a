import LightConeSpec.RollingArchive.EvictionRuns

/-!
# An eviction accounts for every file

Calls of `execute_remote_eviction_plan`, one after the other, each of which may be killed
between two system calls. `EvictionAccounts` says what holds along a run: which files are
unlinked, what a published receipt lists, and that it stays the last word.

A call that fails before it deletes anything lists every absent file as missing, and no
deleted file when the gate fails or the progress does not load. `StartsAccurately` is the
condition under which that is right. `eviction_accounts` proves the rest from it, and
`recorded_deletion_unreported` is a run without it.
-/

namespace RollingArchive

open FileSystem Program Python Machine List Files

variable {Sha : Type} [DecidableEq Sha] {hash : Hashing Sha} {paths : EvictionPaths}
  {plan : RemoteEvictionPlan Sha} {fs fs' initial : Tree Sha} {s t : Disk Sha}
  {callbacks : Callbacks Sha} {binding : EvictionFileBinding Sha} {index : ℕ}
  {row : EvictedFileReceipt Sha} {deleted : List (EvictedFileReceipt Sha)}

/-! ## The loop -/

/-- A call is under way: it holds the rows of all recorded files, and these are absent. -/
structure Underway (hash : Hashing Sha) (paths : EvictionPaths) (plan : RemoteEvictionPlan Sha)
    (fs : Tree Sha) (deleted : List (EvictedFileReceipt Sha)) : Prop where
  opened : Opened paths plan fs
  rows : RecordedRows hash paths plan fs deleted
  absent : ∀ index binding, plan.files[index]? = some binding →
    Recorded hash paths plan fs index binding → fs.lexists binding.absolutePath = false

omit [DecidableEq Sha] in
/-- A file that is not among the rows has been evicted. -/
theorem Evicted.underway (h : Evicted hash paths plan index binding row fs fs')
    (hunderway : Underway hash paths plan fs deleted) (hindex : plan.files[index]? = some binding)
    (hnew : binding.absolutePath ∉ deleted.map (·.absolutePath)) :
    Underway hash paths plan fs' (deleted ++ [row]) := by
  have hlayout := hunderway.opened.layout
  have hunrecorded : ¬ Recorded hash paths plan fs index binding := by
    rw [← hunderway.rows.mem_path hlayout hindex]
    exact hnew
  have hplanned : ∀ (j : ℕ) (other : EvictionFileBinding Sha), plan.files[j]? = some other →
      other.absolutePath ∈ plan.files.map (·.absolutePath) :=
    fun j other hother => mem_map.mpr ⟨other, mem_of_getElem? hother, rfl⟩
  -- the records of the other files are as they were
  have hothers : ∀ (j : ℕ) (other : EvictionFileBinding Sha), plan.files[j]? = some other →
      j ≠ index → fs'.read? (progressPath paths.receipt j) =
        fs.read? (progressPath paths.receipt j) := by
    intro j other hother hne
    refine h.agrees.read _ ⟨⟨watched_progressPath hother, ?_⟩, ?_⟩
    · exact ((hlayout.planned_ne (hplanned index binding hindex)).2.2.2 _).symm
    · exact fun heq => hne (progressPath_injective _ heq)
  refine ⟨h.opened, ?_, ?_⟩
  · intro r
    rw [mem_append, mem_singleton, hunderway.rows r]
    constructor
    · rintro (⟨j, other, hother, hrecorded⟩ | rfl)
      · refine ⟨j, other, hother, (recordedFile_congr (hothers j other hother ?_)).mpr hrecorded⟩
        rintro rfl
        rw [hindex] at hother
        cases hother
        exact hunrecorded ⟨r, hrecorded⟩
      · exact ⟨index, binding, hindex, h.recorded⟩
    · rintro ⟨j, other, hother, hrecorded⟩
      by_cases hj : j = index
      · subst hj
        rw [hindex] at hother
        cases hother
        exact .inr (hrecorded.unique h.recorded)
      · exact .inl ⟨j, other, hother, (recordedFile_congr (hothers j other hother hj)).mp hrecorded⟩
  · intro j other hother hrecorded
    by_cases hj : j = index
    · subst hj
      rw [hindex] at hother
      cases hother
      exact h.absent
    · have hne : other.absolutePath ≠ binding.absolutePath :=
        fun hpath => hj (hlayout.eq_of_path hother hindex hpath).1
      have hprogress := (hlayout.planned_ne (hplanned j other hother)).2.2.2 (progressName index)
      rw [h.agrees.lexists ⟨⟨watched_planned hother, hne⟩, hprogress⟩]
      refine hunderway.absent j other hother ?_
      exact (recorded_congr (hothers j other hother hj)).mp hrecorded

omit [DecidableEq Sha] in
/-- A file has been removed, or nothing has, and the rows are still the recorded ones. -/
theorem Underway.removed (h : Underway hash paths plan fs deleted) (hbinding : binding ∈ plan.files)
    (hagrees : Files.Agrees (fun p => Watched paths plan p ∧ p ≠ binding.absolutePath) fs fs') :
    Opened paths plan fs' ∧ RecordedRows hash paths plan fs' deleted := by
  have hlayout := h.opened.layout
  refine ⟨h.opened.unlink hbinding hagrees, fun r => ?_⟩
  rw [h.rows r]
  refine exists_congr fun j => exists_congr fun other => and_congr_right fun hother => ?_
  refine (recordedFile_congr (hagrees.read _ ⟨watched_progressPath hother, ?_⟩)).symm
  exact ((hlayout.planned_ne (mem_map.mpr ⟨binding, hbinding, rfl⟩)).2.2.2 _).symm

/-- What the loop hands on: a receipt that it has published, or the rows of all planned
files. -/
def HandedOn (hash : Hashing Sha) (paths : EvictionPaths) (plan : RemoteEvictionPlan Sha) :
    RemoteEvictionReceipt Sha ⊕ List (EvictedFileReceipt Sha) → Disk Sha → Prop
  | .inl receipt, t => IsPublished paths receipt t
  | .inr deleted, t => Underway hash paths plan t.files deleted ∧
      ∀ binding ∈ plan.files, binding.absolutePath ∈ deleted.map (·.absolutePath)

/-- The loop, from one file to the last. -/
theorem wp_evictFiles {rest : List (EvictionFileBinding Sha)} {start : ℕ}
    (h : Underway hash paths plan s.files deleted) (hrest : plan.files.drop start = rest)
    (hdone : ∀ index < start, ∀ binding, plan.files[index]? = some binding →
      binding.absolutePath ∈ deleted.map (·.absolutePath)) :
    wp handle (evictionContract hash paths plan) (HandedOn hash paths plan) (IsUnpublished paths)
      (evictFiles hash paths.receipt plan callbacks start rest deleted) s := by
  induction rest generalizing start deleted s with
  | nil =>
    refine wp_alone_ret ⟨h, fun binding hbinding => ?_⟩
    rcases mem_iff_getElem?.mp hbinding with ⟨index, hindex⟩
    refine hdone index ?_ binding hindex
    have hlt := (List.getElem?_eq_some_iff.mp hindex).1
    exact lt_of_lt_of_le hlt (drop_eq_nil_iff.mp hrest)
  | cons binding rest ih =>
    have hindex : plan.files[start]? = some binding := by
      rw [← head?_drop, hrest, head?_cons]
    have htail : plan.files.drop (start + 1) = rest := by
      rw [← tail_drop, hrest, tail_cons]
    have hnext : ∀ rows : List (EvictedFileReceipt Sha),
        (∀ path ∈ deleted.map (·.absolutePath), path ∈ rows.map (·.absolutePath)) →
        binding.absolutePath ∈ rows.map (·.absolutePath) →
        ∀ index < start + 1, ∀ binding, plan.files[index]? = some binding →
          binding.absolutePath ∈ rows.map (·.absolutePath) := by
      intro rows hrows hthis index hlt other hother
      rcases Nat.lt_succ_iff_lt_or_eq.mp hlt with hlt | rfl
      · exact hrows _ (hdone index hlt other hother)
      · rw [hindex] at hother
        cases hother
        exact hthis
    unfold evictFiles
    split
    · -- the file has a durable record from an earlier call
      rename_i hrecorded
      exact ih h htail (hnext deleted (fun _ hp => hp) hrecorded)
    · rename_i hnew
      refine wp_bind (wp_attempt (wp_mono (wp_evictFile h.opened hindex) ?_ ?_))
      · intro row t hevicted
        have hpath := hevicted.recorded.path_eq
        refine ih (hevicted.underway h hindex hnew) htail (hnext _ ?_ ?_)
        · intro path hp
          rw [map_append]
          exact mem_append_left _ hp
        · rw [map_append, map_singleton, hpath]
          exact mem_append_right _ mem_cons_self
      · intro e t hagrees
        have hremoved := h.removed (mem_of_getElem? hindex) hagrees
        split
        · refine wp_observe (fun _ => trivial) (wp_bind ?_)
          refine wp_mono (wp_publishEvictionFailure hremoved.1 hremoved.2
            (mem_missingPaths hremoved.1.layout hremoved.2)) ?_ fun _ _ h => h
          intro receipt u hpublished
          exact wp_alone_ret hpublished
        · exact hremoved.1.absent

omit [DecidableEq Sha] in
/-- All planned files are recorded: the receipt of a complete eviction is published. -/
theorem wp_finishEviction (h : Underway hash paths plan s.files deleted)
    (hall : ∀ binding ∈ plan.files, binding.absolutePath ∈ deleted.map (·.absolutePath)) :
    wp handle (evictionContract hash paths plan) (IsPublished paths) (IsUnpublished paths)
      (finishEviction hash paths.receipt plan callbacks deleted) s := by
  have hlayout := h.opened.layout
  have hplanned : ∀ row ∈ deleted, row.absolutePath ∈ plan.files.map (·.absolutePath) := by
    intro row hrow
    rcases (h.rows row).mp hrow with ⟨index, binding, hindex, hrecorded⟩
    rw [hrecorded.path_eq]
    exact mem_map.mpr ⟨binding, mem_of_getElem? hindex, rfl⟩
  unfold finishEviction
  rw [if_pos ⟨hplanned, hall⟩]
  refine wp_bind (wp_lift ?_ fun e _ => h.opened.absent)
  intro now _
  refine wp_publishReceipt h.opened rfl ⟨?_, fun _ => ?_, fun hne => absurd rfl hne⟩
    fun hne => absurd rfl hne
  · intro row
    rw [completeReceipt, mem_sortedBy]
    exact h.rows row
  · intro index binding hindex
    have hrecorded := (h.rows.mem_path hlayout hindex).mp
      (hall binding (mem_of_getElem? hindex))
    exact ⟨hrecorded, h.absent index binding hindex hrecorded⟩

/-! ## A call -/

/-- The call fails before it deletes anything, and reports this. -/
structure FailsEarly (hash : Hashing Sha) (paths : EvictionPaths) (plan : RemoteEvictionPlan Sha)
    (fs : Tree Sha) (callbacks : Callbacks Sha) : Prop where
  snapshot : ∀ e, callbacks.operatorSnapshot ≠ .raises e
  fails : ∃ e, (preExecution hash fs paths.receipt plan callbacks).2 = .error e ∧
    e.isGuarded = true

/-- At the start of a call there is a receipt, or it does not fail before it deletes
anything, or each file with a durable record is there again and the progress has loaded. -/
def StartsAccurately (hash : Hashing Sha) (paths : EvictionPaths) (plan : RemoteEvictionPlan Sha)
    (fs : Tree Sha) (callbacks : Callbacks Sha) : Prop :=
  fs.lexists paths.receipt = true ∨ ¬ FailsEarly hash paths plan fs callbacks ∨
    ∀ index binding, plan.files[index]? = some binding →
      Recorded hash paths plan fs index binding →
      fs.lexists binding.absolutePath = true ∧
        ∃ progress, loadBehindGate hash fs paths.receipt plan callbacks = .ok progress

/-- What a call that fails early reports. -/
theorem early_rows (hrooted : fs.Rooted)
    (hstarts : ∀ index binding, plan.files[index]? = some binding →
      Recorded hash paths plan fs index binding → fs.lexists binding.absolutePath = true ∧
        ∃ progress, loadBehindGate hash fs paths.receipt plan callbacks = .ok progress) :
    RecordedRows hash paths plan fs (preExecution hash fs paths.receipt plan callbacks).1 ∧
      UnrecordedPaths hash paths plan fs (missingPaths fs plan []) := by
  constructor
  · unfold preExecution
    cases hload : loadBehindGate hash fs paths.receipt plan callbacks with
    | ok progress => exact loadBehindGate_eq_ok hrooted hload
    | error e =>
      -- nothing was loaded, and nothing is recorded
      intro row
      refine ⟨fun hrow => absurd hrow not_mem_nil, ?_⟩
      rintro ⟨index, binding, hindex, hrecorded⟩
      rcases (hstarts index binding hindex ⟨row, hrecorded⟩).2 with ⟨progress, hok⟩
      rw [hload] at hok
      cases hok
  · intro path
    unfold missingPaths
    rw [mem_sortedBy, mem_filter, decide_eq_true_eq]
    constructor
    · rintro ⟨hpath, -, habsent⟩
      rcases mem_map.mp hpath with ⟨binding, hbinding, rfl⟩
      rcases mem_iff_getElem?.mp hbinding with ⟨index, hindex⟩
      refine ⟨index, binding, hindex, rfl, habsent, fun hrecorded => ?_⟩
      have hexists := (hstarts index binding hindex hrecorded).1
      rw [habsent] at hexists
      cases hexists
    · rintro ⟨index, binding, hindex, rfl, habsent, -⟩
      exact ⟨mem_map.mpr ⟨binding, mem_of_getElem? hindex, rfl⟩, not_mem_nil, habsent⟩

/-- A call that finds no receipt. -/
theorem wp_executeUnderLock (hopened : Opened paths plan s.files) (hrooted : s.files.Rooted)
    (hstarts : StartsAccurately hash paths plan s.files callbacks) :
    wp handle (evictionContract hash paths plan) (IsPublished paths) (IsUnpublished paths)
      (executeUnderLock hash paths.receipt plan callbacks s.files) s := by
  have hlayout := hopened.layout
  unfold executeUnderLock
  split
  · exact wp_alone_throw hopened.absent
  · rename_i hsnapshot
    rcases hpre : preExecution hash s.files paths.receipt plan callbacks with ⟨progress, outcome⟩
    cases outcome with
    | error e =>
      dsimp only
      split
      · -- the checks before the execution have failed
        rename_i hguarded
        have hearly : FailsEarly hash paths plan s.files callbacks :=
          ⟨hsnapshot, e, by rw [hpre], hguarded⟩
        have haccurate := (hstarts.resolve_left (by rw [hopened.absent]; rintro ⟨⟩)).resolve_left
          (not_not_intro hearly)
        have hrows := early_rows hrooted haccurate
        rw [hpre] at hrows
        exact wp_publishEvictionFailure hopened hrows.1 hrows.2
      · exact wp_alone_throw hopened.absent
    | ok _ =>
      unfold preExecution at hpre
      split at hpre
      · cases hpre
      · rename_i rows hload
        simp only [Prod.mk.injEq] at hpre
        rcases hpre with ⟨rfl, hvalid⟩
        have hrows := loadBehindGate_eq_ok hrooted hload
        have hunderway : Underway hash paths plan s.files rows :=
          ⟨hopened, hrows, fun index binding hindex hrecorded =>
            (validateProgressState_eq_ok hlayout hrows hvalid hindex).mpr hrecorded⟩
        refine wp_bind (wp_mono (wp_evictFiles hunderway rfl ?_) ?_ fun _ _ h => h)
        · exact fun index hlt => absurd hlt (Nat.not_lt_zero index)
        · intro result t ht
          cases result with
          | inl receipt => exact wp_alone_ret ht
          | inr deleted => exact wp_finishEviction ht.1 ht.2

/-- A receipt of this plan is published: this is the last word. -/
structure Stands (hash : Hashing Sha) (paths : EvictionPaths) (plan : RemoteEvictionPlan Sha)
    (fs : Tree Sha) (receipt : RemoteEvictionReceipt Sha) : Prop where
  read : fs.read? paths.receipt = some (.document (.evictionReceipt receipt))
  planSha256 : receipt.planSha256 = hash.planSha256 plan
  loads : receipt.postInit fs = .ok ()
  opens : openPlan fs paths = .ok plan

/-- `execute_remote_eviction_plan`, in a run that is sound so far. -/
theorem wp_executeRemoteEvictionPlan (h : Sound hash paths plan initial s)
    (hstarts : StartsAccurately hash paths plan s.files callbacks) :
    wp handle (evictionContract hash paths plan) (IsPublished paths)
      (fun _ t => ∀ receipt, ¬ Stands hash paths plan t.files receipt)
      (executeRemoteEvictionPlan hash paths callbacks) s := by
  refine wp_observe (fun _ => trivial) (wp_bind (wp_lift ?_ ?_))
  rotate_left
  · intro e he receipt hstands
    rw [hstands.opens] at he
    cases he
  intro plan' hopens
  have hsame : plan' = plan := by
    have hload := loadRemoteEvictionPlan_eq_ok.mp (openPlan_eq_ok.mp hopens).1
    have hread := (readCanonicalObject_eq_some.mp hload.1).2
    rw [h.planFile] at hread
    cases hread
    rfl
  subst hsame
  refine wp_alone_vis fun choice _ => ⟨trivial, wp_observe (fun _ => trivial) ?_⟩
  dsimp only [handle]
  split
  · -- a receipt is there
    refine wp_bind (wp_lift ?_ ?_)
    · intro receipt hload
      rw [loadRemoteEvictionReceipt_eq_ok] at hload
      have hread := (readCanonicalObject_eq_some.mp hload.1).2
      refine wp_bind (wp_lift (fun _ _ => wp_alone_ret hread) ?_)
      intro e he other hstands
      rw [ensure_eq_error] at he
      have hother := hstands.read
      rw [hread] at hother
      cases hother
      exact he.1 hstands.planSha256
    · intro e he receipt hstands
      have hopened := openPlan_eq_ok.mp hopens
      rcases read?_eq_some.mp hstands.read with ⟨i, hi, -⟩
      have hexisting : existingFile s.files paths.receipt "remote eviction receipt" = .ok () :=
        existingFile_eq_ok.mpr ⟨(outsideCandidate_eq_ok.mp hopened.2.2.2.1).1, i, hi⟩
      have hload : loadRemoteEvictionReceipt s.files paths.receipt = .ok receipt :=
        loadRemoteEvictionReceipt_eq_ok.mpr
          ⟨readCanonicalObject_eq_some.mpr ⟨hexisting, hstands.read⟩, hstands.loads⟩
      rw [hload] at he
      cases he
  · rename_i habsent
    rw [Bool.not_eq_true] at habsent
    have hcall := wp_executeUnderLock (s := { s with stopRequested := false }) ⟨hopens, habsent⟩
      h.rooted hstarts
    refine wp_mono hcall (fun _ _ h => h) fun e t hunpublished receipt hstands => ?_
    have hexists := lexists_of_read? hstands.read
    rw [hunpublished] at hexists
    cases hexists

/-! ## One effect, and the receipt -/

variable {choice : Choice} {e : Effect Sha} {receipt : RemoteEvictionReceipt Sha}

omit [DecidableEq Sha] in
/-- A safe effect leaves the watched paths alone when a receipt is there. -/
theorem agrees_handle (hsafe : EvictionSafe hash paths plan s choice e)
    (hexists : s.files.lexists paths.receipt = true) :
    Files.Agrees (Watched paths plan) s.files (handle s choice e).2.files := by
  cases e with
  | acquire => exact .refl _
  | observe => exact .refl _
  | uuid4 => exact .refl _
  | fsync path => exact .refl _
  | schedulerStop reason => exact .refl _
  | mkdir path =>
    refine files_attempt (.refl _) (fun _ => rfl) fun fs hfs => ?_
    exact (frame_mkdir hfs hsafe).toAgrees
  | create path =>
    refine files_attempt (.refl _) (fun _ => rfl) fun fs hfs => ?_
    exact (frame_create hfs hsafe).toAgrees
  | write path body =>
    rcases hsafe with ⟨hW, -, i, howns⟩
    refine files_attempt (.refl _) (fun _ => rfl) fun fs hfs => ?_
    exact (frame_write howns hfs hW).toAgrees
  | link source path =>
    have habsent := hsafe.2.1
    rw [hexists] at habsent
    cases habsent
  | unlink path =>
    rcases hsafe with ⟨-, habsent, -⟩ | ⟨-, hW⟩
    · rw [hexists] at habsent
      cases habsent
    · refine files_attempt (.refl _) (fun _ => rfl) fun fs hfs => ?_
      exact agrees_unlink hfs hW

omit [DecidableEq Sha] in
/-- A receipt that stands stays. -/
theorem Stands.handle (h : Stands hash paths plan s.files receipt)
    (hsafe : EvictionSafe hash paths plan s choice e) :
    Stands hash paths plan (handle s choice e).2.files receipt := by
  have hagrees := agrees_handle hsafe (lexists_of_read? h.read)
  refine ⟨?_, h.planSha256, postInit_receipt_mono h.loads hagrees,
    openPlan_mono h.opens hagrees (.inl rfl)⟩
  rw [hagrees.read _ (.inr (.inl rfl))]
  exact h.read

omit [DecidableEq Sha] in
/-- The only effect that publishes a receipt is its link. -/
theorem receipt_handle (hsafe : EvictionSafe hash paths plan s choice e)
    (habsent : s.files.lexists paths.receipt = false) :
    (handle s choice e).2.files.lexists paths.receipt = false ∨
      ∃ source, LinksReceipt hash paths plan s source paths.receipt ∧
        (handle s choice e).2.files.read? paths.receipt = s.files.read? source := by
  have hquiet : ∀ t : Disk Sha, Files.Agrees (Watched paths plan) s.files t.files →
      t.files.lexists paths.receipt = false := by
    intro t hagrees
    rw [hagrees.lexists (.inr (.inl rfl))]
    exact habsent
  cases e with
  | acquire => exact .inl habsent
  | observe => exact .inl habsent
  | uuid4 => exact .inl habsent
  | fsync path => exact .inl habsent
  | schedulerStop reason => exact .inl habsent
  | mkdir path =>
    refine .inl (hquiet _ (files_attempt (.refl _) (fun _ => rfl) fun fs hfs => ?_))
    exact (frame_mkdir hfs hsafe).toAgrees
  | create path =>
    refine .inl (hquiet _ (files_attempt (.refl _) (fun _ => rfl) fun fs hfs => ?_))
    exact (frame_create hfs hsafe).toAgrees
  | write path body =>
    rcases hsafe with ⟨hW, -, i, howns⟩
    refine .inl (hquiet _ (files_attempt (.refl _) (fun _ => rfl) fun fs hfs => ?_))
    exact (frame_write howns hfs hW).toAgrees
  | link source path =>
    rcases hsafe with ⟨hopens, -, hreceipt | ⟨index, binding, -, rfl, -⟩⟩
    · -- the link of a receipt, which fails or succeeds
      have hpath := hreceipt.1
      subst hpath
      refine files_attempt (P := fun fs => fs.lexists paths.receipt = false ∨ ∃ source,
        LinksReceipt hash paths plan s source paths.receipt ∧
          fs.read? paths.receipt = s.files.read? source) (.inl habsent) (fun _ => rfl) ?_
      intro fs hfs
      refine .inr ⟨source, hreceipt, ?_⟩
      rw [read?_link hfs, if_pos rfl]
    · -- the link of a progress record
      have hne := progressPath_ne_receipt (layout_of_openPlan hopens).receipt_ne_nil index
      refine .inl (files_attempt (P := fun fs => fs.lexists paths.receipt = false) habsent
        (fun _ => rfl) fun fs hfs => ?_)
      rw [lexists_eq_false, node?_link hfs, if_neg hne.symm]
      exact lexists_eq_false.mp habsent
  | unlink path =>
    refine .inl (files_attempt (P := fun fs => fs.lexists paths.receipt = false) habsent
      (fun _ => rfl) fun fs hfs => ?_)
    rw [lexists_eq_false, node?_unlink hfs]
    split
    · rfl
    · exact lexists_eq_false.mp habsent

/-! ## Runs -/

abbrev EvictionEvent (Sha : Type) :=
  Event (Processes Unit (Callbacks Sha) (Effect Sha) Reply Raised (RemoteEvictionReceipt Sha)
      (Disk Sha))
    (Move Unit (Callbacks Sha) Choice)
    (Report Unit (Callbacks Sha) (Effect Sha) Raised (RemoteEvictionReceipt Sha))

/-- Calls of the executor, one at a time. -/
def evictionRun (hash : Hashing Sha) (paths : EvictionPaths) (initial : Tree Sha)
    (moves : List (Move Unit (Callbacks Sha) Choice)) : List (EvictionEvent Sha) :=
  trace (schedule handle (executeRemoteEvictionPlan hash paths))
    ⟨⟨initial, [], [], false⟩, fun _ => none⟩ moves

/-- The receipt stays, no planned file is unlinked, and a call returns this receipt. -/
structure StaysLast (hash : Hashing Sha) (paths : EvictionPaths) (plan : RemoteEvictionPlan Sha)
    (receipt : RemoteEvictionReceipt Sha) (ev : EvictionEvent Sha) : Prop where
  stands : Stands hash paths plan ev.post.state.files receipt
  unlinks : ∀ callbacks, ∀ binding ∈ plan.files,
    ev.output ≠ .performed () callbacks (.unlink binding.absolutePath)
  returned : ∀ callbacks value, ev.output = .returned () callbacks value → value = receipt
  raised : ∀ callbacks e, ev.output ≠ .raised () callbacks e

/-- A receipt that is published in this state of a run lists the files as they are. -/
structure Lists (hash : Hashing Sha) (paths : EvictionPaths) (plan : RemoteEvictionPlan Sha)
    (initial : Tree Sha) (s t : Disk Sha) (receipt : RemoteEvictionReceipt Sha) : Prop where
  deleted : RecordedRows hash paths plan t.files receipt.deletedFiles
  complete : receipt.status = .complete → ∀ index binding, plan.files[index]? = some binding →
    Recorded hash paths plan t.files index binding ∧
      t.files.lexists binding.absolutePath = false ∧
      (binding.absolutePath ∈ t.unlinked ∨ Recorded hash paths plan initial index binding)
  missing : receipt.status ≠ .complete →
    UnrecordedPaths hash paths plan t.files receipt.missingUnrecordedFiles
  disjoint : ∀ row ∈ receipt.deletedFiles, row.absolutePath ∉ receipt.missingUnrecordedFiles
  stop : receipt.status ≠ .complete → s.stopRequested = true

/-- What holds along a run. -/
structure EvictionAccounts (hash : Hashing Sha) (paths : EvictionPaths)
    (plan : RemoteEvictionPlan Sha) (initial : Tree Sha) (events : List (EvictionEvent Sha)) :
    Prop where
  /-- A planned file is unlinked only while it is the one that was planned; the other
  files that are unlinked are temporaries of the executor. -/
  unlinks : ∀ ev ∈ events, ∀ callbacks path, ev.output = .performed () callbacks (.unlink path) →
    (∃ binding ∈ plan.files, path = binding.absolutePath ∧
      Matches hash ev.pre.state.files binding) ∨
    (path ∈ ev.pre.state.created ∧ path ∉ plan.files.map (·.absolutePath))
  /-- A receipt lists the files as they are when it is published. -/
  lists : ∀ ev ∈ events, ∀ receipt, ev.pre.state.files.lexists paths.receipt = false →
    IsPublished paths receipt ev.post.state →
    Lists hash paths plan initial ev.pre.state ev.post.state receipt
  /-- A receipt that is published is the last word. -/
  published : ∀ past ev later, events = past ++ ev :: later → ∀ receipt,
    ev.pre.state.files.lexists paths.receipt = false → IsPublished paths receipt ev.post.state →
    ∀ ev' ∈ later, StaysLast hash paths plan receipt ev'
  /-- So is one that was there before. -/
  stood : ∀ receipt, Stands hash paths plan initial receipt →
    ∀ ev ∈ events, StaysLast hash paths plan receipt ev

/-- The calls keep a run sound. -/
theorem cooperates_eviction (hash : Hashing Sha) (paths : EvictionPaths)
    (plan : RemoteEvictionPlan Sha) (initial : Tree Sha) :
    Cooperates handle (executeRemoteEvictionPlan hash paths)
      (fun (_ : Unit) (_ : Callbacks Sha) => evictionContract hash paths plan)
      (Sound hash paths plan initial) (fun _ _ => True)
      (fun _ callbacks s => StartsAccurately hash paths plan s.files callbacks)
      (fun _ _ => IsPublished paths)
      (fun _ _ _ t => ∀ receipt, ¬ Stands hash paths plan t.files receipt) where
  keeps _ _ _ _ _ h hsafe := sound_handle h hsafe
  relied p _ q _ _ _ _ hne _ _ := absurd (Subsingleton.elim q p) hne
  stays_ready _ _ _ _ _ _ _ _ _ _ := trivial
  verified _ _ _ h _ hstarts := wp_executeRemoteEvictionPlan h hstarts
  returned _ _ _ _ _ _ := trivial
  raised _ _ _ _ _ _ := trivial

/-- The state of a run, with what is promised of the call that is running. -/
abbrev Accountable (hash : Hashing Sha) (paths : EvictionPaths) (plan : RemoteEvictionPlan Sha)
    (initial : Tree Sha) :
    Processes Unit (Callbacks Sha) (Effect Sha) Reply Raised (RemoteEvictionReceipt Sha) (Disk Sha) →
      Prop :=
  Coherent handle (fun (_ : Unit) (_ : Callbacks Sha) => evictionContract hash paths plan)
    (Sound hash paths plan initial) (fun _ _ => True) (fun _ _ => IsPublished paths)
    (fun _ _ _ t => ∀ receipt, ¬ Stands hash paths plan t.files receipt)

/-- The condition on the calls of a run. -/
abbrev Starts (hash : Hashing Sha) (paths : EvictionPaths) (plan : RemoteEvictionPlan Sha) :=
  Admissible (E := Effect Sha) (R := Reply) (ε := Raised) (α := RemoteEvictionReceipt Sha)
    (fun (_ : Unit) (_ : Callbacks Sha) => evictionContract hash paths plan) (fun _ _ => True)
    (fun _ callbacks s => StartsAccurately hash paths plan s.files callbacks)

variable {w : Processes Unit (Callbacks Sha) (Effect Sha) Reply Raised (RemoteEvictionReceipt Sha)
  (Disk Sha)} {moves : List (Move Unit (Callbacks Sha) Choice)} {ev : EvictionEvent Sha}

/-- A receipt that stands stays the last word from there. -/
theorem staysLast_of_stands (hw : Accountable hash paths plan initial w)
    (hstands : Stands hash paths plan w.state.files receipt)
    (hmoves : ∀ ev ∈ trace (schedule handle (executeRemoteEvictionPlan hash paths)) w moves,
      Starts hash paths plan ev.pre ev.input) :
    ∀ ev ∈ trace (schedule handle (executeRemoteEvictionPlan hash paths)) w moves,
      StaysLast hash paths plan receipt ev := by
  have hcooperates := cooperates_eviction hash paths plan initial
  -- a move of a coherent system, with the receipt on the disk
  have hone : ∀ w move, Accountable hash paths plan initial w →
      Stands hash paths plan w.state.files receipt → Starts hash paths plan w move →
      StaysLast hash paths plan receipt
        (event (schedule handle (executeRemoteEvictionPlan hash paths)) w move) := by
    intro w move hw hstands hmove
    have hpromised := (coherent_schedule hcooperates hw move hmove).2
    rcases state_schedule w move with ⟨hstate, hnone⟩ | ⟨p, call, e, ω, rfl, hout, hstate⟩
    · refine ⟨?_, fun callbacks binding _ => hnone _ _ _, ?_, ?_⟩
      · change Stands hash paths plan
          (schedule handle (executeRemoteEvictionPlan hash paths) w move).2.state.files receipt
        rw [hstate]
        exact hstands
      · intro callbacks value hreturned
        rw [show (schedule handle _ w move).1 = _ from hreturned] at hpromised
        have hread : IsPublished paths value w.state := hpromised.returned
        have hsame := hstands.read
        rw [hread] at hsame
        cases hsame
        rfl
      · intro callbacks e hraised
        rw [show (schedule handle _ w move).1 = _ from hraised] at hpromised
        exact hpromised.raised receipt hstands
    · rw [hout] at hpromised
      have hsafe : EvictionSafe hash paths plan w.state ω e := hpromised
      refine ⟨?_, ?_, ?_, ?_⟩
      · change Stands hash paths plan
          (schedule handle (executeRemoteEvictionPlan hash paths) w (.resume p ω)).2.state.files
          receipt
        rw [hstate]
        exact hstands.handle hsafe
      · intro callbacks binding hbinding hperformed
        have he := hout.symm.trans hperformed
        cases he
        rcases hsafe with ⟨-, habsent, -⟩ | ⟨-, hW⟩
        · rw [lexists_of_read? hstands.read] at habsent
          cases habsent
        · exact hW (.inr (.inr (.inr (mem_map.mpr ⟨binding, hbinding, rfl⟩))))
      · intro callbacks value hreturned
        cases hout.symm.trans hreturned
      · intro callbacks error hraised
        cases hout.symm.trans hraised
  have hstep : ∀ w move,
      Accountable hash paths plan initial w ∧ Stands hash paths plan w.state.files receipt →
      Starts hash paths plan w move →
      Accountable hash paths plan initial
          (schedule handle (executeRemoteEvictionPlan hash paths) w move).2 ∧
        Stands hash paths plan
          (schedule handle (executeRemoteEvictionPlan hash paths) w move).2.state.files receipt :=
    fun w move hw hmove => ⟨(coherent_schedule hcooperates hw.1 move hmove).1,
      (hone w move hw.1 hw.2 hmove).stands⟩
  intro ev hev
  have hinv := (trace_invariant hstep ⟨hw, hstands⟩ hmoves).1 ev hev
  rw [eq_event_of_mem_trace hev]
  exact hone _ _ hinv.1.1 hinv.1.2 (hmoves ev hev)

/-- A receipt that a move publishes. -/
theorem lists_of_published {move : Move Unit (Callbacks Sha) Choice}
    (hw : Accountable hash paths plan initial w) (hmove : Starts hash paths plan w move)
    (habsent : w.state.files.lexists paths.receipt = false) (hpublished : IsPublished paths receipt
      (schedule handle (executeRemoteEvictionPlan hash paths) w move).2.state) :
    Lists hash paths plan initial w.state
        (schedule handle (executeRemoteEvictionPlan hash paths) w move).2.state receipt ∧
      Stands hash paths plan
        (schedule handle (executeRemoteEvictionPlan hash paths) w move).2.state.files receipt := by
  have hnext := coherent_schedule (cooperates_eviction hash paths plan initial) hw move hmove
  have hexists := lexists_of_read? hpublished
  have hinitial : initial.lexists paths.receipt = false := by
    rw [← Bool.not_eq_true]
    intro hinitial
    rw [hw.invariant.stays hinitial] at habsent
    cases habsent
  rcases hnext.1.invariant.receipt hexists hinitial with ⟨receipt', hread, hsettled⟩
  have hsame : receipt' = receipt := by
    rw [hpublished] at hread
    cases hread
    rfl
  subst hsame
  refine ⟨⟨hsettled.accounts.deleted, ?_, hsettled.accounts.missing, ?_, ?_⟩,
    hpublished, hsettled.planSha256, hsettled.loads, hsettled.opens⟩
  · intro hstatus index binding hindex
    have hrecorded := hsettled.accounts.complete hstatus index binding hindex
    exact ⟨hrecorded.1, hrecorded.2, hnext.1.invariant.records index binding hindex hrecorded.1⟩
  · intro row hrow hmissing
    rcases (hsettled.accounts.deleted row).mp hrow with ⟨index, binding, hindex, hrecorded⟩
    by_cases hstatus : receipt'.status = .complete
    · rw [missing_of_complete hsettled.loads hstatus] at hmissing
      exact not_mem_nil hmissing
    · rcases (hsettled.accounts.missing hstatus _).mp hmissing with
        ⟨index', binding', hindex', hpath, -, hunrecorded⟩
      rw [hrecorded.path_eq] at hpath
      rcases (layout_of_openPlan hsettled.opens).eq_of_path hindex hindex' hpath with ⟨rfl, rfl⟩
      exact hunrecorded ⟨row, hrecorded⟩
  · intro hstatus
    rcases state_schedule w move with ⟨hstate, -⟩ | ⟨p, call, e, ω, rfl, hout, hstate⟩
    · rw [hstate, habsent] at hexists
      cases hexists
    · have hpromised := hnext.2
      rw [hout] at hpromised
      rw [hstate] at hexists hread
      rcases receipt_handle hpromised habsent with hnone | ⟨source, ⟨-, other, hsource, -, hstop⟩, hlink⟩
      · rw [hnone] at hexists
        cases hexists
      · rw [hread, hsource] at hlink
        cases hlink
        exact hstop hstatus

/-- In every run in which each call starts accurately, the eviction accounts for every
planned file. -/
theorem eviction_accounts (hash : Hashing Sha) (paths : EvictionPaths) (plan : RemoteEvictionPlan Sha)
    (initial : Tree Sha) (moves : List (Move Unit (Callbacks Sha) Choice)) (hrooted : initial.Rooted)
    (hplan : initial.read? paths.plan = some (.document (.plan plan)))
    (hstarts : ∀ ev ∈ evictionRun hash paths initial moves, ∀ callbacks,
      ev.input = .start () callbacks → ev.pre.running () = none →
      StartsAccurately hash paths plan ev.pre.state.files callbacks) :
    EvictionAccounts hash paths plan initial (evictionRun hash paths initial moves) := by
  have hcooperates := cooperates_eviction hash paths plan initial
  have hw : Accountable hash paths plan initial ⟨⟨initial, [], [], false⟩, fun _ => none⟩ := by
    refine ⟨⟨hrooted, hplan, fun _ _ _ h => .inr h, ?_, ?_⟩, fun _ _ => trivial, fun _ _ _ h => nomatch h⟩
    · intro hexists hinitial
      change initial.lexists paths.receipt = true at hexists
      rw [hinitial] at hexists
      cases hexists
    · exact fun hinitial => hinitial
  have hmoves : ∀ ev ∈ evictionRun hash paths initial moves, Starts hash paths plan ev.pre ev.input := by
    intro ev hev
    cases hinput : ev.input with
    | start p callbacks => exact fun hidle => hstarts ev hev callbacks hinput hidle
    | resume p ω => exact fun _ _ _ _ => trivial
    | kill p => trivial
  have hrun := run_cooperates hcooperates hw hmoves
  refine ⟨?_, ?_, ?_, ?_⟩
  · intro ev hev callbacks path hout
    have hpromised := (hrun ev hev).2.2
    rw [hout] at hpromised
    rcases hpromised.performed with ⟨ω, ⟨-, -, hmatches⟩ | ⟨hcreated, hW⟩⟩
    · exact .inl hmatches
    · exact .inr ⟨hcreated, fun hplanned => hW (.inr (.inr (.inr hplanned)))⟩
  · intro ev hev receipt habsent hpublished
    have hevent := eq_event_of_mem_trace hev
    rw [hevent] at hpublished ⊢
    exact (lists_of_published (hrun ev hev).1 (hmoves ev hev) habsent hpublished).1
  · intro past ev later hsplit receipt habsent hpublished
    have hev : ev ∈ evictionRun hash paths initial moves := by
      rw [hsplit]
      exact List.mem_append_right _ List.mem_cons_self
    have hstands : Stands hash paths plan ev.post.state.files receipt := by
      rw [eq_event_of_mem_trace hev] at hpublished ⊢
      exact (lists_of_published (hrun ev hev).1 (hmoves ev hev) habsent hpublished).2
    rcases trace_rest hsplit with ⟨rest, rfl⟩
    refine staysLast_of_stands (hrun ev hev).2.1 hstands fun ev' hev' => hmoves ev' ?_
    rw [hsplit]
    exact List.mem_append_right _ (List.mem_cons_of_mem _ hev')
  · exact fun receipt hstands => staysLast_of_stands hw hstands hmoves

/-! ## Two planned files -/

section

/-- Digests that tell the documents of the runs below apart. -/
def pairHash : Hashing ℕ where
  bytes data := data.length
  semantic
    | .plan _ => 11
    | .evictionReceipt _ => 12
    | _ => 13
  envelope
    | .plan _ => 21
    | .evictionReceipt _ => 22
    | _ => 23
  size _ := 1

def pairPaths : EvictionPaths := ⟨["plan"], ["receipt"], ["lock"], by decide⟩

def pairPlan : RemoteEvictionPlan ℕ where
  runId := "r1"
  runRoot := ["run"]
  archiveId := "a1"
  archiveCandidateRoot := ["run", "candidate"]
  archiveCandidateRootInode := ⟨1, 3⟩
  archiveManifestPath := ["run", "candidate", archiveManifestName]
  archiveManifestSha256 := 31
  remoteArchiveResultSha256 := 32
  archiveAuthorizationSha256 := 33
  retainedDependencyManifestPath := ["retained"]
  files := [⟨["run", "candidate", "a"], ["a"], ⟨1, 4⟩, 2, 2⟩,
    ⟨["run", "candidate", "b"], ["b"], ⟨1, 6⟩, 2, 2⟩]
  plannedBytes := 4
  createdAtNs := 1

def pairTree : Tree ℕ where
  names := (Dict.empty.set [] (.directory ⟨1, 1⟩)).set ["run"] (.directory ⟨1, 2⟩)
    |>.set ["run", "candidate"] (.directory ⟨1, 3⟩)
    |>.set ["run", "candidate", "a"] (.file ⟨1, 4⟩)
    |>.set ["run", "candidate", "b"] (.file ⟨1, 6⟩)
    |>.set ["plan"] (.file ⟨1, 5⟩)
  bodies := Function.update (fun _ => .bytes [1, 2]) ⟨1, 5⟩ (.document (.plan pairPlan))

/-- A call whose callbacks all succeed. -/
def pairCall : Callbacks ℕ where
  operatorSnapshot := .mapping ⟨some "r1", some "STOP", some [],
    some [some ⟨some "a1", some "EVICTION_AUTHORIZED", some ["run", "candidate"], some 31⟩]⟩
  processProbe _ := .ok (some false)
  activeWriterProbe _ := .ok (some false)
  afterUnlink _ := .ok ()
  schedulerStop := .ok ()
  deletedAt _ := .ok 10
  finishedAt := .ok 20

/-- A call that performs this many effects, with new inodes from this one. -/
def callMoves (inode effects : ℕ) : List (Move Unit (Callbacks ℕ) Choice) :=
  .start () pairCall ::
    (List.range effects).map fun k => .resume () ⟨⟨1, inode + k⟩, "u" ++ toString inode⟩

/-- The start of every call passes the checks before the execution. -/
def startsPass (ev : EvictionEvent ℕ) : Bool :=
  match ev.input with
  | .start _ callbacks =>
    (preExecution pairHash ev.pre.state.files pairPaths.receipt pairPlan callbacks).2.isOk
  | _ => true

/-- A call is killed after this many effects, and another one follows. -/
def killedMoves (effects : ℕ) : List (Move Unit (Callbacks ℕ) Choice) :=
  callMoves 100 effects ++ .kill () :: callMoves 200 35

/-- The call is killed when the first file is deleted and recorded, and the next one
deletes the second. -/
theorem eviction_accounts_resumed :
    EvictionAccounts pairHash pairPaths pairPlan pairTree
      (evictionRun pairHash pairPaths pairTree (killedMoves 20)) := by
  have hpass : (evictionRun pairHash pairPaths pairTree (killedMoves 20)).all startsPass = true := by
    decide +kernel
  refine eviction_accounts pairHash pairPaths pairPlan pairTree (killedMoves 20) ?_ ?_ ?_
  · exact Files.rooted_of_entries (by decide +kernel)
  · decide +kernel
  · intro ev hev callbacks hinput _
    refine .inr (.inl fun hearly => ?_)
    have hok := List.all_eq_true.mp hpass ev hev
    rcases hearly.fails with ⟨e, he, -⟩
    unfold startsPass at hok
    rw [hinput] at hok
    dsimp only at hok
    rw [he] at hok
    cases hok

def recordedRow : EvictedFileReceipt ℕ := ⟨["run", "candidate", "a"], ["a"], 2, 2, 10⟩

/-- The receipt of a failure that lists the file as missing. -/
def unreportingReceipt : RemoteEvictionReceipt ℕ :=
  failureReceipt pairHash pairPlan [] [["run", "candidate", "a"]]
    "PREEXECUTION_FORMALROLLINGARCHIVEERROR" (some ["run", "candidate", "a"]) true 20

/-- The call is killed between the link of the progress record and the removal of its
temporary, which the next call takes for an unknown entry. -/
theorem recorded_deletion_unreported :
    ¬ EvictionAccounts pairHash pairPaths pairPlan pairTree
      (evictionRun pairHash pairPaths pairTree (killedMoves 19)) := by
  intro h
  have hrun : ((evictionRun pairHash pairPaths pairTree (killedMoves 19))[32]?).map
      (fun ev => (ev.pre.state.files.lexists pairPaths.receipt,
        ev.post.state.files.read? pairPaths.receipt,
        ev.post.state.files.read? (progressPath pairPaths.receipt 0))) =
      some (false, some (.document (.evictionReceipt unreportingReceipt)),
        some (.document (.evictionProgress ⟨11, 0, recordedRow⟩))) := by
    decide +kernel
  rcases Option.map_eq_some_iff.mp hrun with ⟨ev, hev, hvalues⟩
  simp only [Prod.mk.injEq] at hvalues
  rcases hvalues with ⟨habsent, hpublished, hprogress⟩
  have hlists := h.lists ev (List.mem_of_getElem? hev) unreportingReceipt habsent hpublished
  have hrecorded : recordedRow ∈ unreportingReceipt.deletedFiles :=
    (hlists.deleted recordedRow).mpr ⟨0, _, rfl, _, hprogress, by decide, rfl⟩
  exact absurd hrecorded (by decide)

end

end RollingArchive

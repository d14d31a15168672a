import LightConeSpec.CompileCache.Inventories

/-!
# Stores that are sound

What holds of every store that the calls have built: an object is under the digest of its files
and cannot be written, a receipt is under its digest and its object is there. No call changes or
removes one of them, `Extends`.
-/

namespace CompileCache

open Python FileSystem DirectoryTree Machine Method Dict

variable {D : Type} [DecidableEq D] {sha : CacheSha D}

structure Sound (sha : CacheSha D) (s : Store D) : Prop where
  object : ∀ id object, s.objects.get? id = some object →
    object.IsRegular ∧ object.IsImmutable ∧
      ∃ keySha256, id = sha.content (keySha256, object.files.map (recordFile sha))
  receipt : ∀ id receipt, s.receipts.get? id = some receipt →
    receipt.receiptSha256 sha = .ok id ∧
      ∃ object, s.objects.get? receipt.contentSha256 = some object
  sidecar : ∀ id value, s.sidecars.get? id = some value → value = id

/-- Objects and receipts are still there. -/
structure Extends (s t : Store D) : Prop where
  object : ∀ id object, s.objects.get? id = some object → t.objects.get? id = some object
  receipt : ∀ id receipt, s.receipts.get? id = some receipt → t.receipts.get? id = some receipt
  sidecar : ∀ id value, s.sidecars.get? id = some value → t.sidecars.get? id = some value

/-- Only overlays have changed. -/
structure SameRecords (s t : Store D) : Prop where
  objects : t.objects = s.objects
  receipts : t.receipts = s.receipts
  sidecars : t.sidecars = s.sidecars

variable {key : CompileCacheKey}

section

variable {s t u : Store D}

theorem Extends.refl (s : Store D) : Extends s s :=
  ⟨fun _ _ h => h, fun _ _ h => h, fun _ _ h => h⟩

theorem Extends.trans (h : Extends s t) (h' : Extends t u) : Extends s u :=
  ⟨fun id x hx => h'.object id x (h.object id x hx),
    fun id x hx => h'.receipt id x (h.receipt id x hx),
    fun id x hx => h'.sidecar id x (h.sidecar id x hx)⟩

omit [DecidableEq D] in
theorem SameRecords.refl (s : Store D) : SameRecords s s := ⟨rfl, rfl, rfl⟩

theorem SameRecords.sound (h : SameRecords s t) (hs : Sound sha s) : Sound sha t := by
  rcases h with ⟨hobjects, hreceipts, hsidecars⟩
  refine ⟨?_, ?_, ?_⟩
  · rw [hobjects]
    exact hs.object
  · rw [hobjects, hreceipts]
    exact hs.receipt
  · rw [hsidecars]
    exact hs.sidecar

theorem SameRecords.extends (h : SameRecords s t) : Extends s t := by
  rcases h with ⟨hobjects, hreceipts, hsidecars⟩
  refine ⟨?_, ?_, ?_⟩
  · rw [hobjects]
    exact fun _ _ h => h
  · rw [hreceipts]
    exact fun _ _ h => h
  · rw [hsidecars]
    exact fun _ _ h => h

theorem sound_empty : Sound sha (Store.empty : Store D) := by
  refine ⟨?_, ?_, ?_⟩ <;> nofun

/-! ## Receipts of a sound store -/

theorem receiptSha256_eq_ok {receipt : CompileCacheReceipt D} {id : D} :
    receipt.receiptSha256 sha = .ok id ↔
      receipt.validate sha = .ok () ∧ requirePrintable receipt.processId = .ok () ∧
        sha.receipt receipt = id := by
  unfold CompileCacheReceipt.receiptSha256
  simp only [bind_eq_ok, Unique.exists_iff, PUnit.default_eq_unit, pure_eq_ok]

omit [DecidableEq D] in
theorem sha256_eq_ok {keySha256 : D} : key.sha256 sha = .ok keySha256 ↔
      key.validate = .ok () ∧ forEach requirePrintable key.integers = .ok () ∧
        sha.key key = keySha256 := by
  unfold CompileCacheKey.sha256
  simp only [bind_eq_ok, Unique.exists_iff, PUnit.default_eq_unit, pure_eq_ok]

/-- The content digest of a receipt that was accepted. -/
theorem content_of_validate {receipt : CompileCacheReceipt D} (h : receipt.validate sha = .ok ()) :
    receipt.contentSha256 = sha.content (receipt.keySha256, receipt.files) := by
  unfold CompileCacheReceipt.validate at h
  simp only [bind_eq_ok, require_eq_ok, Unique.exists_iff] at h
  exact h.2.2.2.2.2.2.2

/-- An object is what the receipts of its digest list. -/
theorem Sound.files (hs : Sound sha s) {receipt : CompileCacheReceipt D} {object : DirectoryTree.Tree Bytes}
    (hreceipt : receipt.validate sha = .ok ())
    (hobject : s.objects.get? receipt.contentSha256 = some object) :
    receipt.files = object.files.map (recordFile sha) := by
  rcases hs.object _ object hobject with ⟨_, _, keySha256, hcontent⟩
  rw [content_of_validate hreceipt] at hcontent
  exact congrArg Prod.snd (sha.content_injective hcontent)

/-- The checks of an object that cannot be written. -/
theorem verifyImmutableObject_eq_ok {object : DirectoryTree.Tree Bytes} (hregular : object.IsRegular)
    (himmutable : object.IsImmutable) : verifyImmutableObject object = .ok () := by
  unfold verifyImmutableObject
  rw [forEach_eq_ok]
  rintro ⟨p, node⟩ hentry
  have hnode : object.node? p = some node := by
    rcases List.mem_append.mp hentry with hroot | hwalk
    · rcases List.mem_map.mp hroot with ⟨found, hfound, heq⟩
      cases heq
      exact Option.mem_toList.mp hfound
    · exact (DirectoryTree.Tree.mem_walk.mp hwalk).2
  have hkind := hregular p node hnode
  simp only [bind_eq_ok, require_eq_ok, exists_const]
  refine ⟨?_, hkind, himmutable p node hnode⟩
  rintro rfl
  cases hkind

/-- A receipt of a sound store, with its sidecar. -/
structure Recorded (s : Store D) (receiptId : D) (receipt : CompileCacheReceipt D) : Prop where
  receipt : s.receipts.get? receiptId = some receipt
  sidecar : s.sidecars.get? receiptId = some receiptId

theorem Recorded.extends {receiptId : D} {receipt : CompileCacheReceipt D}
    (h : Recorded s receiptId receipt) (hst : Extends s t) : Recorded t receiptId receipt :=
  ⟨hst.receipt _ _ h.receipt, hst.sidecar _ _ h.sidecar⟩

variable {receiptId : D} {receipt : CompileCacheReceipt D}

theorem loadReceipt_eq_ok (hs : Sound sha s) (h : Recorded s receiptId receipt) :
    loadReceipt sha s receiptId = .ok receipt := by
  rcases hs.receipt receiptId receipt h.receipt with ⟨hsha, _⟩
  unfold loadReceipt
  rw [h.receipt]
  refine bind_eq_ok.mpr ⟨(), (receiptSha256_eq_ok.mp hsha).1, ?_⟩
  rw [h.sidecar]
  exact bind_eq_ok.mpr ⟨receiptId, hsha, bind_eq_ok.mpr ⟨(), require_eq_ok.mpr rfl, rfl⟩⟩

/-- The key of a receipt verifies it. -/
theorem verify_eq_ok (hs : Sound sha s) (h : Recorded s receiptId receipt)
    (hkey : key.sha256 sha = .ok receipt.keySha256) :
    verify sha s key receiptId = .ok receipt.contentSha256 := by
  rcases hs.receipt receiptId receipt h.receipt with ⟨hsha, object, hobject⟩
  rcases hs.object _ object hobject with ⟨hregular, himmutable, _⟩
  have hfiles := hs.files (receiptSha256_eq_ok.mp hsha).1 hobject
  have hinventory : inventory sha object = .ok receipt.files :=
    inventory_eq_ok.mpr ⟨hregular, hfiles⟩
  unfold verify
  refine bind_eq_ok.mpr ⟨(), (sha256_eq_ok.mp hkey).1, bind_eq_ok.mpr ⟨receipt,
    loadReceipt_eq_ok hs h, bind_eq_ok.mpr ⟨_, hkey, bind_eq_ok.mpr
      ⟨(), require_eq_ok.mpr rfl, ?_⟩⟩⟩⟩
  rw [hobject]
  refine bind_eq_ok.mpr ⟨receipt.files, ?_, bind_eq_ok.mpr ⟨(), require_eq_ok.mpr rfl,
    bind_eq_ok.mpr ⟨(), verifyImmutableObject_eq_ok hregular himmutable, rfl⟩⟩⟩
  rw [hinventory]
  rfl

/-! ## Sealing -/

variable {overlay : CompileCacheOverlay D} {builderId : String} {launchPlanSha256 : Option D}
  {now : ℤ} {tree : DirectoryTree.Tree Bytes}

/-- What a receipt says that is made for an overlay. -/
theorem sealReceipt_eq_ok
    (h : sealReceipt sha overlay builderId launchPlanSha256 now s = .ok (tree, receipt)) :
    overlay.key.sha256 sha = .ok receipt.keySha256 ∧ s.overlays.get? overlay.path = some tree ∧
      tree.IsRegular ∧ receipt.files = tree.files.map (recordFile sha) ∧
      receipt.validate sha = .ok () ∧ receipt.processId = overlay.processId ∧
      receipt.builderId = builderId ∧ receipt.launchPlanSha256 = launchPlanSha256 := by
  unfold sealReceipt at h
  rcases bind_eq_ok.mp h with ⟨_, _, h⟩
  cases htree : s.overlays.get? overlay.path with
  | none =>
    rw [htree] at h
    cases h
  | some found =>
    rw [htree] at h
    rcases bind_eq_ok.mp h with ⟨files, hfiles, h⟩
    rcases bind_eq_ok.mp h with ⟨_, _, h⟩
    rcases bind_eq_ok.mp h with ⟨keySha256, hkey, h⟩
    rcases bind_eq_ok.mp h with ⟨_, hvalid, h⟩
    rcases inventory_eq_ok.mp hfiles with ⟨hregular, rfl⟩
    cases h
    exact ⟨hkey, rfl, hregular, rfl, hvalid, rfl, rfl, rfl⟩

omit [DecidableEq D] in
/-- The paths of a receipt are those of the files. -/
theorem paths_eq (hfiles : receipt.files = tree.files.map (recordFile sha)) :
    receipt.paths = tree.files.map Prod.fst := by
  unfold CompileCacheReceipt.paths
  rw [hfiles, List.map_map]
  refine List.map_congr_left ?_
  rintro ⟨p, body⟩ hfile
  rcases names_of_mem_files hfile with ⟨hpath, hnames⟩
  exact pathParts_asPosix hnames hpath

/-- After the publication of an object it is there. -/
theorem publishObject_spec (hs : Sound sha s)
    (hfiles : receipt.files = tree.files.map (recordFile sha))
    (hreceipt : receipt.validate sha = .ok ()) :
    ∃ t, publishObject tree receipt s = (.ok (), t) ∧ Sound sha t ∧ Extends s t ∧
      t.overlays = s.overlays ∧ ∃ object, t.objects.get? receipt.contentSha256 = some object := by
  unfold publishObject
  simp only [read_bind, id]
  cases hobject : s.objects.get? receipt.contentSha256 with
  | some object => exact ⟨s, rfl, hs, .refl s, rfl, object, hobject⟩
  -- a new object: its copy is staged, made read-only and given its name
  | none =>
    rcases tree.copyFiles_empty false with ⟨staged, hcopy, hregular, hsame, hflags⟩
    have hstaged : (DirectoryTree.Tree.copyFiles tree false .empty receipt.paths).mapError osError =
        .ok staged := by
      rw [paths_eq hfiles, hcopy]
      rfl
    dsimp only
    rw [check_bind_ok hstaged]
    refine ⟨_, rfl, ⟨?_, ?_, hs.sidecar⟩, ⟨?_, fun _ _ h => h, fun _ _ h => h⟩, rfl, ?_⟩
    · intro key object hget
      simp only [get?_set] at hget
      split at hget
      · rename_i hkey
        cases hget
        refine ⟨hregular.chmodDirectories false, hregular.isImmutable hflags, receipt.keySha256, ?_⟩
        have hsealed : (staged.chmodDirectories false).files = tree.files :=
          (DirectoryTree.Tree.files_congr (staged.file?_chmodDirectories false)).trans hsame
        rw [hkey, hsealed, content_of_validate hreceipt, hfiles]
      · exact hs.object key object hget
    · intro key found hget
      rcases hs.receipt key found hget with ⟨hsha, object, hthere⟩
      refine ⟨hsha, ?_⟩
      simp only [get?_set]
      split
      · exact ⟨_, rfl⟩
      · exact ⟨object, hthere⟩
    · intro key object hget
      simp only [get?_set]
      split
      · rename_i hkey
        -- no object had this name
        rw [hkey, hobject] at hget
        cases hget
      · exact hget
    · refine ⟨staged.chmodDirectories false, ?_⟩
      simp only [get?_set, if_true]

/-- After the publication of a receipt it is there. -/
theorem publishJson_spec (hs : Sound sha s) (hsha : receipt.receiptSha256 sha = .ok receiptId)
    (hobject : ∃ object, s.objects.get? receipt.contentSha256 = some object) :
    ∃ t, publishJson receiptId receipt s = (.ok (), t) ∧ Sound sha t ∧ Extends s t ∧
      t.overlays = s.overlays ∧ t.receipts.get? receiptId = some receipt := by
  unfold publishJson
  simp only [read_bind]
  cases hfound : s.receipts.get? receiptId with
  | some found =>
    -- the receipts of one digest are the same
    have hsame : found = receipt := by
      have hold := (receiptSha256_eq_ok.mp (hs.receipt receiptId found hfound).1).2.2
      have hnew := (receiptSha256_eq_ok.mp hsha).2.2
      exact sha.receipt_injective (hold.trans hnew.symm)
    refine ⟨s, ?_, hs, .refl s, rfl, ?_⟩
    · exact congrArg (fun result => (result, s)) (require_of hsame _)
    · rw [hfound, hsame]
  | none =>
    refine ⟨_, rfl, ⟨hs.object, ?_, hs.sidecar⟩, ⟨fun _ _ h => h, ?_, fun _ _ h => h⟩, rfl, ?_⟩
    · intro key found hget
      simp only [get?_set] at hget
      split at hget
      · rename_i hkey
        cases hget
        rw [hkey]
        exact ⟨hsha, hobject⟩
      · exact hs.receipt key found hget
    · intro key found hget
      simp only [get?_set]
      split
      · rename_i hkey
        rw [hkey, hfound] at hget
        cases hget
      · exact hget
    · simp only [get?_set, if_true]

/-- After the publication of a sidecar it is there. -/
theorem publishText_spec (hs : Sound sha s) (receiptId : D) :
    ∃ t, publishText receiptId receiptId s = (.ok (), t) ∧ Sound sha t ∧ Extends s t ∧
      t.overlays = s.overlays ∧ t.sidecars.get? receiptId = some receiptId := by
  unfold publishText
  simp only [read_bind]
  cases hfound : s.sidecars.get? receiptId with
  | some found =>
    have hsame : found = receiptId := hs.sidecar receiptId found hfound
    refine ⟨s, ?_, hs, .refl s, rfl, by rw [hfound, hsame]⟩
    exact congrArg (fun result => (result, s)) (require_of hsame _)
  | none =>
    refine ⟨_, rfl, ⟨hs.object, hs.receipt, ?_⟩, ⟨fun _ _ h => h, fun _ _ h => h, ?_⟩, rfl, ?_⟩
    · intro key value hget
      simp only [get?_set] at hget
      split at hget
      · rename_i hkey
        cases hget
        exact hkey.symm
      · exact hs.sidecar key value hget
    · intro key value hget
      simp only [get?_set]
      split
      · rename_i hkey
        rw [hkey, hfound] at hget
        cases hget
      · exact hget
    · simp only [get?_set, if_true]

/-- An overlay with a receipt is sealed. -/
theorem sealAs_eq_ok (hs : Sound sha s)
    (hsealed : sealReceipt sha overlay builderId launchPlanSha256 now s = .ok (tree, receipt))
    (hprintable : requirePrintable overlay.processId = .ok ()) :
    ∃ t, sealAs sha overlay builderId launchPlanSha256 now s =
        (.ok (receipt.contentSha256, sha.receipt receipt), t) ∧ Sound sha t ∧ Extends s t ∧
      t.overlays = s.overlays ∧ Recorded t (sha.receipt receipt) receipt := by
  rcases sealReceipt_eq_ok hsealed with ⟨hkey, _, _, hfiles, hvalid, hprocess, _⟩
  have hsha : receipt.receiptSha256 sha = .ok (sha.receipt receipt) :=
    receiptSha256_eq_ok.mpr ⟨hvalid, by rw [hprocess]; exact hprintable, rfl⟩
  rcases publishObject_spec hs hfiles hvalid with ⟨t₁, hrun₁, ht₁, hextends₁, hoverlays₁, hobject⟩
  rcases publishJson_spec ht₁ hsha hobject with ⟨t₂, hrun₂, ht₂, hextends₂, hoverlays₂, hreceipt⟩
  rcases publishText_spec ht₂ (sha.receipt receipt) with
    ⟨t₃, hrun₃, ht₃, hextends₃, hoverlays₃, hsidecar⟩
  have hrecorded : Recorded t₃ (sha.receipt receipt) receipt :=
    ⟨hextends₃.receipt _ _ hreceipt, hsidecar⟩
  refine ⟨t₃, ?_, ht₃, (hextends₁.trans hextends₂).trans hextends₃,
    hoverlays₃.trans (hoverlays₂.trans hoverlays₁), hrecorded⟩
  unfold sealAs
  simp only [read_bind, id]
  rw [check_bind_ok hsealed]
  dsimp only
  rw [bind_apply_ok hrun₁, check_bind_ok hsha, bind_apply_ok hrun₂, bind_apply_ok hrun₃]
  simp only [read_bind, id]
  rw [check_bind_ok (verify_eq_ok ht₃ hrecorded hkey)]
  rfl

/-- Without a receipt nothing is sealed. -/
theorem sealAs_eq_error {e : Error}
    (hsealed : sealReceipt sha overlay builderId launchPlanSha256 now s = .error e) :
    sealAs sha overlay builderId launchPlanSha256 now s = (.error e, s) := by
  unfold sealAs
  simp only [read_bind, id]
  rw [check_bind_error hsealed]

/-! ## Every call -/

/-- The call keeps a sound store sound, and all its objects and receipts. -/
def Keeps (sha : CacheSha D) {α : Type} (m : Method (Store D) α) (s : Store D) : Prop :=
  LeavesAt m s fun t => Sound sha t ∧ Extends s t

/-- A call that changes overlays only. -/
theorem keeps_of_sameRecords {α : Type} {m : Method (Store D) α} (hs : Sound sha s)
    (h : LeavesAt m s (SameRecords s)) : Keeps sha m s :=
  LeavesAt.mono h fun _ ht => ⟨ht.sound hs, ht.extends⟩

theorem keeps_sealAs (hs : Sound sha s) :
    Keeps sha (sealAs sha overlay builderId launchPlanSha256 now) s := by
  cases hsealed : sealReceipt sha overlay builderId launchPlanSha256 now s with
  | error e =>
    unfold Keeps LeavesAt
    rw [sealAs_eq_error hsealed]
    exact ⟨hs, .refl s⟩
  | ok sealed =>
    rcases sealed with ⟨tree, receipt⟩
    cases hprintable : requirePrintable overlay.processId with
    | ok _ =>
      rcases sealAs_eq_ok hs hsealed hprintable with ⟨t, hrun, ht, hextends, _⟩
      unfold Keeps LeavesAt
      rw [hrun]
      exact ⟨ht, hextends⟩
    | error e =>
      -- the object is published before the receipt turns out to have no digest
      rcases sealReceipt_eq_ok hsealed with ⟨_, _, _, hfiles, hvalid, hprocess, _⟩
      rcases publishObject_spec hs hfiles hvalid with ⟨t, hrun, ht, hextends, _⟩
      have hsha : receipt.receiptSha256 sha = .error e := by
        unfold CompileCacheReceipt.receiptSha256
        rw [hvalid, hprocess, hprintable]
        rfl
      unfold Keeps LeavesAt sealAs
      simp only [read_bind, id]
      rw [check_bind_ok hsealed]
      dsimp only
      rw [bind_apply_ok hrun, check_bind_error hsha]
      exact ⟨ht, hextends⟩

theorem keeps_sealLaunchOverlay {resolved : String → Bool} {plan : CompileCacheLaunchPlan D}
    (hs : Sound sha s) : Keeps sha (sealLaunchOverlay sha resolved overlay plan now) s := by
  have hstart : Sound sha s ∧ Extends s s := ⟨hs, .refl s⟩
  refine leavesAt_check hstart fun _ _ => leavesAt_check hstart fun _ _ => ?_
  refine leavesAt_check hstart fun _ _ => leavesAt_check hstart fun _ _ => ?_
  exact leavesAt_check hstart fun _ _ => keeps_sealAs hs

theorem keeps_createOverlay {processId : ℤ} {attemptId : String} (hs : Sound sha s) :
    Keeps sha (createOverlay sha key processId attemptId now) s := by
  refine keeps_of_sameRecords hs ?_
  have hstart : SameRecords s s := .refl s
  refine leavesAt_read (leavesAt_check hstart fun _ _ => leavesAt_check hstart fun _ _ => ?_)
  refine leavesAt_check hstart fun _ _ => leavesAt_check hstart fun path _ => ?_
  refine leavesAt_check hstart fun _ _ => leavesAt_assign (leavesAt_read ?_)
  have hmade : SameRecords s { s with overlays := s.overlays.set path .empty } := ⟨rfl, rfl, rfl⟩
  exact leavesAt_check hmade fun _ _ => leavesAt_pure hmade

theorem keeps_seedOverlay {receiptId expected : D} (hs : Sound sha s) :
    Keeps sha (seedOverlay sha overlay receiptId expected) s := by
  refine keeps_of_sameRecords hs ?_
  have hstart : SameRecords s s := .refl s
  refine leavesAt_read (leavesAt_check hstart fun source _ => ?_)
  cases htree : s.overlays.get? overlay.path with
  | none =>
    simp only [id, htree]
    exact leavesAt_raise hstart
  | some tree =>
    simp only [id, htree]
    refine leavesAt_check hstart fun seeded _ => leavesAt_assign ?_
    have hmade : SameRecords s { s with overlays := s.overlays.set overlay.path seeded } :=
      ⟨rfl, rfl, rfl⟩
    refine leavesAt_check hmade fun _ _ => leavesAt_check hmade fun _ _ => leavesAt_read ?_
    exact leavesAt_check hmade fun _ _ => leavesAt_pure hmade

theorem sameRecords_work (s : Store D) (path : OverlayName D) (tree : DirectoryTree.Tree Bytes) :
    SameRecords s (s.work path tree) := by
  unfold Store.work
  split
  · exact ⟨rfl, rfl, rfl⟩
  · exact .refl s

/-! ## Runs -/

variable (resolved : String → Bool)

theorem step_keeps (hs : Sound sha s) (move : Move D) :
    Sound sha (step sha resolved s move).2 ∧ Extends s (step sha resolved s move).2 := by
  have hcall : ∀ {α : Type} {m : Method (Store D) α}, Keeps sha m s →
      Sound sha (((fun _ => ()) <$> m) s).2 ∧ Extends s (((fun _ => ()) <$> m) s).2 := by
    intro α m hm
    rw [map_apply]
    exact hm
  cases move with
  | create key processId attemptId now => exact hcall (keeps_createOverlay hs)
  -- a runtime writes to its own overlay, never to a record
  | work path tree =>
    exact ⟨(sameRecords_work s path tree).sound hs, (sameRecords_work s path tree).extends⟩
  | sealManual overlay now => exact hcall (keeps_sealAs hs)
  | sealLaunch overlay plan now => exact hcall (keeps_sealLaunchOverlay hs)
  | seed overlay receiptId expected => exact hcall (keeps_seedOverlay hs)

/-- A run keeps a sound store sound, and all its objects and receipts. -/
theorem run_keeps (hs : Sound sha s) (moves : List (Move D)) :
    Sound sha (final (step sha resolved) s moves) ∧
      Extends s (final (step sha resolved) s moves) := by
  induction moves generalizing s with
  | nil => exact ⟨hs, .refl s⟩
  | cons move moves ih =>
    rcases step_keeps resolved hs move with ⟨ht, hextends⟩
    rcases ih ht with ⟨hu, hextends'⟩
    exact ⟨hu, hextends.trans hextends'⟩

variable {resolved}

/-- Every store that a run builds is sound. -/
theorem sound_run (moves : List (Move D)) :
    Sound sha (final (step sha resolved) Store.empty moves) :=
  (run_keeps resolved sound_empty moves).1

end

end CompileCache

import LightConeSpec.CompileCache.Sound
import LightConeSpec.Lib.Digest

/-!
# Sealing and seeding

An overlay that is sealed can be seeded into another one, at any later time, and its object is
that of its key and its files. `seal_round_trips_iff` says for which overlays: those whose paths
have the order of their texts. For any other the receipt is not accepted, although its files are
listed as every inventory lists them.
-/

namespace CompileCache

open Python FileSystem DirectoryTree Machine Method

section

variable {D : Type} [DecidableEq D]

/-- An overlay of regular files and a launch plan of its key. -/
structure Build (sha : CacheSha D) (resolved : String → Bool) (s : Store D) where
  overlay : CompileCacheOverlay D
  plan : CompileCacheLaunchPlan D
  tree : DirectoryTree.Tree Bytes
  valid : overlay.validate s = .ok ()
  named : overlayName sha overlay.key overlay.processId overlay.attemptId = .ok overlay.path
  planned : plan.validate sha resolved = .ok ()
  planKey : plan.key = overlay.key
  contents : s.overlays.get? overlay.path = some tree
  regular : tree.IsRegular
  nonempty : tree.files ≠ []
  singleLine : ∀ file ∈ tree.files, ∀ name ∈ file.1, '\n' ∉ name.toList

/-- An overlay of a key as `create_overlay` leaves it. -/
structure Fresh (key : CompileCacheKey) (overlay : CompileCacheOverlay D) (s : Store D) : Prop where
  key : overlay.key = key
  valid : overlay.validate s = .ok ()
  contents : s.overlays.get? overlay.path = some .empty

theorem step_create {sha : CacheSha D} {resolved : String → Bool} (s : Store D)
    (key : CompileCacheKey) (processId : ℤ) (attemptId : String) (now : ℤ) :
    (step sha resolved s (.create key processId attemptId now)).2 =
      (createOverlay sha key processId attemptId now s).2 :=
  congrArg Prod.snd (map_apply _ _ s)

theorem step_work {sha : CacheSha D} {resolved : String → Bool} (s : Store D) (path : OverlayName D)
    (tree : DirectoryTree.Tree Bytes) : (step sha resolved s (.work path tree)).2 = s.work path tree :=
  rfl

/-- `create_overlay` of a name that is free. -/
theorem createOverlay_eq_ok {sha : CacheSha D} {s : Store D} {key : CompileCacheKey}
    {processId now : ℤ} {attemptId : String} {path : OverlayName D} (hkey : key.validate = .ok ())
    (hprocess : 1 ≤ processId) (hattempt : isSafeComponent attemptId = true)
    (hpath : overlayName sha key processId attemptId = .ok path)
    (hfree : s.overlays.get? path = none) (hnow : 0 ≤ now) :
    ∃ t, createOverlay sha key processId attemptId now s =
        (.ok ⟨key, attemptId, processId, path, now⟩, t) ∧
      Fresh key ⟨key, attemptId, processId, path, now⟩ t := by
  have hthere : (s.overlays.set path DirectoryTree.Tree.empty).get? path = some .empty := by
    simp only [Dict.get?_set, if_true]
  have hvalid : CompileCacheOverlay.validate ⟨key, attemptId, processId, path, now⟩
      { s with overlays := s.overlays.set path .empty } = .ok () := by
    unfold CompileCacheOverlay.validate
    simp only [bind_eq_ok, require_eq_ok, Unique.exists_iff]
    exact ⟨hkey, hattempt, hprocess, by rw [hthere]; rfl, hnow⟩
  refine ⟨{ s with overlays := s.overlays.set path .empty }, ?_, ⟨rfl, hvalid, hthere⟩⟩
  unfold createOverlay
  simp only [read_bind, id]
  rw [check_bind_ok hkey, check_bind_ok (require_of hprocess _),
    check_bind_ok (require_of hattempt _), check_bind_ok hpath, check_bind_ok (require_of hfree _)]
  simp only [assign_bind, read_bind, id]
  rw [check_bind_ok hvalid]
  rfl

namespace Build

variable {sha : CacheSha D} {resolved : String → Bool} {s : Store D}

/-- `seal_launch_overlay` of the overlay. -/
def sealLaunch (b : Build sha resolved s) (now : ℤ) : Except Error (D × D) × Store D :=
  sealLaunchOverlay sha resolved b.overlay b.plan now s

/-- What the cache promises of a build: it is sealed. In every later store the receipt is verified,
and a fresh overlay that is seeded gets the same files. Another build has the same object exactly
when it has the same key and the same files. -/
def RoundTrips (b : Build sha resolved s) (now : ℤ) : Prop :=
  ∃ object receiptId t, b.sealLaunch now = (.ok (object, receiptId), t) ∧
    (∀ moves, verify sha (final (step sha resolved) t moves) b.overlay.key receiptId = .ok object) ∧
    (∀ moves fresh, Fresh b.overlay.key fresh (final (step sha resolved) t moves) →
      ∃ receipt seeded u, seedOverlay sha fresh receiptId receiptId
          (final (step sha resolved) t moves) = (.ok receipt, u) ∧
        u.overlays.get? fresh.path = some seeded ∧ seeded.files = b.tree.files) ∧
    ∀ moves (other : Build sha resolved (final (step sha resolved) Store.empty moves)) now'
      object' receiptId' t', other.sealLaunch now' = (.ok (object', receiptId'), t') →
        (object' = object ↔
          other.overlay.key = b.overlay.key ∧ other.tree.files = b.tree.files)

/-! ## Receipts of builds -/

variable (b : Build sha resolved s) (now : ℤ)

def receipt : CompileCacheReceipt D where
  schemaVersion := 2
  kind := "compile_cache_receipt"
  keySha256 := sha.key b.overlay.key
  contentSha256 := sha.content (sha.key b.overlay.key, b.tree.files.map (recordFile sha))
  builderId := b.plan.builderId
  launchPlanSha256 := some (sha.plan b.plan)
  attemptId := b.overlay.attemptId
  processId := b.overlay.processId
  jitDurationNs := max 0 (now - b.overlay.startedNs)
  files := b.tree.files.map (recordFile sha)

theorem key_sha256 : b.overlay.key.sha256 sha = .ok (sha.key b.overlay.key) := by
  rcases bind_eq_ok.mp b.named with ⟨keySha256, hkey, _⟩
  rw [hkey, (sha256_eq_ok.mp hkey).2.2]

theorem printable : requirePrintable b.overlay.processId = .ok () := by
  rcases bind_eq_ok.mp b.named with ⟨_, _, hrest⟩
  rcases bind_eq_ok.mp hrest with ⟨_, hprintable, _⟩
  exact hprintable

theorem plan_sha256 : b.plan.sha256 sha resolved = .ok (sha.plan b.plan) := by
  have hprintable : forEach requirePrintable b.plan.key.integers = .ok () := by
    rw [b.planKey]
    exact (sha256_eq_ok.mp b.key_sha256).2.1
  exact bind_eq_ok.mpr ⟨(), b.planned, bind_eq_ok.mpr ⟨(), hprintable, rfl⟩⟩

theorem plan_builderId : b.plan.builderId = sglangFirstPartyCompileBuilder := by
  have hplanned := b.planned
  unfold CompileCacheLaunchPlan.validate at hplanned
  simp only [bind_eq_ok, require_eq_ok, Unique.exists_iff] at hplanned
  exact hplanned.2.2.2.2.2.2.2.2.1

/-- A build is sealed as its overlay with its plan. -/
theorem sealLaunch_eq : b.sealLaunch now = sealAs sha b.overlay b.plan.builderId (some (sha.plan b.plan)) now s := by
  have hplanKey : b.plan.key.sha256 sha = .ok (sha.key b.overlay.key) := by
    rw [b.planKey]
    exact b.key_sha256
  unfold sealLaunch sealLaunchOverlay
  rw [check_bind_ok b.planned, check_bind_ok b.key_sha256, check_bind_ok hplanKey,
    check_bind_ok (require_of rfl _), check_bind_ok b.plan_sha256]

/-- The receipt of a build is valid when its files are in the order of the texts. -/
theorem receipt_validate_eq_ok :
    (b.receipt now).validate sha = .ok () ↔ TextOrdered (b.tree.files.map Prod.fst) := by
  have hvalid := b.valid
  unfold CompileCacheOverlay.validate at hvalid
  simp only [bind_eq_ok, require_eq_ok, Unique.exists_iff] at hvalid
  have hbuilder : (b.receipt now).checkBuilder = .ok () := by
    unfold CompileCacheReceipt.checkBuilder receipt
    rw [if_pos b.plan_builderId]
    exact require_of nofun _
  have hfiles : forEach CompileCacheFile.validate (b.receipt now).files = .ok () := by
    rw [forEach_eq_ok]
    intro file hfile
    rcases List.mem_map.mp hfile with ⟨⟨path, body⟩, hmem, rfl⟩
    exact validate_recordFile hmem (b.singleLine _ hmem)
  have hsorted := @inventory_sorted_iff _ sha b.tree
  have hnonempty : (b.receipt now).files ≠ [] := by
    simpa [receipt] using b.nonempty
  unfold CompileCacheReceipt.validate
  simp only [bind_eq_ok, require_eq_ok, Unique.exists_iff]
  constructor
  · intro h
    exact hsorted.mp h.2.2.2.2.2.1.2
  · intro h
    exact ⟨⟨rfl, rfl⟩, hbuilder, hvalid.2.1, hvalid.2.2.1, le_max_left _ _,
      ⟨hnonempty, hsorted.mpr h⟩, hfiles, rfl⟩

/-- Sealing a build begins with the check of its receipt. -/
theorem sealReceipt_eq : sealReceipt sha b.overlay b.plan.builderId (some (sha.plan b.plan)) now s =
    ((b.receipt now).validate sha).bind fun _ => .ok (b.tree, b.receipt now) := by
  have hinventory : inventory sha b.tree = .ok (b.tree.files.map (recordFile sha)) :=
    inventory_eq_ok.mpr ⟨b.regular, rfl⟩
  have hnonempty : b.tree.files.map (recordFile sha) ≠ [] := by
    simpa using b.nonempty
  unfold sealReceipt
  rw [b.valid, b.contents]
  change (inventory sha b.tree >>= _) = _
  rw [hinventory]
  change (require _ _ >>= _) = _
  rw [require_of hnonempty]
  change (b.overlay.key.sha256 sha >>= _) = _
  rw [b.key_sha256]
  rfl

/-! ## Sealing -/

variable {b now}

variable (now) in
/-- A build whose paths have the order of their texts is sealed. -/
theorem sealLaunch_eq_ok (hs : Sound sha s) (hordered : TextOrdered (b.tree.files.map Prod.fst)) :
    ∃ t, b.sealLaunch now = (.ok ((b.receipt now).contentSha256, sha.receipt (b.receipt now)), t) ∧
      Sound sha t ∧ Recorded t (sha.receipt (b.receipt now)) (b.receipt now) := by
  have hsealed : sealReceipt sha b.overlay b.plan.builderId (some (sha.plan b.plan)) now s =
      .ok (b.tree, b.receipt now) := by
    rw [b.sealReceipt_eq, b.receipt_validate_eq_ok now |>.mpr hordered]
    rfl
  rcases sealAs_eq_ok hs hsealed b.printable with ⟨t, hrun, ht, _, _, hrecorded⟩
  exact ⟨t, (b.sealLaunch_eq now).trans hrun, ht, hrecorded⟩

/-- A build that is sealed has its paths in the order of their texts, and the object of its key
and its files. -/
theorem of_sealLaunch_eq_ok {ids : D × D} {t : Store D} (h : b.sealLaunch now = (.ok ids, t)) :
    TextOrdered (b.tree.files.map Prod.fst) ∧
      (Sound sha s → ids.1 = sha.content (sha.key b.overlay.key, b.tree.files.map (recordFile sha))) := by
  cases hvalid : (b.receipt now).validate sha with
  | error e =>
    have hsealed : sealReceipt sha b.overlay b.plan.builderId (some (sha.plan b.plan)) now s =
        .error e := by
      rw [b.sealReceipt_eq, hvalid]
      rfl
    rw [b.sealLaunch_eq, sealAs_eq_error hsealed] at h
    cases h
  | ok _ =>
    have hordered := (b.receipt_validate_eq_ok now).mp hvalid
    refine ⟨hordered, fun hs => ?_⟩
    rcases sealLaunch_eq_ok now hs hordered with ⟨_, hrun, _⟩
    rw [hrun] at h
    cases h
    rfl

/-! ## Seeding -/

/-- A fresh overlay that is seeded from a receipt gets the files of its object. -/
theorem seedOverlay_eq_ok {u : Store D} (hu : Sound sha u) {receiptId : D}
    {receipt : CompileCacheReceipt D} (hrecorded : Recorded u receiptId receipt)
    {key : CompileCacheKey} (hkey : key.sha256 sha = .ok receipt.keySha256)
    (hbuilder : receipt.builderId = sglangFirstPartyCompileBuilder)
    (hplan : receipt.launchPlanSha256 ≠ none) {fresh : CompileCacheOverlay D}
    (hfresh : Fresh key fresh u) {tree : DirectoryTree.Tree Bytes}
    (hfiles : receipt.files = tree.files.map (recordFile sha)) :
    ∃ seeded u', seedOverlay sha fresh receiptId receiptId u = (.ok receipt, u') ∧
      u'.overlays.get? fresh.path = some seeded ∧ seeded.files = tree.files := by
  rcases hu.receipt receiptId receipt hrecorded.receipt with ⟨hsha, object, hobject⟩
  have hobjectFiles := hu.files (receiptSha256_eq_ok.mp hsha).1 hobject
  have hsame : object.files = tree.files := map_recordFile_inj (hobjectFiles.symm.trans hfiles)
  have hfreshKey : fresh.key.sha256 sha = .ok receipt.keySha256 := by
    rw [hfresh.key]
    exact hkey
  have hverify := verify_eq_ok hu hrecorded hfreshKey
  have hsource : seedSource sha fresh receiptId receiptId u = .ok (receipt, object) := by
    unfold seedSource
    refine bind_eq_ok.mpr ⟨(), hfresh.valid, bind_eq_ok.mpr ⟨receipt, ?_, bind_eq_ok.mpr
      ⟨receiptId, hsha, bind_eq_ok.mpr ⟨(), require_of rfl _, bind_eq_ok.mpr ⟨_, hfreshKey,
      bind_eq_ok.mpr ⟨(), require_of rfl _, bind_eq_ok.mpr ⟨(), require_of ⟨hbuilder, hplan⟩ _,
      bind_eq_ok.mpr ⟨_, hverify, ?_⟩⟩⟩⟩⟩⟩⟩⟩
    · rw [loadReceipt_eq_ok hu hrecorded]
      rfl
    · rw [hobject]
      rfl
  rcases object.copyFiles_empty true with ⟨seeded, hcopy, hregular, hseeded, _⟩
  have hcopied : (DirectoryTree.Tree.copyFiles object true .empty receipt.paths).mapError osError =
      .ok seeded := by
    rw [paths_eq hobjectFiles, hcopy]
    rfl
  have hinventory : inventory sha seeded = .ok receipt.files :=
    inventory_eq_ok.mpr ⟨hregular, by rw [hseeded, hobjectFiles]⟩
  -- the overlays are no part of what the second verification reads
  have hmade : SameRecords u { u with overlays := u.overlays.set fresh.path seeded } :=
    ⟨rfl, rfl, rfl⟩
  have hagain := verify_eq_ok (hmade.sound hu) (hrecorded.extends hmade.extends) hfreshKey
  refine ⟨seeded, { u with overlays := u.overlays.set fresh.path seeded }, ?_, ?_,
    hseeded.trans hsame⟩
  · unfold seedOverlay
    simp only [read_bind, id]
    rw [check_bind_ok hsource]
    simp only [hfresh.contents]
    rw [check_bind_ok hcopied]
    simp only [assign_bind]
    rw [check_bind_ok hinventory, check_bind_ok (require_of rfl _)]
    simp only [read_bind, id]
    rw [check_bind_ok hagain]
    rfl
  · simp only [Dict.get?_set, if_true]

end Build

/-! ## Round trips -/

/-- A build round-trips if no path of its files goes on below a name where another path has a
longer name whose next letter is below the slash. -/
theorem seal_round_trips_iff (sha : CacheSha D) (resolved : String → Bool) (moves : List (Move D))
    (b : Build sha resolved (final (step sha resolved) Store.empty moves)) (now : ℤ) :
    b.RoundTrips now ↔ TextOrdered (b.tree.files.map Prod.fst) := by
  constructor
  · rintro ⟨_, _, _, hseal, _⟩
    exact (Build.of_sealLaunch_eq_ok hseal).1
  · intro hordered
    rcases Build.sealLaunch_eq_ok now (sound_run moves) hordered with ⟨t, hrun, ht, hrecorded⟩
    have hlater : ∀ moves', Sound sha (final (step sha resolved) t moves') ∧
        Recorded (final (step sha resolved) t moves') (sha.receipt (b.receipt now))
          (b.receipt now) := by
      intro moves'
      rcases run_keeps resolved ht moves' with ⟨hu, hextends⟩
      exact ⟨hu, hrecorded.extends hextends⟩
    refine ⟨_, _, t, hrun, ?_, ?_, ?_⟩
    · intro moves'
      exact verify_eq_ok (hlater moves').1 (hlater moves').2 b.key_sha256
    · intro moves' fresh hfresh
      rcases Build.seedOverlay_eq_ok (hlater moves').1 (hlater moves').2 b.key_sha256
        b.plan_builderId nofun hfresh rfl with ⟨seeded, u, hseed, hthere, hfiles⟩
      exact ⟨_, seeded, u, hseed, hthere, hfiles⟩
    · intro moves' other now' object' receiptId' t' hother
      have hobject := (Build.of_sealLaunch_eq_ok hother).2 (sound_run moves')
      dsimp only at hobject
      rw [hobject]
      constructor
      · intro heq
        have hpair := sha.content_injective heq
        exact ⟨sha.key_injective (congrArg Prod.fst hpair),
          map_recordFile_inj (congrArg Prod.snd hpair)⟩
      · rintro ⟨hkey, hfiles⟩
        rw [hkey, hfiles]
        rfl

end

/-! ## Digests that never collide -/

namespace RoundTripSample

instance : Content Bool :=
  .ofFields Bool.toNat (by
    intro a b h
    revert a b
    decide)

instance : Content UInt8 :=
  .ofFields UInt8.toNat fun _ _ h => UInt8.toNat_inj.mp h

instance : Content CompileCacheKey :=
  .ofFields (fun key => ((key.patchedSglangTree, key.patchManifestSha256, key.patchSha256,
    key.sourceSha256, key.pythonVersion, key.torchVersion, key.tritonVersion, key.cudaVersion),
    (key.driverVersion, key.smArchitecture, key.gpuModel, key.dtype, key.targetRevision,
    key.drafterRevision, key.tensorParallelSize, key.contextLimit), key.maxRunningRequests,
    key.graphBuckets, key.allocator, key.buildFlags, key.serializedCudaGraphs))

instance : Content (CompileCacheFile Digest) :=
  .ofFields (fun file => (file.relativePath, file.size, file.sha256)) (by
    intro a b h
    cases a
    cases b
    simp only [Prod.mk.injEq] at h
    simp only [CompileCacheFile.mk.injEq]
    exact h)

instance : Content (CompileCacheReceipt Digest) :=
  .ofFields (fun receipt => (receipt.schemaVersion, receipt.kind, receipt.keySha256,
    receipt.contentSha256, receipt.builderId, receipt.launchPlanSha256, receipt.attemptId,
    receipt.processId, receipt.jitDurationNs, receipt.files))

def sha : CacheSha Digest where
  file := Content.digest
  key := Content.digest
  content := Content.digest
  receipt := Content.digest
  plan plan := .text plan.cacheRoot
  pinnedSglangCompileSource := pinnedSglangPatchSha256
  file_injective := Content.injective
  key_injective := Content.injective
  content_injective := Content.injective
  receipt_injective := Content.injective

/-! ## Two builds -/

def key : CompileCacheKey where
  patchedSglangTree := pinnedSglangTree
  patchManifestSha256 := pinnedSglangPatchManifestSha256
  patchSha256 := pinnedSglangPatchSha256
  sourceSha256 := pinnedSglangPatchSha256
  pythonVersion := "3.12.3"
  torchVersion := "2.9.0"
  tritonVersion := "3.5.0"
  cudaVersion := "12.8"
  driverVersion := "570.86"
  smArchitecture := "sm_90"
  gpuModel := "H100"
  dtype := "bfloat16"
  targetRevision := pinnedSglangTree
  drafterRevision := none
  tensorParallelSize := 1
  contextLimit := 4096
  maxRunningRequests := 8
  graphBuckets := [1, 2, 4]
  allocator := "default"
  buildFlags := []
  serializedCudaGraphs := false

def plan : CompileCacheLaunchPlan Digest where
  schemaVersion := 1
  kind := "compile_cache_launch_plan"
  key := key
  cacheRoot := "/cache"
  cacheMode := "build"
  builderId := sglangFirstPartyCompileBuilder
  baseReceiptPath := none
  baseReceiptSha256 := none

def path : OverlayName Digest := ⟨sha.key key, 7, "attempt"⟩

/-- The file `a/b`, and `b` or `a-c` beside the directory. -/
def tree (crossing : Bool) : DirectoryTree.Tree Bytes where
  nodes := ⟨[([], .directory true), (["a"], .directory true), (["a", "b"], .file [1] true),
    ([if crossing then "a-c" else "b"], .file [2] true)], by cases crossing <;> decide⟩
  root := ⟨true, rfl⟩
  rooted := DirectoryTree.Tree.rooted_of_entries (by cases crossing <;> decide)

/-- The overlay is created, and its process writes the two files. -/
def moves (crossing : Bool) : List (Move Digest) :=
  [.create key 7 "attempt" 0, .work path (tree crossing)]

theorem key_valid : key.validate = .ok () := by
  decide +kernel

theorem named : overlayName sha key 7 "attempt" = .ok path := by
  have hprintable : forEach requirePrintable key.integers = .ok () := by
    decide +kernel
  have hkey : key.sha256 sha = .ok (sha.key key) :=
    sha256_eq_ok.mpr ⟨key_valid, hprintable, rfl⟩
  exact bind_eq_ok.mpr ⟨_, hkey, bind_eq_ok.mpr ⟨(), by decide +kernel, rfl⟩⟩

theorem planned : plan.validate sha (fun _ => true) = .ok () := by
  unfold CompileCacheLaunchPlan.validate
  simp only [bind_eq_ok, require_eq_ok, Unique.exists_iff]
  exact ⟨by decide, key_valid, rfl, rfl, rfl, rfl, by decide +kernel, by decide, rfl,
    by decide +kernel⟩

/-- The overlay when its process has written to it. -/
theorem contents (crossing : Bool) :
    (final (step sha fun _ => true) Store.empty (moves crossing)).overlays.get? path =
      some (tree crossing) := by
  rcases createOverlay_eq_ok (s := Store.empty) key_valid (by decide) (by decide +kernel) named rfl
    (le_refl 0) with ⟨t, hcreate, hfresh⟩
  rw [moves, final_cons, step_create, hcreate, final_cons, step_work, final_nil]
  unfold Store.work
  rw [hfresh.contents, Option.isSome_some, if_pos rfl]
  simp only [Dict.get?_set, if_true]

def build (crossing : Bool) :
    Build sha (fun _ => true) (final (step sha fun _ => true) Store.empty (moves crossing)) where
  overlay := ⟨key, "attempt", 7, path, 0⟩
  plan := plan
  tree := tree crossing
  valid := by
    unfold CompileCacheOverlay.validate
    simp only [bind_eq_ok, require_eq_ok, Unique.exists_iff]
    refine ⟨key_valid, by decide +kernel, by decide, ?_, le_refl 0⟩
    rw [contents]
    rfl
  named := named
  planned := planned
  planKey := rfl
  contents := contents crossing
  regular := DirectoryTree.Tree.isRegular_of_entries (by cases crossing <;> decide)
  nonempty := by cases crossing <;> decide +kernel
  singleLine := by cases crossing <;> decide +kernel

end RoundTripSample

open RoundTripSample in
/-- The files `a/b` and `b`. -/
theorem seal_round_trips_sample :
    (build false).RoundTrips 5 ↔ TextOrdered ((build false).tree.files.map Prod.fst) :=
  seal_round_trips_iff sha _ _ (build false) 5

open RoundTripSample in
/-- The files `a/b` and `a-c` are not sealed: the paths are in the order of their names, the texts
are not. -/
theorem crossing_build_not_sealed :
    ¬ ∀ (sha : CacheSha Digest) (resolved : String → Bool) (moves : List (Move Digest))
      (b : Build sha resolved (final (step sha resolved) Store.empty moves)) (now : ℤ),
      b.RoundTrips now := by
  intro hall
  rcases hall sha _ _ (build true) 5 with ⟨_, _, _, hseal, _⟩
  have hordered := (Build.of_sealLaunch_eq_ok hseal).1
  revert hordered
  decide +kernel

end CompileCache

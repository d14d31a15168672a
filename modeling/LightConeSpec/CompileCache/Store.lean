import LightConeSpec.CompileCache.Records
import LightConeSpec.Lib.Machine
import LightConeSpec.Lib.Method

/-!
# The store of compile caches

`ImmutableCompileCache`: overlays that belong to one process, objects that are never written
again, and receipts. Sealing an overlay makes an object of its files and a receipt; seeding copies
an object into another overlay.

One process at a time uses the store. An object appears under its digest when it is complete, so
its staging directory is no part of the state. The classes of errors below `RuntimeError` are not
told apart.
-/

namespace CompileCache

open Python FileSystem DirectoryTree Machine

/-- The name of an overlay, `{key.sha256}.pid{process_id}.{attempt_id}`. -/
structure OverlayName (D : Type) where
  keySha256 : D
  processId : ℤ
  attemptId : String
deriving DecidableEq

/-- `CompileCacheOverlay`. Its path is that of a directory below `overlays`. -/
structure CompileCacheOverlay (D : Type) where
  key : CompileCacheKey
  attemptId : String
  processId : ℤ
  path : OverlayName D
  startedNs : ℤ

/-- `ImmutableCompileCache`: what is below its directories. -/
structure Store (D : Type) where
  objects : Dict D (DirectoryTree.Tree Bytes)
  /-- The receipts `{receipt_sha256}.json`. -/
  receipts : Dict D (CompileCacheReceipt D)
  /-- Their sidecars `{receipt_sha256}.json.sha256`. -/
  sidecars : Dict D D
  overlays : Dict (OverlayName D) (DirectoryTree.Tree Bytes)

def Store.empty {D : Type} : Store D := ⟨.empty, .empty, .empty, .empty⟩

/-- `CompileCacheCorruptionError` and its subclasses. -/
def corruptionError (message : String) : Error := runtimeError message

/-- The `OSError` of a failed system call. -/
def osError : Errno → Error
  | .exists => ⟨.osError, "File exists"⟩
  | .missing => ⟨.osError, "No such file or directory"⟩
  | .notDirectory => ⟨.osError, "Not a directory"⟩
  | .isDirectory => ⟨.osError, "Is a directory"⟩
  | .noSpace => ⟨.osError, "No space left on device"⟩

section

variable {D : Type} [DecidableEq D] (sha : CacheSha D)

/-! ## Overlays -/

def CompileCacheOverlay.validate (overlay : CompileCacheOverlay D) (store : Store D) :
    Except Error Unit := do
  overlay.key.validate
  require (isSafeComponent overlay.attemptId = true)
    (valueError "compile-cache attempt ID is unsafe")
  require (1 ≤ overlay.processId) (valueError "compile-cache process ID must be positive")
  require ((store.overlays.get? overlay.path).isSome = true)
    (valueError "compile-cache overlay must be a private directory")
  require (0 ≤ overlay.startedNs) (valueError "compile-cache start time must be non-negative")

omit [DecidableEq D] in
/-- The name that `create_overlay` gives to an overlay. -/
def overlayName (key : CompileCacheKey) (processId : ℤ) (attemptId : String) :
    Except Error (OverlayName D) := do
  let keySha256 ← key.sha256 sha
  requirePrintable processId
  pure ⟨keySha256, processId, attemptId⟩

def createOverlay (key : CompileCacheKey) (processId : ℤ) (attemptId : String) (now : ℤ) :
    Method (Store D) (CompileCacheOverlay D) := do
  let store ← Method.read id
  Method.check key.validate
  Method.check (require (1 ≤ processId) (valueError "compile-cache process ID must be positive"))
  Method.check (require (isSafeComponent attemptId = true)
    (valueError "compile-cache attempt ID is unsafe"))
  let path ← Method.check (overlayName sha key processId attemptId)
  Method.check (require (store.overlays.get? path = none) (osError .exists))
  Method.assign fun store => { store with overlays := store.overlays.set path .empty }
  let overlay : CompileCacheOverlay D := ⟨key, attemptId, processId, path, now⟩
  let store ← Method.read id
  Method.check (overlay.validate store)
  pure overlay

/-! ## Inventories -/

omit [DecidableEq D] in
/-- One turn of the loop of `_inventory`. -/
def inventoryEntry (entry : Path × Node Bytes) : Option (Except Error (CompileCacheFile D)) :=
  match entry.2 with
  | .symlink => some (.error (valueError "compile-cache objects cannot contain symlinks"))
  | .directory _ => none
  | .special => some (.error (valueError "compile-cache objects must contain regular files"))
  | .file body _ => some (.ok ⟨asPosix entry.1, body.length, sha.file body⟩)

omit [DecidableEq D] in
def inventory (tree : DirectoryTree.Tree Bytes) : Except Error (List (CompileCacheFile D)) :=
  collect (tree.walk.filterMap (inventoryEntry sha))

def verifyImmutableObject (tree : DirectoryTree.Tree Bytes) : Except Error Unit :=
  forEach (fun entry : Path × Node Bytes => do
    require (entry.2 ≠ .symlink) (corruptionError "cache object contains a symlink")
    require (entry.2.isRegular = true) (corruptionError "cache object contains a special file")
    require (entry.2.writable = false) (corruptionError "cache object is writable"))
    ((tree.node? []).toList.map (fun node => ([], node)) ++ tree.walk)

/-! ## Receipts and objects -/

/-- `CompileCacheReceipt.load` of a receipt of the store. -/
def loadReceipt (store : Store D) (receiptId : D) : Except Error (CompileCacheReceipt D) :=
  match store.receipts.get? receiptId with
  | none => .error (valueError "compile-cache receipt must be a regular file")
  | some receipt => do
    receipt.validate sha
    match store.sidecars.get? receiptId with
    | none => .error (valueError "compile-cache receipt sidecar is missing")
    | some sidecar => do
      let receiptSha256 ← receipt.receiptSha256 sha
      require (sidecar = receiptSha256)
        (valueError "compile-cache receipt sidecar differs from content")
      pure receipt

def verify (store : Store D) (key : CompileCacheKey) (receiptId : D) :
    Except Error D := do
  key.validate
  let receipt ← loadReceipt sha store receiptId
  let keySha256 ← key.sha256 sha
  require (receipt.keySha256 = keySha256)
    (corruptionError "cache receipt belongs to another key")
  match store.objects.get? receipt.contentSha256 with
  | none => .error (corruptionError "cache object is missing")
  | some object => do
    let files ← (inventory sha object).mapError fun e => corruptionError e.message
    require (files = receipt.files) (corruptionError "cache object content changed")
    verifyImmutableObject object
    pure receipt.contentSha256

/-! ## Sealing -/

/-- The first half of `_seal_overlay`: the tree of the overlay and its receipt. -/
def sealReceipt (overlay : CompileCacheOverlay D) (builderId : String) (launchPlanSha256 : Option D)
    (now : ℤ) (store : Store D) : Except Error (DirectoryTree.Tree Bytes × CompileCacheReceipt D) := do
  overlay.validate store
  match store.overlays.get? overlay.path with
  | none => .error (osError .missing)
  | some tree => do
    let files ← inventory sha tree
    require (files ≠ [])
      (corruptionError "first-party compile-cache builder produced no files")
    let keySha256 ← overlay.key.sha256 sha
    let receipt : CompileCacheReceipt D := {
      schemaVersion := 2
      kind := "compile_cache_receipt"
      keySha256 := keySha256
      contentSha256 := sha.content (keySha256, files)
      builderId := builderId
      launchPlanSha256 := launchPlanSha256
      attemptId := overlay.attemptId
      processId := overlay.processId
      jitDurationNs := max 0 (now - overlay.startedNs)
      files := files }
    receipt.validate sha
    pure (tree, receipt)

def CompileCacheReceipt.paths (receipt : CompileCacheReceipt D) : List Path :=
  receipt.files.map fun file => pathParts file.relativePath

/-- The object of a receipt is copied, made read-only and put under its digest, unless it is
there. -/
def publishObject (tree : DirectoryTree.Tree Bytes) (receipt : CompileCacheReceipt D) :
    Method (Store D) Unit := do
  let store ← Method.read id
  match store.objects.get? receipt.contentSha256 with
  | some _ => pure ()
  | none => do
    let staged ← Method.check ((DirectoryTree.Tree.copyFiles tree false .empty receipt.paths).mapError osError)
    Method.assign fun store =>
      { store with objects := store.objects.set receipt.contentSha256 (staged.chmodDirectories false) }

/-- `_publish_json` of a receipt. -/
def publishJson (receiptId : D) (receipt : CompileCacheReceipt D) : Method (Store D) Unit := do
  let existing ← Method.read fun store => store.receipts.get? receiptId
  match existing with
  | some found => Method.check (require (found = receipt)
      (valueError "immutable compile-cache artifact already differs"))
  | none => Method.assign fun store => { store with receipts := store.receipts.set receiptId receipt }

/-- `_publish_text` of the sidecar of a receipt. -/
def publishText (receiptId value : D) : Method (Store D) Unit := do
  let existing ← Method.read fun store => store.sidecars.get? receiptId
  match existing with
  | some found => Method.check (require (found = value)
      (valueError "immutable compile-cache sidecar already differs"))
  | none => Method.assign fun store => { store with sidecars := store.sidecars.set receiptId value }

/-- `ImmutableCompileCache._seal_overlay`. -/
def sealAs (overlay : CompileCacheOverlay D) (builderId : String) (launchPlanSha256 : Option D)
    (now : ℤ) : Method (Store D) (D × D) := do
  let store ← Method.read id
  let (tree, receipt) ← Method.check (sealReceipt sha overlay builderId launchPlanSha256 now store)
  publishObject tree receipt
  let receiptSha256 ← Method.check (receipt.receiptSha256 sha)
  publishJson receiptSha256 receipt
  publishText receiptSha256 receiptSha256
  let store ← Method.read id
  let _ ← Method.check (verify sha store overlay.key receiptSha256)
  pure (receipt.contentSha256, receiptSha256)

def sealOverlay (overlay : CompileCacheOverlay D) (now : ℤ) : Method (Store D) (D × D) :=
  sealAs sha overlay unattributedManualBuilder none now

def sealLaunchOverlay (resolved : String → Bool) (overlay : CompileCacheOverlay D)
    (plan : CompileCacheLaunchPlan D) (now : ℤ) : Method (Store D) (D × D) := do
  Method.check (plan.validate sha resolved)
  let overlayKey ← Method.check (overlay.key.sha256 sha)
  let planKey ← Method.check (plan.key.sha256 sha)
  Method.check (require (overlayKey = planKey)
    (corruptionError "compile-cache overlay differs from its launch plan"))
  let planSha256 ← Method.check (plan.sha256 sha resolved)
  sealAs sha overlay plan.builderId (some planSha256) now

/-! ## Seeding -/

/-- What `seed_overlay` checks before it copies: the receipt and its object. -/
def seedSource (overlay : CompileCacheOverlay D) (receiptId expectedReceiptSha256 : D) (store : Store D) :
    Except Error (CompileCacheReceipt D × DirectoryTree.Tree Bytes) := do
  overlay.validate store
  let receipt ← (loadReceipt sha store receiptId).mapError fun _ =>
    corruptionError "cache receipt is missing or invalid"
  let receiptSha256 ← receipt.receiptSha256 sha
  require (receiptSha256 = expectedReceiptSha256)
    (corruptionError "selected cache receipt differs from the launch plan")
  let keySha256 ← overlay.key.sha256 sha
  require (receipt.keySha256 = keySha256)
    (corruptionError "selected cache receipt belongs to another key")
  require (receipt.builderId = sglangFirstPartyCompileBuilder ∧ receipt.launchPlanSha256 ≠ none)
    (corruptionError "selected cache receipt was not produced by the release builder")
  let contentSha256 ← verify sha store overlay.key receiptId
  match store.objects.get? contentSha256 with
  | none => .error (osError .missing)
  | some object => pure (receipt, object)

/-- `ImmutableCompileCache.seed_overlay`. What a copy that fails has written is not kept. -/
def seedOverlay (overlay : CompileCacheOverlay D) (receiptId expectedReceiptSha256 : D) :
    Method (Store D) (CompileCacheReceipt D) := do
  let store ← Method.read id
  let (receipt, object) ← Method.check (seedSource sha overlay receiptId expectedReceiptSha256 store)
  match store.overlays.get? overlay.path with
  | none => Method.raise (osError .missing)
  | some tree => do
    let seeded ← Method.check ((DirectoryTree.Tree.copyFiles object true tree receipt.paths).mapError osError)
    Method.assign fun store => { store with overlays := store.overlays.set overlay.path seeded }
    let files ← Method.check (inventory sha seeded)
    Method.check (require (files = receipt.files)
      (corruptionError "private cache overlay differs from the verified base"))
    let store ← Method.read id
    let _ ← Method.check (verify sha store overlay.key receiptId)
    pure receipt

/-! ## Runs -/

/-- What happens to a store. -/
inductive Move (D : Type)
  | create (key : CompileCacheKey) (processId : ℤ) (attemptId : String) (now : ℤ)
  /-- The process of an overlay changes it. -/
  | work (path : OverlayName D) (tree : DirectoryTree.Tree Bytes)
  | sealManual (overlay : CompileCacheOverlay D) (now : ℤ)
  | sealLaunch (overlay : CompileCacheOverlay D) (plan : CompileCacheLaunchPlan D) (now : ℤ)
  | seed (overlay : CompileCacheOverlay D) (receiptId expectedReceiptSha256 : D)

/-- A process writes to its overlay. -/
def Store.work (path : OverlayName D) (tree : DirectoryTree.Tree Bytes) (store : Store D) : Store D :=
  if (store.overlays.get? path).isSome then { store with overlays := store.overlays.set path tree }
  else store

/-- One call, whether it returns or raises. -/
def step (resolved : String → Bool) (store : Store D) : Move D → Except Error Unit × Store D
  | .create key processId attemptId now =>
    ((fun _ => ()) <$> createOverlay sha key processId attemptId now) store
  | .work path tree => (.ok (), store.work path tree)
  | .sealManual overlay now => ((fun _ => ()) <$> sealOverlay sha overlay now) store
  | .sealLaunch overlay plan now =>
    ((fun _ => ()) <$> sealLaunchOverlay sha resolved overlay plan now) store
  | .seed overlay receiptId expected =>
    ((fun _ => ()) <$> seedOverlay sha overlay receiptId expected) store

end

end CompileCache

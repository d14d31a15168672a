import LightConeSpec.Lib.DirectoryTree

/-!
# Keys, receipts and launch plans of the compile cache

The records of the compile cache and the checks that they make of themselves. A receipt lists the
files of an object, and its content digest is that of the key digest and the list.

`D` is the type of SHA-256 digests. A record is written as canonical JSON and read back as it was;
integers that come from a caller may be too long to be written.
-/

namespace CompileCache

open Python FileSystem

abbrev Bytes := List UInt8

/-! ## Text -/

/-- `re.compile(r"[0-9a-f]{n}\Z").fullmatch`. -/
def isLowerHex (n : ℕ) (text : String) : Bool :=
  text.toList.length = n && text.toList.all (· ∈ "0123456789abcdef".toList)

/-- `_SAFE_COMPONENT.fullmatch`. -/
def isSafeComponent (text : String) : Bool :=
  match text.toList with
  | [] => false
  | first :: rest => first.isAlphanum && rest.all fun c => c.isAlphanum || c ∈ ['.', '_', '-']

/-- `_require_text`. -/
def requireLine (name value : String) : Except Error Unit :=
  require (value ≠ "" ∧ '\n' ∉ value.toList) (valueError s!"{name} must be non-empty single-line text")

def requireSha256 (name value : String) : Except Error Unit :=
  require (isLowerHex 64 value = true) (valueError s!"{name} must be a lowercase SHA-256")

/-- An integer that `json.dumps` and formatted strings can write. -/
def requirePrintable (value : ℤ) : Except Error Unit :=
  require (value.natAbs < 10 ^ 4300) (valueError
    "Exceeds the limit (4300 digits) for integer string conversion; use sys.set_int_max_str_digits() to increase the limit")

/-- `Path(text).parts` of a path that is not absolute. -/
def pathParts (text : String) : Path :=
  ((text.toList.splitOn '/').map String.ofList).filter fun part => part ≠ "" && part ≠ "."

def asPosix (path : Path) : String :=
  String.ofList (['/'].intercalate (path.map String.toList))

/-! ## Pinned identities -/

def pinnedSglangTree : String := "bb6371242e82592d1b8a2f5f4ba6d0630d8365cb"

def pinnedSglangPatchManifestSha256 : String :=
  "ff2fbc43c89e9f476a3fcf5690ba4287c00d434ba4a0f8c1a5d10d77bf79e716"

def pinnedSglangPatchSha256 : String :=
  "0c4db4f8798645c0ba65e97031030fb5e891d15f63cd75105fc1e1656c1a2874"

def sglangFirstPartyCompileBuilder : String := "lightcone_spec.sglang_bridge.launch_server.v1"

def unattributedManualBuilder : String := "unattributed_manual_builder.v1"

/-! ## Records -/

structure CompileCacheKey where
  patchedSglangTree : String
  patchManifestSha256 : String
  patchSha256 : String
  sourceSha256 : String
  pythonVersion : String
  torchVersion : String
  tritonVersion : String
  cudaVersion : String
  driverVersion : String
  smArchitecture : String
  gpuModel : String
  dtype : String
  targetRevision : String
  drafterRevision : Option String
  tensorParallelSize : ℤ
  contextLimit : ℤ
  maxRunningRequests : ℤ
  graphBuckets : List ℤ
  allocator : String
  buildFlags : List String
  serializedCudaGraphs : Bool

structure CompileCacheFile (D : Type) where
  relativePath : String
  size : ℕ
  sha256 : D
deriving DecidableEq

structure CompileCacheReceipt (D : Type) where
  schemaVersion : ℤ
  kind : String
  keySha256 : D
  contentSha256 : D
  builderId : String
  launchPlanSha256 : Option D
  attemptId : String
  processId : ℤ
  jitDurationNs : ℤ
  files : List (CompileCacheFile D)
deriving DecidableEq

structure CompileCacheLaunchPlan (D : Type) where
  schemaVersion : ℤ
  kind : String
  key : CompileCacheKey
  cacheRoot : String
  cacheMode : String
  builderId : String
  baseReceiptPath : Option String
  baseReceiptSha256 : Option D

/-- SHA-256 of what the cache hashes, and `PINNED_SGLANG_COMPILE_SOURCE_SHA256`. -/
structure CacheSha (D : Type) where
  file : Bytes → D
  key : CompileCacheKey → D
  content : D × List (CompileCacheFile D) → D
  receipt : CompileCacheReceipt D → D
  plan : CompileCacheLaunchPlan D → D
  pinnedSglangCompileSource : String
  file_injective : Function.Injective file
  key_injective : Function.Injective key
  content_injective : Function.Injective content
  receipt_injective : Function.Injective receipt

/-! ## Checks -/

namespace CompileCacheKey

def integers (key : CompileCacheKey) : List ℤ :=
  key.tensorParallelSize :: key.contextLimit :: key.maxRunningRequests :: key.graphBuckets

def validate (key : CompileCacheKey) : Except Error Unit := do
  require (isLowerHex 40 key.patchedSglangTree = true)
    (valueError "patched_sglang_tree must be a lowercase Git object")
  requireSha256 "patch_manifest_sha256" key.patchManifestSha256
  requireSha256 "patch_sha256" key.patchSha256
  requireSha256 "source_sha256" key.sourceSha256
  forEach (fun field : String × String => requireLine field.1 field.2)
    [("python_version", key.pythonVersion), ("torch_version", key.torchVersion),
      ("triton_version", key.tritonVersion), ("cuda_version", key.cudaVersion),
      ("driver_version", key.driverVersion), ("sm_architecture", key.smArchitecture),
      ("gpu_model", key.gpuModel), ("dtype", key.dtype), ("target_revision", key.targetRevision),
      ("allocator", key.allocator)]
  require (∀ revision ∈ key.drafterRevision, isLowerHex 40 revision = true)
    (valueError "drafter_revision must be an immutable Git SHA")
  require (isLowerHex 40 key.targetRevision = true)
    (valueError "target_revision must be an immutable Git SHA")
  forEach (fun field : String × ℤ =>
      require (1 ≤ field.2) (valueError s!"{field.1} must be a positive integer"))
    [("tensor_parallel_size", key.tensorParallelSize), ("context_limit", key.contextLimit),
      ("max_running_requests", key.maxRunningRequests)]
  require (key.graphBuckets ≠ [] ∧ sortedSet key.graphBuckets = key.graphBuckets ∧
      ∀ bucket ∈ key.graphBuckets, 1 ≤ bucket)
    (valueError "graph_buckets must be unique increasing integers")
  require (sortedSet key.buildFlags = key.buildFlags ∧
      ∀ flag ∈ key.buildFlags, flag ≠ "" ∧ '\n' ∉ flag.toList)
    (valueError "build_flags must be unique sorted single-line values")
  require (key.serializedCudaGraphs = false)
    (valueError "CUDA graphs are live-process state and cannot be cached")

def sha256 {D : Type} (sha : CacheSha D) (key : CompileCacheKey) : Except Error D := do
  key.validate
  forEach requirePrintable key.integers
  pure (sha.key key)

end CompileCacheKey

section

variable {D : Type} [DecidableEq D] (sha : CacheSha D)

omit [DecidableEq D] in
def CompileCacheFile.validate (file : CompileCacheFile D) : Except Error Unit := do
  requireLine "cache file path" file.relativePath
  require (isAbsolutePath file.relativePath = false ∧ pathParts file.relativePath ≠ [] ∧
      ∀ part ∈ pathParts file.relativePath, part ∉ ["", ".", ".."])
    (valueError "cache file path must be a safe relative path")

namespace CompileCacheReceipt

variable (receipt : CompileCacheReceipt D)

/-- The part of `CompileCacheReceipt.validate` about the builder. -/
def checkBuilder : Except Error Unit :=
  if receipt.builderId = sglangFirstPartyCompileBuilder then
    require (receipt.launchPlanSha256 ≠ none)
      (valueError "first-party cache receipt lacks its launch plan")
  else if receipt.builderId = unattributedManualBuilder then
    require (receipt.launchPlanSha256 = none)
      (valueError "manual cache receipt cannot claim a launch plan")
  else .error (valueError "compile-cache receipt builder is unsupported")

def validate : Except Error Unit := do
  require (receipt.schemaVersion = 2 ∧ receipt.kind = "compile_cache_receipt")
    (valueError "compile-cache receipt schema is unsupported")
  receipt.checkBuilder
  require (isSafeComponent receipt.attemptId = true)
    (valueError "compile-cache attempt ID is unsafe")
  require (1 ≤ receipt.processId) (valueError "compile-cache process ID must be positive")
  require (0 ≤ receipt.jitDurationNs) (valueError "JIT duration must be non-negative")
  require (receipt.files ≠ [] ∧
      receipt.files.map (·.relativePath) = sortedSet (receipt.files.map (·.relativePath)))
    (valueError "compile-cache files must be non-empty and sorted")
  forEach CompileCacheFile.validate receipt.files
  require (receipt.contentSha256 = sha.content (receipt.keySha256, receipt.files))
    (valueError "compile-cache content digest does not match files")

def receiptSha256 : Except Error D := do
  receipt.validate sha
  requirePrintable receipt.processId
  pure (sha.receipt receipt)

end CompileCacheReceipt

namespace CompileCacheLaunchPlan

/-- `_strict_absolute_path`. `resolved` says that a path is the one it resolves to. -/
def requireStrictPath (resolved : String → Bool) (name value : String) : Except Error Unit := do
  requireLine name value
  require (isAbsolutePath value = true ∧ resolved value = true)
    (valueError s!"{name} must be an absolute normalized path")
  require (pathParts value ≠ []) (valueError s!"{name} cannot be a filesystem root")

/-- The part of `CompileCacheLaunchPlan.validate` about the base receipt. -/
def checkBase (resolved : String → Bool) (plan : CompileCacheLaunchPlan D) : Except Error Unit :=
  if plan.cacheMode = "build" then
    require (plan.baseReceiptPath = none ∧ plan.baseReceiptSha256 = none)
      (valueError "a cache build cannot claim an existing base receipt")
  else
    match plan.baseReceiptPath, plan.baseReceiptSha256 with
    | some path, some _ => do
      requireStrictPath resolved "base_receipt_path" path
      require (pathParts plan.cacheRoot ++ ["receipts"] <+: pathParts path)
        (valueError "base receipt must belong to the selected cache root")
    | _, _ => .error (valueError "cache reuse requires an exact base receipt")

def validate (resolved : String → Bool) (plan : CompileCacheLaunchPlan D) : Except Error Unit := do
  require (plan.schemaVersion = 1 ∧ plan.kind = "compile_cache_launch_plan")
    (valueError "compile-cache launch plan schema is unsupported")
  plan.key.validate
  require (plan.key.patchedSglangTree = pinnedSglangTree)
    (valueError "compile-cache plan has a foreign patched SGLang tree")
  require (plan.key.patchManifestSha256 = pinnedSglangPatchManifestSha256)
    (valueError "compile-cache plan has a foreign patch manifest")
  require (plan.key.patchSha256 = pinnedSglangPatchSha256)
    (valueError "compile-cache plan has a foreign semantic patch")
  require (plan.key.sourceSha256 = sha.pinnedSglangCompileSource)
    (valueError "compile-cache plan has a foreign source identity")
  requireStrictPath resolved "cache_root" plan.cacheRoot
  require (plan.cacheMode = "build" ∨ plan.cacheMode = "reuse")
    (valueError "compile-cache mode must be build or reuse")
  require (plan.builderId = sglangFirstPartyCompileBuilder)
    (valueError "compile-cache builder is not release-owned")
  plan.checkBase resolved

def sha256 (resolved : String → Bool) (plan : CompileCacheLaunchPlan D) : Except Error D := do
  plan.validate sha resolved
  forEach requirePrintable plan.key.integers
  pure (sha.plan plan)

end CompileCacheLaunchPlan

end

end CompileCache

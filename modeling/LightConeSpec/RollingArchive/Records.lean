import Mathlib.Algebra.GroupWithZero.Nat
import LightConeSpec.Lib.FileSystem
import LightConeSpec.Telemetry.Names

/-!
# Records of the rolling archive

A sealed candidate tree, the plan that evicts files from it, and the receipts of its
eviction and of its restoration. Every record is stored as a canonical JSON object;
a `Body` is what a file holds, so far as the archive can tell: one of these records,
another JSON object, or other bytes.

A constructor resolves the absolute paths of its record, so its checks read the file
system. They only find symbolic links, which nothing here makes.
-/

namespace RollingArchive

open Python FileSystem

/-- The handlers that catch an exception: `guarded` errors are `OSError`, `TypeError`,
`ValueError` and `FormalRollingArchiveError`. -/
inductive RaisedKind
  | guarded
  | exception
  | baseException
deriving DecidableEq

/-- A raised exception, with `type(error).__name__`. -/
structure Raised where
  className : String
  kind : RaisedKind
  message : String
deriving DecidableEq

/-- `except (OSError, TypeError, ValueError, FormalRollingArchiveError)`. -/
def Raised.isGuarded (e : Raised) : Bool := e.kind == .guarded

def Raised.isException (e : Raised) : Bool := e.kind != .baseException

def archiveError (message : String) : Raised := ⟨"FormalRollingArchiveError", .guarded, message⟩
def valueError (message : String) : Raised := ⟨"ValueError", .guarded, message⟩
def typeError (message : String) : Raised := ⟨"TypeError", .guarded, message⟩

/-- The `OSError` of a failed system call. -/
def osError : Errno → Raised
  | .exists => ⟨"FileExistsError", .guarded, "File exists"⟩
  | .missing => ⟨"FileNotFoundError", .guarded, "No such file or directory"⟩
  | .notDirectory => ⟨"NotADirectoryError", .guarded, "Not a directory"⟩
  | .isDirectory => ⟨"IsADirectoryError", .guarded, "Is a directory"⟩
  | .noSpace => ⟨"OSError", .guarded, "No space left on device"⟩

/-- `if not condition: raise error`. -/
def ensure (condition : Prop) [Decidable condition] (error : Raised) : Except Raised Unit :=
  if condition then .ok () else .error error

@[simp] theorem ensure_eq_ok {condition : Prop} [Decidable condition] {error : Raised} {u : Unit} :
    ensure condition error = .ok u ↔ condition := by
  unfold ensure
  split <;> simp_all

@[simp] theorem ensure_eq_error {condition : Prop} [Decidable condition] {error e : Raised} :
    ensure condition error = .error e ↔ ¬ condition ∧ error = e := by
  unfold ensure
  split <;> simp_all

/-- A check, and what follows it. -/
theorem then_eq_ok {β : Type} {x : Except Raised Unit} {f : Unit → Except Raised β} {b : β} :
    (x >>= f) = .ok b ↔ x = .ok () ∧ f () = .ok b := by
  rw [bind_eq_ok]
  exact ⟨fun ⟨_, hx, hf⟩ => ⟨hx, hf⟩, fun ⟨hx, hf⟩ => ⟨(), hx, hf⟩⟩

/-! ## Paths -/

/-- `str(path)` of an absolute path. -/
def pathText (path : Path) : String := "/" ++ "/".intercalate path

def withName (path : Path) (name : String) : Path := path.dropLast ++ [name]

def fileName (path : Path) : String := path.getLast?.getD ""

def isRelativeTo (path root : Path) : Bool := decide (root <+: path)

/-- `tuple(sorted(set(paths)))`. -/
def sortedPaths (paths : List Path) : List Path := sortedBy pathText paths.dedup

@[simp] theorem mem_sortedPaths {paths : List Path} {p : Path} : p ∈ sortedPaths paths ↔ p ∈ paths := by
  unfold sortedPaths
  rw [mem_sortedBy, List.mem_dedup]

def archiveManifestName : String := "sha256_manifest.json"

/-- `archive manifest path is not safe relative POSIX text`. -/
def isSafeRelative (path : Path) : Bool :=
  path ≠ [] && ".." ∉ path && fileName path ≠ archiveManifestName

/-! ## Records -/

variable {Sha : Type}

structure ArchiveManifestFile (Sha : Type) where
  path : Path
  sha256 : Sha
  sizeBytes : ℕ
deriving DecidableEq

structure FormalArchiveSha256Manifest (Sha : Type) where
  files : List (ArchiveManifestFile Sha)
deriving DecidableEq

structure EvictionFileBinding (Sha : Type) where
  absolutePath : Path
  archiveRelativePath : Path
  inode : Inode
  sizeBytes : ℕ
  sha256 : Sha
deriving DecidableEq

structure RemoteEvictionPlan (Sha : Type) where
  runId : String
  runRoot : Path
  archiveId : String
  archiveCandidateRoot : Path
  archiveCandidateRootInode : Inode
  archiveManifestPath : Path
  archiveManifestSha256 : Sha
  remoteArchiveResultSha256 : Sha
  archiveAuthorizationSha256 : Sha
  retainedDependencyManifestPath : Path
  files : List (EvictionFileBinding Sha)
  plannedBytes : ℕ
  createdAtNs : ℕ
deriving DecidableEq

structure EvictedFileReceipt (Sha : Type) where
  absolutePath : Path
  archiveRelativePath : Path
  sizeBytes : ℕ
  sha256 : Sha
  deletedAtNs : ℤ
deriving DecidableEq

inductive EvictionReceiptStatus
  | complete
  | failedZero
  | failedPartial
deriving DecidableEq

structure RemoteEvictionReceipt (Sha : Type) where
  planSha256 : Sha
  archiveId : String
  archiveAuthorizationSha256 : Sha
  status : EvictionReceiptStatus
  deletedFiles : List (EvictedFileReceipt Sha)
  deletedBytes : ℕ
  failureCode : Option String
  failurePath : Option Path
  missingUnrecordedFiles : List Path
  schedulerStopRequested : Bool
  schedulerStopSucceeded : Bool
  finishedAtNs : ℤ
deriving DecidableEq

structure EvictionProgress (Sha : Type) where
  planSha256 : Sha
  index : ℕ
  file : EvictedFileReceipt Sha
deriving DecidableEq

/-- `RemoteArchiveResult`, so far as the restoration reads it. -/
structure RemoteArchiveResult (Sha : Type) where
  archiveId : String
  remotePayloadRoot : Path
  manifestSha256 : Sha
  checkedFileCount : ℕ
  checkedBytes : ℕ
deriving DecidableEq

structure RestoredFileReceipt (Sha : Type) where
  absolutePath : Path
  archiveRelativePath : Path
  sizeBytes : ℕ
  sha256 : Sha
deriving DecidableEq

inductive Disposition
  | restored
  | alreadyPresent
deriving DecidableEq

structure RemoteStreamRestoreProgress (Sha : Type) where
  planSha256 : Sha
  evictionReceiptSha256 : Sha
  remoteArchiveResultSha256 : Sha
  fileIndex : ℕ
  file : RestoredFileReceipt Sha
  disposition : Disposition
  restoredAtNs : ℤ
deriving DecidableEq

structure ArchiveRestoreReceipt (Sha : Type) where
  planSha256 : Sha
  archiveId : String
  archiveManifestSha256 : Sha
  remoteArchiveResultSha256 : Sha
  restoredFiles : List (RestoredFileReceipt Sha)
  alreadyPresentFiles : List (RestoredFileReceipt Sha)
  restoredBytes : ℕ
  completedAtNs : ℤ
deriving DecidableEq

/-- A canonical JSON object with the fields of one of the records, and the digest of
the record where its format has one. -/
inductive Document (Sha : Type)
  | manifest (manifest : FormalArchiveSha256Manifest Sha)
  | plan (plan : RemoteEvictionPlan Sha)
  | evictionProgress (progress : EvictionProgress Sha)
  | evictionReceipt (receipt : RemoteEvictionReceipt Sha)
  | archiveResult (result : RemoteArchiveResult Sha)
  | restoreProgress (progress : RemoteStreamRestoreProgress Sha)
  | restoreReceipt (receipt : ArchiveRestoreReceipt Sha)
deriving DecidableEq

/-- What a regular file holds. `object` is a canonical JSON object that is none of the
documents. -/
inductive Body (Sha : Type)
  | bytes (data : List UInt8)
  | object (data : List UInt8)
  | document (document : Document Sha)
deriving DecidableEq

/-- SHA-256 and the length of a canonical JSON text. The file of a manifest is the
canonical text that its digest is taken of. -/
structure Hashing (Sha : Type) where
  bytes : List UInt8 → Sha
  semantic : Document Sha → Sha
  envelope : Document Sha → Sha
  size : Document Sha → ℕ

namespace Hashing

variable (hash : Hashing Sha)

def planSha256 (plan : RemoteEvictionPlan Sha) : Sha := hash.semantic (.plan plan)

def manifestSha256 (manifest : FormalArchiveSha256Manifest Sha) : Sha :=
  hash.semantic (.manifest manifest)

def fileSha256 : Body Sha → Sha
  | .bytes data | .object data => hash.bytes data
  | .document (.manifest manifest) => hash.manifestSha256 manifest
  | .document document => hash.envelope document

/-- `st_size`. -/
def fileSize : Body Sha → ℕ
  | .bytes data | .object data => data.length
  | .document document => hash.size document

end Hashing

/-! ## Reading the file system -/

/-- A file system of the archive. -/
abbrev Tree (Sha : Type) := Files (Body Sha)

variable (fs : Tree Sha)

def absoluteNormalized (path : Path) (label : String) : Except Raised Unit :=
  ensure (fs.isNormalized path = true) (valueError (label ++ " must be absolute and normalized"))

def existingFile (path : Path) (label : String) : Except Raised Unit := do
  absoluteNormalized fs path label
  ensure (fs.lexists path = true) (archiveError (label ++ " is missing"))
  ensure ((fs.inode? path).isSome = true) (archiveError (label ++ " is not one regular file"))

def existingDirectory (path : Path) (label : String) : Except Raised Unit := do
  absoluteNormalized fs path label
  ensure (fs.lexists path = true) (archiveError (label ++ " is missing"))
  ensure (fs.isDirectory path = true) (archiveError (label ++ " is not one directory"))

def outsideCandidate (path candidate : Path) (label : String) : Except Raised Unit := do
  absoluteNormalized fs path label
  ensure (isRelativeTo path candidate = false)
    (valueError (label ++ " must be outside the archive candidate root"))

/-- `_read_canonical_object`: the document, or `none` for another object. -/
def readCanonicalObject (path : Path) (label : String) : Except Raised (Option (Document Sha)) := do
  existingFile fs path label
  match fs.read? path with
  | some (.document document) => pure (some document)
  | some (.object _) => pure none
  | _ => .error (archiveError (label ++ " is not UTF-8 JSON"))

/-- `os.lstat` of a regular file and the digest of its body, read in one piece. -/
structure StableIdentity (Sha : Type) where
  inode : Inode
  links : ℕ
  sizeBytes : ℕ
  sha256 : Sha
deriving DecidableEq

def stableFileIdentity (hash : Hashing Sha) (path : Path) : Except Raised (StableIdentity Sha) :=
  match fs.node? path with
  | none => .error (archiveError ("required file is missing: " ++ pathText path))
  | some (.file inode) =>
    .ok ⟨inode, fs.links inode, hash.fileSize (fs.bodies inode), hash.fileSha256 (fs.bodies inode)⟩
  | some _ => .error (archiveError ("path is not one regular file: " ++ pathText path))

/-! ## Constructors -/

def forEachRecord {α : Type} (check : α → Except Raised Unit) : List α → Except Raised Unit
  | [] => .ok ()
  | value :: rest =>
    match check value with
    | .error e => .error e
    | .ok () => forEachRecord check rest

@[simp] theorem forEachRecord_eq_ok {α : Type} {check : α → Except Raised Unit} {values : List α}
    {u : Unit} : forEachRecord check values = .ok u ↔ ∀ value ∈ values, check value = .ok () := by
  induction values with
  | nil => simp [forEachRecord]
  | cons value rest ih =>
    unfold forEachRecord
    cases hcheck : check value with
    | error e => simp [hcheck]
    | ok _ => simp [hcheck, ih]

/-- `ArchiveManifestFile.__post_init__`. -/
def checkRelative (path : Path) : Except Raised Unit :=
  ensure (isSafeRelative path = true)
    (valueError "archive manifest path is not safe relative POSIX text")

def requirePositiveInt (value : ℤ) (label : String) : Except Raised Unit :=
  ensure (0 < value) (valueError (label ++ " must be a positive integer"))

def EvictionFileBinding.postInit (row : EvictionFileBinding Sha) : Except Raised Unit := do
  absoluteNormalized fs row.absolutePath "eviction file path"
  checkRelative row.archiveRelativePath
  requirePositiveInt row.inode.number "eviction file inode"

/-- `RemoteEvictionPlan.__post_init__`, with the constructors of its files. -/
def RemoteEvictionPlan.postInit (plan : RemoteEvictionPlan Sha) : Except Raised Unit := do
  forEachRecord (EvictionFileBinding.postInit fs) plan.files
  ensure (Telemetry.isSafeComponent plan.runId = true ∧ plan.archiveId ≠ "")
    (valueError "remote eviction plan identity differs")
  absoluteNormalized fs plan.runRoot "eviction plan run root"
  absoluteNormalized fs plan.archiveCandidateRoot "eviction plan candidate root"
  ensure (plan.archiveCandidateRoot ≠ plan.runRoot ∧
      isRelativeTo plan.archiveCandidateRoot plan.runRoot = true)
    (valueError "eviction candidate lies outside its exact run root")
  absoluteNormalized fs plan.archiveManifestPath "eviction plan manifest path"
  ensure (plan.archiveManifestPath = plan.archiveCandidateRoot ++ [archiveManifestName])
    (valueError "eviction plan manifest path differs from candidate")
  absoluteNormalized fs plan.retainedDependencyManifestPath "retained dependency manifest path"
  ensure (isRelativeTo plan.retainedDependencyManifestPath plan.archiveCandidateRoot = false)
    (valueError "retained dependency manifest is inside eviction scope")
  requirePositiveInt plan.archiveCandidateRootInode.number "candidate root inode"
  requirePositiveInt plan.createdAtNs "eviction plan creation time"
  ensure (plan.files ≠ [] ∧
      plan.files.map (·.absolutePath) = sortedPaths (plan.files.map (·.absolutePath)) ∧
      (plan.files.map (·.archiveRelativePath)).Nodup ∧
      plan.plannedBytes = (plan.files.map (·.sizeBytes)).sum)
    (valueError "eviction plan file coverage differs")
  ensure (∀ row ∈ plan.files, plan.archiveCandidateRoot ++ row.archiveRelativePath = row.absolutePath)
    (valueError "eviction file is not bound to its archive path")

def EvictedFileReceipt.postInit (row : EvictedFileReceipt Sha) : Except Raised Unit := do
  absoluteNormalized fs row.absolutePath "deleted file path"
  checkRelative row.archiveRelativePath
  requirePositiveInt row.deletedAtNs "file deletion time"

/-- The part of `RemoteEvictionReceipt.__post_init__` that depends on the status. -/
def RemoteEvictionReceipt.checkStatus (receipt : RemoteEvictionReceipt Sha) : Except Raised Unit :=
  match receipt.status with
  | .complete =>
    ensure (receipt.failureCode = none ∧ receipt.failurePath = none ∧
        receipt.missingUnrecordedFiles = [] ∧ receipt.schedulerStopRequested = false ∧
        receipt.schedulerStopSucceeded = false)
      (valueError "complete eviction receipt carries failure state")
  | .failedZero => do
    ensure (receipt.failureCode.getD "" ≠ "" ∧ receipt.schedulerStopRequested = true ∧
        receipt.deletedFiles = [] ∧ receipt.missingUnrecordedFiles = [])
      (valueError "failed eviction receipt state differs")
    forEachRecord (absoluteNormalized fs · "eviction failure path") receipt.failurePath.toList
  | .failedPartial => do
    ensure (receipt.failureCode.getD "" ≠ "" ∧ receipt.schedulerStopRequested = true ∧
        ¬ (receipt.deletedFiles = [] ∧ receipt.missingUnrecordedFiles = []))
      (valueError "failed eviction receipt state differs")
    forEachRecord (absoluteNormalized fs · "eviction failure path") receipt.failurePath.toList

/-- `RemoteEvictionReceipt.__post_init__`, with the constructors of its files. -/
def RemoteEvictionReceipt.postInit (receipt : RemoteEvictionReceipt Sha) : Except Raised Unit := do
  forEachRecord (EvictedFileReceipt.postInit fs) receipt.deletedFiles
  ensure (receipt.archiveId ≠ "") (valueError "remote eviction receipt status differs")
  requirePositiveInt receipt.finishedAtNs "eviction finish time"
  ensure (receipt.deletedFiles.map (·.absolutePath) =
        sortedPaths (receipt.deletedFiles.map (·.absolutePath)) ∧
      receipt.deletedBytes = (receipt.deletedFiles.map (·.sizeBytes)).sum ∧
      receipt.missingUnrecordedFiles = sortedPaths receipt.missingUnrecordedFiles)
    (valueError "remote eviction receipt coverage differs")
  forEachRecord (absoluteNormalized fs · "missing unrecorded eviction path")
    receipt.missingUnrecordedFiles
  receipt.checkStatus fs

def loadRemoteEvictionPlan (path : Path) : Except Raised (RemoteEvictionPlan Sha) := do
  match ← readCanonicalObject fs path "remote eviction plan" with
  | some (.plan plan) => do
    plan.postInit fs
    pure plan
  | _ => .error (valueError "remote eviction plan fields differ")

def loadRemoteEvictionReceipt (path : Path) : Except Raised (RemoteEvictionReceipt Sha) := do
  match ← readCanonicalObject fs path "remote eviction receipt" with
  | some (.evictionReceipt receipt) => do
    receipt.postInit fs
    pure receipt
  | _ => .error (valueError "remote eviction receipt fields differ")

variable {fs}

theorem absoluteNormalized_eq_ok {path : Path} {label : String} {u : Unit} :
    absoluteNormalized fs path label = .ok u ↔ fs.isNormalized path = true :=
  ensure_eq_ok

end RollingArchive

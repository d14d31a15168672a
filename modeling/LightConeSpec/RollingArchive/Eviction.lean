import LightConeSpec.RollingArchive.Storage

/-!
# Executing an eviction plan

`execute_remote_eviction_plan`, one system call at a time. The arguments of a call hold
the answers of its callbacks, each of which may raise: the operator snapshot, the
process probe for each attempt row, the writer probe and `after_unlink` for each planned
file, the scheduler STOP and the clock.
-/

namespace RollingArchive

open FileSystem Program Python

variable {Sha : Type} [DecidableEq Sha]

/-! ## The operator snapshot -/

/-- A JSON value where an integer is expected. -/
inductive JsonInt
  | int (value : ℤ)
  | other

/-- A row of `attempts`; a missing key reads as `None`. -/
structure AttemptRow where
  status : Option String
  pid : Option JsonInt
  pgid : Option JsonInt

/-- A row of `archives`. -/
structure ArchiveRow (Sha : Type) where
  archiveId : Option String
  state : Option String
  remotePayloadRoot : Option Path
  remoteManifestSha256 : Option Sha

/-- `operator_snapshot`; a row that is not an object is `none`, and so is a table that
is not a list. -/
structure OperatorSnapshot (Sha : Type) where
  runId : Option String
  dispatchState : Option String
  attempts : Option (List (Option AttemptRow))
  archives : Option (List (Option (ArchiveRow Sha)))

/-- What the snapshot argument gives. -/
inductive SnapshotAnswer (Sha : Type)
  | raises (error : Raised)
  | notMapping
  | notJson
  | mapping (snapshot : OperatorSnapshot Sha)

/-- The answers of the callbacks of one call; `none` is not a `bool`. -/
structure Callbacks (Sha : Type) where
  operatorSnapshot : SnapshotAnswer Sha
  processProbe : ℕ → Except Raised (Option Bool)
  activeWriterProbe : ℕ → Except Raised (Option Bool)
  afterUnlink : ℕ → Except Raised Unit
  schedulerStop : Except Raised Unit
  deletedAt : ℕ → Except Raised ℤ
  finishedAt : Except Raised ℤ

/-- `_plain_mapping(snapshot, "current operator snapshot")`. -/
def plainMapping : SnapshotAnswer Sha → Except Raised (OperatorSnapshot Sha)
  | .raises e => .error e
  | .notMapping => .error (typeError "current operator snapshot must be a mapping")
  | .notJson => .error (valueError "current operator snapshot must be canonical JSON data")
  | .mapping snapshot => .ok snapshot

/-- `_require_positive_int` of a JSON value. -/
def requirePositiveJson (value : JsonInt) (label : String) : Except Raised Unit :=
  match value with
  | .int value => requirePositiveInt value label
  | .other => .error (valueError (label ++ " must be a positive integer"))

/-- One row of `_validate_operator_quiescence`. -/
def validateAttempt (probe : Except Raised (Option Bool)) : Option AttemptRow → Except Raised Unit
  | none => .error (archiveError "operator attempt row is not an object")
  | some row => do
    ensure (row.status ≠ some "RUNNING") (archiveError "a RUNNING attempt blocks remote eviction")
    match row.pid, row.pgid with
    | none, none => pure ()
    | some pid, some pgid => do
      requirePositiveJson pid "attempt PID"
      requirePositiveJson pgid "attempt PGID"
      match ← probe with
      | none => .error (typeError "process probe must return bool")
      | some true => .error (archiveError "a live attempt PID/PGID blocks remote eviction")
      | some false => pure ()
    | _, _ => .error (archiveError "attempt PID/PGID binding is incomplete")

/-- The rows from the one with this index. -/
def validateAttempts (probe : ℕ → Except Raised (Option Bool)) :
    ℕ → List (Option AttemptRow) → Except Raised Unit
  | _, [] => .ok ()
  | index, row :: rest =>
    match validateAttempt (probe index) row with
    | .error e => .error e
    | .ok () => validateAttempts probe (index + 1) rest

def validateOperatorQuiescence (snapshot : OperatorSnapshot Sha)
    (probe : ℕ → Except Raised (Option Bool)) : Except Raised Unit := do
  ensure (snapshot.dispatchState = some "STOP")
    (archiveError "scheduler dispatch must be durably STOP before remote eviction")
  match snapshot.attempts with
  | none => .error (archiveError "operator snapshot attempts are absent")
  | some rows => validateAttempts probe 0 rows

/-! ## Checks of the candidate -/

section

variable (fs : Tree Sha)

def verifyCandidateIdentity (candidate : Path) (inode : Inode) : Except Raised Unit := do
  existingDirectory fs candidate "archive candidate root"
  ensure (fs.node? candidate = some (.directory inode))
    (archiveError "archive candidate root identity changed")

def validateRuntimeEvictionGate (plan : RemoteEvictionPlan Sha) (snapshot : OperatorSnapshot Sha)
    (probe : ℕ → Except Raised (Option Bool)) : Except Raised Unit := do
  ensure (snapshot.runId = some plan.runId)
    (archiveError "current operator snapshot is a foreign run")
  validateOperatorQuiescence snapshot probe
  match snapshot.archives with
  | none => .error (archiveError "current archive ledger is absent")
  | some rows => do
    match rows.filterMap fun row => row.filter fun row => row.archiveId = some plan.archiveId with
    | [row] =>
      ensure (row.state = some "EVICTION_AUTHORIZED" ∧
          row.remotePayloadRoot = some plan.archiveCandidateRoot ∧
          row.remoteManifestSha256 = some plan.archiveManifestSha256)
        (archiveError "current archive ledger lost durable eviction authorization")
    | _ => .error (archiveError "current archive ledger lost durable eviction authorization")
    verifyCandidateIdentity fs plan.archiveCandidateRoot plan.archiveCandidateRootInode

/-- `_safe_archive_member(.., must_exist=True)`. -/
def safeArchiveMember (root relative : Path) : Except Raised Path := do
  ensure (isSafeRelative relative = true) (archiveError "archive member path escapes its root")
  existingFile fs (root ++ relative) "archive member"
  pure (root ++ relative)

/-- What `_verify_eviction_file_binding` checks before it asks the writer probe. -/
def verifyIdentity (hash : Hashing Sha) (plan : RemoteEvictionPlan Sha)
    (binding : EvictionFileBinding Sha) : Except Raised Unit := do
  verifyCandidateIdentity fs plan.archiveCandidateRoot plan.archiveCandidateRootInode
  let path ← safeArchiveMember fs plan.archiveCandidateRoot binding.archiveRelativePath
  ensure (path = binding.absolutePath) (archiveError "planned file path binding changed")
  let identity ← stableFileIdentity fs hash path
  ensure (identity = ⟨binding.inode, 1, binding.sizeBytes, binding.sha256⟩)
    (archiveError ("planned file identity changed before unlink: " ++ pathText path))

/-- What `_verify_eviction_file_binding` checks after the writer probe. -/
def verifyBoundary (hash : Hashing Sha) (binding : EvictionFileBinding Sha) :
    Except Raised Unit := do
  let identity ← stableFileIdentity fs hash binding.absolutePath
  ensure (identity.inode = binding.inode ∧ identity.sizeBytes = binding.sizeBytes ∧
      identity.links = 1)
    (archiveError ("planned file mutated at the unlink boundary: " ++
      pathText binding.absolutePath))

end

def checkWriter (path : Path) (probe : Except Raised (Option Bool)) : Except Raised Unit := do
  match ← probe with
  | none => .error (typeError "active writer probe must return bool")
  | some true => .error (archiveError ("planned file has an active writer: " ++ pathText path))
  | some false => pure ()

def verifyEvictionFileBinding (hash : Hashing Sha) (plan : RemoteEvictionPlan Sha)
    (binding : EvictionFileBinding Sha) (probe : Except Raised (Option Bool)) : Code Sha Unit :=
  .vis .observe fun (fs : Tree Sha) =>
  (lift (verifyIdentity fs hash plan binding)).bind fun _ =>
  (lift (checkWriter binding.absolutePath probe)).bind fun _ =>
  .vis .observe fun (fs : Tree Sha) => lift (verifyBoundary fs hash binding)

/-! ## Progress records -/

/-- `f".{output.name}.progress"`. -/
def progressRoot (output : Path) : Path := withName output ("." ++ fileName output ++ ".progress")

/-- `f"{index:08d}.json"`. -/
def progressName (index : ℕ) : String := Telemetry.sequenceText index ++ ".json"

def progressPath (output : Path) (index : ℕ) : Path := progressRoot output ++ [progressName index]

/-- `path.iterdir()`, by name. -/
def iterdir (fs : Tree Sha) (directory : Path) : List String :=
  (fs.names.entries.map Prod.fst).filterMap fun path =>
    if path ≠ [] ∧ path.dropLast = directory then some (fileName path) else none

/-- The record names the plan, its index, and the file with that index. -/
def EvictionProgress.binds (hash : Hashing Sha) (plan : RemoteEvictionPlan Sha)
    (binding : EvictionFileBinding Sha) (index : ℕ) (progress : EvictionProgress Sha) : Prop :=
  progress.planSha256 = hash.planSha256 plan ∧ progress.index = index ∧
    progress.file.absolutePath = binding.absolutePath ∧
    progress.file.archiveRelativePath = binding.archiveRelativePath ∧
    progress.file.sizeBytes = binding.sizeBytes ∧ progress.file.sha256 = binding.sha256

instance (hash : Hashing Sha) (plan : RemoteEvictionPlan Sha) (binding : EvictionFileBinding Sha)
    (index : ℕ) (progress : EvictionProgress Sha) :
    Decidable (progress.binds hash plan binding index) :=
  inferInstanceAs (Decidable (_ ∧ _))

section

variable (hash : Hashing Sha) (fs : Tree Sha) (output : Path) (plan : RemoteEvictionPlan Sha)

def loadProgressRecord (index : ℕ) (binding : EvictionFileBinding Sha) :
    Except Raised (List (EvictedFileReceipt Sha)) :=
  if fs.lexists (progressPath output index) then do
    match ← readCanonicalObject fs (progressPath output index) "eviction file progress" with
    | some (.evictionProgress progress) => do
      progress.file.postInit fs
      ensure (progress.binds hash plan binding index)
        (archiveError "eviction progress identity differs")
      pure [progress.file]
    | _ => .error (archiveError "eviction progress fields differ")
  else .ok []

def loadProgressRecords : ℕ → List (EvictionFileBinding Sha) →
    Except Raised (List (EvictedFileReceipt Sha))
  | _, [] => .ok []
  | index, binding :: rest => do
    let head ← loadProgressRecord hash fs output plan index binding
    let tail ← loadProgressRecords (index + 1) rest
    pure (head ++ tail)

def loadEvictionProgress : Except Raised (List (EvictedFileReceipt Sha)) :=
  if fs.lexists (progressRoot output) then do
    ensure (fs.isDirectory (progressRoot output) = true)
      (archiveError "eviction progress path is unsafe")
    ensure (∀ name ∈ iterdir fs (progressRoot output),
        name ∈ (List.range plan.files.length).map progressName)
      (archiveError "eviction progress has unknown entries")
    loadProgressRecords hash fs output plan 0 plan.files
  else .ok []

def validateProgressState (progress : List (EvictedFileReceipt Sha)) : Except Raised Unit :=
  forEachRecord (fun binding : EvictionFileBinding Sha => do
    ensure (¬ (binding.absolutePath ∈ progress.map (·.absolutePath) ∧
        fs.lexists binding.absolutePath = true))
      (archiveError "a durably deleted path was recreated before resume")
    ensure (binding.absolutePath ∈ progress.map (·.absolutePath) ∨
        fs.lexists binding.absolutePath = true)
      (archiveError "an unrecorded planned path is missing on resume")) plan.files

/-- The progress, which is loaded when the gate has passed. -/
def loadBehindGate (callbacks : Callbacks Sha) : Except Raised (List (EvictedFileReceipt Sha)) := do
  let snapshot ← plainMapping callbacks.operatorSnapshot
  validateRuntimeEvictionGate fs plan snapshot callbacks.processProbe
  loadEvictionProgress hash fs output plan

/-- The checks of `execute_remote_eviction_plan` before it deletes anything, and the
progress that they have loaded when they return or raise. -/
def preExecution (callbacks : Callbacks Sha) :
    List (EvictedFileReceipt Sha) × Except Raised Unit :=
  match loadBehindGate hash fs output plan callbacks with
  | .error e => ([], .error e)
  | .ok progress => (progress, validateProgressState fs plan progress)

/-- The planned paths that are absent, and not among those with a receipt. -/
def missingPaths (deleted : List (EvictedFileReceipt Sha)) : List Path :=
  sortedBy pathText ((plan.files.map (·.absolutePath)).filter fun path =>
    path ∉ deleted.map (·.absolutePath) ∧ fs.lexists path = false)

end

def publishEvictionProgress (hash : Hashing Sha) (output : Path) (plan : RemoteEvictionPlan Sha)
    (index : ℕ) (receipt : EvictedFileReceipt Sha) : Code Sha Unit :=
  (makedirs (progressRoot output)).bind fun _ =>
  .vis .observe fun (fs : Tree Sha) =>
  (lift (ensure (fs.isDirectory (progressRoot output) = true)
    (archiveError "eviction progress root is unsafe"))).bind fun _ =>
  let record : EvictionProgress Sha := ⟨hash.planSha256 plan, index, receipt⟩
  if fs.lexists (progressPath output index) then
    (lift (readCanonicalObject fs (progressPath output index) "eviction file progress")).bind
      fun existing => lift (ensure (existing = some (.evictionProgress record))
        (archiveError "eviction progress is immutable"))
  else publishCanonicalNoReplace (progressPath output index) (.evictionProgress record)

/-! ## Receipts -/

def positiveTime (reading : Except Raised ℤ) : Except Raised ℤ := do
  let value ← reading
  requirePositiveInt value "artifact timestamp"
  pure value

/-- A receipt is constructed, published and loaded again. -/
def publishReceipt (output : Path) (receipt : RemoteEvictionReceipt Sha) :
    Code Sha (RemoteEvictionReceipt Sha) :=
  .vis .observe fun (fs : Tree Sha) =>
  (lift (receipt.postInit fs)).bind fun _ =>
  (publishCanonicalNoReplace output (.evictionReceipt receipt)).bind fun _ =>
  .vis .observe fun (fs : Tree Sha) => lift (loadRemoteEvictionReceipt fs output)

/-- `scheduler_stop(..)` and whether it returned. -/
def requestStop (answer : Except Raised Unit) : Code Sha Bool :=
  .vis (.schedulerStop "remote_eviction_identity_or_progress_mismatch") fun _ =>
    match answer with
    | .ok () => .ret true
    | .error e => if e.isException then .ret false else .throw e

def failureReceipt (hash : Hashing Sha) (plan : RemoteEvictionPlan Sha)
    (deleted : List (EvictedFileReceipt Sha)) (missing : List Path) (code : String)
    (failurePath : Option Path) (stopped : Bool) (now : ℤ) : RemoteEvictionReceipt Sha where
  planSha256 := hash.planSha256 plan
  archiveId := plan.archiveId
  archiveAuthorizationSha256 := plan.archiveAuthorizationSha256
  status := if deleted = [] ∧ missing = [] then .failedZero else .failedPartial
  deletedFiles := sortedBy (fun row => pathText row.absolutePath) deleted
  deletedBytes := (deleted.map (·.sizeBytes)).sum
  failureCode := some code
  failurePath := failurePath
  missingUnrecordedFiles := sortedPaths missing
  schedulerStopRequested := true
  schedulerStopSucceeded := stopped
  finishedAtNs := now

def publishEvictionFailure (hash : Hashing Sha) (output : Path) (plan : RemoteEvictionPlan Sha)
    (callbacks : Callbacks Sha) (deleted : List (EvictedFileReceipt Sha)) (missing : List Path)
    (code : String) (failurePath : Option Path) : Code Sha (RemoteEvictionReceipt Sha) :=
  (requestStop callbacks.schedulerStop).bind fun stopped =>
  (lift (positiveTime callbacks.finishedAt)).bind fun now =>
  publishReceipt output (failureReceipt hash plan deleted missing code failurePath stopped now)

def completeReceipt (hash : Hashing Sha) (plan : RemoteEvictionPlan Sha)
    (deleted : List (EvictedFileReceipt Sha)) (now : ℤ) : RemoteEvictionReceipt Sha where
  planSha256 := hash.planSha256 plan
  archiveId := plan.archiveId
  archiveAuthorizationSha256 := plan.archiveAuthorizationSha256
  status := .complete
  deletedFiles := sortedBy (fun row => pathText row.absolutePath) deleted
  deletedBytes := (deleted.map (·.sizeBytes)).sum
  failureCode := none
  failurePath := none
  missingUnrecordedFiles := []
  schedulerStopRequested := false
  schedulerStopSucceeded := false
  finishedAtNs := now

/-! ## Execution -/

section

variable (hash : Hashing Sha) (output : Path) (plan : RemoteEvictionPlan Sha)
  (callbacks : Callbacks Sha)

/-- One planned file: it is verified, unlinked and recorded. -/
def evictFile (index : ℕ) (binding : EvictionFileBinding Sha) :
    Code Sha (EvictedFileReceipt Sha) :=
  (verifyEvictionFileBinding hash plan binding (callbacks.activeWriterProbe index)).bind fun _ =>
  (sysUnlink binding.absolutePath).bind fun _ =>
  (sysFsync binding.absolutePath.dropLast).bind fun _ =>
  (lift (callbacks.afterUnlink index)).bind fun _ =>
  (lift (positiveTime (callbacks.deletedAt index))).bind fun now =>
  let deleted : EvictedFileReceipt Sha :=
    ⟨binding.absolutePath, binding.archiveRelativePath, binding.sizeBytes, binding.sha256, now⟩
  .vis .observe fun (fs : Tree Sha) =>
  (lift (deleted.postInit fs)).bind fun _ =>
  (publishEvictionProgress hash output plan index deleted).bind fun _ =>
  .ret deleted

/-- The loop over the planned files, from the one with this index: the receipt of a
failure, or the files with a durable record. -/
def evictFiles : ℕ → List (EvictionFileBinding Sha) → List (EvictedFileReceipt Sha) →
    Code Sha (RemoteEvictionReceipt Sha ⊕ List (EvictedFileReceipt Sha))
  | _, [], deleted => .ret (.inr deleted)
  | index, binding :: rest, deleted =>
    if binding.absolutePath ∈ deleted.map (·.absolutePath) then
      evictFiles (index + 1) rest deleted
    else
      ((evictFile hash output plan callbacks index binding).attempt Raised.isException).bind fun
        | .ok receipt => evictFiles (index + 1) rest (deleted ++ [receipt])
        | .error e =>
          .vis .observe fun (fs : Tree Sha) =>
          (publishEvictionFailure hash output plan callbacks deleted (missingPaths fs plan deleted)
            ("EXECUTION_" ++ e.className.toUpper) (some binding.absolutePath)).bind fun receipt =>
          .ret (.inl receipt)

/-- What follows the loop. -/
def finishEviction (deleted : List (EvictedFileReceipt Sha)) : Code Sha (RemoteEvictionReceipt Sha) :=
  if (∀ row ∈ deleted, row.absolutePath ∈ plan.files.map (·.absolutePath)) ∧
      ∀ binding ∈ plan.files, binding.absolutePath ∈ deleted.map (·.absolutePath) then
    (lift (positiveTime callbacks.finishedAt)).bind fun now =>
    publishReceipt output (completeReceipt hash plan deleted now)
  else
    publishEvictionFailure hash output plan callbacks deleted [] "INCOMPLETE_DURABLE_PROGRESS" none

/-- A call that finds no receipt. -/
def executeUnderLock (fs : Tree Sha) : Code Sha (RemoteEvictionReceipt Sha) :=
  match callbacks.operatorSnapshot with
  | .raises e => .throw e
  | _ =>
    match preExecution hash fs output plan callbacks with
    | (progress, .error e) =>
      if e.isGuarded then
        let missing := missingPaths fs plan []
        publishEvictionFailure hash output plan callbacks progress missing
          ("PREEXECUTION_" ++ e.className.toUpper) missing.head?
      else .throw e
    | (progress, .ok ()) =>
      (evictFiles hash output plan callbacks 0 plan.files progress).bind fun
        | .inl receipt => .ret receipt
        | .inr deleted => finishEviction hash output plan callbacks deleted

end

/-- The paths that a plan is executed with. The lock file, which is left out of the
disk, is none of the others. -/
structure EvictionPaths where
  plan : Path
  receipt : Path
  lock : Path
  apart : lock ≠ plan ∧ lock ≠ receipt ∧ ¬ progressRoot receipt <+: lock

/-- What a call checks before it takes the lock. -/
def openPlan (fs : Tree Sha) (paths : EvictionPaths) : Except Raised (RemoteEvictionPlan Sha) := do
  existingFile fs paths.plan "published remote eviction plan"
  let plan ← loadRemoteEvictionPlan fs paths.plan
  outsideCandidate fs paths.plan plan.archiveCandidateRoot "plan"
  outsideCandidate fs paths.receipt plan.archiveCandidateRoot "eviction receipt"
  ensure (paths.receipt ≠ []) (valueError "PosixPath('/') has an empty name")
  outsideCandidate fs (progressRoot paths.receipt) plan.archiveCandidateRoot "eviction progress"
  outsideCandidate fs paths.lock plan.archiveCandidateRoot "eviction executor lock"
  pure plan

def executeRemoteEvictionPlan (hash : Hashing Sha) (paths : EvictionPaths)
    (callbacks : Callbacks Sha) : Code Sha (RemoteEvictionReceipt Sha) :=
  .vis .observe fun (fs : Tree Sha) =>
  (lift (openPlan fs paths)).bind fun plan =>
  .vis .acquire fun _ =>
  .vis .observe fun (fs : Tree Sha) =>
  if fs.lexists paths.receipt then
    (lift (loadRemoteEvictionReceipt fs paths.receipt)).bind fun receipt =>
    (lift (ensure (receipt.planSha256 = hash.planSha256 plan)
      (archiveError "eviction receipt belongs to another plan"))).bind fun _ =>
    .ret receipt
  else executeUnderLock hash paths.receipt plan callbacks fs

end RollingArchive

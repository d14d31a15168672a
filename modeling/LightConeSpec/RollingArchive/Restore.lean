import LightConeSpec.RollingArchive.Manifest

/-!
# Restoring from streams

`restore_remote_member_from_stream` and `finalize_remote_stream_restore`, one system
call at a time. A member is written to a temporary in the directory of its target, and
linked to the target, so the temporary is inside the tree that the manifest seals.
-/

namespace RollingArchive

open FileSystem Program Python

variable {Sha : Type} [DecidableEq Sha]

structure RestorePaths where
  plan : Path
  evictionReceipt : Path
  remoteArchiveResult : Path
  progressRoot : Path
  receipt : Path
  lock : Path
  finalizeLock : Path

/-- The record of the member with this index. -/
def RestorePaths.progress (paths : RestorePaths) (index : ℕ) : Path :=
  paths.progressRoot ++ [progressName index]

/-- What the calls of `stream.read` answer, one after the other, before the end of the
stream; `none` is not `bytes`. -/
abbrev Stream := List (Except Raised (Option (List UInt8)))

/-- The arguments of `restore_remote_member_from_stream`, with the answers of its
callbacks. -/
structure RestoreCall where
  archiveRelativePath : Path
  progressOutput : Path
  stream : Stream
  minimumFreeBytes : ℤ
  freeBytes : ℕ → Except Raised ℤ
  afterTargetLink : Except Raised Unit
  restoredAt : Except Raised ℤ

/-! ## Authorities -/

/-- The plan, its eviction receipt and the result of its archive. -/
structure RestoreAuthorities (Sha : Type) where
  plan : RemoteEvictionPlan Sha
  eviction : RemoteEvictionReceipt Sha
  result : RemoteArchiveResult Sha
deriving DecidableEq

def Hashing.resultSha256 (hash : Hashing Sha) (result : RemoteArchiveResult Sha) : Sha :=
  hash.semantic (.archiveResult result)

def Hashing.evictionSha256 (hash : Hashing Sha) (receipt : RemoteEvictionReceipt Sha) : Sha :=
  hash.semantic (.evictionReceipt receipt)

def EvictionFileBinding.restored (binding : EvictionFileBinding Sha) : RestoredFileReceipt Sha :=
  ⟨binding.absolutePath, binding.archiveRelativePath, binding.sizeBytes, binding.sha256⟩

def EvictedFileReceipt.restored (row : EvictedFileReceipt Sha) : RestoredFileReceipt Sha :=
  ⟨row.absolutePath, row.archiveRelativePath, row.sizeBytes, row.sha256⟩

/-- Two tuples hold the same rows. -/
def sameRows (rows rows' : List (RestoredFileReceipt Sha)) : Prop :=
  (∀ row ∈ rows, row ∈ rows') ∧ ∀ row ∈ rows', row ∈ rows

instance (rows rows' : List (RestoredFileReceipt Sha)) : Decidable (sameRows rows rows') :=
  inferInstanceAs (Decidable (_ ∧ _))

section

variable (hash : Hashing Sha) (fs : Tree Sha)

def loadStreamRestoreAuthorities (paths : RestorePaths) : Except Raised (RestoreAuthorities Sha) := do
  let plan ← loadRemoteEvictionPlan fs paths.plan
  let eviction ← loadRemoteEvictionReceipt fs paths.evictionReceipt
  match ← readCanonicalObject fs paths.remoteArchiveResult "staged remote archive result" with
  | some (.archiveResult result) => do
    ensure (hash.resultSha256 result = plan.remoteArchiveResultSha256 ∧
        result.archiveId = plan.archiveId ∧
        result.remotePayloadRoot = plan.archiveCandidateRoot ∧
        result.manifestSha256 = plan.archiveManifestSha256 ∧
        eviction.status = .complete ∧ eviction.planSha256 = hash.planSha256 plan ∧
        eviction.archiveId = plan.archiveId ∧
        eviction.archiveAuthorizationSha256 = plan.archiveAuthorizationSha256 ∧
        sameRows (plan.files.map (·.restored)) (eviction.deletedFiles.map (·.restored)))
      (archiveError "stream restore plan/result/eviction receipt identities differ")
    pure ⟨plan, eviction, result⟩
  | _ => .error (typeError "RemoteArchiveResult fields differ")

/-! ## Checks -/

def validateRestoreParent (candidate target : Path) : Except Raised Unit := do
  ensure (fs.isNormalized target = true)
    (archiveError "restore target is not absolute and normalized")
  ensure (isRelativeTo target candidate = true ∧ target ≠ candidate)
    (archiveError "restore target escapes the candidate root")
  ensure (fs.isDirectory target.dropLast = true)
    (archiveError "restore target parent is unsafe or missing")

def verifyRestoredTarget (binding : EvictionFileBinding Sha) : Except Raised Unit := do
  let identity ← stableFileIdentity fs hash binding.absolutePath
  ensure (identity.links = 1 ∧ identity.sizeBytes = binding.sizeBytes ∧
      identity.sha256 = binding.sha256)
    (archiveError ("restored target identity differs: " ++ pathText binding.absolutePath))

def directoryDevice (path : Path) : ℕ :=
  match fs.node? path with
  | some (.directory inode) => inode.device
  | _ => 0

/-- What is still missing on each device, and a directory there. -/
def remainingByDevice (candidate : Path) :
    List (EvictionFileBinding Sha) → Dict ℕ (Path × ℕ) → Except Raised (Dict ℕ (Path × ℕ))
  | [], remaining => .ok remaining
  | binding :: rest, remaining => do
    validateRestoreParent fs candidate binding.absolutePath
    if fs.lexists binding.absolutePath then do
      verifyRestoredTarget hash fs binding
      remainingByDevice candidate rest remaining
    else
      let parent := binding.absolutePath.dropLast
      let device := directoryDevice fs parent
      let row := (remaining.get? device).getD (parent, 0)
      remainingByDevice candidate rest (remaining.set device (row.1, row.2 + binding.sizeBytes))

def streamRestoreHighWaters (plan : RemoteEvictionPlan Sha) : Except Raised (List (Path × ℕ)) := do
  let remaining ← remainingByDevice hash fs plan.archiveCandidateRoot plan.files Dict.empty
  pure ((sortedBy Prod.fst remaining.entries).map Prod.snd)

/-- The free bytes of each device, from the one with this index. -/
def checkCapacity (call : RestoreCall) : ℕ → List (Path × ℕ) → Except Raised Unit
  | _, [] => .ok ()
  | index, row :: rest => do
    let free ← call.freeBytes index
    ensure (0 ≤ free) (valueError "stream restore free bytes must be a non-negative integer")
    ensure ((row.2 : ℤ) + call.minimumFreeBytes ≤ free)
      (archiveError "remote restore capacity is below remaining high-water plus safety reserve")
    checkCapacity call (index + 1) rest

/-- The index and the binding of a member. -/
def findMember (plan : RemoteEvictionPlan Sha) (archiveRelativePath : Path) :
    Except Raised (ℕ × EvictionFileBinding Sha) :=
  match plan.files.zipIdx.filter fun row => row.1.archiveRelativePath = archiveRelativePath with
  | [(binding, index)] => .ok (index, binding)
  | _ => .error (archiveError "stream restore path is not one exact evicted plan member")

/-- What a call has opened before it takes the lock. -/
structure OpenedMember (Sha : Type) where
  authorities : RestoreAuthorities Sha
  index : ℕ
  binding : EvictionFileBinding Sha

def openMember (paths : RestorePaths) (call : RestoreCall) : Except Raised (OpenedMember Sha) := do
  let authorities ← loadStreamRestoreAuthorities hash fs paths
  let (index, binding) ← findMember authorities.plan call.archiveRelativePath
  let candidate := authorities.plan.archiveCandidateRoot
  existingDirectory fs candidate "stream restore candidate root"
  verifyCandidateIdentity fs candidate authorities.plan.archiveCandidateRootInode
  validateRestoreParent fs candidate binding.absolutePath
  outsideCandidate fs call.progressOutput candidate "stream restore progress"
  outsideCandidate fs paths.lock candidate "stream restore lock"
  ensure (0 ≤ call.minimumFreeBytes)
    (valueError "stream restore free-byte reserve must be a non-negative integer")
  pure ⟨authorities, index, binding⟩

def RestoredFileReceipt.postInit (row : RestoredFileReceipt Sha) : Except Raised Unit := do
  absoluteNormalized fs row.absolutePath "restored file path"
  checkRelative row.archiveRelativePath

/-- `RemoteStreamRestoreProgress.__post_init__`, with the constructor of its file. -/
def RemoteStreamRestoreProgress.postInit (progress : RemoteStreamRestoreProgress Sha) :
    Except Raised Unit := do
  progress.file.postInit fs
  requirePositiveInt progress.restoredAtNs "stream restore time"

def loadRemoteStreamRestoreProgress (path : Path) :
    Except Raised (RemoteStreamRestoreProgress Sha) := do
  match ← readCanonicalObject fs path "remote stream restore progress" with
  | some (.restoreProgress progress) => do
    progress.postInit fs
    pure progress
  | _ => .error (valueError "remote stream restore progress fields differ")

def RemoteStreamRestoreProgress.isOf (opened : OpenedMember Sha)
    (progress : RemoteStreamRestoreProgress Sha) : Prop :=
  progress.planSha256 = hash.planSha256 opened.authorities.plan ∧
    progress.evictionReceiptSha256 = hash.evictionSha256 opened.authorities.eviction ∧
    progress.remoteArchiveResultSha256 = hash.resultSha256 opened.authorities.result ∧
    progress.fileIndex = opened.index ∧ progress.file = opened.binding.restored

instance (opened : OpenedMember Sha) (progress : RemoteStreamRestoreProgress Sha) :
    Decidable (progress.isOf hash opened) :=
  inferInstanceAs (Decidable (_ ∧ _))

/-- The record of an earlier call, if there is one. -/
def existingProgress (opened : OpenedMember Sha) (output : Path) :
    Except Raised (Option (RemoteStreamRestoreProgress Sha)) :=
  if fs.lexists output then do
    let progress ← loadRemoteStreamRestoreProgress fs output
    ensure (progress.isOf hash opened)
      (archiveError "stream restore progress belongs to another member")
    pure (some progress)
  else .ok none

/-- What a call checks under the lock before it reads the stream. -/
def prepareMember (opened : OpenedMember Sha) (call : RestoreCall) :
    Except Raised (Option (RemoteStreamRestoreProgress Sha)) := do
  let existing ← existingProgress hash fs opened call.progressOutput
  let rows ← streamRestoreHighWaters hash fs opened.authorities.plan
  checkCapacity call 0 rows
  pure existing

/-- What is checked of the temporary before it is linked. -/
def verifyRehydrated (binding : EvictionFileBinding Sha) (temporary : Path) :
    Except Raised Unit := do
  let identity ← stableFileIdentity fs hash temporary
  ensure (identity.links = 1 ∧ identity.sizeBytes = binding.sizeBytes ∧
      identity.sha256 = binding.sha256)
    (archiveError "stream restore temporary identity differs")
  ensure (fs.lexists binding.absolutePath = false)
    (archiveError "stream restore target became occupied")

end

/-! ## One member -/

/-- The end of `_consume_restore_stream`. -/
def finishStream (expectedSize : ℕ) (data : List UInt8) : Stream → Except Raised (List UInt8)
  | [] => do
    ensure (data.length = expectedSize) (archiveError "stream restore byte count differs")
    pure data
  | answer :: _ => do
    match ← answer with
    | none => .error (typeError "stream restore reader must return bytes")
    | some extra => do
      ensure (data.length = expectedSize ∧ extra = [])
        (archiveError "stream restore byte count differs")
      pure data

def writeChunk (descriptor : Option Path) (data : List UInt8) : Code Sha Unit :=
  match descriptor with
  | none => .ret ()
  | some path => sysWrite path (.bytes data)

/-- `_consume_restore_stream`, with the bytes that it has read. -/
def consumeRestoreStream (descriptor : Option Path) (expectedSize : ℕ) :
    Stream → List UInt8 → Code Sha (List UInt8)
  | [], data => lift (finishStream expectedSize data [])
  | answer :: rest, data =>
    if data.length < expectedSize then
      (lift answer).bind fun
        | none => .throw (typeError "stream restore reader must return bytes")
        | some chunk =>
          if chunk = [] then lift (finishStream expectedSize data rest)
          else
            (writeChunk descriptor (data ++ chunk)).bind fun _ =>
            consumeRestoreStream descriptor expectedSize rest (data ++ chunk)
    else lift (finishStream expectedSize data (answer :: rest))

/-- The temporary of a restored member. -/
def rehydratePath (target : Path) (uuid : String) : Path :=
  withName target ("." ++ fileName target ++ "." ++ uuid ++ ".rehydrate")

/-- The member is written to the temporary, verified, and linked to its target. -/
def linkMember (hash : Hashing Sha) (binding : EvictionFileBinding Sha) (stream : Stream)
    (temporary : Path) : Code Sha (List UInt8) :=
  (consumeRestoreStream (some temporary) binding.sizeBytes stream []).bind fun data =>
  .vis .observe fun (fs : Tree Sha) =>
  (lift (verifyRehydrated hash fs binding temporary)).bind fun _ =>
  (sysLink temporary binding.absolutePath).bind fun _ =>
  (sysFsync binding.absolutePath.dropLast).bind fun _ => .ret data

/-- The temporary is created, linked to the target of the member, and unlinked. -/
def rehydrateThrough (hash : Hashing Sha) (binding : EvictionFileBinding Sha) (call : RestoreCall)
    (temporary : Path) : Code Sha (List UInt8) :=
  (sysCreate temporary).bind fun _ =>
  (tryFinally (linkMember hash binding call.stream temporary)
    ((unlinkMissingOk temporary).bind fun _ => sysFsync binding.absolutePath.dropLast)).bind
    fun data =>
  .vis .observe fun (fs : Tree Sha) =>
  (lift (verifyRestoredTarget hash fs binding)).bind fun _ =>
  (lift call.afterTargetLink).bind fun _ => .ret data

/-- A member whose target is absent. -/
def rehydrateMember (hash : Hashing Sha) (binding : EvictionFileBinding Sha) (call : RestoreCall) :
    Code Sha (List UInt8) :=
  .vis .uuid4 fun (uuid : String) =>
  rehydrateThrough hash binding call (rehydratePath binding.absolutePath uuid)

/-- A member whose target is there. -/
def replayMember (hash : Hashing Sha) (binding : EvictionFileBinding Sha) (call : RestoreCall) :
    Code Sha (List UInt8) :=
  .vis .observe fun (fs : Tree Sha) =>
  (lift (verifyRestoredTarget hash fs binding)).bind fun _ =>
  consumeRestoreStream none binding.sizeBytes call.stream []

def restoreProgress (hash : Hashing Sha) (opened : OpenedMember Sha) (disposition : Disposition)
    (now : ℤ) : RemoteStreamRestoreProgress Sha where
  planSha256 := hash.planSha256 opened.authorities.plan
  evictionReceiptSha256 := hash.evictionSha256 opened.authorities.eviction
  remoteArchiveResultSha256 := hash.resultSha256 opened.authorities.result
  fileIndex := opened.index
  file := opened.binding.restored
  disposition := disposition
  restoredAtNs := now

/-- What follows when the member is in place. -/
def recordMember (hash : Hashing Sha) (opened : OpenedMember Sha) (call : RestoreCall)
    (existing : Option (RemoteStreamRestoreProgress Sha)) (disposition : Disposition)
    (data : List UInt8) : Code Sha (RemoteStreamRestoreProgress Sha) :=
  (lift (ensure (data.length = opened.binding.sizeBytes ∧ hash.bytes data = opened.binding.sha256)
    (archiveError "streamed local archive member identity differs"))).bind fun _ =>
  .vis .observe fun (fs : Tree Sha) =>
  match existing with
  | some progress =>
    (lift (verifyRestoredTarget hash fs opened.binding)).bind fun _ => .ret progress
  | none =>
    (lift (positiveTime call.restoredAt)).bind fun now =>
    let progress := restoreProgress hash opened disposition now
    (lift (progress.postInit fs)).bind fun _ =>
    (publishCanonicalNoReplace call.progressOutput (.restoreProgress progress)).bind fun _ =>
    .vis .observe fun (fs : Tree Sha) => lift (loadRemoteStreamRestoreProgress fs call.progressOutput)

def restoreRemoteMemberFromStream (hash : Hashing Sha) (paths : RestorePaths) (call : RestoreCall) :
    Code Sha (RemoteStreamRestoreProgress Sha) :=
  .vis .observe fun (fs : Tree Sha) =>
  (lift (openMember hash fs paths call)).bind fun opened =>
  .vis .acquire fun _ =>
  .vis .observe fun (fs : Tree Sha) =>
  (lift (prepareMember hash fs opened call)).bind fun existing =>
  if fs.lexists opened.binding.absolutePath then
    (replayMember hash opened.binding call).bind fun data =>
    recordMember hash opened call existing .alreadyPresent data
  else
    (rehydrateMember hash opened.binding call).bind fun data =>
    recordMember hash opened call existing .restored data

/-! ## The whole tree -/

section

variable (hash : Hashing Sha) (fs : Tree Sha)

theorem lawfulBEq_path : LawfulBEq Path := inferInstance

attribute [local instance] lawfulBEq_path in
/-- `ArchiveRestoreReceipt.__post_init__`, with the constructors of its files. -/
def ArchiveRestoreReceipt.postInit (receipt : ArchiveRestoreReceipt Sha) : Except Raised Unit := do
  forEachRecord (RestoredFileReceipt.postInit fs) receipt.restoredFiles
  forEachRecord (RestoredFileReceipt.postInit fs) receipt.alreadyPresentFiles
  ensure (receipt.archiveId ≠ "") (valueError "archive restore receipt identity differs")
  requirePositiveInt receipt.completedAtNs "restore completion time"
  ensure (receipt.restoredFiles.map (·.absolutePath) =
        sortedPaths (receipt.restoredFiles.map (·.absolutePath)) ∧
      receipt.alreadyPresentFiles.map (·.absolutePath) =
        sortedPaths (receipt.alreadyPresentFiles.map (·.absolutePath)) ∧
      (∀ path ∈ receipt.restoredFiles.map (·.absolutePath),
        path ∉ receipt.alreadyPresentFiles.map (·.absolutePath)) ∧
      receipt.restoredBytes = (receipt.restoredFiles.map (·.sizeBytes)).sum)
    (valueError "archive restore receipt coverage differs")

def loadArchiveRestoreReceipt (path : Path) : Except Raised (ArchiveRestoreReceipt Sha) := do
  match ← readCanonicalObject fs path "archive restore receipt" with
  | some (.restoreReceipt receipt) => do
    receipt.postInit fs
    pure receipt
  | _ => .error (valueError "archive restore receipt fields differ")

def verifyStreamRestoreReceipt (authorities : RestoreAuthorities Sha)
    (receipt : ArchiveRestoreReceipt Sha) : Except Raised Unit := do
  ensure (receipt.planSha256 = hash.planSha256 authorities.plan ∧
      receipt.archiveId = authorities.plan.archiveId ∧
      receipt.archiveManifestSha256 = authorities.plan.archiveManifestSha256 ∧
      receipt.remoteArchiveResultSha256 = hash.resultSha256 authorities.result ∧
      sameRows (receipt.restoredFiles ++ receipt.alreadyPresentFiles)
        (authorities.plan.files.map (·.restored)))
    (archiveError "stream restore receipt belongs to another exact restore scope")
  forEachRecord (verifyRestoredTarget hash fs) authorities.plan.files

/-- The restored files and those that were already present, from the one with this
index. -/
def collectRestored (paths : RestorePaths) (authorities : RestoreAuthorities Sha) :
    ℕ → List (EvictionFileBinding Sha) →
    Except Raised (List (RestoredFileReceipt Sha) × List (RestoredFileReceipt Sha))
  | _, [] => .ok ([], [])
  | index, binding :: rest => do
    let progress ← loadRemoteStreamRestoreProgress fs (paths.progress index)
    ensure (progress.isOf hash ⟨authorities, index, binding⟩)
      (archiveError "stream restore progress coverage differs")
    verifyRestoredTarget hash fs binding
    let (restored, present) ← collectRestored paths authorities (index + 1) rest
    match progress.disposition with
    | .restored => pure (binding.restored :: restored, present)
    | .alreadyPresent => pure (restored, binding.restored :: present)

/-- What finalization checks before it takes the lock. -/
def openRestore (paths : RestorePaths) : Except Raised (RestoreAuthorities Sha) := do
  let authorities ← loadStreamRestoreAuthorities hash fs paths
  let candidate := authorities.plan.archiveCandidateRoot
  existingDirectory fs candidate "stream restore candidate root"
  absoluteNormalized fs paths.progressRoot "stream restore progress root"
  ensure (isRelativeTo paths.progressRoot candidate = false)
    (valueError "stream restore progress root is inside candidate")
  outsideCandidate fs paths.receipt candidate "stream restore receipt"
  outsideCandidate fs paths.finalizeLock candidate "stream restore finalize lock"
  pure authorities

end

def restoreReceipt (hash : Hashing Sha) (authorities : RestoreAuthorities Sha)
    (restored present : List (RestoredFileReceipt Sha)) (now : ℤ) : ArchiveRestoreReceipt Sha where
  planSha256 := hash.planSha256 authorities.plan
  archiveId := authorities.plan.archiveId
  archiveManifestSha256 := authorities.plan.archiveManifestSha256
  remoteArchiveResultSha256 := hash.resultSha256 authorities.result
  restoredFiles := restored
  alreadyPresentFiles := present
  restoredBytes := (restored.map (·.sizeBytes)).sum
  completedAtNs := now

def readRestoreReceipt (hash : Hashing Sha) (paths : RestorePaths)
    (authorities : RestoreAuthorities Sha) : Code Sha (ArchiveRestoreReceipt Sha) :=
  .vis .observe fun (fs : Tree Sha) =>
  (lift (loadArchiveRestoreReceipt fs paths.receipt)).bind fun receipt =>
  (lift (verifyStreamRestoreReceipt hash fs authorities receipt)).bind fun _ => .ret receipt

def finalizeRemoteStreamRestore (hash : Hashing Sha) (paths : RestorePaths)
    (completedAt : Except Raised ℤ) : Code Sha (ArchiveRestoreReceipt Sha) :=
  .vis .observe fun (fs : Tree Sha) =>
  (lift (openRestore hash fs paths)).bind fun authorities =>
  .vis .acquire fun _ =>
  .vis .observe fun (fs : Tree Sha) =>
  if fs.lexists paths.receipt then readRestoreReceipt hash paths authorities
  else
    (lift (collectRestored hash fs paths authorities 0 authorities.plan.files)).bind fun rows =>
    (lift (positiveTime completedAt)).bind fun now =>
    let receipt := restoreReceipt hash authorities rows.1 rows.2 now
    (lift (receipt.postInit fs)).bind fun _ =>
    (publishCanonicalNoReplace paths.receipt (.restoreReceipt receipt)).bind fun _ =>
    readRestoreReceipt hash paths authorities

end RollingArchive

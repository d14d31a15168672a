import LightConeSpec.Lib.FileSystem
import LightConeSpec.Lib.Interrupted
import LightConeSpec.Pool.Journal

/-!
# Publishing a schedule receipt

`publish_dispatch_schedule_receipt` and `load_dispatch_schedule_receipt`. The publication is a
program of system calls: a temporary is written, linked to its destination and unlinked, for the
envelope and then for its sidecar. The reader insists on a file with one link.

Nobody else touches the directory, so a file does not change while it is read.
-/

namespace Pool

open Python FileSystem Program

/-! ## Documents -/

structure ArtifactSidecar (D : Type) where
  schemaVersion : ℤ
  artifactKind : String
  artifactSha256 : D
deriving DecidableEq

/-- What the two artifacts of a publication hold. The schema of an envelope says whether it
names an attempt journal. -/
inductive Document (D : Type)
  | envelope (receipt : DispatchScheduleReceipt D) (sidecar : ArtifactSidecar D)
      (attemptJournal : Option (DispatchAttemptJournalBinding D))
  | sidecar (sidecar : ArtifactSidecar D)
deriving DecidableEq

/-- The bytes of a file: the canonical JSON of a document and a newline, or other bytes with the
document that they decode to. -/
inductive Body (D : Type)
  | canonical (document : Document D)
  | other (decoded : Option (Document D))
deriving DecidableEq

def Body.decode {D : Type} : Body D → Option (Document D)
  | .canonical document => some document
  | .other decoded => decoded

section

variable {D : Type} [DecidableEq D]

def ArtifactSidecar.postInit (sidecar : ArtifactSidecar D) : Except Error Unit := do
  require (sidecar.schemaVersion = 1)
    (valueError "only artifact-sidecar schema version 1 is supported")
  require (isNonBlank sidecar.artifactKind ∧ '\n' ∉ sidecar.artifactKind.toList)
    (valueError "artifact_kind must be non-empty single-line text")

def validateSidecar (artifactKind : String) (artifactSha256 : D) (sidecar : ArtifactSidecar D) :
    Except Error Unit := do
  sidecar.postInit
  require (sidecar.artifactKind = artifactKind) (valueError "artifact sidecar kind mismatch")
  require (sidecar.artifactSha256 = artifactSha256)
    (valueError "artifact sidecar SHA-256 mismatch")

def DispatchScheduleReceipt.sidecar (sha : ContentSha D) (receipt : DispatchScheduleReceipt D) :
    ArtifactSidecar D :=
  ⟨1, "dispatch_schedule_receipt.v1", sha.scheduleReceipt receipt⟩

/-- `DispatchScheduleReceipt.from_dict`: the constructors of all receipts, the plan and the
sidecar. -/
def DispatchScheduleReceipt.fromDict (sha : ContentSha D) (plan : FrozenPlan D)
    (ctx : ExecutionContext D) (receipt : DispatchScheduleReceipt D) (sidecar : ArtifactSidecar D) :
    Except Error Unit := do
  forEach (fun wave : DispatchWaveExecutionReceipt D => do
    forEach (AssignmentExecutionReceipt.postInit sha) wave.assignmentReceipts
    wave.postInit) receipt.waveReceipts
  receipt.postInit
  validateDispatchResumeStructure plan receipt ctx
  validateSidecar "dispatch_schedule_receipt.v1" (sha.scheduleReceipt receipt) sidecar

/-! ## Reading -/

/-- The components of a path that is written with slashes. -/
def splitPath (text : String) : Path :=
  ((text.toList.splitOn '/').filter (· ≠ [])).map String.ofList

def showPath (path : Path) : String := "/" ++ "/".intercalate path

/-- `path.is_absolute() and path.resolve() == path`. -/
def isResolved (fs : Files (Body D)) (text : String) : Bool :=
  isAbsolutePath text && !(splitPath text).contains "." && !(splitPath text).contains ".." &&
    fs.isNormalized (splitPath text)

def DispatchAttemptJournalBinding.postInit (fs : Files (Body D))
    (binding : DispatchAttemptJournalBinding D) : Except Error Unit := do
  require (isResolved fs binding.journalPath = true)
    (valueError "attempt journal binding path must be absolute and resolved")
  require (1 ≤ binding.eventCount)
    (valueError "attempt journal event count must be an integer >= 1")

def readRegularFile (fs : Files (Body D)) (path : Path) (label : String) :
    Except Error (Body D) := do
  require (fs.isNormalized path = true)
    (valueError s!"{label} path must be absolute and resolved")
  require (fs.isDirectory path.dropLast = true)
    (runtimeError s!"{label} parent is not a stable directory")
  match fs.node? path with
  | none => .error (runtimeError s!"{label} is not a readable regular file")
  | some (.file inode) =>
    require (fs.links inode = 1) (runtimeError s!"{label} is not a regular file")
    pure (fs.bodies inode)
  | some _ => .error (runtimeError s!"{label} is not a regular file")

def loadDispatchScheduleEnvelope (sha : ContentSha D) (fs : Files (Body D)) (path : Path)
    (plan : FrozenPlan D) (ctx : ExecutionContext D) :
    Except Error (DispatchScheduleReceipt D × Option (DispatchAttemptJournalBinding D)) := do
  let body ← readRegularFile fs path "dispatch schedule receipt envelope"
  match body.decode with
  | none => .error (valueError "dispatch schedule receipt envelope is not strict UTF-8 JSON")
  | some (.sidecar sidecar) =>
    require (sidecar.schemaVersion = 1 ∨ sidecar.schemaVersion = 2)
      (valueError "dispatch schedule receipt envelope schema is unsupported")
    .error (valueError "dispatch schedule receipt envelope fields differ")
  | some (.envelope receipt sidecar attemptJournal) =>
    receipt.fromDict sha plan ctx sidecar
    forEach (DispatchAttemptJournalBinding.postInit fs) attemptJournal.toList
    pure (receipt, attemptJournal)

def loadDispatchScheduleReceipt (sha : ContentSha D) (fs : Files (Body D)) (path : Path)
    (plan : FrozenPlan D) (ctx : ExecutionContext D) : Except Error (DispatchScheduleReceipt D) := do
  let (receipt, _) ← loadDispatchScheduleEnvelope sha fs path plan ctx
  pure receipt

end

/-! ## System calls -/

inductive Effect (D : Type)
  /-- What `stat` and `read` see until the next change. -/
  | observe
  | mkstemp (parent : Path) (name : String)
  /-- Some bytes of a body have reached the file. -/
  | writeSome (path : Path)
  | write (path : Path) (body : Body D)
  | fsync (path : Path)
  | link (source path : Path)
  | unlink (path : Path)
  | fsyncDirectory (path : Path)

def Reply {D : Type} : Effect D → Type
  | .observe => Files (Body D)
  | .mkstemp _ _ => Except Errno Path
  | .writeSome _ | .write _ _ | .fsync _ | .link _ _ | .unlink _ | .fsyncDirectory _ =>
    Except Errno Unit

/-- What the system chooses: the random part of a temporary name, its inode, and the bytes that an
incomplete write has left. -/
structure Choice (D : Type) where
  random : String
  inode : Inode
  some : Body D

/-- The name of a temporary of `name`. -/
def temporaryPath (parent : Path) (name random : String) : Path :=
  parent ++ ["." ++ name ++ "." ++ random ++ ".tmp"]

section

variable {D : Type}

/-- The next files after a system call that may fail. -/
def attemptCall {α : Type} (fs : Files (Body D)) (outcome : Except Errno (Files (Body D)))
    (value : α) : Except Errno α × Files (Body D) :=
  match outcome with
  | .error e => (.error e, fs)
  | .ok fs' => (.ok value, fs')

/-- The system. -/
def handle (fs : Files (Body D)) (choice : Choice D) : (e : Effect D) → Reply e × Files (Body D)
  | .observe => (fs, fs)
  | .mkstemp parent name =>
    let temporary := temporaryPath parent name choice.random
    attemptCall fs (fs.create temporary choice.inode (.other none)) temporary
  | .writeSome path => attemptCall fs (fs.write path choice.some) ()
  | .write path body => attemptCall fs (fs.write path body) ()
  | .fsync path => (if fs.lexists path then .ok () else .error .missing, fs)
  | .link source path => attemptCall fs (fs.link source path) ()
  | .unlink path => attemptCall fs (fs.unlink path) ()
  | .fsyncDirectory path => (if fs.isDirectory path then .ok () else .error .missing, fs)

abbrev Code (D α : Type) := Prog (Effect D) Reply Error α

/-- The `OSError` of a failed system call. -/
def osError : Errno → Error
  | .exists => ⟨.osError, "File exists"⟩
  | .missing => ⟨.osError, "No such file or directory"⟩
  | .notDirectory => ⟨.osError, "Not a directory"⟩
  | .isDirectory => ⟨.osError, "Is a directory"⟩
  | .noSpace => ⟨.osError, "No space left on device"⟩

/-- A system call that fails raises its `OSError`. -/
def sysResult {α : Type} : Except Errno α → Code D α
  | .ok value => .ret value
  | .error e => .throw (osError e)

def sysMkstemp (parent : Path) (name : String) : Code D Path := .vis (.mkstemp parent name) sysResult

def sysWriteSome (path : Path) : Code D Unit := .vis (.writeSome path) sysResult

def sysWrite (path : Path) (body : Body D) : Code D Unit := .vis (.write path body) sysResult

def sysFsync (path : Path) : Code D Unit := .vis (.fsync path) sysResult

def fsyncDirectory (path : Path) : Code D Unit := .vis (.fsyncDirectory path) sysResult

/-- `temporary.unlink(missing_ok=True)`. -/
def unlinkMissingOk (path : Path) : Code D Unit :=
  .vis (.unlink path) fun
    | .error .missing => .ret ()
    | result => sysResult result

/-! ## Publication -/

def writeFsyncedTemporary (parent : Path) (name : String) (body : Body D) : Code D Path :=
  (sysMkstemp parent name).bind fun temporary =>
  (Prog.onError
    ((sysWriteSome temporary).bind fun _ =>
    (sysWrite temporary body).bind fun _ =>
    sysFsync temporary)
    fun _ => unlinkMissingOk temporary).bind fun _ =>
  .ret temporary

variable [DecidableEq D]

/-- An artifact that exists has to be the same. -/
def requireSame (path : Path) (body : Body D) (label : String) : Code D Unit :=
  .vis .observe fun (fs : Files (Body D)) =>
    (Prog.ofExcept (readRegularFile fs path label)).bind fun found =>
    Prog.ofExcept (require (found = body)
      ⟨.osError, s!"immutable dispatch receipt artifact differs: {showPath path}"⟩)

/-- `try: os.link(temporary, path)`, `except FileExistsError`. -/
def linkOrCompare (temporary path : Path) (body : Body D) : Code D Unit :=
  .vis (.link temporary path) fun
    | .error .exists => requireSame path body "raced dispatch receipt artifact"
    | result => sysResult result

def publishImmutableFile (parent : Path) (name : String) (body : Body D) : Code D Unit :=
  .vis .observe fun (fs : Files (Body D)) =>
    if fs.lexists (parent ++ [name]) then
      requireSame (parent ++ [name]) body "existing dispatch receipt artifact"
    else
      (writeFsyncedTemporary parent name body).bind fun temporary =>
      ((linkOrCompare temporary (parent ++ [name]) body).attempt fun _ => true).bind fun result =>
      -- `finally`
      (unlinkMissingOk temporary).bind fun _ => Prog.ofExcept result

def sidecarName (name : String) : String := name ++ ".sidecar.json"

/-- `publish_dispatch_schedule_receipt` for the output `parent / name`. -/
def publishDispatchScheduleReceipt (sha : ContentSha D) (parent : Path) (name : String)
    (receipt : DispatchScheduleReceipt D)
    (attemptJournal : Option (DispatchAttemptJournalBinding D)) : Code D (Path × Path) :=
  .vis .observe fun (fs : Files (Body D)) =>
    (Prog.ofExcept (require (fs.isNormalized parent = true ∧ fs.isDirectory parent = true)
      (valueError "dispatch receipt parent must be an existing resolved directory"))).bind fun _ =>
    (publishImmutableFile parent name
      (.canonical (.envelope receipt (receipt.sidecar sha) attemptJournal))).bind fun _ =>
    (fsyncDirectory parent).bind fun _ =>
    (publishImmutableFile parent (sidecarName name)
      (.canonical (.sidecar (receipt.sidecar sha)))).bind fun _ =>
    (fsyncDirectory parent).bind fun _ =>
    .ret (parent ++ [name], parent ++ [sidecarName name])

end

end Pool

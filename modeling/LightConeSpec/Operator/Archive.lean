import LightConeSpec.Operator.GpuTime

/-!
# Archives

An archive is registered at a safe boundary, transferred, verified locally,
rehydrated and verified again, and only then may the remote copy be evicted. The
table `archive_checkpoints` holds one row for each archive, and every step leaves
an event with its time.

Every call registers at most one archive and then makes a sequence of moves
(`Move`), each of which takes one archive a step further. The events of an archive
are therefore its derivation (`Recorded`), and what an authorisation rests on is
read off a derivation that ends in one.
-/

namespace Operator

open Python Machine

inductive ArchiveStep
  | transfer
  | localShaVerify
  | rehydrateVerify
deriving DecidableEq

inductive ArchiveState
  | registered
  | transferred
  | localShaVerified
  | rehydrateVerified
  | evictionAuthorized
deriving DecidableEq

def ArchiveStep.text : ArchiveStep → String
  | .transfer => "TRANSFER"
  | .localShaVerify => "LOCAL_SHA_VERIFY"
  | .rehydrateVerify => "REHYDRATE_VERIFY"

def ArchiveState.text : ArchiveState → String
  | .registered => "REGISTERED"
  | .transferred => "TRANSFERRED"
  | .localShaVerified => "LOCAL_SHA_VERIFIED"
  | .rehydrateVerified => "REHYDRATE_VERIFIED"
  | .evictionAuthorized => "EVICTION_AUTHORIZED"

/-- The state that a step requires, the first column of `transitions`. -/
def ArchiveStep.expectedState : ArchiveStep → ArchiveState
  | .transfer => .registered
  | .localShaVerify => .transferred
  | .rehydrateVerify => .localShaVerified

/-- The state after a step, the second column of `transitions`. -/
def ArchiveStep.nextState : ArchiveStep → ArchiveState
  | .transfer => .transferred
  | .localShaVerify => .localShaVerified
  | .rehydrateVerify => .rehydrateVerified

/-- The step before, whose counts a receipt must repeat: `prior_column`. -/
def ArchiveStep.prior : ArchiveStep → Option ArchiveStep
  | .transfer => none
  | .localShaVerify => some .transfer
  | .rehydrateVerify => some .localShaVerify

/-- The fields of `ArchiveRequest`; the cell and its attempt are both present or
absent. -/
structure ArchiveRequest where
  archiveId : String
  safeBoundary : String
  remotePayloadRoot : String
  localPartialRoot : String
  localFinalRoot : String
  remoteManifestSha256 : Digest
  predictedPayloadBytes : Nat := 0
  cell : Option AttemptKey := none
deriving DecidableEq

variable (s : ArchiveStore) (row : ArchiveRow) (request : ArchiveRequest)

/-- The checks of `ArchiveRequest.__post_init__`, in source order. -/
def ArchiveRequest.checks : List (Bool × Error) :=
  textChecks "archive ID" request.archiveId ++
  textChecks "archive safe boundary" request.safeBoundary ++
  textChecks "remote payload root" request.remotePayloadRoot ++
  textChecks "local partial root" request.localPartialRoot ++
  textChecks "local final root" request.localFinalRoot ++
  [(isAbsolutePath request.remotePayloadRoot, valueError "remote payload root must be absolute"),
   (isAbsolutePath request.localPartialRoot, valueError "local partial root must be absolute"),
   (isAbsolutePath request.localFinalRoot, valueError "local final root must be absolute"),
   (request.localPartialRoot != request.localFinalRoot,
     valueError "archive partial and final roots must differ")] ++
  (match request.cell with
    | some key => textChecks "archive cell ID" key.cellId ++
      [(decide (0 < key.attempt), valueError "archive attempt must be a positive integer")]
    | none => [])

/-- `ArchiveRequest`: a request that passed its `__post_init__`. -/
structure ArchiveRequestSpec where
  val : ArchiveRequest
  property : requireAll val.checks = .ok ()

/-- `ArchiveStepReceipt`, with the checks of its `__post_init__`. -/
structure ArchiveStepReceipt where
  step : ArchiveStep
  manifestSha256 : Digest
  evidenceSha256 : Digest
  checkedFileCount : Nat
  checkedBytes : Nat
  contentTreeSha256 : Option Digest := none
  count_pos : 1 ≤ checkedFileCount
  content_iff : contentTreeSha256.isSome = true ↔ step = .rehydrateVerify
deriving DecidableEq

structure RemoteEvictionAuthorization where
  archiveId : String
  remotePayloadRoot : String
  manifestSha256 : Digest
  localFinalRoot : String
  localShaEvidenceSha256 : Digest
  rehydrateEvidenceSha256 : Digest
  rehydratedContentTreeSha256 : Digest
  authorizedAtNs : Int

/-- A row of `archive_checkpoints`. -/
structure ArchiveRow where
  request : ArchiveRequest
  state : ArchiveState
  transferReceipt : Option ArchiveStepReceipt := none
  localShaReceipt : Option ArchiveStepReceipt := none
  rehydrateReceipt : Option ArchiveStepReceipt := none
  evictionAuthorizedAtNs : Option Int := none
  createdAtNs : Int
  updatedAtNs : Int

/-- The archive events of `watchdog_events`: the archive, the state reached, the
receipt whose digests and counts the payload repeats, and the time. -/
structure ArchiveEvent where
  archiveId : String
  state : ArchiveState
  receipt : Option ArchiveStepReceipt
  occurredAtNs : Int

namespace ArchiveRow

def receipt : ArchiveStep → Option ArchiveStepReceipt
  | .transfer => row.transferReceipt
  | .localShaVerify => row.localShaReceipt
  | .rehydrateVerify => row.rehydrateReceipt

/-- `UPDATE archive_checkpoints SET {column} = ?, state = ?, updated_at_ns = ?`. -/
def advance (receipt : ArchiveStepReceipt) (recorded : Int) : ArchiveRow :=
  match receipt.step with
  | .transfer =>
    { row with transferReceipt := some receipt, state := .transferred, updatedAtNs := recorded }
  | .localShaVerify =>
    { row with localShaReceipt := some receipt, state := .localShaVerified,
               updatedAtNs := recorded }
  | .rehydrateVerify =>
    { row with rehydrateReceipt := some receipt, state := .rehydrateVerified,
               updatedAtNs := recorded }

/-- `UPDATE archive_checkpoints SET state = 'EVICTION_AUTHORIZED', ..`. -/
def authorize (authorized : Int) : ArchiveRow :=
  { row with state := .evictionAuthorized, evictionAuthorizedAtNs := some authorized,
             updatedAtNs := authorized }

def previousReceipt : Option ArchiveStepReceipt :=
  row.rehydrateReceipt <|> row.localShaReceipt <|> row.transferReceipt

end ArchiveRow

structure ArchiveStore where
  store : Store
  archives : List ArchiveRow
  events : List ArchiveEvent

namespace ArchiveStore

def empty : ArchiveStore := ⟨Store.empty, [], []⟩

def findArchive (archiveId : String) : Option ArchiveRow :=
  s.archives.find? fun row => row.request.archiveId = archiveId

def requireArchive (archiveId : String) : Except Error ArchiveRow := do
  requireText "archive ID" archiveId
  match s.findArchive archiveId with
  | some row => pure row
  | none => .error (keyError s!"unknown archive checkpoint '{archiveId}'")

/-- `UPDATE archive_checkpoints .. WHERE archive_id = ?`, with its event. -/
def update (receipt : Option ArchiveStepReceipt) : ArchiveStore :=
  { s with
    archives := s.archives.map fun other =>
      if other.request.archiveId = row.request.archiveId then row else other
    events := s.events ++ [⟨row.request.archiveId, row.state, receipt, row.updatedAtNs⟩] }

/-- `INSERT INTO archive_checkpoints`, with its event. -/
def insert (registered : Int) : ArchiveStore :=
  { s with
    archives := s.archives ++ [{ request := request, state := .registered,
                                 createdAtNs := registered, updatedAtNs := registered }]
    events := s.events ++ [⟨request.archiveId, .registered, none, registered⟩] }

def registerArchiveSafeBoundary (request : ArchiveRequestSpec) (registered : Int) :
    Except Error ArchiveStore := do
  validatedTime registered
  match s.findArchive request.val.archiveId with
  | some existing =>
    require (existing.request = request.val)
      (operatorError "archive ID is already bound to different content")
    pure s
  | none =>
    match request.val.cell with
    | some key =>
      let attempt ← s.store.requireAttempt key
      require (attempt.status ≠ .pending ∧ attempt.status ≠ .running)
        (transitionError "archive safe boundary requires a terminal cell attempt")
      pure (s.insert request.val registered)
    | none => pure (s.insert request.val registered)

def requireCoverage (receipt : ArchiveStepReceipt) : Except Error Unit :=
  match receipt.step.prior with
  | none => pure ()
  | some step =>
    match row.receipt step with
    | none => .error (typeError "the JSON object must be str, bytes or bytearray, not NoneType")
    | some prior =>
      require (receipt.checkedFileCount = prior.checkedFileCount ∧
          receipt.checkedBytes = prior.checkedBytes)
        (operatorError "archive step coverage differs from the preceding step")

def recordArchiveStep (archiveId : String) (receipt : ArchiveStepReceipt) (recorded : Int) :
    Except Error ArchiveStore := do
  requireText "archive ID" archiveId
  validatedTime recorded
  let row ← s.requireArchive archiveId
  require (receipt.manifestSha256 = row.request.remoteManifestSha256)
    (operatorError "archive step manifest differs from remote manifest")
  require (row.updatedAtNs ≤ recorded)
    (valueError "archive step time precedes prior archive state")
  match row.receipt receipt.step with
  | some stored =>
    require (stored = receipt) (operatorError "archive step receipt is immutable")
    pure s
  | none =>
    require (row.state = receipt.step.expectedState)
      (transitionError (s!"archive {receipt.step.text} requires " ++
        s!"{receipt.step.expectedState.text}, got {row.state.text}"))
    requireCoverage row receipt
    pure (s.update (row.advance receipt recorded) (some receipt))

/-- The value that `authorize_remote_eviction` returns for a row. -/
def authorization (authorized : Int) : Except Error RemoteEvictionAuthorization :=
  match row.localShaReceipt, row.rehydrateReceipt with
  | some localSha, some rehydrate =>
    match rehydrate.contentTreeSha256 with
    | some content =>
      pure { archiveId := row.request.archiveId
             remotePayloadRoot := row.request.remotePayloadRoot
             manifestSha256 := row.request.remoteManifestSha256
             localFinalRoot := row.request.localFinalRoot
             localShaEvidenceSha256 := localSha.evidenceSha256
             rehydrateEvidenceSha256 := rehydrate.evidenceSha256
             rehydratedContentTreeSha256 := content
             authorizedAtNs := authorized }
    | none => .error ⟨.assertionError, "rehydrate receipt lacks content-tree identity"⟩
  | _, _ => .error (typeError "the JSON object must be str, bytes or bytearray, not NoneType")

def authorizeRemoteEviction (archiveId : String) (authorized : Int) :
    Except Error (RemoteEvictionAuthorization × ArchiveStore) := do
  requireText "archive ID" archiveId
  validatedTime authorized
  let row ← s.requireArchive archiveId
  if row.state = .evictionAuthorized then
    match row.evictionAuthorizedAtNs with
    | some stored => do
      let result ← authorization row stored
      pure (result, s)
    | none => .error (typeError ("int() argument must be a string, a bytes-like object or a " ++
        "real number, not 'NoneType'"))
  else
    require (row.state = .rehydrateVerified)
      (transitionError "remote eviction requires local SHA and rehydrate verification")
    require (row.updatedAtNs ≤ authorized)
      (valueError "eviction authorization time precedes verification")
    let result ← authorization row authorized
    pure (result, s.update (row.authorize authorized) none)

end ArchiveStore

/-! ## Callbacks -/

/-- What a callback of `ArchiveCallbacks` does. -/
inductive CallbackReply
  | receipt (value : ArchiveStepReceipt)
  | other
  | raises (error : Error)

/-- The callbacks of one run, by the step that each performs. -/
def ArchiveCallbacks : Type :=
  ArchiveStep → ArchiveRequest → Option ArchiveStepReceipt → CallbackReply

/-- The places of a run that read the clock. -/
inductive ArchiveTick
  | register
  | step (step : ArchiveStep)
  | failure
  | authorize

/-- What a call returns, with the callbacks that it invoked. -/
structure ArchiveResult where
  result : Except Error (Option RemoteEvictionAuthorization)
  invoked : List ArchiveStep

namespace ArchiveStore

/-- `callback_by_state`, without the states at which the loop ends. -/
def stepOf : ArchiveState → Option ArchiveStep
  | .registered => some .transfer
  | .transferred => some .localShaVerify
  | .localShaVerified => some .rehydrateVerify
  | .rehydrateVerified | .evictionAuthorized => none

/-- The handler of a failed step: it records an event and raises again. -/
def stepFailed (clock : ArchiveTick → Int) (error : Error) (invoked : List ArchiveStep) :
    ArchiveResult × ArchiveStore :=
  match s.store.recordWatchdogEvent "ARCHIVE_STEP_FAILED" request.cell (clock .failure) with
  | .ok store => (⟨.error error, invoked⟩, { s with store := store })
  | .error e => (⟨.error e, invoked⟩, s)

/-- A callback and the record of its receipt: the body of the `try` statement. -/
def performStep (callbacks : ArchiveCallbacks) (clock : ArchiveTick → Int) (step : ArchiveStep)
    (previous : Option ArchiveStepReceipt) : Except Error ArchiveStore :=
  match callbacks step request previous with
  | .raises error => .error error
  | .other => .error (typeError "archive callback must return ArchiveStepReceipt")
  | .receipt value => do
    require (value.step = step)
      (valueError s!"archive callback returned {value.step.text}, expected {step.text}")
    s.recordArchiveStep request.archiveId value (clock (.step step))

/-- The loop of `run_archive_callbacks`. Each turn ends it or moves the archive
on, so four turns are enough. -/
def archiveLoop (request : ArchiveRequest) (callbacks : ArchiveCallbacks)
    (clock : ArchiveTick → Int) :
    Nat → List ArchiveStep → ArchiveStore → ArchiveResult × ArchiveStore
  | 0, invoked, s => (⟨.error (runtimeError "archive loop did not end"), invoked⟩, s)
  | turns + 1, invoked, s =>
    match s.requireArchive request.archiveId with
    | .error e => (⟨.error e, invoked⟩, s)
    | .ok row =>
      match stepOf row.state with
      | none =>
        match s.authorizeRemoteEviction request.archiveId (clock .authorize) with
        | .ok (result, s') => (⟨.ok (some result), invoked⟩, s')
        | .error e => (⟨.error e, invoked⟩, s)
      | some step =>
        match s.performStep request callbacks clock step row.previousReceipt with
        | .ok s' => archiveLoop request callbacks clock turns (invoked ++ [step]) s'
        | .error e => s.stepFailed request clock e (invoked ++ [step])

def runArchiveCallbacks (request : ArchiveRequestSpec) (callbacks : ArchiveCallbacks)
    (clock : ArchiveTick → Int) : ArchiveResult × ArchiveStore :=
  match s.registerArchiveSafeBoundary request (clock .register) with
  | .ok s' => archiveLoop request.val callbacks clock 4 [] s'
  | .error e => (⟨.error e, []⟩, s)

end ArchiveStore

/-- A call on the store or on its archives. -/
inductive ArchiveOp
  | store (op : StoreOp)
  | register (request : ArchiveRequestSpec) (registered : Int)
  | record (archiveId : String) (receipt : ArchiveStepReceipt) (recorded : Int)
  | authorize (archiveId : String) (authorized : Int)
  | run (request : ArchiveRequestSpec) (callbacks : ArchiveCallbacks) (clock : ArchiveTick → Int)

namespace ArchiveStore

/-- A call: its transaction, or the error that rolled it back. -/
def step : ArchiveOp → ArchiveResult × ArchiveStore
  | .store op =>
    match s.store.apply op with
    | .ok store => (⟨.ok none, []⟩, { s with store := store })
    | .error e => (⟨.error e, []⟩, s)
  | .register request registered =>
    match s.registerArchiveSafeBoundary request registered with
    | .ok s' => (⟨.ok none, []⟩, s')
    | .error e => (⟨.error e, []⟩, s)
  | .record archiveId receipt recorded =>
    match s.recordArchiveStep archiveId receipt recorded with
    | .ok s' => (⟨.ok none, []⟩, s')
    | .error e => (⟨.error e, []⟩, s)
  | .authorize archiveId authorized =>
    match s.authorizeRemoteEviction archiveId authorized with
    | .ok (result, s') => (⟨.ok (some result), []⟩, s')
    | .error e => (⟨.error e, []⟩, s)
  | .run request callbacks clock => s.runArchiveCallbacks request callbacks clock

end ArchiveStore

end Operator

import LightConeSpec.Control.ReservationBytes
import LightConeSpec.Fleet.Wave
import LightConeSpec.Lib.Encodings

/-!
# The bytes of a response

What a host prints, byte by byte: `RemoteHostWaveResponse.to_dict`, `canonical_stdout` and
`from_dict`, and `_decode_remote_response` on the standard output of an SSH process. Digests are
texts of 64 hexadecimal digits here.

How deep the JSON decoder and encoder can nest, and what a floating-point number is printed as,
belongs to the Python that runs the coordinator.
-/

namespace Fleet

open Python

open Control (Sha256 isSha256)

/-- The Python runtime: how many containers `json.loads` and `json.dumps` enter within each other
before they raise a `RecursionError`, and `repr(float(text))` of a number with a finite value. -/
structure JsonRuntime where
  decodeLimit : ℕ
  encodeLimit : ℕ
  floatRepr : Text → Option Text

/-! ## Texts and strings -/

def stringOf (text : Text) : Option String :=
  if ∀ c ∈ text, c.isValidChar then some (String.ofList (text.map Char.ofNat)) else none

def RemoteWorkerStatus.value : RemoteWorkerStatus → String
  | .succeeded => "SUCCEEDED"
  | .blocked => "BLOCKED"
  | .failed => "FAILED"

/-! ## Writing -/

/-- A text, or `null`. -/
def optionalText : Option String → Json
  | none => .null
  | some s => .str (textOf s)

def digestList (digests : List Sha256) : Json :=
  .arr (digests.map fun digest => .str (textOf digest.1))

def responseKind : String := "lightcone_remote_host_wave_response"

namespace RemoteHostWaveResponse

def toDict (r : RemoteHostWaveResponse Sha256) : List (Text × Json) :=
  [(textOf "schema_version", .int r.schemaVersion),
    (textOf "kind", .str (textOf responseKind)),
    (textOf "host_id", .str (textOf r.hostId)),
    (textOf "request_sha256", .str (textOf r.requestSha256.1)),
    (textOf "binding_sha256", .str (textOf r.bindingSha256.1)),
    (textOf "status", .str (textOf r.status.value)),
    (textOf "reason_code", optionalText r.reasonCode),
    (textOf "dispatch_schedule_receipt_sha256",
      optionalText (r.dispatchScheduleReceiptSha256.map (·.1))),
    (textOf "dispatch_schedule_receipt_envelope_sha256",
      optionalText (r.dispatchScheduleReceiptEnvelopeSha256.map (·.1))),
    (textOf "completed_assignment_sha256", digestList r.completedAssignmentSha256),
    (textOf "failed_assignment_sha256", digestList r.failedAssignmentSha256)]

def canonicalStdout (runtime : JsonRuntime) (r : RemoteHostWaveResponse Sha256) : List UInt8 :=
  asciiBytes (Json.encode runtime.floatRepr (.obj r.toDict)) ++ [10]

end RemoteHostWaveResponse

/-! ## Reading -/

def strictJsonObject (runtime : JsonRuntime) (body : List UInt8) :
    Except Error (List (Text × Json)) := do
  let text ← decodeText body
  match ← Json.loads runtime.decodeLimit text with
  | .obj row => pure row
  | _ => .error (valueError "remote response must be a JSON object")

def responseFields : List Text :=
  ["schema_version", "kind", "host_id", "request_sha256", "binding_sha256", "status",
    "reason_code", "dispatch_schedule_receipt_sha256",
    "dispatch_schedule_receipt_envelope_sha256", "completed_assignment_sha256",
    "failed_assignment_sha256"].map textOf

def field (row : List (Text × Json)) (name : String) : Except Error Json :=
  match row.find? fun item => item.1 = textOf name with
  | some item => .ok item.2
  | none => .error (keyError name)

def strictInt (name : String) : Json → Except Error ℤ
  | .int n => .ok n
  | _ => .error (typeError s!"{name} must be an integer")

def matchedText (pattern : String → Bool) (error : Error) : Json → Except Error String
  | .str text =>
    match stringOf text with
    | some s => if pattern s then .ok s else .error error
    | none => .error error
  | _ => .error error

/-- `_require_id` of a decoded value. -/
def requireIdText (name : String) : Json → Except Error String :=
  matchedText isSafeId (valueError s!"{name} must be a canonical opaque identifier")

/-- `_require_reason` of a decoded value, which may be `null`. -/
def optionalReason (name : String) : Json → Except Error (Option String)
  | .null => .ok none
  | v => some <$>
      matchedText isReasonCode (valueError s!"{name} must be a stable lower-case reason code") v

/-- `_require_sha256` of a decoded value. -/
def requireSha256Text (name : String) : Json → Except Error Sha256
  | .str text =>
    match stringOf text with
    | some s =>
      if h : isSha256 s = true then .ok ⟨s, h⟩
      else .error (valueError s!"{name} must be a lower-case SHA-256")
    | none => .error (valueError s!"{name} must be a lower-case SHA-256")
  | _ => .error (valueError s!"{name} must be a lower-case SHA-256")

def optionalSha256 (name : String) : Json → Except Error (Option Sha256)
  | .null => .ok none
  | v => some <$> requireSha256Text name v

/-- The digests of a `_strict_list`. -/
def sha256List (listName name : String) : Json → Except Error (List Sha256)
  | .arr items => collect (items.map (requireSha256Text name))
  | _ => .error (typeError s!"{listName} must be a JSON array")

/-- `RemoteWorkerStatus(value)`. -/
def workerStatus : Json → Except Error RemoteWorkerStatus
  | .str text =>
    if text = textOf "SUCCEEDED" then .ok .succeeded
    else if text = textOf "BLOCKED" then .ok .blocked
    else if text = textOf "FAILED" then .ok .failed
    else .error (valueError "remote host-wave response status is unsupported")
  | _ => .error (valueError "remote host-wave response status is unsupported")

/-- `row["kind"] == kind`. -/
def requireKind : Json → Except Error Unit
  | .str text =>
    require (text = textOf responseKind)
      (valueError "remote host-wave response kind is unsupported")
  | _ => .error (valueError "remote host-wave response kind is unsupported")

/-- `RemoteHostWaveResponse.from_dict`, the constructor apart. The constructor refuses a negative
version as it refuses zero. -/
def RemoteHostWaveResponse.fromDict (row : List (Text × Json)) :
    Except Error (RemoteHostWaveResponse Sha256) := do
  require (row.map Prod.fst ⊆ responseFields ∧ responseFields ⊆ row.map Prod.fst)
    (valueError "remote worker response fields differ")
  requireKind (← field row "kind")
  let status ← workerStatus (← field row "status")
  let reasonCode ← optionalReason "remote response reason_code" (← field row "reason_code")
  let schemaVersion ← strictInt "schema_version" (← field row "schema_version")
  let hostId ← requireIdText "host_id" (← field row "host_id")
  let requestSha256 ← requireSha256Text "request_sha256" (← field row "request_sha256")
  let bindingSha256 ← requireSha256Text "binding_sha256" (← field row "binding_sha256")
  let receiptSha256 ← optionalSha256 "dispatch_schedule_receipt_sha256"
    (← field row "dispatch_schedule_receipt_sha256")
  let envelopeSha256 ← optionalSha256 "dispatch_schedule_receipt_envelope_sha256"
    (← field row "dispatch_schedule_receipt_envelope_sha256")
  let completed ← sha256List "completed assignments" "completed assignment"
    (← field row "completed_assignment_sha256")
  let failed ← sha256List "failed assignments" "failed assignment"
    (← field row "failed_assignment_sha256")
  pure {
    schemaVersion := schemaVersion.toNat
    hostId := hostId
    requestSha256 := requestSha256
    bindingSha256 := bindingSha256
    status := status
    reasonCode := reasonCode
    dispatchScheduleReceiptSha256 := receiptSha256
    dispatchScheduleReceiptEnvelopeSha256 := envelopeSha256
    completedAssignmentSha256 := completed
    failedAssignmentSha256 := failed }

/-- The first statements of the `try` of `_decode_remote_response`: a canonical response, the
constructor apart. -/
def readResponse (runtime : JsonRuntime) (body : List UInt8) :
    Except Error (RemoteHostWaveResponse Sha256) := do
  let row ← strictJsonObject runtime body
  let canonical ← Json.dumps runtime.floatRepr runtime.encodeLimit (.obj row)
  require (asciiBytes canonical = body) (valueError "remote response is not canonical JSON")
  RemoteHostWaveResponse.fromDict row

/-! ## Classifying -/

/-- `stdout.endswith(b"\n") and not stdout.endswith(b"\n\n")`. -/
def endsInOneNewline (stdout : List UInt8) : Bool :=
  stdout.getLast? == some 10 && stdout.dropLast.getLast? != some 10

/-- What the coordinator reads of a process. -/
def processOf (runtime : JsonRuntime) (shaBytes : List UInt8 → Sha256) (exitCode : ℤ)
    (stdout stderr : List UInt8) : SshProcessResult Sha256 where
  exitCode := exitCode
  stdout := ⟨stdout.length, shaBytes stdout⟩
  stdoutOneNewline := endsInOneNewline stdout
  response := readResponse runtime stdout.dropLast
  stderr := ⟨stderr.length, shaBytes stderr⟩

/-- `_decode_remote_response` of the bytes that a process printed. -/
def decodeRemoteBytes (runtime : JsonRuntime) (sha : FleetSha Sha256)
    (shaBytes : List UInt8 → Sha256) (request : RemoteHostWaveRequest Sha256) (exitCode : ℤ)
    (stdout stderr : List UInt8) : Except Error (RemoteHostWaveResult Sha256) :=
  decodeRemoteResponse sha request (processOf runtime shaBytes exitCode stdout stderr)

end Fleet

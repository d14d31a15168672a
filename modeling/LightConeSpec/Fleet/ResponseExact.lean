import LightConeSpec.Fleet.ResponseRows

/-!
# Classifying a response is exact

The bytes of a process are classified as one of the three outcomes of a host exactly when they are
a canonical response that stands for it, and as UNKNOWN otherwise, unless the JSON of the response
nests deeper than the runtime can. Then a `RecursionError` passes the `except` clause, which is for
`TypeError`s and `ValueError`s.

First the result of a request is shown to be accepted by its constructor, then reading is shown to
invert writing, and the two are put together.
-/

namespace Fleet

open Python List

open Control (Sha256 isSha256)

variable {runtime : JsonRuntime} {body stdout stderr : List UInt8}
  {r : RemoteHostWaveResponse Sha256} {outcome : RemoteTransportOutcome} {exitCode : ℤ}

/-! ## Writing and reading a response -/

/-- What the constructor of a response checks of its parts. -/
theorem parts_of_postInit (h : r.postInit = .ok ()) :
    r.schemaVersion = 1 ∧ isSafeId r.hostId = true ∧ ∀ s ∈ r.reasonCode, isReasonCode s = true := by
  unfold RemoteHostWaveResponse.postInit requireId at h
  simp only [bind_eq_ok, require_eq_ok, forEach_eq_ok, requireReason, Option.mem_toList] at h
  rcases h with ⟨_, hversion, _, hid, _, hreason, -⟩
  exact ⟨hversion, hid, hreason⟩

theorem plain_optionalText {text : Option String}
    (h : ∀ s ∈ text, Json.IsPlainText (textOf s)) : Json.Plain (optionalText text) := by
  cases text with
  | none => exact .null
  | some s => exact .str (h s rfl)

theorem plain_optionalSha256 (d : Option Sha256) : Json.Plain (optionalText (d.map (·.1))) := by
  refine plain_optionalText fun s hs => ?_
  rcases Option.mem_map.mp hs with ⟨digest, -, rfl⟩
  exact isPlainText_sha256 digest

theorem plain_digestList (digests : List Sha256) : Json.Plain (digestList digests) := by
  refine .arr ?_
  rw [forall_mem_map]
  exact fun digest _ => .str (isPlainText_sha256 digest)

/-- The fields of a response in the order of their names. -/
def RemoteHostWaveResponse.sortedDict (r : RemoteHostWaveResponse Sha256) : List (Text × Json) :=
  sortedBy Prod.fst r.toDict

theorem perm_sortedDict (r : RemoteHostWaveResponse Sha256) : r.sortedDict.Perm r.toDict :=
  sortedBy_perm _ _

theorem nodup_sortedDict (r : RemoteHostWaveResponse Sha256) : (r.sortedDict.map Prod.fst).Nodup :=
  ((perm_sortedDict r).map Prod.fst).nodup_iff.mpr nodup_responseFields

theorem plain_sortedDict (h : r.postInit = .ok ()) : Json.Plain (.obj r.sortedDict) := by
  rcases parts_of_postInit h with ⟨hversion, hid, hreason⟩
  have hkeys : ∀ key ∈ responseFields, Json.IsPlainText key := by
    decide +kernel
  have hvalues : ∀ field ∈ r.toDict, Json.Plain field.2 := by
    simp only [RemoteHostWaveResponse.toDict, forall_mem_cons]
    refine ⟨?_, .str ?_, .str (isPlainText_safeId hid), .str (isPlainText_sha256 _),
      .str (isPlainText_sha256 _), .str ?_, plain_optionalText fun s hs => ?_,
      plain_optionalSha256 _, plain_optionalSha256 _, plain_digestList _, plain_digestList _,
      forall_mem_nil _⟩
    · rw [hversion]
      exact .nat 1 (by decide)
    · decide +kernel
    · cases r.status with
      | succeeded | blocked | failed => decide +kernel
    · exact isPlainText_reasonCode (hreason s hs)
  refine .obj ?_ ?_ ?_
  · intro field hfield
    refine hkeys field.1 ?_
    rw [← keys_toDict r]
    exact mem_map_of_mem ((perm_sortedDict r).mem_iff.mp hfield)
  · have hnodup : (r.toDict.map Prod.fst).Nodup := nodup_responseFields
    have hkeys : r.sortedDict.map Prod.fst = sortedSet (r.toDict.map Prod.fst) :=
      map_sortedBy hnodup
    rw [hkeys]
    exact sortedSet_eq_self_iff.mp (sortedSet_idem _)
  · exact fun field hfield => hvalues field ((perm_sortedDict r).mem_iff.mp hfield)

/-- No part of a response nests deeper than two. -/
theorem check_sortedDict (r : RemoteHostWaveResponse Sha256) (floatRepr : Text → Option Text) :
    Json.check floatRepr (.obj r.sortedDict) 2 = .ok () := by
  have hdigests : ∀ digests, Json.check floatRepr (digestList digests) 1 = .ok () := by
    intro digests
    refine Json.check_arr_eq_ok.mpr ⟨0, rfl, ?_⟩
    rw [forall_mem_map]
    exact fun digest _ => rfl
  have hoptional : ∀ text, Json.check floatRepr (optionalText text) 1 = .ok () := by
    intro text
    cases text with
    | none => rfl
    | some s => rfl
  have hfields : ∀ field ∈ r.toDict, Json.check floatRepr field.2 1 = .ok () := by
    simp only [RemoteHostWaveResponse.toDict, forall_mem_cons]
    exact ⟨rfl, rfl, rfl, rfl, rfl, rfl, hoptional _, hoptional _, hoptional _, hdigests _,
      hdigests _, forall_mem_nil _⟩
  exact Json.check_obj_eq_ok.mpr ⟨1, rfl,
    fun field hfield => hfields field ((perm_sortedDict r).mem_iff.mp hfield)⟩

/-- A response is written in the order of its names. -/
theorem encode_sortedDict (r : RemoteHostWaveResponse Sha256) (floatRepr : Text → Option Text) :
    Json.encode floatRepr (.obj r.sortedDict) = Json.encode floatRepr (.obj r.toDict) :=
  Json.encode_obj_congr (nodup_sortedDict r) (perm_sortedDict r)

theorem strictJsonObject_raises (runtime : JsonRuntime) (body : List UInt8) :
    RaisesOnly Json.Refuses (strictJsonObject runtime body) := by
  refine raisesOnly_bind ?_ fun text _ => ?_
  · unfold decodeText
    split
    · exact raisesOnly_ok
    · exact raisesOnly_error.mpr (.inl rfl)
  · refine raisesOnly_bind (Json.loads_raises _ _) fun v _ => ?_
    cases v with
    | obj row => exact raisesOnly_ok
    | null | bool | int | float | str | arr => exact raisesOnly_error.mpr (.inl rfl)

theorem strictJsonObject_eq_ok {row : List (Text × Json)} :
    strictJsonObject runtime body = .ok row ↔ ∃ text, decodeText body = .ok text ∧
        Json.loads runtime.decodeLimit text = .ok (.obj row) := by
  unfold strictJsonObject
  simp only [bind_eq_ok]
  constructor
  · rintro ⟨text, htext, v, hv, h⟩
    cases v with
    | obj items =>
      cases h
      exact ⟨text, htext, hv⟩
    | null | bool | int | float | str | arr => cases h
  · rintro ⟨text, htext, hv⟩
    exact ⟨text, htext, _, hv, rfl⟩

/-- Reading the bytes, or writing what was read again, comes to a container that is inside as many
others as the runtime can enter. -/
inductive NestsTooDeep (runtime : JsonRuntime) (body : List UInt8) : Prop
  | decoding {before rest : Text} {c : ℕ} {st : Json.State}
      (htext : decodeText body = .ok (before ++ c :: rest))
      (hrun : Json.run runtime.decodeLimit ⟨[], .value⟩ before = .ok st)
      (hopens : Json.Opens runtime.decodeLimit st c)
  | encoding {text : Text} {row : List (Text × Json)} (htext : decodeText body = .ok text)
      (hrow : Json.loads runtime.decodeLimit text = .ok (.obj row))
      (hexceeds : Json.Exceeds runtime.floatRepr runtime.encodeLimit (.obj row))

/-- Reading a response raises the `RecursionError` exactly when the bytes nest too deep. -/
theorem readResponse_eq_recursionError_iff :
    readResponse runtime body = .error Json.recursionError ↔ NestsTooDeep runtime body := by
  constructor
  · intro h
    unfold readResponse at h
    rcases bind_eq_error.mp h with h | ⟨row, hrow, h⟩
    · unfold strictJsonObject at h
      rcases bind_eq_error.mp h with h | ⟨text, htext, h⟩
      · unfold decodeText at h
        split at h
        · cases h
        · cases h
      rcases bind_eq_error.mp h with h | ⟨v, -, h⟩
      · rw [Json.loads_eq_recursionError_iff, Json.run_eq_recursionError_iff] at h
        rcases h with ⟨before, c, rest, st, rfl, hrun, hopens⟩
        exact .decoding htext hrun hopens
      · cases v with
        | obj row => cases h
        | null | bool | int | float | str | arr => cases h
    · rcases strictJsonObject_eq_ok.mp hrow with ⟨text, htext, hloads⟩
      rcases bind_eq_error.mp h with h | ⟨canonical, -, h⟩
      · rcases bind_eq_error.mp h with h | ⟨-, -, h⟩
        · exact .encoding htext hloads (Json.check_eq_recursionError_iff.mp h)
        · cases h
      · rcases bind_eq_error.mp h with h | ⟨-, -, h⟩
        · exact absurd (require_eq_error.mp h).2 (by decide)
        · exact absurd (fromDict_raises row _ h) Json.not_caught_recursionError
  · intro h
    cases h with
    | @decoding before rest c st htext hrun hopens =>
      -- the scanner gives up inside the text
      have hloads := Json.loads_eq_recursionError_iff.mpr
        (Json.run_eq_recursionError_iff.mpr ⟨before, c, rest, st, rfl, hrun, hopens⟩)
      unfold readResponse strictJsonObject
      rw [htext]
      show (Json.loads _ _ >>= _) >>= _ = _
      rw [hloads]
      rfl
    | encoding htext hrow hexceeds =>
      -- the text is read, and writing it again nests too deep
      have hobject := strictJsonObject_eq_ok.mpr ⟨_, htext, hrow⟩
      have hcheck := Json.check_eq_recursionError_iff.mpr hexceeds
      unfold readResponse
      rw [hobject]
      show (Json.dumps _ _ _ >>= _) = _
      unfold Json.dumps
      rw [hcheck]
      rfl

theorem readResponse_raises (runtime : JsonRuntime) (body : List UInt8) :
    RaisesOnly Json.Refuses (readResponse runtime body) := by
  refine raisesOnly_bind (strictJsonObject_raises runtime body) fun row _ => ?_
  refine raisesOnly_bind ?_ fun canonical _ => ?_
  · refine raisesOnly_bind (Json.check_raises _ _ _) fun _ _ => raisesOnly_pure
  · refine raisesOnly_check (fun _ => ?_) (.inl rfl)
    exact (fromDict_raises row).mono fun _ => .inl

/-- A response that does not nest too deep raises `ValueError`s and `TypeError`s only. -/
theorem readResponse_caught (h : ¬ NestsTooDeep runtime body) :
    RaisesOnly Caught (readResponse runtime body) := by
  intro e he
  rcases readResponse_raises runtime body e he with hcaught | rfl
  · exact hcaught
  · exact absurd (readResponse_eq_recursionError_iff.mp he) h

theorem readResponse_eq_ok :
    readResponse runtime body = .ok r ↔ ∃ row, strictJsonObject runtime body = .ok row ∧
      Json.check runtime.floatRepr (.obj row) runtime.encodeLimit = .ok () ∧
      asciiBytes (Json.encode runtime.floatRepr (.obj row)) = body ∧
      RemoteHostWaveResponse.fromDict row = .ok r := by
  unfold readResponse Json.dumps
  simp only [bind_eq_ok, require_eq_ok, pure_eq_ok]
  constructor
  · rintro ⟨row, hrow, _, ⟨_, hcheck, rfl⟩, _, hcanonical, h⟩
    exact ⟨row, hrow, hcheck, hcanonical, h⟩
  · rintro ⟨row, hrow, hcheck, hcanonical, h⟩
    exact ⟨row, hrow, _, ⟨(), hcheck, rfl⟩, (), hcanonical, h⟩

/-- What is read as a response is what the response writes. -/
theorem body_of_readResponse (h : readResponse runtime body = .ok r)
    (hvalid : r.postInit = .ok ()) :
    body = asciiBytes (Json.encode runtime.floatRepr (.obj r.toDict)) := by
  rcases readResponse_eq_ok.mp h with ⟨row, hrow, -, hcanonical, h⟩
  rcases strictJsonObject_eq_ok.mp hrow with ⟨text, -, hloads⟩
  have hdistinct : (row.map Prod.fst).Nodup := Json.loads_distinct hloads
  rw [fromDict_eq_ok hdistinct (parts_of_postInit hvalid).1] at h
  rw [← hcanonical, Json.encode_obj_congr hdistinct h.2.2]

/-- What a response writes is read as the response, if the runtime can nest two containers. -/
theorem readResponse_of_body (runtime : JsonRuntime) (hvalid : r.postInit = .ok ()) :
    readResponse runtime (asciiBytes (Json.encode runtime.floatRepr (.obj r.toDict)))
        = .error Json.recursionError ∨
      readResponse runtime (asciiBytes (Json.encode runtime.floatRepr (.obj r.toDict)))
        = .ok r := by
  have hplain := plain_sortedDict hvalid
  have htext : decodeText (asciiBytes (Json.encode runtime.floatRepr (.obj r.sortedDict)))
      = .ok (Json.encode runtime.floatRepr (.obj r.sortedDict)) :=
    decodeText_asciiBytes (Json.isPrintable_encode hplain)
  have hloads := Json.loads_encode hplain (check_sortedDict r runtime.floatRepr)
    (le_max_right runtime.decodeLimit 2)
  have hfromDict : RemoteHostWaveResponse.fromDict r.sortedDict = .ok r := by
    rcases parts_of_postInit hvalid with ⟨hversion, hid, hreason⟩
    rw [fromDict_eq_ok (nodup_sortedDict r) hversion]
    exact ⟨hid, hreason, perm_sortedDict r⟩
  rw [← encode_sortedDict r runtime.floatRepr]
  rcases Json.loads_le (le_max_left runtime.decodeLimit 2)
    (Json.encode runtime.floatRepr (.obj r.sortedDict)) with hlimit | hlimit
  · left
    unfold readResponse strictJsonObject
    rw [htext]
    show (Json.loads _ _ >>= _) >>= _ = _
    rw [hlimit]
    rfl
  · have hrow := strictJsonObject_eq_ok.mpr ⟨_, htext, hlimit.trans hloads⟩
    cases hcheck : Json.check runtime.floatRepr (.obj r.sortedDict) runtime.encodeLimit with
    | ok u => exact .inr (readResponse_eq_ok.mpr ⟨_, hrow, hcheck, rfl, hfromDict⟩)
    | error e =>
      left
      rw [hplain.check_raises runtime.encodeLimit e hcheck] at hcheck
      unfold readResponse
      rw [hrow]
      show (Json.dumps _ _ _ >>= _) = _
      unfold Json.dumps
      rw [hcheck]
      rfl

/-! ## Which response stands for an outcome -/

/-- The status of a response and the exit code stand for the outcome, and the assignments cover the
binding as the status requires. -/
def Answers (request : RemoteHostWaveRequest Sha256) (exitCode : ℤ)
    (r : RemoteHostWaveResponse Sha256) : RemoteTransportOutcome → Prop
  | .remoteSucceeded => r.status = .succeeded ∧ exitCode = 0 ∧
      r.completedAssignmentSha256 = request.binding.assignmentSha256
  | .remoteBlocked => r.status = .blocked ∧ exitCode = 42
  | .remoteFailed => r.status = .failed ∧ exitCode = 42 ∧
      ∀ a, a ∈ r.completedAssignmentSha256 ∨ a ∈ r.failedAssignmentSha256 ↔
        a ∈ request.binding.assignmentSha256
  | _ => False

/-- The standard output is the canonical JSON of a response that is bound to the request and stands
for the outcome. -/
structure Renders (runtime : JsonRuntime) (sha : FleetSha Sha256)
    (request : RemoteHostWaveRequest Sha256) (exitCode : ℤ) (stdout : List UInt8)
    (outcome : RemoteTransportOutcome) (r : RemoteHostWaveResponse Sha256) : Prop where
  valid : r.postInit = .ok ()
  canonical : stdout = r.canonicalStdout runtime
  hostId : r.hostId = request.binding.hostId
  requestSha256 : r.requestSha256 = sha.request request
  bindingSha256 : r.bindingSha256 = sha.binding request.binding
  answers : Answers request exitCode r outcome

/-- A result is returned. It has an outcome that a host reports exactly when the standard output is
a response that stands for it, and is UNKNOWN exactly when there is no such response. -/
def Classified (runtime : JsonRuntime) (sha : FleetSha Sha256)
    (request : RemoteHostWaveRequest Sha256) (exitCode : ℤ) (stdout : List UInt8)
    (returned : Except Error (RemoteHostWaveResult Sha256)) : Prop :=
  ∃ result, returned = .ok result ∧
    (∀ outcome, outcome ≠ .remoteOutcomeUnknown → (result.transportOutcome = outcome ↔
      ∃ r, Renders runtime sha request exitCode stdout outcome r)) ∧
    (result.transportOutcome = .remoteOutcomeUnknown ↔
      ¬ ∃ outcome r, Renders runtime sha request exitCode stdout outcome r)

variable {sha : FleetSha Sha256}

/-- What the constructor of a response says of a status. -/
theorem claims_of_postInit (h : r.postInit = .ok ()) : (r.status = .succeeded →
      r.failedAssignmentSha256 = [] ∧ r.dispatchScheduleReceiptSha256 ≠ none ∧
        r.dispatchScheduleReceiptEnvelopeSha256 ≠ none) ∧ (r.status = .blocked →
      r.completedAssignmentSha256 = [] ∧ r.failedAssignmentSha256 = [] ∧
        r.dispatchScheduleReceiptSha256 = none ∧ r.dispatchScheduleReceiptEnvelopeSha256 = none) ∧
    (r.status = .failed →
      r.dispatchScheduleReceiptSha256 ≠ none ∧ r.dispatchScheduleReceiptEnvelopeSha256 ≠ none) := by
  unfold RemoteHostWaveResponse.postInit at h
  simp only [bind_eq_ok, require_eq_ok] at h
  rcases h with ⟨_, -, _, -, _, -, _, -, _, -, _, -, _, -, h⟩
  refine ⟨fun hstatus => ?_, fun hstatus => ?_, fun hstatus => ?_⟩
  · rw [hstatus] at h
    rcases require_eq_ok.mp h with ⟨-, hreceipt, henvelope, hfailed⟩
    exact ⟨hfailed, hreceipt, henvelope⟩
  · rw [hstatus] at h
    rcases require_eq_ok.mp h with ⟨-, hreceipt, henvelope, hcompleted, hfailed⟩
    exact ⟨hcompleted, hfailed, hreceipt, henvelope⟩
  · rw [hstatus] at h
    exact (require_eq_ok.mp h).2

/-- The lists of assignments of a response. -/
theorem assignments_of_postInit (h : r.postInit = .ok ()) :
    r.completedAssignmentSha256 = sortedSet r.completedAssignmentSha256 ∧
      r.failedAssignmentSha256 = sortedSet r.failedAssignmentSha256 ∧
      ∀ a ∈ r.completedAssignmentSha256, a ∉ r.failedAssignmentSha256 := by
  unfold RemoteHostWaveResponse.postInit at h
  simp only [bind_eq_ok, require_eq_ok] at h
  rcases h with ⟨_, -, _, -, _, -, _, -, _, hcompleted, _, hfailed, _, hdisjoint, -⟩
  exact ⟨hcompleted, hfailed, hdisjoint⟩

theorem responseOutcome_eq_ok {status : RemoteWorkerStatus} :
    responseOutcome status exitCode = .ok outcome ↔
      status = .succeeded ∧ exitCode = 0 ∧ outcome = .remoteSucceeded ∨
      status = .blocked ∧ exitCode = 42 ∧ outcome = .remoteBlocked ∨
      status = .failed ∧ exitCode = 42 ∧ outcome = .remoteFailed := by
  have hcode : ∀ (n : ℤ) (reported : RemoteTransportOutcome) (e : Error),
      (if exitCode = n then Except.ok reported else .error e) = .ok outcome ↔
        exitCode = n ∧ outcome = reported := by
    intro n reported e
    split
    · rename_i hn
      simp [hn, eq_comm]
    · rename_i hn
      simp [hn]
  cases status with
  | succeeded | blocked | failed => simp [responseOutcome, hcode]

theorem responseOutcome_raises (status : RemoteWorkerStatus) (exitCode : ℤ) :
    RaisesOnly Caught (responseOutcome status exitCode) := by
  unfold responseOutcome
  cases status with
  | succeeded | blocked | failed =>
    dsimp only
    split
    · exact raisesOnly_ok
    · exact raisesOnly_error.mpr rfl

variable {request : RemoteHostWaveRequest Sha256}

variable {process : SshProcessResult Sha256}

/-- The checks of a response that is valid accept it exactly when it stands for the outcome. -/
theorem decodeResponse_eq_ok : decodeResponse sha request process = .ok (r, outcome) ↔
      process.response = .ok r ∧ r.postInit = .ok () ∧ r.hostId = request.binding.hostId ∧
        r.requestSha256 = sha.request request ∧ r.bindingSha256 = sha.binding request.binding ∧
        Answers request process.exitCode r outcome := by
  unfold decodeResponse
  simp only [bind_eq_ok, require_eq_ok, pure_eq_ok, Prod.mk.injEq, responseOutcome_eq_ok]
  constructor
  · rintro ⟨_, hresponse, _, hvalid, _, ⟨hhost, hrequest, hbinding⟩, _, hstatus, _,
      ⟨hclaimed, hcovers⟩, _, hsucceeded, rfl, rfl⟩
    refine ⟨hresponse, hvalid, hhost, hrequest, hbinding, ?_⟩
    rcases hstatus with ⟨hstatus, hcode, rfl⟩ | ⟨hstatus, hcode, rfl⟩ | ⟨hstatus, hcode, rfl⟩
    · exact ⟨hstatus, hcode, (hsucceeded rfl).1⟩
    · exact ⟨hstatus, hcode⟩
    · refine ⟨hstatus, hcode, fun a => ⟨fun ha => ?_, fun ha => ?_⟩⟩
      · exact hclaimed a (mem_append.mpr ha)
      · exact mem_append.mp (hcovers rfl a ha)
  · rintro ⟨hresponse, hvalid, hhost, hrequest, hbinding, hanswers⟩
    have hclaims := claims_of_postInit hvalid
    cases outcome with
    | remoteSucceeded =>
      rcases hanswers with ⟨hstatus, hcode, hcompleted⟩
      rcases hclaims.1 hstatus with ⟨hfailed, hreceipt, -⟩
      refine ⟨r, hresponse, (), hvalid, (), ⟨hhost, hrequest, hbinding⟩, .remoteSucceeded,
        .inl ⟨hstatus, hcode, rfl⟩, (), ⟨fun a ha => ?_, fun h => by cases h⟩, (),
        fun _ => ⟨hcompleted, hfailed, hreceipt⟩, rfl, rfl⟩
      rw [hfailed, append_nil, hcompleted] at ha
      exact ha
    -- a blocked wave claims no assignment
    | remoteBlocked =>
      rcases hanswers with ⟨hstatus, hcode⟩
      rcases hclaims.2.1 hstatus with ⟨hcompleted, hfailed, -⟩
      refine ⟨r, hresponse, (), hvalid, (), ⟨hhost, hrequest, hbinding⟩, .remoteBlocked,
        .inr (.inl ⟨hstatus, hcode, rfl⟩), (), ⟨fun a ha => ?_, fun h => by cases h⟩, (),
        fun h => (by cases h), rfl, rfl⟩
      rw [hfailed, hcompleted] at ha
      cases ha
    | remoteFailed =>
      rcases hanswers with ⟨hstatus, hcode, hcovers⟩
      exact ⟨r, hresponse, (), hvalid, (), ⟨hhost, hrequest, hbinding⟩, .remoteFailed,
        .inr (.inr ⟨hstatus, hcode, rfl⟩), (),
        ⟨fun a ha => (hcovers a).mp (mem_append.mp ha),
          fun _ a ha => mem_append.mpr ((hcovers a).mpr ha)⟩, (), fun h => (by cases h), rfl, rfl⟩
    | reconciledSucceeded | reconciledFailed | remoteOutcomeUnknown | sshFailed =>
      exact hanswers.elim

/-- Classifying a response raises nothing but what reading it raises. -/
theorem decodeResponse_raises (h : RaisesOnly Caught process.response) :
    RaisesOnly Caught (decodeResponse sha request process) := by
  refine raisesOnly_bind h fun response _ => ?_
  refine raisesOnly_bind (response_raises response) fun _ _ => ?_
  refine raisesOnly_check fun _ => ?_
  refine raisesOnly_bind (responseOutcome_raises _ _) fun _ _ => ?_
  refine raisesOnly_check fun _ => raisesOnly_check fun _ => ?_
  exact raisesOnly_pure

/-! ## The result is accepted by its constructor -/

/-- The assignments of a request. -/
theorem assignments_of_request (request : CanonicalWaveRequest Sha256) :
    request.request.binding.assignmentSha256 ≠ [] ∧ request.request.binding.assignmentSha256
        = sortedSet request.request.binding.assignmentSha256 := by
  have h := request.valid
  unfold RemoteHostWaveRequest.postInit RemoteHostExecutionBinding.postInit at h
  simp only [bind_eq_ok, require_eq_ok] at h
  rcases h with ⟨_, -, _, ⟨_, -, _, -, _, -, _, -, _, -, _, -, _, -, _, hne, _, hsorted, -⟩, -⟩
  refine ⟨?_, hsorted⟩
  unfold RemoteHostExecutionBinding.assignmentSha256
  exact fun hnil => hne (map_eq_nil_iff.mp hnil)

/-- The constructor of a result accepts what an attempt on the host of the request says of it, if
it accepts the outcome. -/
theorem postInit_of_request (request : CanonicalWaveRequest Sha256) {emptySha256 : Sha256}
    {result : RemoteHostWaveResult Sha256} (hversion : result.schemaVersion = 1)
    (hhost : result.hostId = request.request.binding.hostId)
    (hreason : result.reasonCode = outcomeReason result.transportOutcome)
    (hassigned : result.assignmentSha256 = request.request.binding.assignmentSha256)
    (hcompleted : result.completedAssignmentSha256 = sortedSet result.completedAssignmentSha256)
    (hfailed : result.failedAssignmentSha256 = sortedSet result.failedAssignmentSha256)
    (hdisjoint : ∀ a ∈ result.completedAssignmentSha256, a ∉ result.failedAssignmentSha256)
    (hinside : ∀ a ∈ result.completedAssignmentSha256 ++ result.failedAssignmentSha256,
      a ∈ request.request.binding.assignmentSha256)
    (hreconciled : result.transportOutcome.reconciled = false)
    (hevidence : result.reconciliationEvidenceSha256 = none ∧
      result.reconcilesUnknownResultSha256 = none)
    (houtcome : result.outcomeCheck emptySha256 = .ok ()) :
    result.postInit emptySha256 = .ok () := by
  rcases assignments_of_request request with ⟨hne, hsorted⟩
  rw [← hassigned] at hne hsorted hinside
  have hid : isSafeId result.hostId = true := hhost ▸ request.safeHostId
  unfold RemoteHostWaveResult.postInit requireId
  simp only [bind_eq_ok, require_eq_ok, hreconciled]
  exact ⟨(), hversion, (), hid, (), hreason, (), hsorted, (), hcompleted, (), hfailed, (),
    hdisjoint, (), hne, (), hinside, (), hevidence, houtcome⟩

theorem unknownResult_returns (sha : FleetSha Sha256) (request : CanonicalWaveRequest Sha256)
    (process : SshProcessResult Sha256) :
    ∃ result, unknownResult sha request.request process = .ok result ∧
      result.transportOutcome = .remoteOutcomeUnknown := by
  refine ⟨_, validated_eq_ok.mpr ⟨?_, rfl⟩, rfl⟩
  refine postInit_of_request request rfl rfl rfl rfl rfl rfl nofun nofun rfl ⟨rfl, rfl⟩ ?_
  exact require_of ⟨rfl, rfl, rfl, rfl, rfl⟩ _

/-- A response that stands for an outcome gives a result with the outcome. -/
theorem acceptedResult_returns (request : CanonicalWaveRequest Sha256)
    (hcode : process.exitCode ≠ 255) (hline : process.stdoutOneNewline = true)
    (h : decodeResponse sha request.request process = .ok (r, outcome)) :
    ∃ result, decodeRemoteResponse sha request.request process = .ok result ∧
      result.transportOutcome = outcome := by
  rcases decodeResponse_eq_ok.mp h with ⟨-, hvalid, -, -, -, hanswers⟩
  rcases assignments_of_postInit hvalid with ⟨hcompleted, hfailed, hdisjoint⟩
  have hclaims := claims_of_postInit hvalid
  have hline' : ¬ (!process.stdoutOneNewline) = true := by
    rw [hline]
    decide
  unfold decodeRemoteResponse
  rw [if_neg hcode, if_neg hline', h]
  refine ⟨_, validated_eq_ok.mpr ⟨?_, rfl⟩, rfl⟩
  cases outcome with
  | remoteSucceeded =>
    rcases hanswers with ⟨hstatus, hexit, hassigned⟩
    rcases hclaims.1 hstatus with ⟨hnone, hreceipt⟩
    refine postInit_of_request request rfl rfl rfl rfl hcompleted hfailed hdisjoint
      (fun a ha => ?_) rfl ⟨rfl, rfl⟩ ?_
    · rw [hnone, append_nil, hassigned] at ha
      exact ha
    · exact require_of ⟨congrArg some hexit, rfl, hreceipt, hassigned, hnone⟩ _
  | remoteBlocked =>
    rcases hanswers with ⟨hstatus, hexit⟩
    rcases hclaims.2.1 hstatus with ⟨hnone, hnone', hreceipt, henvelope⟩
    refine postInit_of_request request rfl rfl rfl rfl hcompleted hfailed hdisjoint
      (fun a ha => ?_) rfl ⟨rfl, rfl⟩ ?_
    · rw [hnone, hnone'] at ha
      cases ha
    · exact bind_eq_ok.mpr ⟨(), require_of ⟨congrArg some hexit, nofun⟩ _,
        require_of ⟨hreceipt, henvelope, hnone, hnone'⟩ _⟩
  -- a failed wave accounts for every assignment of the request
  | remoteFailed =>
    rcases hanswers with ⟨hstatus, hexit, hcovers⟩
    have hinside : ∀ a ∈ r.completedAssignmentSha256 ++ r.failedAssignmentSha256,
        a ∈ request.request.binding.assignmentSha256 :=
      fun a ha => (hcovers a).mp (mem_append.mp ha)
    have hall : ∀ a ∈ request.request.binding.assignmentSha256,
        a ∈ r.completedAssignmentSha256 ++ r.failedAssignmentSha256 :=
      fun a ha => mem_append.mpr ((hcovers a).mpr ha)
    refine postInit_of_request request rfl rfl rfl rfl hcompleted hfailed hdisjoint hinside rfl
      ⟨rfl, rfl⟩ ?_
    exact bind_eq_ok.mpr ⟨(), require_of ⟨congrArg some hexit, nofun⟩ _,
      require_of ⟨hclaims.2.2 hstatus, hinside, hall⟩ _⟩
  | reconciledSucceeded | reconciledFailed | remoteOutcomeUnknown | sshFailed =>
    exact hanswers.elim

/-! ## Classifying the bytes of a process -/

/-- What a response writes ends in one newline. -/
theorem endsInOneNewline_canonicalStdout (hvalid : r.postInit = .ok ()) :
    endsInOneNewline (r.canonicalStdout runtime) = true ∧ (r.canonicalStdout runtime).dropLast
        = asciiBytes (Json.encode runtime.floatRepr (.obj r.toDict)) := by
  unfold RemoteHostWaveResponse.canonicalStdout endsInOneNewline
  rw [dropLast_concat, getLast?_concat]
  refine ⟨?_, rfl⟩
  have hlast : (asciiBytes (Json.encode runtime.floatRepr (.obj r.toDict))).getLast? ≠ some 10 := by
    intro hnewline
    have hmem := mem_of_getLast? hnewline
    rw [← encode_sortedDict] at hmem
    rcases mem_map.mp hmem with ⟨c, hc, hten⟩
    have hprintable := Json.isPrintable_encode (plain_sortedDict hvalid) c hc
    have hvalue := congrArg UInt8.toNat hten
    rw [UInt8.toNat_ofNat'] at hvalue
    have hten' : (10 : UInt8).toNat = 10 := rfl
    omega
  simpa using hlast

theorem stdout_of_endsInOneNewline (h : endsInOneNewline stdout = true) :
    stdout = stdout.dropLast ++ [10] := by
  unfold endsInOneNewline at h
  rw [Bool.and_eq_true, beq_iff_eq] at h
  exact (dropLast_append_getLast? 10 h.1).symm

/-! ### The branches of the classification -/

section

variable {process : SshProcessResult Sha256}

theorem decodeRemoteResponse_sshFailed (h : process.exitCode = 255) :
    decodeRemoteResponse sha request process = unknownResult sha request process :=
  if_pos h

theorem decodeRemoteResponse_lines (hcode : process.exitCode ≠ 255)
    (hline : process.stdoutOneNewline = false) :
    decodeRemoteResponse sha request process = unknownResult sha request process := by
  unfold decodeRemoteResponse
  rw [if_neg hcode, hline]
  rfl

/-- An exception of the checks. -/
theorem decodeRemoteResponse_error (hcode : process.exitCode ≠ 255)
    (hline : process.stdoutOneNewline = true) {e : Error}
    (h : decodeResponse sha request process = .error e) : decodeRemoteResponse sha request process
      = if Caught e then unknownResult sha request process else .error e := by
  have hkind : Caught e ↔ e.kind = .typeError ∨ e.kind = .valueError := by
    simp [Caught, Error.isTypeOrValueError]
  unfold decodeRemoteResponse
  rw [if_neg hcode, hline, h]
  simp only [hkind, Bool.not_true, Bool.false_eq_true, if_false]

end

/-- A response that is read and accepted is what the standard output renders, and the other way
around when its JSON does not nest too deep. -/
theorem decodeResponse_iff_renders (sha : FleetSha Sha256) (shaBytes : List UInt8 → Sha256)
    (request : RemoteHostWaveRequest Sha256) (exitCode : ℤ) (stderr : List UInt8)
    (outcome : RemoteTransportOutcome) (r : RemoteHostWaveResponse Sha256)
    (hline : endsInOneNewline stdout = true) (hnest : ¬ NestsTooDeep runtime stdout.dropLast) :
    decodeResponse sha request (processOf runtime shaBytes exitCode stdout stderr)
        = .ok (r, outcome) ↔ Renders runtime sha request exitCode stdout outcome r := by
  rw [decodeResponse_eq_ok]
  constructor
  · rintro ⟨hresponse, hvalid, hhost, hrequest, hbinding, hanswers⟩
    refine ⟨hvalid, ?_, hhost, hrequest, hbinding, hanswers⟩
    have hbody : stdout.dropLast = _ := body_of_readResponse hresponse hvalid
    unfold RemoteHostWaveResponse.canonicalStdout
    rw [← hbody]
    exact stdout_of_endsInOneNewline hline
  · intro h
    refine ⟨?_, h.valid, h.hostId, h.requestSha256, h.bindingSha256, h.answers⟩
    show readResponse runtime stdout.dropLast = .ok r
    have hbody : stdout.dropLast = _ :=
      h.canonical ▸ (endsInOneNewline_canonicalStdout h.valid).2
    rw [← readResponse_eq_recursionError_iff] at hnest
    rw [hbody] at hnest ⊢
    exact (readResponse_of_body runtime h.valid).resolve_left hnest

/-- An UNKNOWN result is right where no response is rendered. -/
theorem classified_of_unknown (request : CanonicalWaveRequest Sha256)
    {returned : Except Error (RemoteHostWaveResult Sha256)}
    (hreturned : returned = unknownResult sha request.request process)
    (hnone : ∀ outcome r, ¬ Renders runtime sha request.request exitCode stdout outcome r) :
    Classified runtime sha request.request exitCode stdout returned := by
  rcases unknownResult_returns sha request process with ⟨result, hresult, hunknown⟩
  refine ⟨result, hreturned.trans hresult, fun outcome houtcome => ?_, ?_⟩
  · rw [hunknown]
    constructor
    · exact fun h => absurd h.symm houtcome
    · rintro ⟨r, hr⟩
      exact absurd hr (hnone outcome r)
  · refine iff_of_true hunknown ?_
    rintro ⟨outcome, r, hr⟩
    exact hnone outcome r hr

/-- No outcome is reported with the exit code of a failed SSH. -/
theorem Answers.ne_255 (h : Answers request exitCode r outcome) : exitCode ≠ 255 := by
  rintro rfl
  cases outcome with
  | remoteSucceeded => cases h.2.1
  | remoteBlocked => cases h.2
  | remoteFailed => cases h.2.1
  | reconciledSucceeded | reconciledFailed | remoteOutcomeUnknown | sshFailed => exact h

theorem Answers.ne_unknown (h : Answers request exitCode r outcome) :
    outcome ≠ .remoteOutcomeUnknown := by
  rintro rfl
  exact h

/-- The `RecursionError` passes the `except` clause. -/
theorem decodeRemoteBytes_raises (sha : FleetSha Sha256) (shaBytes : List UInt8 → Sha256)
    (request : RemoteHostWaveRequest Sha256) (stderr : List UInt8) (hcode : exitCode ≠ 255)
    (hline : endsInOneNewline stdout = true) (hnest : NestsTooDeep runtime stdout.dropLast) :
    decodeRemoteBytes runtime sha shaBytes request exitCode stdout stderr
      = .error Json.recursionError := by
  have hdecode : decodeResponse sha request
      (processOf runtime shaBytes exitCode stdout stderr) = .error Json.recursionError := by
    unfold decodeResponse processOf
    dsimp only
    rw [readResponse_eq_recursionError_iff.mpr hnest]
    rfl
  unfold decodeRemoteBytes
  rw [decodeRemoteResponse_error hcode hline hdecode, if_neg Json.not_caught_recursionError]

/-- Classifying is total and exact exactly when the process did not print one line whose JSON nests
too deep. -/
theorem decodeRemoteBytes_classified_iff (runtime : JsonRuntime) (sha : FleetSha Sha256)
    (shaBytes : List UInt8 → Sha256) (request : CanonicalWaveRequest Sha256) (exitCode : ℤ)
    (stdout stderr : List UInt8) :
    Classified runtime sha request.request exitCode stdout
        (decodeRemoteBytes runtime sha shaBytes request.request exitCode stdout stderr) ↔
      (exitCode ≠ 255 → endsInOneNewline stdout = true →
        ¬ NestsTooDeep runtime stdout.dropLast) := by
  constructor
  · rintro ⟨result, hresult, -⟩ hcode hline hnest
    rw [decodeRemoteBytes_raises sha shaBytes request.request stderr hcode hline hnest] at hresult
    cases hresult
  · intro hnest
    unfold decodeRemoteBytes
    by_cases hcode : exitCode = 255
    · -- the exit code of ssh itself
      refine classified_of_unknown request (decodeRemoteResponse_sshFailed hcode) ?_
      exact fun outcome r hr => hr.answers.ne_255 hcode
    cases hline : endsInOneNewline stdout with
    | false =>
        -- more or less than one line is no canonical answer
        refine classified_of_unknown request (decodeRemoteResponse_lines hcode hline) ?_
        intro outcome r hr
        rw [hr.canonical, (endsInOneNewline_canonicalStdout hr.valid).1] at hline
        cases hline
    | true =>
        have hnest := hnest hcode hline
        have hiff := fun outcome r => decodeResponse_iff_renders sha shaBytes request.request
          exitCode stderr outcome r hline hnest
        cases hdecode : decodeResponse sha request.request
            (processOf runtime shaBytes exitCode stdout stderr) with
        | ok answer =>
            rcases answer with ⟨r, outcome⟩
            have hr := (hiff outcome r).mp hdecode
            rcases acceptedResult_returns request hcode hline hdecode with
              ⟨result, hresult, houtcome⟩
            refine ⟨result, hresult, fun outcome' _ => ?_, ?_⟩
            · rw [houtcome]
              constructor
              · rintro rfl
                exact ⟨r, hr⟩
              · rintro ⟨r', hr'⟩
                have hsame := (hiff outcome' r').mpr hr'
                rw [hdecode] at hsame
                cases hsame
                rfl
            · refine iff_of_false ?_ (not_not_intro ⟨outcome, r, hr⟩)
              rw [houtcome]
              exact hr.answers.ne_unknown
        | error e =>
            -- every other error of the decoding is caught
            have hcaught : Caught e := decodeResponse_raises (readResponse_caught hnest) e hdecode
            have hresult := decodeRemoteResponse_error hcode hline hdecode
            rw [if_pos hcaught] at hresult
            refine classified_of_unknown request hresult fun outcome r hr => ?_
            rw [(hiff outcome r).mpr hr] at hdecode
            cases hdecode

/-! ### A line of brackets -/

/-- So many brackets that the decoder cannot open the last one. -/
def bracketLine (runtime : JsonRuntime) : List UInt8 :=
  asciiBytes (List.replicate (runtime.decodeLimit + 1) '['.toNat) ++ [10]

theorem length_bracketLine (runtime : JsonRuntime) :
    (bracketLine runtime).length = runtime.decodeLimit + 2 := by
  simp [bracketLine, asciiBytes]

/-- Such a line is never classified. -/
theorem bracketLine_nests (runtime : JsonRuntime) : endsInOneNewline (bracketLine runtime) = true ∧
      NestsTooDeep runtime (bracketLine runtime).dropLast := by
  have hbracket : asciiBytes (List.replicate (runtime.decodeLimit + 1) '['.toNat)
      = List.replicate (runtime.decodeLimit + 1) 91 := by
    unfold asciiBytes
    rw [map_replicate]
    rfl
  have hprintable : IsPrintable (List.replicate (runtime.decodeLimit + 1) '['.toNat) := by
    intro c hc
    rw [eq_of_mem_replicate hc]
    decide
  unfold bracketLine endsInOneNewline
  rw [dropLast_concat, getLast?_concat]
  constructor
  · rw [hbracket, getLast?_replicate]
    simp
  · have hloads := Json.loads_brackets runtime.decodeLimit []
    rw [append_nil, Json.loads_eq_recursionError_iff, Json.run_eq_recursionError_iff] at hloads
    rcases hloads with ⟨before, c, rest, st, htext, hrun, hopens⟩
    rw [htext] at hprintable ⊢
    exact .decoding (decodeText_asciiBytes hprintable) hrun hopens

def equalDigits (c : Char) (h : isSha256 (String.ofList (List.replicate 64 c)) = true) : Sha256 :=
  ⟨_, h⟩

def zeroSha : Sha256 := equalDigits '0' (by decide +kernel)

/-- One assignment on one host. -/
def singleRequest : CanonicalWaveRequest Sha256 where
  request := {
    schemaVersion := 1
    challengeNonceSha256 := zeroSha
    sshRouteAuthoritySha256 := zeroSha
    binding := {
      schemaVersion := 1
      hostId := "h1"
      fleetInventorySha256 := zeroSha
      hostInventorySha256 := zeroSha
      fleetDispatchPlanSha256 := zeroSha
      hostDispatchPlanSha256 := zeroSha
      fleetWaveIndex := 0
      fleetWaveSha256 := zeroSha
      hostWaveIndex := 0
      hostWaveSha256 := zeroSha
      executionBundleManifestPath := "/bundle"
      executionBundleManifestSha256 := zeroSha
      receiptOutputPath := "/receipt"
      resumeReceiptPath := none
      resumeReceiptSha256 := none
      resumeReceiptEnvelopeSha256 := none
      assignments := [{
        assignmentSha256 := zeroSha
        gpuHostBindings := [("gpu0", "h1")]
        ports := [5000]
        cacheNamespace := "cache"
        evidenceNamespace := "evidence" }] }
    priorFleetWaveReceiptSha256 := none }
  valid := by decide +kernel

/-- A runtime whose decoder and encoder can nest 10000 containers. -/
def deepRuntime : JsonRuntime where
  decodeLimit := 10000
  encodeLimit := 10000
  floatRepr := some

/-- All digests are the same; only the nesting of the response matters. -/
def constantSha : FleetSha Sha256 where
  binding _ := zeroSha
  request _ := zeroSha
  result _ := zeroSha
  receipt _ := zeroSha
  reason _ := zeroSha
  empty := zeroSha

/-- A host that exits with 0 and prints 10001 brackets and a newline, which is within the limit of
64 KiB: no result is returned. -/
theorem brackets_escape :
    (bracketLine deepRuntime).length ≤ 64 * 1024 ∧
      ¬ Classified deepRuntime constantSha singleRequest.request 0 (bracketLine deepRuntime)
        (decodeRemoteBytes deepRuntime constantSha (fun _ => zeroSha) singleRequest.request 0
          (bracketLine deepRuntime) []) := by
  refine ⟨?_, ?_⟩
  · rw [length_bracketLine]
    decide
  · rintro ⟨result, hresult, -⟩
    rcases bracketLine_nests deepRuntime with ⟨hline, hnest⟩
    rw [decodeRemoteBytes_raises _ _ _ _ (by decide) hline hnest] at hresult
    cases hresult

end Fleet

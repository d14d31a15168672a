import LightConeSpec.Lib.Rows
import LightConeSpec.Fleet.Wave

/-!
# What one call does to the receipt

For each function of the wave one lemma that says all that a successful call
implies: what an attempt records, which requests a retry accepts, and which
results the next receipt holds. The chain of calls is reasoned about with these
only.
-/

namespace Fleet

open Python List

variable {D : Type} [LinearOrder D] {sha : FleetSha D} {call : FleetWaveCall D}
  {request : RemoteHostWaveRequest D} {result : RemoteHostWaveResult D}
  {prior receipt : RemoteFleetWaveReceipt D}

/-! ## What a host is asked to run -/

/-- The part of a request that no retry may change. -/
structure HostIdentity (D : Type) where
  hostId : String
  fleetInventorySha256 : D
  hostInventorySha256 : D
  fleetDispatchPlanSha256 : D
  hostDispatchPlanSha256 : D
  fleetWaveIndex : ℕ
  fleetWaveSha256 : D
  hostWaveIndex : ℕ
  hostWaveSha256 : D
  executionBundleManifestSha256 : D
  assignmentSha256 : List D
  sshRouteAuthoritySha256 : D

def RemoteHostWaveRequest.identity (r : RemoteHostWaveRequest D) : HostIdentity D where
  hostId := r.binding.hostId
  fleetInventorySha256 := r.binding.fleetInventorySha256
  hostInventorySha256 := r.binding.hostInventorySha256
  fleetDispatchPlanSha256 := r.binding.fleetDispatchPlanSha256
  hostDispatchPlanSha256 := r.binding.hostDispatchPlanSha256
  fleetWaveIndex := r.binding.fleetWaveIndex
  fleetWaveSha256 := r.binding.fleetWaveSha256
  hostWaveIndex := r.binding.hostWaveIndex
  hostWaveSha256 := r.binding.hostWaveSha256
  executionBundleManifestSha256 := r.binding.executionBundleManifestSha256
  assignmentSha256 := r.binding.assignmentSha256
  sshRouteAuthoritySha256 := r.sshRouteAuthoritySha256

def RemoteHostWaveResult.identity (r : RemoteHostWaveResult D) : HostIdentity D where
  hostId := r.hostId
  fleetInventorySha256 := r.fleetInventorySha256
  hostInventorySha256 := r.hostInventorySha256
  fleetDispatchPlanSha256 := r.fleetDispatchPlanSha256
  hostDispatchPlanSha256 := r.hostDispatchPlanSha256
  fleetWaveIndex := r.fleetWaveIndex
  fleetWaveSha256 := r.fleetWaveSha256
  hostWaveIndex := r.hostWaveIndex
  hostWaveSha256 := r.hostWaveSha256
  executionBundleManifestSha256 := r.executionBundleManifestSha256
  assignmentSha256 := r.assignmentSha256
  sshRouteAuthoritySha256 := r.sshRouteAuthoritySha256

def RemoteFleetWaveReceipt.identities (r : RemoteFleetWaveReceipt D) : List (HostIdentity D) :=
  r.hostResults.map (·.identity)

/-! ## One attempt -/

/-- What an attempt that returned recorded: a checked result of its request, no
reconciliation, and SSH_FAILED only when the transport was not invoked. -/
structure Records (sha : FleetSha D) (request : RemoteHostWaveRequest D) (dispatched : Bool)
    (result : RemoteHostWaveResult D) : Prop where
  valid : result.postInit sha.empty = .ok ()
  identity : result.identity = request.identity
  request : result.requestSha256 = sha.request request
  unreconciled : result.transportOutcome.reconciled = false
  undispatched : result.transportOutcome = .sshFailed → dispatched = false

variable {outcome : RemoteTransportOutcome} {dispatched : Bool}

theorem emptyResult_records {exitCode : Option ℤ} {stdout stderr : Stream D}
    (h : emptyResult sha request outcome exitCode stdout stderr = .ok result)
    (hunreconciled : outcome.reconciled = false)
    (hdispatched : outcome = .sshFailed → dispatched = false) :
    Records sha request dispatched result := by
  obtain ⟨hvalid, rfl⟩ := validated_eq_ok.mp h
  exact ⟨hvalid, rfl, rfl, hunreconciled, hdispatched⟩

/-- A response stands for one of the three outcomes a host reports. -/
theorem decodeResponse_outcome {process : SshProcessResult D} {response : RemoteHostWaveResponse D}
    (h : decodeResponse sha request process = .ok (response, outcome)) :
    outcome = .remoteSucceeded ∨ outcome = .remoteBlocked ∨ outcome = .remoteFailed := by
  simp only [decodeResponse, bind_eq_ok, check_eq_ok, pure_eq_ok, Prod.mk.injEq] at h
  obtain ⟨decoded, -, -, -, -, outcome', hstatus, -, -, -, rfl⟩ := h
  unfold responseOutcome at hstatus
  split at hstatus <;> split at hstatus <;> cases hstatus <;> simp

theorem decodeRemoteResponse_records {process : SshProcessResult D}
    (h : decodeRemoteResponse sha request process = .ok result) :
    Records sha request true result := by
  have hunknown : ∀ {process}, unknownResult sha request process = .ok result →
      Records sha request true result := fun h => emptyResult_records h rfl nofun
  unfold decodeRemoteResponse at h
  split at h
  · exact hunknown h
  split at h
  · exact hunknown h
  split at h
  · split at h
    · exact hunknown h
    · cases h
  · rename_i response outcome hdecode
    obtain ⟨hvalid, rfl⟩ := validated_eq_ok.mp h
    rcases decodeResponse_outcome hdecode with rfl | rfl | rfl
    · exact ⟨hvalid, rfl, rfl, rfl, nofun⟩
    · exact ⟨hvalid, rfl, rfl, rfl, nofun⟩
    · exact ⟨hvalid, rfl, rfl, rfl, nofun⟩

theorem silentResult_records (h : silentResult sha request outcome = .ok result)
    (hunreconciled : outcome.reconciled = false)
    (hdispatched : outcome = .sshFailed → dispatched = false) :
    Records sha request dispatched result :=
  emptyResult_records h hunreconciled hdispatched

theorem caughtAttempt_records {e : Error}
    (h : (caughtAttempt sha request dispatched e).result = .ok result) :
    Records sha request dispatched result := by
  unfold caughtAttempt at h
  dsimp only at h
  split at h
  · cases dispatched with
    | false => exact silentResult_records h rfl fun _ => rfl
    | true => exact silentResult_records h rfl nofun
  · cases h

/-- What `execute_remote_host_wave` records. -/
theorem executeRemoteHostWave_records {limits : TransportLimits} {routeHostId : String}
    {attempt : HostAttempt D}
    (h : (executeRemoteHostWave sha limits routeHostId request attempt).result = .ok result) :
    Records sha request (executeRemoteHostWave sha limits routeHostId request attempt).dispatched
      result := by
  generalize hrun : executeRemoteHostWave sha limits routeHostId request attempt = run at h ⊢
  unfold executeRemoteHostWave at hrun
  dsimp only at hrun
  split at hrun
  · subst hrun
    cases h
  split at hrun
  · -- the request has no canonical form
    split at hrun
    · subst hrun
      exact silentResult_records h rfl fun _ => rfl
    · subst hrun
      cases h
  split at hrun
  · subst hrun
    exact caughtAttempt_records h
  split at hrun
  · -- the route has another authority: nothing is sent
    split at hrun
    · subst hrun
      exact caughtAttempt_records h
    · rename_i kept hleave
      subst hrun
      unfold leaveRoute at hleave
      split at hleave
      · cases hleave
      · obtain rfl := Except.ok.inj h
        exact silentResult_records hleave rfl fun _ => rfl
  -- the transport is invoked
  split at hrun
  · subst hrun
    exact caughtAttempt_records h
  · subst hrun
    exact silentResult_records h rfl nofun
  · split at hrun
    · subst hrun
      exact emptyResult_records h rfl nofun
    · subst hrun
      exact decodeRemoteResponse_records h

/-! ## The results of the next receipt -/

omit [LinearOrder D] in
theorem get?_byHost {results : List (RemoteHostWaveResult D)}
    (hnd : (results.map (·.hostId)).Nodup) {host : String} :
    (byHost results).get? host = some result ↔ result ∈ results ∧ result.hostId = host := by
  unfold byHost
  rw [Dict.get?_foldl_set_eq_some hnd]
  simp [Dict.empty, Dict.get?]

omit [LinearOrder D] in
/-- The results of the run hosts, and those of the hosts that were not run. -/
theorem mem_merged {retained results : List (RemoteHostWaveResult D)}
    (hretained : (retained.map (·.hostId)).Nodup) (hresults : (results.map (·.hostId)).Nodup) :
    result ∈ inHostOrder (updateByHost (byHost retained) results) ↔
      result ∈ results ∨ (result ∈ retained ∧ result.hostId ∉ results.map (·.hostId)) := by
  unfold inHostOrder updateByHost
  rw [mem_sortedBy, Dict.mem_values_iff]
  simp only [Dict.get?_foldl_set_eq_some hresults, get?_byHost hretained]
  constructor
  · rintro ⟨host, ⟨hmem, -⟩ | ⟨hfree, hmem, rfl⟩⟩
    · exact .inl hmem
    · exact .inr ⟨hmem, hfree⟩
  · rintro (hmem | ⟨hmem, hfree⟩)
    · exact ⟨_, .inl ⟨hmem, rfl⟩⟩
    · exact ⟨_, .inr ⟨hfree, hmem, rfl⟩⟩

/-- What the constructor of a receipt checks. -/
structure Aggregates (receipt : RemoteFleetWaveReceipt D) : Prop where
  sorted : receipt.hostIds = sortedSet receipt.hostIds
  fleet : ∀ result ∈ receipt.hostResults,
    result.fleetInventorySha256 = receipt.fleetInventorySha256 ∧
      result.fleetDispatchPlanSha256 = receipt.fleetDispatchPlanSha256 ∧
      result.fleetWaveIndex = receipt.fleetWaveIndex ∧
      result.fleetWaveSha256 = receipt.fleetWaveSha256

theorem aggregates_of_postInit (h : receipt.postInit = .ok ()) : Aggregates receipt := by
  simp only [RemoteFleetWaveReceipt.postInit, bind_eq_ok, check_eq_ok] at h
  obtain ⟨-, -, hsorted, hfleet, -⟩ := h
  exact ⟨hsorted, hfleet⟩

omit [LinearOrder D] in
theorem Aggregates.nodup (h : Aggregates receipt) : (receipt.hostResults.map (·.hostId)).Nodup := by
  have hnd := nodup_sortedSet receipt.hostIds
  rw [← h.sorted] at hnd
  exact hnd

omit [LinearOrder D] in
/-- A host has one result. -/
theorem Aggregates.unique (h : Aggregates receipt) {a b : RemoteHostWaveResult D}
    (ha : a ∈ receipt.hostResults) (hb : b ∈ receipt.hostResults) (hab : a.hostId = b.hostId) :
    a = b :=
  inj_on_of_nodup_map h.nodup ha hb hab

theorem replayReceipt_eq_ok {u : Unit} (h : replayReceipt sha receipt = .ok u) :
    Aggregates receipt ∧ ∀ r ∈ receipt.hostResults, r.postInit sha.empty = .ok () := by
  simp only [replayReceipt, bind_eq_ok, forEach_eq_ok, exists_const] at h
  exact ⟨aggregates_of_postInit h.2, h.1⟩

/-! ## Which requests are accepted -/

/-- What a retry of a host binds of the previous receipt and of the host's result
in it. -/
structure Retries (sha : FleetSha D) (prior : RemoteFleetWaveReceipt D)
    (previous : RemoteHostWaveResult D) (request : RemoteHostWaveRequest D) : Prop where
  mem : previous ∈ prior.hostResults
  unsuccessful : previous.succeeded = false
  known : previous.outcomeUnknown = false
  retryable : previous.retryable = true
  link : request.priorFleetWaveReceiptSha256 = some (sha.receipt prior)
  identity : request.identity = previous.identity
  path : request.binding.resumeReceiptPath.isSome = previous.dispatchScheduleReceiptSha256.isSome
  content : request.binding.resumeReceiptSha256 = previous.dispatchScheduleReceiptSha256
  envelope : request.binding.resumeReceiptEnvelopeSha256 =
    previous.dispatchScheduleReceiptEnvelopeSha256
  fresh : sha.request request ≠ previous.requestSha256

omit [LinearOrder D] in
theorem Retries.hostId {previous : RemoteHostWaveResult D}
    (h : Retries sha prior previous request) : previous.hostId = request.binding.hostId :=
  (congrArg HostIdentity.hostId h.identity).symm

/-- What the checks of `execute_fleet_wave` establish. -/
structure Accepts (sha : FleetSha D) (prior : Option (RemoteFleetWaveReceipt D))
    (authority : RemoteHostExecutionBinding D) (ordered : List (RemoteHostWaveRequest D)) :
    Prop where
  nonempty : ordered ≠ []
  distinct : (ordered.map (·.binding.hostId)).Nodup
  fleet : ∀ request ∈ ordered,
    request.binding.fleetInventorySha256 = authority.fleetInventorySha256 ∧
      request.binding.fleetDispatchPlanSha256 = authority.fleetDispatchPlanSha256 ∧
      request.binding.fleetWaveIndex = authority.fleetWaveIndex ∧
      request.binding.fleetWaveSha256 = authority.fleetWaveSha256
  initial : prior = none → ∀ request ∈ ordered,
    request.priorFleetWaveReceiptSha256 = none ∧ request.binding.resumeReceiptPath = none
  replayed : ∀ receipt, prior = some receipt → replayReceipt sha receipt = .ok () ∧
    receipt.fleetInventorySha256 = authority.fleetInventorySha256 ∧
      receipt.fleetDispatchPlanSha256 = authority.fleetDispatchPlanSha256 ∧
      receipt.fleetWaveIndex = authority.fleetWaveIndex ∧
      receipt.fleetWaveSha256 = authority.fleetWaveSha256
  retries : ∀ receipt, prior = some receipt → ∀ request ∈ ordered,
    ∃ previous, Retries sha receipt previous request

theorem checkRetry_eq_ok {priorSha256 : D} {priorByHost : Dict String (RemoteHostWaveResult D)}
    (h : checkRetry sha priorSha256 priorByHost request = .ok ()) :
    ∃ previous, priorByHost.get? request.binding.hostId = some previous ∧
      previous.succeeded = false ∧ previous.outcomeUnknown = false ∧ previous.retryable = true ∧
      request.priorFleetWaveReceiptSha256 = some priorSha256 ∧
      (request.binding.hostInventorySha256 = previous.hostInventorySha256 ∧
        request.binding.hostDispatchPlanSha256 = previous.hostDispatchPlanSha256 ∧
        request.binding.hostWaveIndex = previous.hostWaveIndex ∧
        request.binding.hostWaveSha256 = previous.hostWaveSha256 ∧
        request.binding.executionBundleManifestSha256 = previous.executionBundleManifestSha256 ∧
        request.binding.assignmentSha256 = previous.assignmentSha256 ∧
        request.sshRouteAuthoritySha256 = previous.sshRouteAuthoritySha256) ∧
      previous.dispatchScheduleReceiptSha256.isSome = request.binding.resumeReceiptPath.isSome ∧
      request.binding.resumeReceiptSha256 = previous.dispatchScheduleReceiptSha256 ∧
      request.binding.resumeReceiptEnvelopeSha256 = previous.dispatchScheduleReceiptEnvelopeSha256 ∧
      sha.request request ≠ previous.requestSha256 := by
  unfold checkRetry at h
  dsimp only at h
  split at h
  · cases h
  · rename_i previous hget
    simp only [bind_eq_ok, require_eq_ok, exists_const] at h
    exact ⟨previous, hget, h⟩

/-- What a fleet wave has been checked for when its hosts start. -/
theorem accepts_of_acceptFleetWave {authority : RemoteHostExecutionBinding D}
    {prior : Option (RemoteFleetWaveReceipt D)} {ordered : List (RemoteHostWaveRequest D)}
    (h : acceptFleetWave sha call prior = .ok (authority, ordered)) :
    Accepts sha prior authority ordered := by
  unfold acceptFleetWave at h
  simp only [bind_eq_ok, check_eq_ok] at h
  obtain ⟨-, -, ⟨-, hdistinct⟩, -, h⟩ := h
  split at h
  · cases h
  rename_i first rest hordered
  simp only [bind_eq_ok, check_eq_ok, pure_eq_ok, Prod.mk.injEq] at h
  obtain ⟨hfleet, -, ⟨⟩, hprior, rfl, rfl⟩ := h
  have hnd : ((first :: rest).map (·.binding.hostId)).Nodup := by
    rw [← hordered]
    exact ((sortedBy_perm _ _).map _).nodup_iff.mpr hdistinct
  cases prior with
  -- a first attempt carries no prior receipt
  | none =>
    refine ⟨cons_ne_nil _ _, hnd, hfleet, fun _ => ?_, ?_, ?_⟩
    · exact require_eq_ok.mp hprior
    · rintro _ ⟨⟩
    · rintro _ ⟨⟩
  | some prior =>
    simp only [checkPrior, bind_eq_ok, check_eq_ok, forEach_eq_ok] at hprior
    obtain ⟨⟨⟩, hreplay, hsame, -, hretry⟩ := hprior
    obtain ⟨haggregates, -⟩ := replayReceipt_eq_ok hreplay
    refine ⟨cons_ne_nil _ _, hnd, hfleet, ?_, ?_, ?_⟩
    · rintro ⟨⟩
    · rintro _ ⟨⟩
      exact ⟨hreplay, hsame⟩
    · rintro _ ⟨⟩ request hrequest
      -- a retry answers the previous result of its host
      obtain ⟨previous, hget, hsucc, hknown, hretryable, hlink, hid, hpath, hcontent, henv,
        hfresh⟩ := checkRetry_eq_ok (hretry request hrequest)
      obtain ⟨hmem, hhost⟩ := (get?_byHost haggregates.nodup).mp hget
      refine ⟨previous, hmem, hsucc, hknown, hretryable, hlink, ?_, hpath.symm, hcontent, henv,
        hfresh⟩
      obtain ⟨f1, f2, f3, f4⟩ := hfleet request hrequest
      obtain ⟨p1, p2, p3, p4⟩ := haggregates.fleet previous hmem
      obtain ⟨s1, s2, s3, s4⟩ := hsame
      obtain ⟨i1, i2, i3, i4, i5, i6, i7⟩ := hid
      simp only [RemoteHostWaveRequest.identity, RemoteHostWaveResult.identity, hhost, f1, f2,
        f3, f4, p1, p2, p3, p4, s1, s2, s3, s4, i1, i2, i3, i4, i5, i6, i7]

omit [LinearOrder D] in

/-! ## From one receipt to the next -/

/-- What a call may do to the result of one host. -/
inductive HostStep (sha : FleetSha D) (previous : RemoteHostWaveResult D) :
    RemoteHostWaveResult D → Prop
  | kept : HostStep sha previous previous
  | retried {result : RemoteHostWaveResult D} (hretryable : previous.retryable = true)
      (hunreconciled : result.transportOutcome.reconciled = false) : HostStep sha previous result
  | reconciled {result : RemoteHostWaveResult D} (hunknown : previous.outcomeUnknown = true)
      (hreconciled : result.transportOutcome.reconciled = true)
      (hbinds : result.reconcilesUnknownResultSha256 = some (sha.result previous)) :
      HostStep sha previous result

/-- The fields of a receipt that say which wave it is about. -/
def SameFleetWave (receipt prior : RemoteFleetWaveReceipt D) : Prop :=
  receipt.fleetInventorySha256 = prior.fleetInventorySha256 ∧
    receipt.fleetDispatchPlanSha256 = prior.fleetDispatchPlanSha256 ∧
    receipt.fleetWaveIndex = prior.fleetWaveIndex ∧
    receipt.fleetWaveSha256 = prior.fleetWaveSha256

/-- A receipt that a call makes of the previous one. -/
structure Follows (sha : FleetSha D) (prior receipt : RemoteFleetWaveReceipt D) : Prop where
  link : receipt.priorFleetWaveReceiptSha256 = some (sha.receipt prior)
  fleet : SameFleetWave receipt prior
  identities : receipt.identities = prior.identities
  steps : ∀ previous ∈ prior.hostResults, ∀ result ∈ receipt.hostResults,
    result.hostId = previous.hostId → HostStep sha previous result

omit [LinearOrder D] in
/-- Two receipts have the same identities when each result of either has its
identity in the other. -/
theorem identities_eq (hreceipt : Aggregates receipt) (hprior : Aggregates prior)
    (hforth : ∀ r ∈ receipt.hostResults, ∃ p ∈ prior.hostResults, r.identity = p.identity)
    (hback : ∀ p ∈ prior.hostResults, ∃ r ∈ receipt.hostResults, r.identity = p.identity) :
    receipt.identities = prior.identities := by
  have hkeys : receipt.hostIds = prior.hostIds := by
    rw [hreceipt.sorted, hprior.sorted]
    refine sortedSet_congr fun host => ?_
    unfold RemoteFleetWaveReceipt.hostIds
    simp only [mem_map]
    constructor
    · rintro ⟨r, hr, rfl⟩
      obtain ⟨p, hp, hid⟩ := hforth r hr
      exact ⟨p, hp, (congrArg HostIdentity.hostId hid).symm⟩
    · rintro ⟨p, hp, rfl⟩
      obtain ⟨r, hr, hid⟩ := hback p hp
      exact ⟨r, hr, congrArg HostIdentity.hostId hid⟩
  refine Rows.map_eq_map_of_key hkeys fun r hr p hp hhost => ?_
  obtain ⟨p', hp', hid⟩ := hforth r hr
  have hsame : p' = p := hprior.unique hp' hp
    ((congrArg HostIdentity.hostId hid).symm.trans hhost)
  rw [hid, hsame]

/-- What a returned receipt holds. -/
structure Returns (sha : FleetSha D) (call : FleetWaveCall D)
    (prior : Option (RemoteFleetWaveReceipt D)) (receipt : RemoteFleetWaveReceipt D)
    (ordered : List (RemoteHostWaveRequest D)) : Prop where
  aggregates : Aggregates receipt
  link : receipt.priorFleetWaveReceiptSha256 = prior.map sha.receipt
  /-- A result is that of a request or was there before. -/
  origin : ∀ result ∈ receipt.hostResults,
    (∃ request ∈ ordered, (runHost sha call request).result = .ok result ∧
      Records sha request (runHost sha call request).dispatched result) ∨
    ∃ previous, prior = some previous ∧ result ∈ previous.hostResults ∧
      ∀ request ∈ ordered, request.binding.hostId ≠ result.hostId
  /-- Each accepted request has its result. -/
  results : ∀ request ∈ ordered, ∃ result ∈ receipt.hostResults,
    Records sha request (runHost sha call request).dispatched result
  /-- The results of the hosts that were not run are kept. -/
  retained : ∀ previous, prior = some previous → ∀ result ∈ previous.hostResults,
    (∀ request ∈ ordered, request.binding.hostId ≠ result.hostId) → result ∈ receipt.hostResults

theorem runHost_records (h : (runHost sha call request).result = .ok result) :
    Records sha request (runHost sha call request).dispatched result :=
  executeRemoteHostWave_records h

theorem mergeFleetWave_returns {authority : RemoteHostExecutionBinding D}
    {prior : Option (RemoteFleetWaveReceipt D)} {ordered : List (RemoteHostWaveRequest D)}
    (haccepts : Accepts sha prior authority ordered)
    (h : mergeFleetWave sha authority prior (ordered.map (runHost sha call)) = .ok receipt) :
    Returns sha call prior receipt ordered ∧
      receipt.fleetInventorySha256 = authority.fleetInventorySha256 ∧
      receipt.fleetDispatchPlanSha256 = authority.fleetDispatchPlanSha256 ∧
      receipt.fleetWaveIndex = authority.fleetWaveIndex ∧
      receipt.fleetWaveSha256 = authority.fleetWaveSha256 := by
  simp only [mergeFleetWave, bind_eq_ok, validated_eq_ok, collect_eq_ok, map_map] at h
  obtain ⟨results, hcollect, hvalid, rfl⟩ := h
  refine ⟨?_, rfl, rfl, rfl, rfl⟩
  -- the results are those of the requests, in their order
  have hrun : ∀ r, r ∈ results ↔ ∃ request ∈ ordered, (runHost sha call request).result = .ok r := by
    intro r
    have hmem : r ∈ results ↔ Except.ok r ∈ results.map (Except.ok (ε := Error)) := by simp
    rw [hmem, ← hcollect]
    simp
  have hhosts : results.map (·.hostId) = ordered.map (·.binding.hostId) := by
    have hsame := @Rows.map_eq_map_of_key _ _ (fun r => Except.ok (ε := Error) r) results _ String
      (fun request => (runHost sha call request).result) ordered (·.hostId) (·.binding.hostId)
    refine hsame hcollect.symm ?_
    intro r _ request _ hr
    exact congrArg HostIdentity.hostId (runHost_records hr.symm).identity
  have hnd : (results.map (·.hostId)).Nodup := hhosts ▸ haccepts.distinct
  have hfree : ∀ {host : String}, host ∉ results.map (·.hostId) ↔
      ∀ request ∈ ordered, request.binding.hostId ≠ host := by
    intro host
    rw [hhosts]
    simp
  have hretained : (((prior.map (·.hostResults)).getD []).map (·.hostId)).Nodup := by
    cases prior with
    | none => exact nodup_nil
    | some prior => exact (replayReceipt_eq_ok (haccepts.replayed prior rfl).1).1.nodup
  have hmem : ∀ {r}, r ∈ inHostOrder
        (updateByHost (byHost ((prior.map (·.hostResults)).getD [])) results) ↔
      r ∈ results ∨ (∃ previous, prior = some previous ∧ r ∈ previous.hostResults) ∧
        ∀ request ∈ ordered, request.binding.hostId ≠ r.hostId := by
    intro r
    rw [mem_merged hretained hnd, hfree]
    cases prior <;> simp
  refine ⟨aggregates_of_postInit hvalid, rfl, ?_, ?_, ?_⟩
  · intro r hr
    rcases hmem.mp hr with hnew | ⟨⟨previous, hprior, hold⟩, hother⟩
    · obtain ⟨request, hrequest, hresult⟩ := (hrun r).mp hnew
      exact .inl ⟨request, hrequest, hresult, runHost_records hresult⟩
    · exact .inr ⟨previous, hprior, hold, hother⟩
  · intro request hrequest
    have hresult : (runHost sha call request).result ∈ results.map (Except.ok (ε := Error)) := by
      rw [← hcollect]
      exact mem_map.mpr ⟨request, hrequest, rfl⟩
    obtain ⟨r, hr, hresult⟩ := mem_map.mp hresult
    exact ⟨r, hmem.mpr (.inl hr), runHost_records hresult.symm⟩
  · intro previous hprior r hr hother
    exact hmem.mpr (.inr ⟨⟨previous, hprior, hr⟩, hother⟩)

/-- A call of `execute_fleet_wave` that returned: its accepted requests, and the
receipt. -/
theorem executeFleetWave_returns {prior : Option (RemoteFleetWaveReceipt D)}
    (h : executeFleetWave sha call prior = .ok receipt) :
    ∃ authority ordered, acceptFleetWave sha call prior = .ok (authority, ordered) ∧
      Returns sha call prior receipt ordered ∧
      ∀ previous, prior = some previous → Follows sha previous receipt := by
  unfold executeFleetWave at h
  obtain ⟨⟨authority, ordered⟩, haccept, hmerge⟩ := bind_eq_ok.mp h
  have haccepts := accepts_of_acceptFleetWave haccept
  obtain ⟨hreturns, hi, hp, hw, hs⟩ := mergeFleetWave_returns haccepts hmerge
  refine ⟨authority, ordered, haccept, hreturns, ?_⟩
  rintro previous rfl
  obtain ⟨hreplay, qi, qp, qw, qs⟩ := haccepts.replayed previous rfl
  obtain ⟨haggregates, -⟩ := replayReceipt_eq_ok hreplay
  refine ⟨hreturns.link, ⟨hi.trans qi.symm, hp.trans qp.symm, hw.trans qw.symm, hs.trans qs.symm⟩,
    ?_, ?_⟩
  · refine identities_eq hreturns.aggregates haggregates ?_ ?_
    · intro r hr
      rcases hreturns.origin r hr with ⟨request, hrequest, -, hrecords⟩ | ⟨_, ⟨⟩, hold, -⟩
      · obtain ⟨p, hretries⟩ := haccepts.retries previous rfl request hrequest
        exact ⟨p, hretries.mem, hrecords.identity.trans hretries.identity⟩
      · exact ⟨r, hold, rfl⟩
    · intro p hpmem
      by_cases hrun : ∃ request ∈ ordered, request.binding.hostId = p.hostId
      · obtain ⟨request, hrequest, hhost⟩ := hrun
        obtain ⟨q, hretries⟩ := haccepts.retries previous rfl request hrequest
        obtain ⟨r, hr, hrecords⟩ := hreturns.results request hrequest
        obtain rfl : q = p := haggregates.unique hretries.mem hpmem (hretries.hostId.trans hhost)
        exact ⟨r, hr, hrecords.identity.trans hretries.identity⟩
      · exact ⟨p, hreturns.retained previous rfl p hpmem fun request hrequest hhost =>
          hrun ⟨request, hrequest, hhost⟩, rfl⟩
  · intro p hpmem r hr hhost
    rcases hreturns.origin r hr with ⟨request, hrequest, -, hrecords⟩ | ⟨_, ⟨⟩, hold, -⟩
    · obtain ⟨q, hretries⟩ := haccepts.retries previous rfl request hrequest
      have hrq : r.hostId = q.hostId :=
        congrArg HostIdentity.hostId (hrecords.identity.trans hretries.identity)
      obtain rfl : q = p := haggregates.unique hretries.mem hpmem (hrq.symm.trans hhost)
      exact .retried hretries.retryable hrecords.unreconciled
    · obtain rfl : r = p := haggregates.unique hold hpmem hhost
      exact .kept

theorem checkReplacement_eq_ok {priorByHost : Dict String (RemoteHostWaveResult D)}
    (h : checkReplacement sha priorByHost result = .ok ()) :
    ∃ previous, priorByHost.get? result.hostId = some previous ∧
      previous.outcomeUnknown = true ∧ result.transportOutcome.reconciled = true ∧
      result.reconcilesUnknownResultSha256 = some (sha.result previous) ∧
      result.identity = previous.identity := by
  unfold checkReplacement at h
  split at h
  · cases h
  · rename_i previous hget
    simp only [bind_eq_ok, require_eq_ok, exists_const] at h
    obtain ⟨hunknown, hreconciled, hbinds, h1, h2, h3, h4, h5, h6, h7, h8, h9, h10, h11, -, -,
      h12⟩ := h
    refine ⟨previous, hget, hunknown, hreconciled, hbinds, ?_⟩
    simp only [RemoteHostWaveResult.identity, h1, h2, h3, h4, h5, h6, h7, h8, h9, h10, h11, h12]

/-- A call of `reconcile_fleet_wave_receipt` that returned. -/
theorem reconcileFleetWaveReceipt_returns {reconciled : List (RemoteHostWaveResult D)}
    (h : reconcileFleetWaveReceipt sha prior reconciled = .ok receipt) :
    Aggregates receipt ∧ Follows sha prior receipt ∧
      (∀ result ∈ receipt.hostResults, result ∈ prior.hostResults ∨
        result ∈ reconciled ∧ result.transportOutcome.reconciled = true) ∧
      ∀ result ∈ prior.hostResults, result.postInit sha.empty = .ok () := by
  simp only [reconcileFleetWaveReceipt, bind_eq_ok, require_eq_ok, exists_const, forEach_eq_ok,
    validated_eq_ok] at h
  obtain ⟨⟨⟩, hreplay, -, hnd, -, hchecks, hvalid, rfl⟩ := h
  obtain ⟨haggregates, hresults⟩ := replayReceipt_eq_ok hreplay
  have hreplaces : ∀ r ∈ reconciled, ∃ p ∈ prior.hostResults, p.outcomeUnknown = true ∧
      r.transportOutcome.reconciled = true ∧
      r.reconcilesUnknownResultSha256 = some (sha.result p) ∧ r.identity = p.identity := by
    intro r hr
    obtain ⟨p, hget, hp⟩ := checkReplacement_eq_ok (hchecks r hr)
    exact ⟨p, ((get?_byHost haggregates.nodup).mp hget).1, hp⟩
  have hmem : ∀ {r}, r ∈ inHostOrder (updateByHost (byHost prior.hostResults) reconciled) ↔
      r ∈ reconciled ∨ (r ∈ prior.hostResults ∧ r.hostId ∉ reconciled.map (·.hostId)) :=
    mem_merged haggregates.nodup hnd
  have hreceipt := aggregates_of_postInit hvalid
  refine ⟨hreceipt, ⟨rfl, ⟨rfl, rfl, rfl, rfl⟩, identities_eq hreceipt haggregates ?_ ?_, ?_⟩, ?_,
    hresults⟩
  · intro r hr
    rcases hmem.mp hr with hnew | ⟨hold, -⟩
    · obtain ⟨p, hp, -, -, -, hid⟩ := hreplaces r hnew
      exact ⟨p, hp, hid⟩
    · exact ⟨r, hold, rfl⟩
  · intro p hp
    by_cases hreplaced : p.hostId ∈ reconciled.map (·.hostId)
    · obtain ⟨r, hr, hhost⟩ := mem_map.mp hreplaced
      obtain ⟨q, hq, -, -, -, hid⟩ := hreplaces r hr
      obtain rfl : q = p := haggregates.unique hq hp
        ((congrArg HostIdentity.hostId hid).symm.trans hhost)
      exact ⟨r, hmem.mpr (.inl hr), hid⟩
    · exact ⟨p, hmem.mpr (.inr ⟨hp, hreplaced⟩), rfl⟩
  · intro p hp r hr hhost
    rcases hmem.mp hr with hnew | ⟨hold, -⟩
    · obtain ⟨q, hq, hunknown, hreconciled, hbinds, hid⟩ := hreplaces r hnew
      obtain rfl : q = p := haggregates.unique hq hp
        ((congrArg HostIdentity.hostId hid).symm.trans hhost)
      exact .reconciled hunknown hreconciled hbinds
    · obtain rfl : r = p := haggregates.unique hold hp hhost
      exact .kept
  · intro r hr
    rcases hmem.mp hr with hnew | ⟨hold, -⟩
    · obtain ⟨p, -, -, hreconciled, -⟩ := hreplaces r hnew
      exact .inr ⟨hnew, hreconciled⟩
    · exact .inl hold

end Fleet

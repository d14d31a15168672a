import LightConeSpec.Fleet.Chain
import LightConeSpec.Fleet.Digests

/-!
# The resume authority of a host

A retry binds the schedule receipt of the previous result. A later result
without a receipt (SSH_FAILED, REMOTE_BLOCKED) hides an earlier one: the next
request is then accepted without it, and none that binds it is.
`keepsResumeAuthority_iff` says exactly when an accepted request binds the most
recent schedule receipt of its host.
-/

namespace Fleet

open Python List

variable {D : Type} [LinearOrder D] {sha : FleetSha D} {log past : List (FleetEvent D)}
  {request : RemoteHostWaveRequest D} {receipt : RemoteFleetWaveReceipt D}

/-! ## The schedule receipts of a host -/

def RemoteHostWaveResult.scheduleReceipt (r : RemoteHostWaveResult D) : Option (D × D) :=
  match r.dispatchScheduleReceiptSha256, r.dispatchScheduleReceiptEnvelopeSha256 with
  | some receipt, some envelope => some (receipt, envelope)
  | _, _ => none

/-- The results of a host in the receipts of a chain, oldest first. -/
def resultsOf (log : List (FleetEvent D)) (host : String) : List (RemoteHostWaveResult D) :=
  (receipts log).flatMap fun receipt =>
    receipt.hostResults.filter fun result => result.hostId = host

/-- The schedule receipts that the results of a host carried, oldest first. -/
def scheduleReceipts (log : List (FleetEvent D)) (host : String) : List (D × D) :=
  (resultsOf log host).filterMap (·.scheduleReceipt)

/-- The request resumes from a schedule receipt. -/
def Binds (request : RemoteHostWaveRequest D) (identities : D × D) : Prop :=
  request.binding.resumeReceiptPath.isSome = true ∧
    request.binding.resumeReceiptSha256 = some identities.1 ∧
    request.binding.resumeReceiptEnvelopeSha256 = some identities.2

instance (request : RemoteHostWaveRequest D) (identities : D × D) :
    Decidable (Binds request identities) := inferInstanceAs (Decidable (_ ∧ _))

/-- A request keeps the resume authority of its host: it binds the most recent
schedule receipt, and without one no assignment of the host has completed. -/
def KeepsResumeAuthority (past : List (FleetEvent D)) (request : RemoteHostWaveRequest D) : Prop :=
  (∀ identities, (scheduleReceipts past request.binding.hostId).getLast? = some identities →
    Binds request identities) ∧
  (request.binding.resumeReceiptPath = none →
    ∀ result ∈ resultsOf past request.binding.hostId, result.completedAssignmentSha256 = [])

/-- The latest result of a host carries a schedule receipt, or none has. -/
def ReceiptStands (past : List (FleetEvent D)) (host : String) : Prop :=
  scheduleReceipts past host = [] ∨
    ∃ latest, (resultsOf past host).getLast? = some latest ∧ latest.scheduleReceipt ≠ none

variable {result : RemoteHostWaveResult D}

/-- What a valid result says of a schedule receipt: both identities, or nothing
about any assignment. -/
theorem hasReceipt_or_claimsNothing {emptySha256 : D} (h : result.postInit emptySha256 = .ok ()) :
    result.HasReceipt ∨ result.ClaimsNothing := by
  simp only [RemoteHostWaveResult.postInit, bind_eq_ok, check_eq_ok] at h
  obtain ⟨-, -, -, -, -, -, -, -, -, -, -, houtcome⟩ := h
  unfold RemoteHostWaveResult.outcomeCheck at houtcome
  split at houtcome
  · exact .inl (require_eq_ok.mp houtcome).2.2.1
  · exact .inl (require_eq_ok.mp houtcome).2.2.1
  · obtain ⟨-, -, hclaims⟩ := bind_eq_ok.mp houtcome
    exact .inr (require_eq_ok.mp hclaims)
  · obtain ⟨-, -, hclaims⟩ := bind_eq_ok.mp houtcome
    exact .inl (require_eq_ok.mp hclaims).1
  · exact .inr (require_eq_ok.mp houtcome).2.2.2.2.2.2
  · exact .inl (require_eq_ok.mp houtcome).2.2.1
  · exact .inr (require_eq_ok.mp houtcome).2

omit [LinearOrder D] in
theorem scheduleReceipt_of_claimsNothing (h : result.ClaimsNothing) :
    result.scheduleReceipt = none := by
  unfold RemoteHostWaveResult.scheduleReceipt
  rw [h.1]

omit [LinearOrder D] in
theorem scheduleReceipt_of_hasReceipt (h : result.HasReceipt) :
    ∃ identities, result.scheduleReceipt = some identities ∧
      result.dispatchScheduleReceiptSha256 = some identities.1 ∧
      result.dispatchScheduleReceiptEnvelopeSha256 = some identities.2 := by
  obtain ⟨receipt, hreceipt⟩ := Option.ne_none_iff_exists'.mp h.1
  obtain ⟨envelope, henvelope⟩ := Option.ne_none_iff_exists'.mp h.2
  refine ⟨(receipt, envelope), ?_, hreceipt, henvelope⟩
  unfold RemoteHostWaveResult.scheduleReceipt
  rw [hreceipt, henvelope]

/-! ## When a request keeps it -/

omit [LinearOrder D] in
/-- What a retry binds, compared with all earlier results of its host. -/
theorem keepsResumeAuthority_of_retries {previous : RemoteHostWaveResult D}
    {older : List (RemoteHostWaveResult D)} {prior : RemoteFleetWaveReceipt D}
    (hresults : resultsOf past request.binding.hostId = older ++ [previous])
    (hvalid : ∀ result ∈ older ++ [previous], result.HasReceipt ∨ result.ClaimsNothing)
    (hretries : Retries sha prior previous request) :
    KeepsResumeAuthority past request ↔ ReceiptStands past request.binding.hostId := by
  have hreceipts : scheduleReceipts past request.binding.hostId
      = older.filterMap (·.scheduleReceipt) ++ previous.scheduleReceipt.toList := by
    unfold scheduleReceipts
    rw [hresults, filterMap_append]
    cases h : previous.scheduleReceipt <;> simp [h]
  rcases hvalid previous (by simp) with hhas | hnothing
  · -- the latest result carries a receipt, which the retry binds
    obtain ⟨identities, hschedule, hcontent, henvelope⟩ := scheduleReceipt_of_hasReceipt hhas
    have hpath : request.binding.resumeReceiptPath.isSome = true := by
      rw [hretries.path, hcontent]
      rfl
    constructor
    · intro _
      exact .inr ⟨previous, by rw [hresults]; simp, by rw [hschedule]; nofun⟩
    · intro _
      refine ⟨?_, ?_⟩
      · intro found hfound
        rw [hreceipts, hschedule] at hfound
        obtain rfl : identities = found := by simpa using hfound
        exact ⟨hpath, hretries.content.trans hcontent, hretries.envelope.trans henvelope⟩
      · intro hnone
        rw [hnone] at hpath
        cases hpath
  · -- the latest result carries none: a receipt of an older one is not bound
    have hpath : request.binding.resumeReceiptPath = none := by
      have hisSome := hretries.path
      rw [hnothing.1] at hisSome
      exact Option.isSome_eq_false_iff.mp hisSome |> Option.isNone_iff_eq_none.mp
    rw [scheduleReceipt_of_claimsNothing hnothing, Option.toList_none, append_nil] at hreceipts
    constructor
    · intro hkeeps
      refine .inl (getLast?_eq_none_iff.mp ?_)
      cases hlast : (scheduleReceipts past request.binding.hostId).getLast? with
      | none => rfl
      | some identities =>
        have hbinds := (hkeeps.1 identities hlast).1
        rw [hpath] at hbinds
        cases hbinds
    · rintro (hempty | ⟨latest, hlatest, hcarries⟩)
      · refine ⟨?_, ?_⟩
        · intro identities hlast
          rw [hempty] at hlast
          cases hlast
        · intro _ result hresult
          rw [hresults] at hresult
          rcases hvalid result hresult with hhas | hclaims
          · obtain ⟨identities, hschedule, -⟩ := scheduleReceipt_of_hasReceipt hhas
            have hmem : identities ∈ scheduleReceipts past request.binding.hostId := by
              unfold scheduleReceipts
              rw [hresults]
              exact mem_filterMap.mpr ⟨result, hresult, hschedule⟩
            rw [hempty] at hmem
            cases hmem
          · exact hclaims.2.2.1
      · rw [hresults, getLast?_concat] at hlatest
        obtain rfl := Option.some.inj hlatest
        exact absurd (scheduleReceipt_of_claimsNothing hnothing) hcarries

/-- The accepted requests of an entry keep the resume authority of their hosts
exactly when the receipt stands. -/
def ResumeRule (past : List (FleetEvent D)) (event : FleetEvent D) : Prop :=
  ∀ runs, event = .ran runs → ∀ request run, (request, run) ∈ runs →
    (KeepsResumeAuthority past request ↔ ReceiptStands past request.binding.hostId)

/-- The invariant behind it: the next call is given the last receipt, and all
results are valid. -/
structure Resumes (sha : FleetSha D) (chain : FleetChain D) : Prop where
  latest : ∀ latest, chain.latest = some latest →
    ∃ older, receipts chain.log = older ++ [latest] ∧ Aggregates latest
  initial : chain.latest = none → receipts chain.log = []
  valid : ∀ receipt ∈ receipts chain.log, ∀ result ∈ receipt.hostResults,
    result.HasReceipt ∨ result.ClaimsNothing
  rule : Log.EachAfter ResumeRule chain.log

/-- A call accepts its requests by the last receipt. -/
theorem Resumes.rule_of_accepts {chain : FleetChain D} {authority : RemoteHostExecutionBinding D}
    {ordered : List (RemoteHostWaveRequest D)} (h : Resumes sha chain)
    (haccepts : Accepts sha chain.latest authority ordered) (hrequest : request ∈ ordered) :
    KeepsResumeAuthority chain.log request ↔ ReceiptStands chain.log request.binding.hostId := by
  cases hlatest : chain.latest with
  | none =>
    have hresults : resultsOf chain.log request.binding.hostId = [] := by
      unfold resultsOf
      rw [h.initial hlatest]
      rfl
    have hreceipts : scheduleReceipts chain.log request.binding.hostId = [] := by
      unfold scheduleReceipts
      rw [hresults]
      rfl
    constructor
    · exact fun _ => .inl hreceipts
    · intro _
      unfold KeepsResumeAuthority
      rw [hreceipts, hresults]
      exact ⟨nofun, fun _ => nofun⟩
  | some latest =>
    obtain ⟨previous, hretries⟩ := haccepts.retries latest hlatest request hrequest
    obtain ⟨older, hreceipts, haggregates⟩ := h.latest latest hlatest
    -- the newest receipt holds one result of each host
    have hfilter : latest.hostResults.filter
        (fun result => decide (result.hostId = request.binding.hostId)) = [previous] := by
      have hnd : (latest.hostResults.filter
          fun result => decide (result.hostId = request.binding.hostId)).Nodup :=
        (List.Nodup.of_map _ haggregates.nodup).filter _
      refine perm_singleton.mp ((perm_ext_iff_of_nodup hnd
        (nodup_singleton _)).mpr fun result => ?_)
      rw [mem_filter, mem_singleton, decide_eq_true_eq]
      constructor
      · rintro ⟨hmem, hhost⟩
        exact haggregates.unique hmem hretries.mem (hhost.trans hretries.hostId.symm)
      · rintro rfl
        exact ⟨hretries.mem, hretries.hostId⟩
    have hresults : resultsOf chain.log request.binding.hostId
        = (older.flatMap fun receipt => receipt.hostResults.filter fun result =>
            result.hostId = request.binding.hostId) ++ [previous] := by
      unfold resultsOf
      rw [hreceipts, flatMap_append, flatMap_singleton, hfilter]
    refine keepsResumeAuthority_of_retries hresults ?_ hretries
    intro result hresult
    rw [← hresults] at hresult
    obtain ⟨receipt, hreceipt, hmem⟩ := mem_flatMap.mp hresult
    exact h.valid receipt hreceipt result (mem_filter.mp hmem).1

theorem resumes_run (calls : List (FleetCall sha)) : Resumes sha (FleetChain.run calls) := by
  refine FleetChain.run_induction ⟨fun _ h => (by cases h), fun _ => rfl, fun _ h => (by cases h),
    Log.eachAfter_nil⟩ ?_ ?_ calls
  · intro chain call authority ordered h haccepts
    refine ⟨?_, ?_, ?_, Log.eachAfter_snoc.mpr ⟨h.rule, ?_⟩⟩
    · rw [FleetChain.append, receipts_ran]
      exact h.latest
    · rw [FleetChain.append, receipts_ran]
      exact h.initial
    · rw [FleetChain.append, receipts_ran]
      exact h.valid
    · rintro runs ⟨⟩ request run hrun
      obtain ⟨request, hrequest, ⟨⟩⟩ := mem_map.mp hrun
      exact h.rule_of_accepts haccepts hrequest
  · intro chain receipt h happends
    refine ⟨?_, fun h => (by cases h), ?_, Log.eachAfter_snoc.mpr ⟨h.rule, fun _ h => by cases h⟩⟩
    · rintro _ ⟨⟩
      exact ⟨_, receipts_returned, happends.aggregates⟩
    · intro r hr result hresult
      rw [receipts_returned] at hr
      rcases mem_append.mp hr with hold | hnew
      · exact h.valid r hold result hresult
      · obtain rfl := mem_singleton.mp hnew
        exact hasReceipt_or_claimsNothing (happends.valid result hresult)

/-- In every chain of calls an accepted request keeps the resume authority of its
host exactly when the host's latest result carries a schedule receipt or none of
its results does. -/
theorem keepsResumeAuthority_iff (calls : List (FleetCall sha)) :
    Log.EachAfter ResumeRule (FleetChain.run calls).log :=
  (resumes_run calls).rule

/-! ## A receipt that is lost -/

/-- A host with two assignments, asked to resume from a receipt or from nothing. -/
def lostBinding (resume : Option (Digest × Digest)) : RemoteHostExecutionBinding Digest where
  schemaVersion := 1
  hostId := "host-a"
  fleetInventorySha256 := .text "fleet"
  hostInventorySha256 := .text "inventory"
  fleetDispatchPlanSha256 := .text "fleet-plan"
  hostDispatchPlanSha256 := .text "plan"
  fleetWaveIndex := 0
  fleetWaveSha256 := .text "fleet-wave"
  hostWaveIndex := 0
  hostWaveSha256 := .text "wave"
  executionBundleManifestPath := "/srv/manifest.json"
  executionBundleManifestSha256 := .text "manifest"
  receiptOutputPath := if resume.isSome then "/srv/second.json" else "/srv/first.json"
  resumeReceiptPath := resume.map fun _ => "/srv/first.json"
  resumeReceiptSha256 := resume.map (·.1)
  resumeReceiptEnvelopeSha256 := resume.map (·.2)
  assignments :=
    [⟨.text "a", [("gpu-0", "host-a")], [2000], "cache-a", "evidence-a"⟩,
      ⟨.text "b", [("gpu-1", "host-a")], [2001], "cache-b", "evidence-b"⟩]

def lostRequest (nonce : String) (resume : Option (Digest × Digest)) (prior : Option Digest) :
    RemoteHostWaveRequest Digest :=
  ⟨1, .text nonce, .text "route", lostBinding resume, prior⟩

/-- One execution of the host with the given request and outside behaviour. -/
def lostCall (request : RemoteHostWaveRequest Digest) (attempt : HostAttempt Digest) :
    FleetWaveCall Digest where
  routeHostIds := ["host-a"]
  requests := [request]
  limits := ⟨60, 65536, 16384⟩
  maxConcurrency := 8
  attempts := fun _ => attempt

/-- The first attempt: assignment `a` completes, `b` fails. -/
def failedAttempt : HostAttempt Digest where
  canonicalStdin := .ok ()
  preparedRoute := .ok (.text "route")
  run := .ok (some {
    exitCode := 42
    stdout := ⟨300, .text "stdout"⟩
    stdoutOneNewline := true
    response := .ok {
      schemaVersion := 1
      hostId := "host-a"
      requestSha256 := freeFleetSha.request (lostRequest "first" none none)
      bindingSha256 := freeFleetSha.binding (lostBinding none)
      status := .failed
      reasonCode := some "wave_failed"
      dispatchScheduleReceiptSha256 := some (.text "receipt")
      dispatchScheduleReceiptEnvelopeSha256 := some (.text "envelope")
      completedAssignmentSha256 := [.text "a"]
      failedAssignmentSha256 := [.text "b"] }
    stderr := ⟨0, .text ""⟩ })
  cleanup := .ok ()

/-- The known hosts cannot be read: nothing is sent. -/
def brokenAttempt : HostAttempt Digest where
  canonicalStdin := .ok ()
  preparedRoute := .error ⟨.osError, "No such file or directory"⟩
  run := .ok none
  cleanup := .ok ()

def firstCall : FleetCall freeFleetSha :=
  .execute (lostCall (lostRequest "first" none none) failedAttempt) (by decide +kernel)

/-- The retry binds the receipt of the first attempt, and does not reach the
host. -/
def secondRequest : RemoteHostWaveRequest Digest :=
  lostRequest "second" (some (.text "receipt", .text "envelope"))
    ((FleetChain.run [firstCall]).latest.map freeFleetSha.receipt)

def secondCall : FleetCall freeFleetSha :=
  .execute (lostCall secondRequest brokenAttempt) (by decide +kernel)

/-- The next retry binds nothing, and is accepted. -/
def thirdRequest : RemoteHostWaveRequest Digest :=
  lostRequest "third" none
    ((FleetChain.run [firstCall, secondCall]).latest.map freeFleetSha.receipt)

def thirdCall : FleetCall freeFleetSha :=
  .execute (lostCall thirdRequest brokenAttempt) (by decide +kernel)

/-- An accepted request does not always keep the resume authority of its host:
after a failed wave and a retry that does not reach the host, a request without
the receipt is accepted, for a host that has completed an assignment. -/
theorem resume_authority_lost :
    ¬∀ calls : List (FleetCall freeFleetSha), Log.EachAfter
      (fun past event => ∀ runs, event = .ran runs → ∀ request run, (request, run) ∈ runs →
        KeepsResumeAuthority past request) (FleetChain.run calls).log := by
  intro h
  have hlog : (FleetChain.run [firstCall, secondCall, thirdCall]).log
      = (FleetChain.run [firstCall, secondCall]).log
        ++ .ran [(thirdRequest, runHost freeFleetSha (lostCall thirdRequest brokenAttempt)
          thirdRequest)]
        :: (FleetChain.run [firstCall, secondCall, thirdCall]).log.drop 5 := by
    decide +kernel
  have hkeeps := (h [firstCall, secondCall, thirdCall] _ _ _ hlog _ rfl thirdRequest _
    (List.mem_singleton.mpr rfl)).1 (.text "receipt", .text "envelope") (by decide +kernel)
  exact absurd hkeeps (by decide +kernel)

end Fleet

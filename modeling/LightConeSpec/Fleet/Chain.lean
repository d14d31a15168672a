import LightConeSpec.Lib.Log
import LightConeSpec.Fleet.Steps

/-!
# Chains of calls on one fleet wave

A coordinator calls `execute_fleet_wave` and `reconcile_fleet_wave_receipt` any
number of times, each call with the receipt that the last returning call gave.
The log of the chain holds what was sent to the hosts and the receipts.
`Lawful` is the invariant; `Remote at-most-once` is what it says of every entry
of the log.
-/

namespace Fleet

open Python List

variable {D : Type} [LinearOrder D] {sha : FleetSha D}

/-- One call of the coordinator. Requests and results are built by their
constructors before they are passed. -/
inductive FleetCall (sha : FleetSha D)
  | execute (call : FleetWaveCall D)
      (hbuilt : ∀ request ∈ call.requests, request.postInit = .ok ())
  | reconcile (results : List (RemoteHostWaveResult D))
      (hbuilt : ∀ result ∈ results, result.postInit sha.empty = .ok ())

/-- What happened: a call accepted requests and made an attempt for each, or a
call returned a receipt. -/
inductive FleetEvent (D : Type)
  | ran (runs : List (RemoteHostWaveRequest D × AttemptRun D))
  | returned (receipt : RemoteFleetWaveReceipt D)
deriving DecidableEq

/-- The receipt that the next call is given, and the log. -/
structure FleetChain (D : Type) where
  latest : Option (RemoteFleetWaveReceipt D)
  log : List (FleetEvent D)

namespace FleetChain

def start : FleetChain D := ⟨none, []⟩

def append (chain : FleetChain D) (event : FleetEvent D) : FleetChain D :=
  { chain with log := chain.log ++ [event] }

/-- A call that raises returns no receipt. -/
def record (chain : FleetChain D) : Except Error (RemoteFleetWaveReceipt D) → FleetChain D
  | .error _ => chain
  | .ok receipt => ⟨some receipt, chain.log ++ [.returned receipt]⟩

def step (chain : FleetChain D) : FleetCall sha → FleetChain D
  | .execute call _ =>
    match acceptFleetWave sha call chain.latest with
    | .error _ => chain
    | .ok (_, ordered) =>
      (chain.append (.ran (ordered.map fun request => (request, runHost sha call request)))).record
        (executeFleetWave sha call chain.latest)
  | .reconcile results _ =>
    match chain.latest with
    | none => chain
    | some prior => chain.record (reconcileFleetWaveReceipt sha prior results)

def run (calls : List (FleetCall sha)) : FleetChain D :=
  calls.foldl step start

end FleetChain

/-! ## The receipts of a log -/

def receiptEntry : FleetEvent D → Option (Unit × RemoteFleetWaveReceipt D)
  | .ran _ => none
  | .returned receipt => some ((), receipt)

def receipts (log : List (FleetEvent D)) : List (RemoteFleetWaveReceipt D) :=
  Log.written receiptEntry log ()

def lastReceipt (log : List (FleetEvent D)) : Option (RemoteFleetWaveReceipt D) :=
  Log.latest receiptEntry log ()

section

variable {log : List (FleetEvent D)} {receipt : RemoteFleetWaveReceipt D}

omit [LinearOrder D]

@[simp] theorem receipts_ran (runs : List (RemoteHostWaveRequest D × AttemptRun D)) :
    receipts (log ++ [.ran runs]) = receipts log :=
  Log.written_snoc_of_none rfl ()

@[simp] theorem lastReceipt_ran (runs : List (RemoteHostWaveRequest D × AttemptRun D)) :
    lastReceipt (log ++ [.ran runs]) = lastReceipt log :=
  Log.latest_snoc_of_none rfl ()

@[simp] theorem receipts_returned :
    receipts (log ++ [.returned receipt]) = receipts log ++ [receipt] := by
  have hentry : receiptEntry (.returned receipt) = some ((), receipt) := rfl
  unfold receipts
  rw [Log.written_snoc_of_some hentry, if_pos rfl]

@[simp] theorem lastReceipt_returned : lastReceipt (log ++ [.returned receipt]) = some receipt := by
  have hentry : receiptEntry (.returned receipt) = some ((), receipt) := rfl
  unfold lastReceipt
  rw [Log.latest_snoc_of_some hentry, if_pos rfl]

end

/-! ## What one call appends -/

variable {chain : FleetChain D} {call : FleetWaveCall D} {prior receipt : RemoteFleetWaveReceipt D}

/-- A receipt that a call returns after a chain. -/
structure Appends (sha : FleetSha D) (chain : FleetChain D) (receipt : RemoteFleetWaveReceipt D) :
    Prop where
  aggregates : Aggregates receipt
  valid : ∀ result ∈ receipt.hostResults, result.postInit sha.empty = .ok ()
  link : receipt.priorFleetWaveReceiptSha256 = chain.latest.map sha.receipt
  follows : ∀ prior, chain.latest = some prior → Follows sha prior receipt
  /-- An SSH_FAILED result is an old one or that of an attempt without transport. -/
  ssh : ∀ result ∈ receipt.hostResults, result.transportOutcome = .sshFailed →
    (∃ prior, chain.latest = some prior ∧ result ∈ prior.hostResults) ∨
      ∃ request run runs, .ran runs ∈ chain.log ∧ (request, run) ∈ runs ∧
        run.result = .ok result ∧ run.dispatched = false ∧
        result.requestSha256 = sha.request request

theorem executeFleetWave_appends {authority : RemoteHostExecutionBinding D}
    {ordered : List (RemoteHostWaveRequest D)}
    (haccept : acceptFleetWave sha call chain.latest = .ok (authority, ordered))
    (h : executeFleetWave sha call chain.latest = .ok receipt) : Appends sha (chain.append
      (.ran (ordered.map fun request => (request, runHost sha call request)))) receipt := by
  have haccepts := accepts_of_acceptFleetWave haccept
  obtain ⟨_, _, haccept', hreturns, hfollows⟩ := executeFleetWave_returns h
  obtain ⟨rfl, rfl⟩ := Prod.mk.inj (Except.ok.inj (haccept.symm.trans haccept'))
  refine ⟨hreturns.aggregates, ?_, hreturns.link, hfollows, ?_⟩
  · intro result hresult
    rcases hreturns.origin result hresult with ⟨request, -, -, hrecords⟩ | ⟨prior, hprior, hold, -⟩
    · exact hrecords.valid
    · exact (replayReceipt_eq_ok (haccepts.replayed prior hprior).1).2 result hold
  · intro result hresult hssh
    rcases hreturns.origin result hresult with ⟨request, hrequest, hrun, hrecords⟩ |
      ⟨prior, hprior, hold, -⟩
    · exact .inr ⟨request, _, _, mem_append_right _ (mem_singleton.mpr rfl),
        mem_map.mpr ⟨request, hrequest, rfl⟩, hrun, hrecords.undispatched hssh,
        hrecords.request⟩
    · exact .inl ⟨prior, hprior, hold⟩

theorem reconcileFleetWaveReceipt_appends {results : List (RemoteHostWaveResult D)}
    (hbuilt : ∀ result ∈ results, result.postInit sha.empty = .ok ())
    (hlatest : chain.latest = some prior)
    (h : reconcileFleetWaveReceipt sha prior results = .ok receipt) :
    Appends sha chain receipt := by
  obtain ⟨haggregates, hfollows, horigin, hvalid⟩ := reconcileFleetWaveReceipt_returns h
  refine ⟨haggregates, ?_, ?_, ?_, ?_⟩
  · intro result hresult
    rcases horigin result hresult with hold | ⟨hnew, -⟩
    · exact hvalid result hold
    · exact hbuilt result hnew
  · rw [hlatest]
    exact hfollows.link
  · intro previous hprevious
    obtain rfl := Option.some.inj (hlatest.symm.trans hprevious)
    exact hfollows
  · intro result hresult hssh
    rcases horigin result hresult with hold | ⟨-, hreconciled⟩
    · exact .inl ⟨prior, hlatest, hold⟩
    · rw [hssh] at hreconciled
      cases hreconciled

/-- An invariant of chains: it holds at the start, and is kept when requests are
accepted and when a receipt is returned. -/
theorem FleetChain.run_induction {I : FleetChain D → Prop} (hstart : I .start)
    (hran : ∀ (chain : FleetChain D) (call : FleetWaveCall D)
      (authority : RemoteHostExecutionBinding D) (ordered : List (RemoteHostWaveRequest D)),
      I chain → Accepts sha chain.latest authority ordered →
        I (chain.append (.ran (ordered.map fun request => (request, runHost sha call request)))))
    (hreturned : ∀ (chain : FleetChain D) (receipt : RemoteFleetWaveReceipt D),
      I chain → Appends sha chain receipt → I ⟨some receipt, chain.log ++ [.returned receipt]⟩)
    (calls : List (FleetCall sha)) : I (FleetChain.run calls) := by
  unfold FleetChain.run
  generalize FleetChain.start = chain at hstart
  induction calls generalizing chain with
  | nil => exact hstart
  | cons c calls ih =>
    refine ih _ ?_
    cases c with
    | execute call hbuilt =>
      simp only [FleetChain.step]
      split
      · exact hstart
      · rename_i authority ordered haccept
        have haccepted := hran chain call authority ordered hstart
          (accepts_of_acceptFleetWave haccept)
        cases hexecute : executeFleetWave sha call chain.latest with
        | error e => exact haccepted
        | ok receipt =>
          exact hreturned _ _ haccepted (executeFleetWave_appends haccept hexecute)
    | reconcile results hbuilt =>
      simp only [FleetChain.step]
      split
      · exact hstart
      · rename_i prior hlatest
        cases hreconcile : reconcileFleetWaveReceipt sha prior results with
        | error e => exact hstart
        | ok receipt =>
          exact hreturned _ _ hstart (reconcileFleetWaveReceipt_appends hbuilt hlatest hreconcile)

/-! ## At most once -/

/-- What an entry of the log may be after the entries before it. -/
def AtMostOnce (sha : FleetSha D) (past : List (FleetEvent D)) : FleetEvent D → Prop
  | .ran runs => ∀ request run, (request, run) ∈ runs →
      (∀ receipt ∈ receipts past, ∀ result ∈ receipt.hostResults,
        result.hostId = request.binding.hostId → result.succeeded = false) ∧
      (∀ latest, lastReceipt past = some latest → ∀ result ∈ latest.hostResults,
        result.hostId = request.binding.hostId → result.outcomeUnknown = false) ∧
      ∀ result, run.result = .ok result → result.transportOutcome = .sshFailed →
        run.dispatched = false
  | .returned receipt =>
    (∀ earlier ∈ receipts past, ∀ result ∈ earlier.hostResults, result.succeeded = true →
      result ∈ receipt.hostResults ∧
        ∀ other ∈ receipt.hostResults, other.hostId = result.hostId → other = result) ∧
    (∀ latest, lastReceipt past = some latest → ∀ previous ∈ latest.hostResults,
      previous.outcomeUnknown = true → ∀ result ∈ receipt.hostResults,
        result.hostId = previous.hostId → result = previous ∨
          result.transportOutcome.reconciled = true ∧
            result.reconcilesUnknownResultSha256 = some (sha.result previous)) ∧
    (∀ result ∈ receipt.hostResults, result.transportOutcome = .sshFailed →
      ∃ request run runs, .ran runs ∈ past ∧ (request, run) ∈ runs ∧ run.result = .ok result ∧
        run.dispatched = false ∧ result.requestSha256 = sha.request request) ∧
    (∀ earlier ∈ receipts past,
      SameFleetWave receipt earlier ∧ receipt.identities = earlier.identities) ∧
    receipt.priorFleetWaveReceiptSha256 = (lastReceipt past).map sha.receipt

structure Lawful (sha : FleetSha D) (chain : FleetChain D) : Prop where
  latest : chain.latest = lastReceipt chain.log
  atMostOnce : Log.EachAfter (AtMostOnce sha) chain.log
  aggregates : ∀ latest, chain.latest = some latest → Aggregates latest
  /-- The latest receipt covers the hosts of all, and keeps the successes. -/
  settled : ∀ latest, chain.latest = some latest → ∀ earlier ∈ receipts chain.log,
    SameFleetWave latest earlier ∧ latest.identities = earlier.identities ∧
      ∀ result ∈ earlier.hostResults, result.succeeded = true → result ∈ latest.hostResults
  ssh : ∀ latest, chain.latest = some latest → ∀ result ∈ latest.hostResults,
    result.transportOutcome = .sshFailed →
      ∃ request run runs, .ran runs ∈ chain.log ∧ (request, run) ∈ runs ∧
        run.result = .ok result ∧ run.dispatched = false ∧
        result.requestSha256 = sha.request request
  initial : chain.latest = none → receipts chain.log = []

variable {result : RemoteHostWaveResult D}

omit [LinearOrder D] in
theorem HostStep.of_succeeded {previous : RemoteHostWaveResult D} (h : HostStep sha previous result)
    (hsucceeded : previous.succeeded = true) : result = previous := by
  unfold RemoteHostWaveResult.succeeded at hsucceeded
  cases h with
  | kept => rfl
  | retried hretryable =>
    unfold RemoteHostWaveResult.retryable at hretryable
    cases ho : previous.transportOutcome <;> simp [ho] at hsucceeded hretryable
  | reconciled hunknown =>
    unfold RemoteHostWaveResult.outcomeUnknown at hunknown
    cases ho : previous.transportOutcome <;> simp [ho] at hsucceeded hunknown

omit [LinearOrder D] in
theorem HostStep.of_unknown {previous : RemoteHostWaveResult D} (h : HostStep sha previous result)
    (hunknown : previous.outcomeUnknown = true) :
    result = previous ∨ result.transportOutcome.reconciled = true ∧
      result.reconcilesUnknownResultSha256 = some (sha.result previous) := by
  unfold RemoteHostWaveResult.outcomeUnknown at hunknown
  cases h with
  | kept => exact .inl rfl
  | retried hretryable =>
    unfold RemoteHostWaveResult.retryable at hretryable
    cases ho : previous.transportOutcome <;> simp [ho] at hunknown hretryable
  | reconciled _ hreconciled hbinds => exact .inr ⟨hreconciled, hbinds⟩

omit [LinearOrder D] in
/-- A success stays in the next receipt. -/
theorem Follows.keeps_success (h : Follows sha prior receipt) (hmem : result ∈ prior.hostResults)
    (hsucceeded : result.succeeded = true) : result ∈ receipt.hostResults := by
  have hid : result.identity ∈ receipt.identities := by
    rw [h.identities]
    exact mem_map.mpr ⟨result, hmem, rfl⟩
  obtain ⟨r, hr, hid⟩ := mem_map.mp hid
  obtain rfl := (h.steps result hmem r hr (congrArg HostIdentity.hostId hid)).of_succeeded
    hsucceeded
  exact hr

/-- Requests are accepted only for hosts whose result is negative. -/
theorem Lawful.ran {authority : RemoteHostExecutionBinding D}
    {ordered : List (RemoteHostWaveRequest D)} (h : Lawful sha chain)
    (haccepts : Accepts sha chain.latest authority ordered) : Lawful sha (chain.append
      (.ran (ordered.map fun request => (request, runHost sha call request)))) := by
  refine ⟨?_, ?_, h.aggregates, ?_, ?_, ?_⟩
  · exact h.latest.trans (lastReceipt_ran _).symm
  · refine Log.eachAfter_snoc.mpr ⟨h.atMostOnce, ?_⟩
    intro request run hrun
    obtain ⟨request, hrequest, ⟨⟩⟩ := mem_map.mp hrun
    -- the result of the host in the latest receipt is the one that the request retries
    have hlatest : ∀ latest, chain.latest = some latest → ∀ result ∈ latest.hostResults,
        result.hostId = request.binding.hostId →
          result.succeeded = false ∧ result.outcomeUnknown = false := by
      intro latest hl result hresult hhost
      obtain ⟨previous, hretries⟩ := haccepts.retries latest hl request hrequest
      obtain rfl := (h.aggregates latest hl).unique hresult hretries.mem
        (hhost.trans hretries.hostId.symm)
      exact ⟨hretries.unsuccessful, hretries.known⟩
    refine ⟨?_, ?_, fun result hresult hssh => (runHost_records hresult).undispatched hssh⟩
    · intro earlier hearlier result hresult hhost
      cases hl : chain.latest with
      | none =>
        rw [h.initial hl] at hearlier
        cases hearlier
      | some latest =>
        by_contra hsucceeded
        rw [Bool.not_eq_false] at hsucceeded
        have hkept := (h.settled latest hl earlier hearlier).2.2 result hresult hsucceeded
        rw [(hlatest latest hl result hkept hhost).1] at hsucceeded
        cases hsucceeded
    · intro latest hl result hresult hhost
      exact (hlatest latest (h.latest.trans hl) result hresult hhost).2
  · intro latest hl earlier hearlier
    rw [FleetChain.append, receipts_ran] at hearlier
    exact h.settled latest hl earlier hearlier
  · intro latest hl result hresult hssh
    obtain ⟨request, run, runs, hmem, hrest⟩ := h.ssh latest hl result hresult hssh
    exact ⟨request, run, runs, mem_append_left _ hmem, hrest⟩
  · intro hnone
    rw [FleetChain.append, receipts_ran]
    exact h.initial hnone

/-- A receipt that follows the latest one keeps the invariant. -/
theorem Lawful.returned (h : Lawful sha chain) (happends : Appends sha chain receipt) :
    Lawful sha ⟨some receipt, chain.log ++ [.returned receipt]⟩ := by
  have hsettled : ∀ earlier ∈ receipts chain.log, SameFleetWave receipt earlier ∧
      receipt.identities = earlier.identities ∧
      ∀ result ∈ earlier.hostResults, result.succeeded = true → result ∈ receipt.hostResults := by
    intro earlier hearlier
    cases hl : chain.latest with
    | none =>
      rw [h.initial hl] at hearlier
      cases hearlier
    | some prior =>
      have hf := happends.follows prior hl
      obtain ⟨⟨p1, p2, p3, p4⟩, hids, hkept⟩ := h.settled prior hl earlier hearlier
      obtain ⟨f1, f2, f3, f4⟩ := hf.fleet
      exact ⟨⟨f1.trans p1, f2.trans p2, f3.trans p3, f4.trans p4⟩, hf.identities.trans hids,
        fun result hresult hs => hf.keeps_success (hkept result hresult hs) hs⟩
  have hssh : ∀ result ∈ receipt.hostResults, result.transportOutcome = .sshFailed →
      ∃ request run runs, .ran runs ∈ chain.log ∧ (request, run) ∈ runs ∧
        run.result = .ok result ∧ run.dispatched = false ∧
        result.requestSha256 = sha.request request := by
    intro result hresult hs
    rcases happends.ssh result hresult hs with ⟨prior, hl, hold⟩ | hnew
    · exact h.ssh prior hl result hold hs
    · exact hnew
  refine ⟨by rw [lastReceipt_returned], Log.eachAfter_snoc.mpr ⟨h.atMostOnce, ?_⟩, ?_, ?_, ?_,
    nofun⟩
  · refine ⟨?_, ?_, hssh, ?_, ?_⟩
    · intro earlier hearlier result hresult hs
      have hkept := (hsettled earlier hearlier).2.2 result hresult hs
      exact ⟨hkept, fun other hother hhost => happends.aggregates.unique hother hkept hhost⟩
    · intro latest hl previous hprevious hunknown result hresult hhost
      have hf := happends.follows latest (h.latest.trans hl)
      exact (hf.steps previous hprevious result hresult hhost).of_unknown hunknown
    · intro earlier hearlier
      exact ⟨(hsettled earlier hearlier).1, (hsettled earlier hearlier).2.1⟩
    · rw [happends.link, h.latest]
  · rintro _ ⟨⟩
    exact happends.aggregates
  · rintro _ ⟨⟩ earlier hearlier
    rw [receipts_returned] at hearlier
    rcases mem_append.mp hearlier with hold | hnew
    · exact hsettled earlier hold
    · obtain rfl := mem_singleton.mp hnew
      exact ⟨⟨rfl, rfl, rfl, rfl⟩, rfl, fun _ hresult _ => hresult⟩
  · rintro _ ⟨⟩ result hresult hs
    obtain ⟨request, run, runs, hmem, hrest⟩ := hssh result hresult hs
    exact ⟨request, run, runs, mem_append_left _ hmem, hrest⟩

theorem lawful_run (calls : List (FleetCall sha)) : Lawful sha (FleetChain.run calls) := by
  refine FleetChain.run_induction ⟨rfl, Log.eachAfter_nil, nofun, nofun, nofun, fun _ => rfl⟩ ?_ ?_
    calls
  · intro chain call authority ordered h haccepts
    exact h.ran haccepts
  · intro chain receipt h happends
    exact h.returned happends

/-- In every chain of calls a host that has succeeded is not contacted again and
keeps its result, an UNKNOWN host is not contacted before its result is replaced
by a reconciliation that binds it, an SSH_FAILED result was recorded without
invoking the transport, and every receipt is about the same hosts with the same
identities and binds the receipt before it. -/
theorem chain_at_most_once (calls : List (FleetCall sha)) :
    Log.EachAfter (AtMostOnce sha) (FleetChain.run calls).log :=
  (lawful_run calls).atMostOnce

end Fleet

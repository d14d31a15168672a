import LightConeSpec.Operator.Dispatch
import LightConeSpec.Operator.Ledger

/-!
# What each part of the scheduler can do

The effects of the scheduler fall into a few classes. Monitoring reads, asks
and writes observations and STOPs; a retry also materialises and queues the
next attempt; a release also terminates one attempt or one group. Each method
gets one lemma that names its class, so that an invariant has to be checked
once per class instead of once per method.
-/

namespace Operator

open Python Program Machine Store

/-! ## Classes of effects -/

/-- Operations that record observations, events, termination intents and STOPs. -/
def StoreOp.Monitors : StoreOp → Prop
  | .recordWatchdogEvent .. | .setDispatchStop .. | .recordHeartbeat ..
  | .recordPhysicalAttemptGroupHeartbeat .. | .recordRuntimeObservation ..
  | .recordPhysicalAttemptGroupRuntimeObservation .. | .requestAttemptTermination ..
  | .recordAttemptTerminationSignal .. | .recordLaunchCompatibilityKey .. => True
  | _ => False

/-- Operations that materialise and queue the next attempt of a cell. -/
def StoreOp.Retries : StoreOp → Prop
  | .materializeAttempt .. | .enqueueCommand .. => True
  | _ => False

/-- Operations that terminate the attempt `key` or the group `groupId`. -/
def StoreOp.Releases (key : AttemptKey) (groupId : Option String) : StoreOp → Prop
  | .finishAttempt key' _ => key' = key ∧ groupId = none
  | .finishPhysicalAttemptGroup groupId' .. | .failPhysicalAttemptGroupSpawn groupId' ..
  | .failPhysicalAttemptGroupInfrastructure groupId' .. => groupId = some groupId'
  | _ => False

/-- Reads, calls of callbacks, and writes of monitoring. -/
def Effect.Quiet : Effect → Prop
  | .read | .dispatchControl | .ask _ => True
  | .write op => op.Monitors
  | .attach _ | .launch .. => False

/-- Quiet, or a write that retries. -/
def Effect.Retrying : Effect → Prop
  | .write op => op.Monitors ∨ op.Retries
  | e => e.Quiet

/-- Retrying, or a write that releases the given lease. -/
def Effect.Releasing (key : AttemptKey) (groupId : Option String) : Effect → Prop
  | .write op => op.Monitors ∨ op.Retries ∨ op.Releases key groupId
  | e => e.Quiet

def reconcileKinds : List ChangeKind :=
  [.observe, .finish, .materialize, .enqueue, .settings, .dispatch]

/-- What reconciliation does: no launch, no write that makes a row `RUNNING`,
and none that clears a STOP. -/
def Effect.Standing : Effect → Prop
  | .write op => op.kinds ⊆ reconcileKinds ∧ op.isClearDispatchStop = false
  | e => e.Quiet

/-- The effects of a start after its rows are claimed: the launch, the attach
and the events of both. -/
def Effect.Launching : Effect → Prop
  | .read | .ask _ | .launch .. => True
  | .write op => op.kinds ⊆ [.settings]
  | .attach op => op.kinds ⊆ [.observe]
  | .dispatchControl => False

/-- Launching, or the claim of the rows. -/
def Effect.Starting : Effect → Prop
  | .write op => op.kinds ⊆ [.start, .settings]
  | e => e.Launching

variable {α : Type} {e : Effect}

theorem Effect.Launching.starting (h : e.Launching) : e.Starting := by
  cases e with
  | write op => exact fun kind hkind => List.mem_cons_of_mem _ (h hkind)
  | _ => exact h

theorem Effect.Quiet.retrying (h : e.Quiet) : e.Retrying := by
  cases e with
  | write op => exact .inl h
  | _ => exact h

theorem Effect.Retrying.releasing {key : AttemptKey} {groupId : Option String} (h : e.Retrying) :
    e.Releasing key groupId := by
  cases e with
  | write op => exact h.imp_right .inl
  | _ => exact h

theorem Effect.Releasing.standing {key : AttemptKey} {groupId : Option String}
    (h : e.Releasing key groupId) : e.Standing := by
  cases e with
  | write op =>
    rcases h with h | h | h <;> cases op <;> simp_all [StoreOp.Monitors, StoreOp.Retries,
      StoreOp.Releases, Effect.Standing, StoreOp.kinds, StoreOp.isClearDispatchStop,
      reconcileKinds]
  | _ => exact h

variable (cfg : SchedulerConfig) (command : QueuedCommandSpec) (group : Option GroupView)
  (row : AttemptRow) (pid pgid : Nat) (now : Int)

namespace Scheduler

/-! ## Keys -/

theorem handle_keysNodup {w : World} (hw : w.store.KeysNodup) (ω : Oracle) (e : Effect) :
    (w.handle ω e).2.store.KeysNodup := by
  cases e with
  | read | dispatchControl | launch | ask => exact hw
  | write op => exact (step_changes hw op).keysNodup hw
  | attach op =>
    unfold World.handle
    split
    · exact hw
    · exact (step_changes hw op).keysNodup hw

theorem foreign_keysNodup {w : World} (hw : w.store.KeysNodup) (i : Foreign) :
    (w.foreign i).store.KeysNodup := by
  cases i with
  | exit child => exact hw
  | call op => exact (step_changes hw op).keysNodup hw

/-- Primary keys stay distinct along every run. -/
theorem trace_keysNodup {q : Daemon} (hq : q.state.store.KeysNodup)
    {inputs : List (Input Oracle Foreign)} : ∀ ev ∈ trace (step cfg) q inputs,
      ev.pre.state.store.KeysNodup ∧ ev.post.state.store.KeysNodup :=
  (state_invariant (I := fun w : World => w.store.KeysNodup)
    (fun _ ω e h => handle_keysNodup h ω e) (fun _ i h => foreign_keysNodup h i) hq).1

/-! ## Basic effects -/

section Basic

variable {α : Type} {P : Effect → Prop}

theorem all_returned {p : Sched (Except Error α)} (h : p.All P) : (returned p).All P :=
  h.bind fun _ => Prog.all_ofExcept _

theorem all_query (h : P .read) (f : Store → Except Error α) : (query f).All P :=
  ⟨h, fun _ => Prog.all_ofExcept _⟩

theorem all_write {op : StoreOp} (h : P (.write op)) : (write op).All P :=
  all_returned (Prog.all_perform.mpr h)

theorem all_ask {q : Query} (h : P (.ask q)) : (ask q).All P :=
  Prog.all_perform.mpr h

theorem all_attempt {p : Sched α} (h : p.All P) : (attempt p).All P :=
  h.attempt

end Basic

/-- A read of the dispatch control answers the committed state. -/
theorem wp_dispatchControl {C : Contract Effect World Oracle}
    {Q : DispatchState × Option String → World → Prop} {X : Error → World → Prop} {w : World}
    (h : ∀ w' ω, C.rely w w' → C.allowed w' ω .dispatchControl →
      C.safe w' ω .dispatchControl ∧ ∀ w'', C.rely { w' with stopSinceGate := false } w'' →
        Q (w'.store.dispatchState, w'.store.dispatchStopReason) w'') :
    wp World.handle C Q X dispatchControl w :=
  fun w' hrely ω hallowed => h w' ω hrely hallowed

theorem query_quiet (f : Store → Except Error α) : (query f).All Effect.Quiet :=
  all_query trivial f

theorem call_quiet {q : Query} {f : q.Reply → Sched α} (h : ∀ r, (f r).All Effect.Quiet) :
    ((ask q).bind f).All Effect.Quiet :=
  (all_ask (P := Effect.Quiet) trivial).bind h

theorem dispatchControl_quiet : dispatchControl.All Effect.Quiet :=
  ⟨trivial, fun _ => trivial⟩

theorem now_quiet : Scheduler.now.All Effect.Quiet :=
  call_quiet fun _ => (Prog.all_ofExcept _).bind fun _ => trivial

theorem storeNow_quiet : storeNow.All Effect.Quiet :=
  all_ask (P := Effect.Quiet) trivial

variable (key : AttemptKey) (eventType : String)

theorem record_quiet (key : AttemptKey) (occurred : Int) :
    (record eventType key occurred).All Effect.Quiet :=
  all_write (P := Effect.Quiet) trivial

theorem setStop_quiet (reason : String) (stopped : Int) :
    (setStop reason stopped).All Effect.Quiet :=
  all_write (P := Effect.Quiet) trivial

theorem failClosed_quiet (reason : String) (key : AttemptKey) (occurred : Int) :
    (failClosed eventType reason key occurred).All Effect.Quiet :=
  (record_quiet eventType key occurred).bind fun _ => setStop_quiet reason occurred

/-- A handler that fails closed and reports. -/
theorem failClosed_report_quiet (reason : String) (key : AttemptKey) (occurred : Int) (a : α) :
    ((failClosed eventType reason key occurred).bind fun _ => Prog.ret a).All Effect.Quiet :=
  (failClosed_quiet eventType reason key occurred).bind fun _ => trivial

/-- An event and a report. -/
theorem record_report_quiet (key : AttemptKey) (occurred : Int) (a : α) :
    ((record eventType key occurred).bind fun _ => Prog.ret a).All Effect.Quiet :=
  (record_quiet eventType key occurred).bind fun _ => trivial

/-! ## Monitoring -/

theorem collectPartialEvidence_quiet :
    (collectPartialEvidence cfg command now).All Effect.Quiet := by
  unfold collectPartialEvidence
  split
  · refine (all_attempt (all_returned (all_ask trivial))).bind fun result => ?_
    cases result with
    | ok evidence => trivial
    | error e => exact record_report_quiet ..
  · trivial

theorem deliverSignal_quiet (signal : SignalName) :
    (deliverSignal command pid pgid signal now).All Effect.Quiet :=
  (all_returned (all_ask trivial)).bind fun _ => all_write (P := Effect.Quiet) trivial

theorem advanceSignal_quiet (signal : SignalName) :
    (advanceSignal cfg command pid pgid signal now).All Effect.Quiet := by
  unfold advanceSignal
  split
  · refine (all_attempt (deliverSignal_quiet ..)).bind fun result => ?_
    cases result with
    | ok _ => exact record_report_quiet ..
    | error e => exact failClosed_report_quiet ..
  · exact failClosed_report_quiet ..

theorem advanceTermination_quiet : (advanceTermination cfg command row now).All Effect.Quiet := by
  unfold advanceTermination
  split
  · split
    · exact advanceSignal_quiet ..
    · split
      · exact advanceSignal_quiet ..
      · trivial
    · split
      · exact record_report_quiet ..
      · trivial
  · exact (setStop_quiet ..).bind fun _ => trivial

theorem beginRuntimeTermination_quiet :
    (beginRuntimeTermination cfg command now).All Effect.Quiet := by
  have hrequest : (write (.requestAttemptTermination command.key "SOURCE_BOUND_RUNTIME_LIMIT"
      now)).All Effect.Quiet := all_write (P := Effect.Quiet) trivial
  refine hrequest.bind fun _ => (record_quiet ..).bind fun _ =>
    dispatchControl_quiet.bind fun control => ?_
  have hadvance : ((query fun s => s.requireAttempt command.key).bind fun current =>
      advanceTermination cfg command current now).All Effect.Quiet :=
    (query_quiet _).bind fun _ => advanceTermination_quiet ..
  split
  · exact hadvance
  · exact (setStop_quiet ..).bind fun _ => hadvance

theorem observeRuntime_quiet (logSize : Int) (gpu : Bool) :
    (observeRuntime command group pid pgid logSize gpu now).All Effect.Quiet := by
  cases group with
  | none => exact all_write (P := Effect.Quiet) trivial
  | some group => exact all_write (P := Effect.Quiet) trivial

theorem recordBeat_quiet (logSize : Int) (gpu : Bool) (beat : WorkerHeartbeat) :
    (recordBeat command group pid pgid logSize gpu beat).All Effect.Quiet := by
  cases group with
  | none => exact all_write (P := Effect.Quiet) trivial
  | some group => exact all_write (P := Effect.Quiet) trivial

theorem readHeartbeat_quiet : (readHeartbeat cfg command).All Effect.Quiet := by
  unfold readHeartbeat
  split
  · refine (all_returned (all_ask trivial)).bind fun answer => ?_
    cases answer <;> trivial
  · trivial

theorem probeWorker_quiet (workerPid : Nat) : (probeWorker workerPid pgid).All Effect.Quiet := by
  refine (all_returned (all_ask trivial)).bind fun answer => ?_
  cases answer with
  | other => trivial
  | value worker => exact Prog.all_ofExcept _

theorem recordLiveness_quiet :
    (recordLiveness cfg command group row pid pgid now).All Effect.Quiet := by
  refine (all_returned (all_ask trivial)).bind fun logSize =>
    (all_returned (all_ask trivial)).bind fun gpu => (readHeartbeat_quiet ..).bind fun beat => ?_
  cases beat with
  | none => exact (observeRuntime_quiet ..).bind fun _ => trivial
  | some beat =>
    refine (Prog.all_ofExcept _).bind fun _ => (probeWorker_quiet ..).bind fun _ => ?_
    split
    · exact (recordBeat_quiet ..).bind fun _ => trivial
    · exact (Prog.all_ofExcept _).bind fun _ => (observeRuntime_quiet ..).bind fun _ => trivial

theorem manualEvidenceHolds_quiet (binding : ArtifactBinding) :
    (manualEvidenceHolds binding).All Effect.Quiet := by
  refine Prog.All.bind (Prog.All.attempt (all_returned (all_ask trivial))) fun result => ?_
  cases result <;> trivial

theorem receiptMatches_quiet : (receiptMatches command row now).All Effect.Quiet := by
  refine (all_returned (all_ask trivial)).bind fun answer => ?_
  cases answer with
  | other => trivial
  | value recovered => cases recovered <;> trivial

theorem manualHeartbeatWaiver_quiet :
    (manualHeartbeatWaiver cfg command row now).All Effect.Quiet := by
  refine (query_quiet _).bind fun evidence => ?_
  split
  · trivial
  · refine (manualEvidenceHolds_quiet _).bind fun holds => ?_
    split
    · exact receiptMatches_quiet ..
    · trivial

theorem checkHeartbeat_quiet (started : Int) :
    (checkHeartbeat cfg command row started now).All Effect.Quiet := by
  unfold checkHeartbeat
  split
  · refine (manualHeartbeatWaiver_quiet ..).bind fun waived => ?_
    split
    · exact record_report_quiet ..
    · exact failClosed_report_quiet ..
  · trivial

theorem heartbeatVerdict_quiet (started : Int) :
    (heartbeatVerdict cfg command row started now).All Effect.Quiet := by
  unfold heartbeatVerdict
  split
  · refine (all_returned (all_ask trivial)).bind fun required => ?_
    split
    · exact checkHeartbeat_quiet ..
    · trivial
  · trivial

theorem warnLogStall_quiet : (warnLogStall command row now).All Effect.Quiet := by
  unfold warnLogStall
  split
  · exact record_quiet ..
  · trivial

theorem superviseLive_quiet (recorded : Bool) :
    (superviseLive cfg command recorded now).All Effect.Quiet := by
  refine (query_quiet _).bind fun current => (Prog.all_ofExcept _).bind fun started =>
    (warnLogStall_quiet ..).bind fun _ => (heartbeatVerdict_quiet ..).bind fun verdict => ?_
  -- every verdict but `stale` goes on to the termination checks
  have hnext : ∀ tag : ReconcileTag, (if current.terminationReason.isSome then
        advanceTermination cfg command current now
      else if secondsNs command.val.maxRuntimeSeconds < now - started then
        beginRuntimeTermination cfg command now
      else Prog.ret tag).All Effect.Quiet := by
    intro tag
    split
    · exact advanceTermination_quiet ..
    · split
      · exact beginRuntimeTermination_quiet ..
      · trivial
  cases verdict with
  | stale => trivial
  | waived => exact hnext _
  | fresh => cases recorded <;> exact hnext _

theorem reconcileLive_quiet :
    (reconcileLive cfg command group row pid pgid now).All Effect.Quiet := by
  refine (all_attempt (recordLiveness_quiet ..)).bind fun result => ?_
  cases result with
  | ok recorded => exact superviseLive_quiet ..
  | error e => exact failClosed_report_quiet ..

theorem liveAmong_quiet (pgids : List Int) : (liveAmong pgids).All Effect.Quiet := by
  induction pgids with
  | nil => trivial
  | cons value rest ih =>
    exact (all_returned (all_ask trivial)).bind fun _ => ih.bind fun _ => trivial

theorem independentGroups_quiet : (independentGroups cfg command).All Effect.Quiet := by
  unfold independentGroups
  split
  · refine (all_returned (all_ask trivial)).bind fun answer => ?_
    cases answer with
    | other => trivial
    | value pgids =>
      exact (Prog.all_ofExcept _).bind fun _ => (Prog.all_ofExcept _).bind fun _ => trivial
  · trivial

theorem liveGroups_quiet : (liveGroups cfg command pgid).All Effect.Quiet := by
  refine (independentGroups_quiet ..).bind fun pgids => (liveAmong_quiet pgids).bind fun live => ?_
  split
  · exact (all_returned (all_ask trivial)).bind fun _ => trivial
  · trivial

theorem killOrphan_quiet : (killOrphan command pid pgid now).All Effect.Quiet := by
  have hrequest : (write (.requestAttemptTermination command.key
      "RESIDENT_SERVER_ORPHAN_AFTER_WRAPPER_EXIT" now)).All Effect.Quiet :=
    all_write (P := Effect.Quiet) trivial
  exact hrequest.bind fun _ => (deliverSignal_quiet ..).bind fun _ => deliverSignal_quiet ..

theorem reconcileOrphans_quiet :
    (reconcileOrphans cfg command group pid pgid now).All Effect.Quiet := by
  refine (query_quiet _).bind fun current => (Prog.all_ofExcept _).bind fun resident => ?_
  split
  · split
    · refine (all_attempt (killOrphan_quiet ..)).bind fun result => ?_
      cases result with
      | ok _ => exact record_report_quiet ..
      | error e => exact failClosed_report_quiet ..
    · split
      · exact failClosed_report_quiet ..
      · trivial
  · exact failClosed_report_quiet ..

theorem reconcileWrapperGroup_quiet : (reconcileWrapperGroup cfg command now).All Effect.Quiet := by
  refine (query_quiet _).bind fun current => ?_
  split
  · exact advanceTermination_quiet ..
  · exact failClosed_report_quiet ..

theorem collectTerminals_quiet (observation : ProcessObservation)
    (commands : List QueuedCommandSpec) (terminals : List (String × TerminalEvidence))
    (waiting : Bool) :
    (collectTerminals observation commands terminals waiting).All Effect.Quiet := by
  induction commands generalizing terminals waiting with
  | nil => trivial
  | cons command rest ih =>
    refine (query_quiet _).bind fun row => (all_returned (all_ask trivial)).bind fun answer => ?_
    cases answer with
    | other => trivial
    | value terminal =>
      cases terminal with
      | none => exact ih ..
      | some terminal => exact ih ..

theorem validateTerminals_quiet (observation : ProcessObservation) :
    (validateTerminals command group observation).All Effect.Quiet := by
  cases group with
  | none => exact (collectTerminals_quiet ..).bind fun _ => trivial
  | some group =>
    exact (query_quiet _).bind fun _ => (collectTerminals_quiet ..).bind fun _ => trivial

theorem recoverStart_quiet : (recoverStart command now).All Effect.Quiet := by
  refine (all_returned (all_ask trivial)).bind fun answer => ?_
  cases answer <;> trivial

/-! ## Retries -/

theorem buildRetry_retrying : (buildRetry command).All Effect.Retrying := by
  have hquiet {α : Type} {p : Sched α} (h : p.All Effect.Quiet) : p.All Effect.Retrying :=
    h.mono fun _ he => he.retrying
  have hmaterialize (spec : CellAttemptSpec) (t : Int) :
      (write (.materializeAttempt spec t)).All Effect.Retrying :=
    all_write (P := Effect.Retrying) (.inr trivial)
  have henqueue (retry : QueuedCommandSpec) (t : Int) :
      (write (.enqueueCommand retry t)).All Effect.Retrying :=
    all_write (P := Effect.Retrying) (.inr trivial)
  refine (all_returned (all_ask trivial)).bind fun answer => ?_
  cases answer with
  | other => trivial
  | value pair =>
    exact (Prog.all_ofExcept _).bind fun _ => (hquiet (query_quiet _)).bind fun _ =>
      (Prog.all_ofExcept _).bind fun _ => (Prog.all_ofExcept _).bind fun _ =>
      (hquiet storeNow_quiet).bind fun _ => (hmaterialize ..).bind fun _ =>
      (hquiet storeNow_quiet).bind fun _ => (henqueue ..).bind fun _ =>
      (hquiet now_quiet).bind fun _ => hquiet (record_quiet ..)

theorem materializeRetry_retrying : (materializeRetry cfg command).All Effect.Retrying := by
  unfold materializeRetry
  split
  · refine (all_attempt (buildRetry_retrying command)).bind fun result => ?_
    cases result with
    | ok _ => trivial
    | error e =>
      have hstop : (now.bind fun occurred =>
          (record "INFRASTRUCTURE_RETRY_BUILD_FAILED" command.key occurred).bind fun _ =>
            now.bind fun stopped =>
              setStop "infrastructure_retry_builder_failed" stopped).All Effect.Quiet :=
        now_quiet.bind fun _ => (record_quiet ..).bind fun _ => now_quiet.bind fun _ =>
          setStop_quiet ..
      exact hstop.mono fun _ he => he.retrying
  · trivial

theorem retryMember_retrying : (retryMember cfg command).All Effect.Retrying := by
  refine (all_query trivial _).bind fun previous => ?_
  split
  · refine (all_query trivial _).bind fun count => ?_
    split
    · exact materializeRetry_retrying cfg command
    · trivial
  · trivial

theorem materializeServingGroupRetries_retrying (group : GroupView)
    (commands : List QueuedCommandSpec) :
    (materializeServingGroupRetries cfg group commands).All Effect.Retrying := by
  unfold materializeServingGroupRetries
  split
  · exact Prog.All.forEach fun command _ => retryMember_retrying cfg command
  · trivial

/-! ## Releases -/

def leaseId (group : Option GroupView) : Option String := group.map (·.group.groupId)

section Release

variable {key : AttemptKey} {groupId : Option String} {α : Type}

theorem quiet_releasing {p : Sched α} (h : p.All Effect.Quiet) :
    p.All (Effect.Releasing key groupId) :=
  h.mono fun _ he => he.retrying.releasing

theorem retrying_releasing {p : Sched α} (h : p.All Effect.Retrying) :
    p.All (Effect.Releasing key groupId) :=
  h.mono fun _ he => he.releasing

theorem finishAttempt_releasing (args : FinishArgs) :
    (write (.finishAttempt key args)).All (Effect.Releasing key none) :=
  all_write (P := Effect.Releasing key none) (.inr (.inr ⟨rfl, rfl⟩))

theorem finishGroup_releasing (group : GroupView)
    (terminals : List (String × TerminalEvidence)) (automatic : Bool) (finished : Int) :
    (write (.finishPhysicalAttemptGroup group.group.groupId terminals automatic finished)).All
      (Effect.Releasing key (leaseId (some group))) :=
  all_write (P := Effect.Releasing key (leaseId (some group))) (.inr (.inr rfl))

theorem failSpawn_releasing (group : GroupView) (exceptionType : String) (automatic : Bool)
    (finished : Int) :
    (write (.failPhysicalAttemptGroupSpawn group.group.groupId exceptionType automatic
      finished)).All (Effect.Releasing key (leaseId (some group))) :=
  all_write (P := Effect.Releasing key (leaseId (some group))) (.inr (.inr rfl))

theorem failInfrastructure_releasing (group : GroupView)
    (failureCode exclusionReason : String) (evidence : EvidenceFiles) (automatic : Bool)
    (finished : Int) :
    (write (.failPhysicalAttemptGroupInfrastructure group.group.groupId failureCode
      exclusionReason evidence automatic finished)).All
      (Effect.Releasing key (leaseId (some group))) :=
  all_write (P := Effect.Releasing key (leaseId (some group))) (.inr (.inr rfl))

end Release

theorem finishInfrastructure_releasing (failureCode exclusionReason : String)
    (evidence : EvidenceFiles) (gpuSeconds : Except Error GpuSeconds) (finished : Int) :
    (finishInfrastructure cfg command failureCode exclusionReason evidence gpuSeconds
      finished).All (Effect.Releasing command.key none) := by
  refine (quiet_releasing (query_quiet _)).bind fun count => ?_
  refine (Prog.all_ofExcept _).bind fun _ => ?_
  refine (finishAttempt_releasing ..).bind fun _ => ?_
  split
  · exact retrying_releasing (materializeRetry_retrying cfg command)
  · trivial

theorem terminalizeForcedTermination_releasing (validatorError : Option Error) :
    (terminalizeForcedTermination cfg command group row now validatorError).All
      (Effect.Releasing command.key (leaseId group)) := by
  refine (quiet_releasing (collectPartialEvidence_quiet ..)).bind fun evidence => ?_
  cases group with
  | none =>
    exact (finishInfrastructure_releasing ..).bind fun _ => quiet_releasing (record_quiet ..)
  | some group =>
    exact (quiet_releasing (query_quiet _)).bind fun _ => (Prog.all_ofExcept _).bind fun _ =>
      (failInfrastructure_releasing group ..).bind fun _ =>
      retrying_releasing (materializeServingGroupRetries_retrying ..)

theorem finishFromTerminal_releasing (terminal : TerminalEvidence) :
    (finishFromTerminal cfg command terminal now).All (Effect.Releasing command.key none) := by
  refine (quiet_releasing (query_quiet _)).bind fun _ => ?_
  split
  · exact (finishAttempt_releasing ..).bind fun _ => quiet_releasing (record_quiet ..)
  · refine Prog.All.bind ?_ fun automatic => (finishAttempt_releasing ..).bind fun _ => ?_
    · unfold automaticRetry
      split
      · exact (quiet_releasing (query_quiet _)).bind fun _ => trivial
      · trivial
    · split
      · exact retrying_releasing (materializeRetry_retrying cfg command)
      · trivial
  · trivial

theorem reconcileWaiting_releasing (commands : List QueuedCommandSpec) :
    (reconcileWaiting cfg command group commands now).All
      (Effect.Releasing command.key (leaseId group)) := by
  refine (Prog.all_ofExcept _).bind fun resident => ?_
  split
  · rename_i group
    exact (quiet_releasing (collectPartialEvidence_quiet ..)).bind fun _ =>
      (failInfrastructure_releasing group ..).bind fun _ =>
      (retrying_releasing (materializeServingGroupRetries_retrying ..)).bind fun _ => trivial
  · exact quiet_releasing (record_report_quiet ..)

theorem reconcileSealed_releasing (commands : List QueuedCommandSpec)
    (terminals : List (String × TerminalEvidence)) :
    (reconcileSealed cfg command group commands terminals now).All
      (Effect.Releasing command.key (leaseId group)) := by
  unfold reconcileSealed
  split
  · split
    · trivial
    · exact (finishFromTerminal_releasing ..).bind fun _ => trivial
  · rename_i group
    refine (all_attempt (finishGroup_releasing group ..)).bind fun result => ?_
    cases result with
    | ok _ =>
      exact (retrying_releasing (materializeServingGroupRetries_retrying ..)).bind fun _ => trivial
    | error e => exact quiet_releasing (failClosed_report_quiet ..)

theorem reconcileTerminal_releasing (observation : ProcessObservation) :
    (reconcileTerminal cfg command group observation now).All
      (Effect.Releasing command.key (leaseId group)) := by
  refine (quiet_releasing (query_quiet _)).bind fun current =>
    (all_attempt (quiet_releasing (validateTerminals_quiet ..))).bind fun result => ?_
  have hforced (error : Option Error) :
      ((terminalizeForcedTermination cfg command group current now error).bind fun _ =>
        Prog.ret [(command.key, ReconcileTag.failed)]).All
        (Effect.Releasing command.key (leaseId group)) :=
    (terminalizeForcedTermination_releasing ..).bind fun _ => trivial
  cases result with
  | error e =>
    dsimp only
    split
    · exact hforced (some e)
    · exact quiet_releasing (failClosed_report_quiet ..)
  | ok validated =>
    dsimp only
    split
    · split
      · exact hforced none
      · exact reconcileWaiting_releasing ..
    · exact reconcileSealed_releasing ..

theorem reconcileExited_releasing (observation : ProcessObservation) :
    (reconcileExited cfg command group observation pid pgid now).All
      (Effect.Releasing command.key (leaseId group)) := by
  refine (all_attempt (quiet_releasing (liveGroups_quiet ..))).bind fun result => ?_
  cases result with
  | error e => exact quiet_releasing (failClosed_report_quiet ..)
  | ok live =>
    dsimp only
    split
    · exact (quiet_releasing (reconcileOrphans_quiet ..)).bind fun _ => trivial
    · split
      · exact (quiet_releasing (reconcileWrapperGroup_quiet ..)).bind fun _ => trivial
      · exact reconcileTerminal_releasing ..

theorem failMissingStart_releasing :
    (failMissingStart cfg command group now).All (Effect.Releasing command.key (leaseId group)) := by
  cases group with
  | none => exact finishInfrastructure_releasing ..
  | some group => exact failSpawn_releasing group ..

theorem failStart_standing (error : Error) : (failStart cfg command error).All Effect.Standing := by
  refine (all_query trivial _).bind fun group => ?_
  cases group with
  | none =>
    have h : (terminalizeSpawnFailure cfg command error).All
        (Effect.Releasing command.key none) :=
      (quiet_releasing now_quiet).bind fun _ => finishInfrastructure_releasing ..
    exact h.mono fun _ he => he.standing
  | some group =>
    have h : ((query fun s => s.physicalAttemptGroupCommands group.group.groupId).bind
        fun commands => now.bind fun finished =>
          (write (.failPhysicalAttemptGroupSpawn group.group.groupId error.kind.name
            cfg.retryBuilder finished)).bind fun _ =>
              materializeServingGroupRetries cfg group commands).All
        (Effect.Releasing command.key (leaseId (some group))) :=
      (quiet_releasing (query_quiet _)).bind fun _ => (quiet_releasing now_quiet).bind fun _ =>
        (failSpawn_releasing group ..).bind fun _ =>
        retrying_releasing (materializeServingGroupRetries_retrying ..)
    exact h.mono fun _ he => he.standing

/-! ## Reconciliation starts nothing -/

theorem quiet_standing {p : Sched α} (h : p.All Effect.Quiet) : p.All Effect.Standing :=
  h.mono fun _ he => (he.retrying.releasing : Effect.Releasing ⟨"", 0⟩ none _).standing

theorem observeProcess_standing :
    (observeProcess cfg command group row pid pgid now).All Effect.Standing := by
  refine (all_returned (all_ask trivial)).bind fun answer => ?_
  have hstop : ((setStop "invalid_process_probe_result" now).bind fun _ =>
      Prog.ret [(command.key, ReconcileTag.stopped)]).All Effect.Standing :=
    (quiet_standing (setStop_quiet ..)).bind fun _ => trivial
  cases answer with
  | other => exact hstop
  | value observation =>
    dsimp only
    split
    · exact hstop
    · split
      · exact (quiet_standing (reconcileLive_quiet ..)).bind fun _ => trivial
      · exact (reconcileExited_releasing ..).mono fun _ he => he.standing

theorem attachRecovered_standing (recovered : RecoveredProcessStart) :
    (attachRecovered cfg command group recovered now).All Effect.Standing := by
  refine (quiet_standing storeNow_quiet).bind fun attached => Prog.All.bind ?_ fun _ =>
    (quiet_standing (record_quiet ..)).bind fun _ => (all_query trivial _).bind fun row =>
    observeProcess_standing ..
  cases group with
  | none => exact all_write (P := Effect.Standing) (by simp [Effect.Standing,
      StoreOp.kinds, StoreOp.isClearDispatchStop, reconcileKinds])
  | some group => exact all_write (P := Effect.Standing) (by simp [Effect.Standing,
      StoreOp.kinds, StoreOp.isClearDispatchStop, reconcileKinds])

theorem reconcileUnattached_standing :
    (reconcileUnattached cfg command group row now).All Effect.Standing := by
  unfold reconcileUnattached
  split
  · refine (all_attempt (quiet_standing (recoverStart_quiet ..))).bind fun result => ?_
    cases result with
    | error e => exact quiet_standing (failClosed_report_quiet ..)
    | ok recovered =>
      cases recovered with
      | none =>
        dsimp only
        split
        · have hfail : (failMissingStart cfg command group now).All Effect.Standing :=
            (failMissingStart_releasing ..).mono fun _ he => he.standing
          exact hfail.bind fun _ => quiet_standing (record_report_quiet ..)
        · trivial
      | some recovered =>
        refine (Prog.all_ofExcept _).bind fun started => ?_
        split
        · exact quiet_standing (failClosed_report_quiet ..)
        · exact attachRecovered_standing ..
  · trivial

theorem reconcileOne_standing : (reconcileOne cfg now command).All Effect.Standing := by
  refine (all_query trivial _).bind fun row => (all_query trivial _).bind fun group => ?_
  split
  · exact observeProcess_standing ..
  · exact reconcileUnattached_standing ..

theorem reconcileRunning_standing : (reconcileRunning cfg).All Effect.Standing :=
  (quiet_standing now_quiet).bind fun _ => (all_query trivial _).bind fun _ =>
    (Prog.All.collect fun command _ => reconcileOne_standing cfg command _).bind fun _ =>
    (all_returned (all_ask trivial)).bind fun _ => trivial

/-! ## Dispatch -/

theorem stopForDisk_quiet (reason : String) :
    (stopForDisk eventType reason command).All Effect.Quiet :=
  now_quiet.bind fun _ => (record_quiet ..).bind fun _ => now_quiet.bind fun _ => setStop_quiet ..

theorem recordNow_launching (key : AttemptKey) :
    (recordNow eventType key).All Effect.Launching := by
  refine (all_ask trivial).bind fun occurred => all_write (P := Effect.Launching) ?_
  simp [Effect.Launching, StoreOp.kinds]

theorem launch_launching (gpus : List String) : (launch command gpus).All Effect.Launching := by
  refine (all_returned (Prog.all_perform.mpr trivial)).bind fun answer => ?_
  cases answer with
  | other => trivial
  | value process =>
    dsimp only
    split <;> trivial

theorem launchAndAttach_launching (gpus : List String) (key : AttemptKey)
    (spawnEvent attachEvent : String) (op : SpawnedProcess → Int → StoreOp)
    (hop : ∀ process t, (op process t).kinds ⊆ [.observe]) :
    (launchAndAttach command gpus key spawnEvent attachEvent op).All Effect.Launching := by
  refine ((launch_launching command gpus).onError fun _ => recordNow_launching ..).bind
    fun process => Prog.All.onError ?_ fun _ => recordNow_launching ..
  exact (all_ask trivial).bind fun t => all_returned (Prog.all_perform.mpr (hop process t))

/-- The part of a start that follows the claim of the rows. -/
theorem startAttempt_launching (gpus : List String) :
    (launchAndAttach command gpus command.key "SPAWN_OUTCOME_UNKNOWN"
      "PROCESS_METADATA_ATTACH_FAILED" fun process attached =>
        .attachProcess command.key process.pid process.pgid process.processStartReceiptSha256
          attached).All Effect.Launching :=
  launchAndAttach_launching _ _ _ _ _ _ fun _ _ => by simp [StoreOp.kinds]

theorem startGroup_launching (group : GroupView) (gpus : List String) :
    (launchAndAttach command gpus group.group.leader "PHYSICAL_GROUP_SPAWN_OUTCOME_UNKNOWN"
      "PHYSICAL_GROUP_PROCESS_METADATA_ATTACH_FAILED" fun process attached =>
        .attachPhysicalAttemptGroupProcess group.group.groupId process.pid process.pgid
          process.processStartReceiptSha256 attached).All Effect.Launching :=
  launchAndAttach_launching _ _ _ _ _ _ fun _ _ => by simp [StoreOp.kinds]

theorem startCommand_starting (gpus : List String) (started : Int) :
    (startCommand command gpus started).All Effect.Starting := by
  refine (all_query trivial _).bind fun group => ?_
  cases group with
  | none =>
    have hmark : (write (.markRunningBeforeSpawn command.key gpus started)).All
        Effect.Starting := all_write (P := Effect.Starting) (by simp [Effect.Starting,
          StoreOp.kinds])
    exact hmark.bind fun _ => (startAttempt_launching command gpus).mono fun _ h => h.starting
  | some group =>
    have hmark : (write (.startPhysicalAttemptGroup group.group.groupId gpus started)).All
        Effect.Starting := all_write (P := Effect.Starting) (by simp [Effect.Starting,
          StoreOp.kinds])
    exact hmark.bind fun _ => (startGroup_launching command group gpus).mono fun _ h => h.starting

end Scheduler

end Operator

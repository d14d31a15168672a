import LightConeSpec.Operator.Running

/-!
# A rule for cycles

`run_once` has one shape: reconcile, then select, pass the disk gate, start and
handle a failed start, until nothing is selected. `CycleRules` lists what an
invariant has to satisfy at each of these points, and `CycleRules.loopInvariant`
assembles the invariant of the whole cycle from them.
-/

namespace Operator

open Python Program Machine Store

/-- Reads and calls of callbacks. -/
def Effect.Reading : Effect → Prop
  | .read | .dispatchControl | .ask _ => True
  | .write _ | .attach _ | .launch .. => False

variable {e : Effect} {X : Error → World → Prop}

theorem Effect.Reading.quiet (h : e.Reading) : e.Quiet := by
  cases e with
  | read | dispatchControl | ask => trivial
  | write | attach | launch => exact h.elim

/-- A write of changes of the given kinds, or no write. -/
def Effect.Within (kinds : List ChangeKind) : Effect → Prop
  | .write op | .attach op => op.kinds ⊆ kinds
  | .read | .dispatchControl | .ask _ | .launch .. => True

theorem Effect.Standing.within (h : e.Standing) : e.Within reconcileKinds := by
  cases e with
  | write op => exact h.1
  | attach op => exact h.elim
  | read | dispatchControl | ask | launch => trivial

theorem Effect.Launching.within (h : e.Launching) : e.Within reconcileKinds := by
  cases e with
  | write op => exact List.Subset.trans h (by simp [reconcileKinds])
  | attach op => exact List.Subset.trans h (by simp [reconcileKinds])
  | read | dispatchControl | ask | launch => trivial

variable {w : World}

/-- An effect changes the store by changes of its kinds. -/
theorem Effect.Within.changes {kinds : List ChangeKind} (h : e.Within kinds)
    (hw : w.store.KeysNodup) (ω : Oracle) : Changes kinds w.store (w.handle ω e).2.store := by
  cases e with
  | read | dispatchControl | launch | ask => exact .refl _
  | write op => exact (step_changes hw op).mono h
  | attach op =>
    unfold World.handle
    split
    · exact .refl _
    · exact (step_changes hw op).mono h

/-- Reading leaves the store and the children as they are. -/
theorem Effect.Reading.handle (h : e.Reading) (w : World) (ω : Oracle) :
    (w.handle ω e).2.store = w.store ∧ (w.handle ω e).2.children = w.children := by
  cases e with
  | read | dispatchControl | ask => exact ⟨rfl, rfl⟩
  | write | attach | launch => exact h.elim

namespace Scheduler

variable {C : Contract Effect World Oracle}

theorem query_reading {α : Type} (f : Store → Except Error α) : (query f).All Effect.Reading :=
  all_query trivial f

theorem now_reading : now.All Effect.Reading :=
  (all_ask (P := Effect.Reading) trivial).bind fun _ => (Prog.all_ofExcept _).bind fun _ => trivial

theorem freeDiskBytes_reading (command : QueuedCommandSpec) :
    (freeDiskBytes command).All Effect.Reading := by
  refine (all_returned (all_ask trivial)).bind fun answer => ?_
  cases answer with
  | other => trivial
  | value free => exact (Prog.all_ofExcept _).bind fun _ => trivial

/-! ## Queries -/

/-- A query answers the store of some moment; it returns what it computes
there. -/
theorem wp_query {α : Type} {f : Store → Except Error α} {I : World → Prop} {Q : α → World → Prop}
    (hrely : ∀ w w', I w → C.rely w w' → I w')
    (hread : ∀ w ω, I w → C.allowed w ω .read → C.safe w ω .read)
    (hok : ∀ a w w', I w → f w.store = .ok a → C.rely w w' → Q a w')
    (herror : ∀ e w w', I w → C.rely w w' → X e w') (hw : I w) :
    wp World.handle C Q X (query f) w := by
  intro w' hw' ω hallowed
  have hI := hrely w w' hw hw'
  refine ⟨hread w' ω hI hallowed, ?_⟩
  show wp World.handle C Q X (Prog.ofExcept (f w'.store)) w'
  cases hf : f w'.store with
  | error e => exact fun w'' hw'' => herror e w' w'' hI hw''
  | ok a => exact fun w'' hw'' => hok a w' w'' hI hf hw''

/-- A transaction that commits, or raises and leaves the store as it was. -/
theorem wp_write {op : StoreOp} {Q : Unit → World → Prop}
    (h : ∀ w' ω, C.rely w w' → C.allowed w' ω (.write op) → C.safe w' ω (.write op) ∧
      match w'.store.apply op with
      | .ok s => ∀ w'', C.rely { w' with store := s } w'' → Q () w''
      | .error e => ∀ w'', C.rely w' w'' → X e w'') : wp World.handle C Q X (write op) w := by
  intro w' hw' ω hallowed
  obtain ⟨hsafe, hresult⟩ := h w' ω hw' hallowed
  refine ⟨hsafe, ?_⟩
  show wp World.handle C Q X (Prog.ofExcept (w'.transact op).1) (w'.transact op).2
  unfold World.transact Store.step
  cases happly : w'.store.apply op with
  | error e =>
    rw [happly] at hresult
    exact hresult
  | ok s =>
    rw [happly] at hresult
    exact hresult

/-! ## Starts -/

/-- The transaction that claims the rows of a start. -/
def claimOp (command : QueuedCommandSpec) (gpus : List String) (started : Int) :
    Option GroupView → StoreOp
  | none => .markRunningBeforeSpawn command.key gpus started
  | some view => .startPhysicalAttemptGroup view.group.groupId gpus started

/-- What a start does after its rows are claimed. -/
def afterClaim (command : QueuedCommandSpec) (gpus : List String) :
    Option GroupView → Sched Unit
  | none => launchAndAttach command gpus command.key "SPAWN_OUTCOME_UNKNOWN"
      "PROCESS_METADATA_ATTACH_FAILED" fun process attached =>
        .attachProcess command.key process.pid process.pgid process.processStartReceiptSha256
          attached
  | some view => launchAndAttach command gpus view.group.leader
      "PHYSICAL_GROUP_SPAWN_OUTCOME_UNKNOWN" "PHYSICAL_GROUP_PROCESS_METADATA_ATTACH_FAILED"
      fun process attached => .attachPhysicalAttemptGroupProcess view.group.groupId process.pid
        process.pgid process.processStartReceiptSha256 attached

theorem startCommand_eq (command : QueuedCommandSpec) (gpus : List String) (started : Int) :
    startCommand command gpus started =
      (query fun s => s.physicalAttemptGroupForAttempt command.key).bind fun view =>
        (write (claimOp command gpus started view)).bind fun _ =>
          afterClaim command gpus view := by
  refine congrArg _ (funext fun view => ?_)
  cases view with
  | none => rfl
  | some view => rfl

theorem afterClaim_launching (command : QueuedCommandSpec) (gpus : List String)
    (view : Option GroupView) : (afterClaim command gpus view).All Effect.Launching := by
  cases view with
  | none => exact startAttempt_launching command gpus
  | some view => exact startGroup_launching command view gpus

/-- A start: what the query of the group establishes carries the claim, and the
claim carries the launch. -/
theorem wp_startCommand {command : QueuedCommandSpec} {gpus : List String} {started : Int}
    {R : World → Prop} {V T : Option GroupView → World → Prop} {Q : Unit → World → Prop}
    (hrely : ∀ w w', R w → C.rely w w' → R w')
    (hread : ∀ w ω, R w → C.allowed w ω .read → C.safe w ω .read)
    (hview : ∀ view w w', R w → w.store.physicalAttemptGroupForAttempt command.key = .ok view →
      C.rely w w' → V view w') (herror : ∀ e w w', R w → C.rely w w' → X e w')
    (hclaim : ∀ view w w' ω, V view w → C.rely w w' →
      C.allowed w' ω (.write (claimOp command gpus started view)) →
      C.safe w' ω (.write (claimOp command gpus started view)) ∧
        match w'.store.apply (claimOp command gpus started view) with
        | .ok s => T view { w' with store := s }
        | .error e => ∀ w'', C.rely w' w'' → X e w'')
    (hlaunch : ∀ view w, T view w → wp World.handle C Q X (afterClaim command gpus view) w)
    (hw : R w) : wp World.handle C Q X (startCommand command gpus started) w := by
  rw [startCommand_eq]
  refine wp_bind (wp_query hrely hread (Q := fun view w => wp World.handle C Q X
    ((write (claimOp command gpus started view)).bind fun _ => afterClaim command gpus view) w)
    ?_ herror hw)
  intro view w w' hw hquery hw'
  refine wp_bind (wp_write fun w'' ω hw'' hallowed => ?_)
  obtain ⟨hsafe, hresult⟩ := hclaim view w' w'' ω (hview view w w' hw hquery hw') hw'' hallowed
  refine ⟨hsafe, ?_⟩
  cases happly : w''.store.apply (claimOp command gpus started view) with
  | error e =>
    rw [happly] at hresult
    exact hresult
  | ok s =>
    rw [happly] at hresult
    exact fun u hu => wp_rely (hlaunch view _ hresult) hu

/-! ## Selection -/

section Selection

variable {I : World → Prop} {S : Store → World → Prop}

/-- A command that `_select_dispatch` returns passed its checks on the stores
that its queries saw. `S s w` says that the world may be `w` some time after
a query saw `s`. -/
theorem wp_selectDispatch (envelope : InterferenceEnvelope)
    (hrely : ∀ w w', I w → C.rely w w' → I w')
    (hquiet : ∀ w ω e, e.Quiet → I w → C.allowed w ω e → C.safe w ω e ∧ I (w.handle ω e).2)
    (hseen : ∀ w, I w → S w.store w) (hseen_rely : ∀ s w w', I w → S s w → C.rely w w' → S s w')
    (hw : I w) : wp World.handle C
      (fun selected w => I w ∧ ∀ command gpus, selected = some (command, gpus) →
        ∃ s₁ s₂ s₃, (S s₁ w ∧ S s₂ w ∧ S s₃ w) ∧
          Selected envelope s₁.attempts (s₂.physicalCommands .running)
            (s₃.physicalCommands .pending) command gpus)
      (fun _ => I) (selectDispatch envelope) w := by
  -- the stores seen so far stay seen
  have hread {α : Type} (f : Store → α) (J : World → Prop)
      (hJ : ∀ w w', I w → J w → C.rely w w' → J w') {w : World} (hw : I w) (hw' : J w) :
      wp World.handle C (fun a w => I w ∧ J w ∧ ∃ s, a = f s ∧ S s w) (fun _ => I)
        (query fun s => .ok (f s)) w := by
    refine wp_query (I := fun w => I w ∧ J w) (fun w w' h hw' => ⟨hrely w w' h.1 hw',
      hJ w w' h.1 h.2 hw'⟩) (fun w ω h hallowed => (hquiet w ω .read trivial h.1 hallowed).1) ?_
      (fun e w w' h hw' => hrely w w' h.1 hw') ⟨hw, hw'⟩
    intro a w w' h ha hw'
    refine ⟨hrely w w' h.1 hw', hJ w w' h.1 h.2 hw', w.store, ?_, ?_⟩
    · injection ha with ha
      exact ha.symm
    · exact hseen_rely _ w w' h.1 (hseen w h.1) hw'
  have hstop (reason : String) {w : World} (hw : I w) :
      wp World.handle C
        (fun selected w => I w ∧ ∀ command gpus, selected = some (command, gpus) →
          ∃ s₁ s₂ s₃, (S s₁ w ∧ S s₂ w ∧ S s₃ w) ∧
            Selected envelope s₁.attempts (s₂.physicalCommands .running)
              (s₃.physicalCommands .pending) command gpus)
        (fun _ => I) (stopSelection reason) w := by
    refine wp_bind (wp_mono (wp_of_all hrely hquiet now_quiet hw) ?_ fun _ _ h => h)
    intro stopped w hw
    refine wp_bind (wp_mono (wp_of_all hrely hquiet (setStop_quiet ..) hw) ?_ fun _ _ h => h)
    intro _ w hw w' hw'
    exact ⟨hrely w w' hw hw', fun _ _ h => by cases h⟩
  refine wp_bind (wp_mono (hread _ (fun _ => True) (fun _ _ _ _ _ => trivial) hw trivial) ?_
    fun _ _ h => h)
  rintro rows w ⟨hw, -, s₁, rfl, hs₁⟩
  refine wp_bind (wp_mono (hread _ (S s₁) (fun w w' hI h hw' => hseen_rely _ w w' hI h hw')
    hw hs₁) ?_ fun _ _ h => h)
  rintro running w ⟨hw, hs₁, s₂, rfl, hs₂⟩
  have hboth : ∀ w w', I w → (S s₁ w ∧ S s₂ w) → C.rely w w' → S s₁ w' ∧ S s₂ w' :=
    fun w w' hI h hw' => ⟨hseen_rely _ w w' hI h.1 hw', hseen_rely _ w w' hI h.2 hw'⟩
  split
  · refine wp_bind (wp_mono (hread _ _ hboth hw ⟨hs₁, hs₂⟩) ?_ fun _ _ h => h)
    rintro preferred w ⟨hw, hseen₁₂, -⟩
    refine wp_bind (wp_mono (hread _ _ hboth hw hseen₁₂) ?_ fun _ _ h => h)
    rintro pending w ⟨hw, ⟨hs₁, hs₂⟩, s₃, rfl, hs₃⟩
    split
    · exact fun w' hw' => ⟨hrely w w' hw hw', fun _ _ h => by cases h⟩
    · exact hstop _ hw
    · rename_i command gpus hchoose
      intro w' hw'
      refine ⟨hrely w w' hw hw', ?_⟩
      rintro _ _ ⟨⟩
      have hselected := choose_eq_dispatch hchoose
      refine ⟨s₁, s₂, s₃, ⟨hseen_rely _ w w' hw hs₁ hw', hseen_rely _ w w' hw hs₂ hw',
        hseen_rely _ w w' hw hs₃ hw'⟩, { hselected with pending := ?_ }⟩
      exact (mem_sortedBy ..).mp hselected.pending
  · exact hstop _ hw

end Selection

/-! ## The rule -/

/-- What an invariant of the cycle satisfies. `I none` holds between cycles and
`I (some envelope)` at the head of the loop; `Ready` holds between the selection
of a command and its start, and `Failed` when a start has raised. -/
structure CycleRules (C : Contract Effect World Oracle) (cfg : SchedulerConfig)
    (I : Option InterferenceEnvelope → World → Prop)
    (Ready : InterferenceEnvelope → QueuedCommandSpec → List String → World → Prop)
    (Failed : InterferenceEnvelope → QueuedCommandSpec → World → Prop) : Prop where
  rely : ∀ envelope w w', I envelope w → C.rely w w' → I envelope w'
  forget : ∀ envelope w, I (some envelope) w → I none w
  configured : ∀ envelope w, I none w → w.store.envelope = some envelope → I (some envelope) w
  quiet : ∀ envelope w ω e, e.Quiet → I envelope w → C.allowed w ω e →
    C.safe w ω e ∧ I envelope (w.handle ω e).2
  reconcile : ∀ w, I none w →
    wp World.handle C (fun _ => I none) (fun _ => I none) (reconcileRunning cfg) w
  select : ∀ envelope w, I (some envelope) w → wp World.handle C
    (fun selected w => I (some envelope) w ∧ ∀ command gpus, selected = some (command, gpus) →
      Ready envelope command gpus w) (fun _ => I (some envelope)) (selectDispatch envelope) w
  ready : ∀ envelope command gpus w, Ready envelope command gpus w → I (some envelope) w
  ready_rely : ∀ envelope command gpus w w', Ready envelope command gpus w → C.rely w w' →
    Ready envelope command gpus w'
  ready_read : ∀ envelope command gpus w ω e, e.Reading → Ready envelope command gpus w →
    C.allowed w ω e → Ready envelope command gpus (w.handle ω e).2
  start : ∀ envelope command gpus started w, Ready envelope command gpus w →
    wp World.handle C (fun _ => I (some envelope))
      (fun e w => if e.isException = true then Failed envelope command w else I none w)
      (startCommand command gpus started) w
  fail : ∀ envelope command error w, Failed envelope command w →
    wp World.handle C (fun _ => I (some envelope)) (fun _ => I none)
      (failStart cfg command error) w

namespace CycleRules

variable {cfg : SchedulerConfig} {I : Option InterferenceEnvelope → World → Prop}
  {Ready : InterferenceEnvelope → QueuedCommandSpec → List String → World → Prop}
  {Failed : InterferenceEnvelope → QueuedCommandSpec → World → Prop}

/-- What holds at the head of the loop. -/
def loop (I : Option InterferenceEnvelope → World → Prop) : CycleState → World → Prop
  | .start => I none
  | .dispatch envelope .. => I (some envelope)

section

variable (h : CycleRules C cfg I Ready Failed)

include h

theorem wp_quiet {α : Type} {p : Sched α}
    (hp : p.All Effect.Quiet) {envelope : Option InterferenceEnvelope} (hw : I envelope w) :
    wp World.handle C (fun _ => I envelope) (fun _ => I envelope) p w :=
  wp_of_all (h.rely envelope) (h.quiet envelope) hp hw

theorem wp_reading {α : Type} {p : Sched α}
    (hp : p.All Effect.Reading) {envelope : InterferenceEnvelope} {command : QueuedCommandSpec}
    {gpus : List String} (hw : Ready envelope command gpus w) :
    wp World.handle C (fun _ => Ready envelope command gpus)
      (fun _ => Ready envelope command gpus) p w := by
  refine wp_of_all (h.ready_rely envelope command gpus) ?_ hp hw
  intro w ω e he hw hallowed
  exact ⟨(h.quiet _ w ω e he.quiet (h.ready _ _ _ w hw) hallowed).1,
    h.ready_read envelope command gpus w ω e he hw hallowed⟩

theorem wp_endCycle (reconciled : List Reconciled)
    (dispatched : List (AttemptKey × List String)) (hw : I none w) :
    wp World.handle C (Outcome (I none) (loop I)) (fun _ => I none)
      (endCycle reconciled dispatched) w := by
  refine wp_bind (wp_mono (h.wp_quiet dispatchControl_quiet hw) ?_ fun _ _ h => h)
  exact fun _ w hw w' hw' => h.rely none w w' hw hw'

theorem wp_dispatchSelected (envelope : InterferenceEnvelope)
    (reconciled : List Reconciled) (dispatched : List (AttemptKey × List String))
    (command : QueuedCommandSpec) (gpus : List String) (hw : Ready envelope command gpus w) :
    wp World.handle C (Outcome (I none) (loop I)) (fun _ => I none)
      (dispatchSelected cfg envelope reconciled dispatched command gpus) w := by
  refine wp_bind (wp_mono (h.wp_reading now_reading hw) ?_
    fun _ w hw => h.forget _ w (h.ready _ _ _ w hw))
  intro started w hw
  let Q : Except Error Unit → World → Prop := fun result w => match result with
    | .ok _ => I (some envelope) w
    | .error _ => Failed envelope command w
  refine wp_bind (wp_mono (wp_attempt (Q := Q) (X := fun _ => I none)
    (h.start envelope command gpus started w hw)) ?_ fun _ _ h => h)
  intro result w hw
  cases result with
  | error e =>
    -- the handler of a failed start, and a fresh read of the control
    refine wp_bind (wp_mono (h.fail envelope command e w hw) ?_ fun _ _ h => h)
    intro _ w hw
    refine wp_bind (wp_mono (h.wp_quiet dispatchControl_quiet hw) ?_ fun _ w hw => h.forget _ w hw)
    intro control w hw
    split
    · exact h.wp_endCycle _ _ (h.forget _ w hw)
    · exact fun w' hw' => h.rely _ w w' hw hw'
  | ok _ =>
    have hrecord : (write (.recordLaunchCompatibilityKey
        command.val.launchCompatibilityKey)).All Effect.Quiet :=
      all_write (P := Effect.Quiet) trivial
    refine wp_bind (wp_mono (h.wp_quiet hrecord hw) ?_ fun _ w hw => h.forget _ w hw)
    intro _ w hw
    refine wp_bind (wp_mono (h.wp_quiet now_quiet hw) ?_ fun _ w hw => h.forget _ w hw)
    intro occurred w hw
    refine wp_bind (wp_mono (h.wp_quiet (record_quiet ..) hw) ?_ fun _ w hw => h.forget _ w hw)
    exact fun _ w hw w' hw' => h.rely _ w w' hw hw'

theorem wp_gateSelected (envelope : InterferenceEnvelope)
    (reconciled : List Reconciled) (dispatched : List (AttemptKey × List String))
    (command : QueuedCommandSpec) (gpus : List String) (hw : Ready envelope command gpus w) :
    wp World.handle C (Outcome (I none) (loop I)) (fun _ => I none)
      (gateSelected cfg envelope reconciled dispatched command gpus) w := by
  have hready (w : World) (hw : Ready envelope command gpus w) : I none w :=
    h.forget _ w (h.ready _ _ _ w hw)
  have hstop (eventType reason : String) {w : World} (hw : Ready envelope command gpus w) :
      wp World.handle C (Outcome (I none) (loop I)) (fun _ => I none)
        ((stopForDisk eventType reason command).bind fun _ => endCycle reconciled dispatched)
        w := by
    refine wp_bind (wp_mono (h.wp_quiet (stopForDisk_quiet ..) (hready w hw)) ?_ fun _ _ h => h)
    intro _ w hw
    exact h.wp_endCycle _ _ hw
  refine wp_bind (wp_mono (h.wp_reading (query_reading _) hw) ?_ fun _ w hw => hready w hw)
  intro running w hw
  refine wp_bind (wp_mono (h.wp_reading (all_attempt (freeDiskBytes_reading command)) hw) ?_
    fun _ w hw => hready w hw)
  intro result w hw
  cases result with
  | error e => exact hstop _ _ hw
  | ok free =>
    dsimp only
    split
    · exact h.wp_dispatchSelected envelope reconciled dispatched command gpus hw
    · exact hstop _ _ hw

/-- The invariant of `run_once`. -/
theorem loopInvariant : LoopInvariant World.handle C (runOnce cfg) .start (I none) (loop I) where
  idle_rely := h.rely none
  loop_start := fun _ hw => hw
  loop_body := by
    intro c w hw
    cases c with
    | start =>
      refine wp_bind (wp_mono (h.reconcile w hw) ?_ fun _ _ h => h)
      intro reconciled w hw
      refine wp_bind (wp_mono (h.wp_quiet dispatchControl_quiet hw) ?_ fun _ _ h => h)
      intro control w hw
      split
      · exact fun w' hw' => h.rely none w w' hw hw'
      · -- the envelope of the loop is the one of the store
        have hquery : wp World.handle C (fun envelope => I (some envelope)) (fun _ => I none)
            (query fun s => s.interferenceEnvelope) w := by
          refine wp_query (I := I none) (h.rely none)
            (fun w ω hw hallowed => (h.quiet none w ω .read trivial hw hallowed).1) ?_
            (fun _ w w' hw hw' => h.rely none w w' hw hw') hw
          intro envelope w w' hw henvelope hw'
          refine h.rely _ w w' (h.configured envelope w hw ?_) hw'
          unfold Store.interferenceEnvelope at henvelope
          split at henvelope
          · rename_i hsome
            injection henvelope with henvelope
            rw [hsome, henvelope]
          · cases henvelope
        refine wp_bind (wp_mono hquery ?_ fun _ _ h => h)
        exact fun envelope w hw w' hw' => h.rely _ w w' hw hw'
    | dispatch envelope reconciled dispatched =>
      refine wp_bind (wp_mono (h.select envelope w hw) ?_ fun _ w hw => h.forget _ w hw)
      intro selected w hw
      cases selected with
      | none => exact h.wp_endCycle reconciled dispatched (h.forget _ w hw.1)
      | some pair =>
        obtain ⟨command, gpus⟩ := pair
        exact h.wp_gateSelected envelope reconciled dispatched command gpus (hw.2 command gpus rfl)

end

end CycleRules

/-! ## Runs without other processes -/

/-- No other process calls the store. -/
def NoCall : Input Oracle Foreign → Prop
  | .interfere (.call _) => False
  | _ => True

instance (input : Input Oracle Foreign) : Decidable (NoCall input) := by
  induction input using Input.casesOn with
  | interfere foreign =>
    induction foreign using Foreign.casesOn <;> unfold NoCall <;> infer_instance
  | _ => exact instDecidableTrue

/-- A foreign action other than a call leaves the store as it is. -/
theorem NoCall.foreign_store {i : Foreign} (h : NoCall (.interfere i)) (w : World) :
    (w.foreign i).store = w.store := by
  cases i with
  | exit child => rfl
  | call op => exact h.elim

/-- A store that was built by calls has distinct keys. -/
theorem final_wellFormed (setup : List StoreOp) : (final Store.step Store.empty setup).WellFormed := by
  have hstep : ∀ (s : Store) (op : StoreOp), s.WellFormed → True → (s.step op).2.WellFormed :=
    fun s op hs _ => step_wellFormed hs op
  exact (trace_invariant hstep .empty (fun _ _ => trivial)).2

end Scheduler

end Operator

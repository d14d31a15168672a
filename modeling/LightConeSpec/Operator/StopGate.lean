import LightConeSpec.Operator.Footprint

/-!
# The durable STOP gate

`run_once` reads the dispatch control before its loop and after a failed
start, and every STOP that it sets itself ends the loop. So the committed
state at a launch is `RUN` unless another process committed a STOP after the
last read. That window is real: nothing reads the control between the
selection of a command and its launch.
-/

namespace Operator

open Python Program Machine Store

/-! ## The committed state -/

variable {s : Store} {op : StoreOp}

/-- Only the two operations on the dispatch state change it. -/
theorem Store.Change.dispatchState {kind : ChangeKind} {t : Store} (h : Change kind s t)
    (hkind : kind ≠ .dispatch) : t.dispatchState = s.dispatchState := by
  cases h with
  | dispatch => exact absurd rfl hkind
  | settings _ hcontrol => exact hcontrol.dispatchState
  | auxStart _ hstate _ => exact hstate
  | envelope _ hstate _ => exact hstate
  | rows | materialize | legacy | enqueue | insertGroup | insertMember | groupStart
  | groupFinish => rfl

theorem Store.Changes.dispatchState {kinds : List ChangeKind} {t : Store}
    (h : Changes kinds s t) (hkinds : ChangeKind.dispatch ∉ kinds) :
    t.dispatchState = s.dispatchState := by
  refine h.relation (R := fun s t => t.dispatchState = s.dispatchState) (fun _ => rfl)
    (fun _ _ _ hst htu => htu.trans hst) ?_
  intro kind hkind s t hchange
  exact hchange.dispatchState fun heq => hkinds (heq ▸ hkind)

/-- A call leaves the dispatch state alone, stops, or is a clear. -/
theorem Store.step_dispatchState (hs : s.KeysNodup) (op : StoreOp) :
    (s.step op).2.dispatchState = s.dispatchState ∨
      ((op.isSetDispatchStop && (s.apply op).isOk) = true ∧ (s.step op).2.dispatchState = .stop) ∨
      (op.isClearDispatchStop = true ∧ (s.step op).2.dispatchState = .run) := by
  by_cases hkind : ChangeKind.dispatch ∈ op.kinds
  · cases op with
    | setDispatchStop reason stopped =>
      unfold Store.step
      cases happly : s.apply (.setDispatchStop reason stopped) with
      | error e => exact .inl rfl
      | ok s' => exact .inr (.inl ⟨rfl, (setDispatchStop_change happly).2⟩)
    | clearDispatchStop reason evidence cleared =>
      unfold Store.step
      cases happly : s.apply (.clearDispatchStop reason evidence cleared) with
      | error e => exact .inl rfl
      | ok s' => exact .inr (.inr ⟨rfl, (clearDispatchStop_change happly).2⟩)
    | _ => simp [StoreOp.kinds] at hkind
  · exact .inl ((step_changes hs op).dispatchState hkind)

variable {w : World}

namespace Scheduler

/-! ## The contract -/

/-- Another process set no STOP since the last read, or the read is out of
date: the committed state is the one the scheduler acted on. -/
def GateHolds (w : World) : Prop :=
  w.store.KeysNodup ∧ (w.stopSinceGate = false → w.store.dispatchState = .run)

/-- What other processes do to the gate: a STOP of theirs is remembered. -/
def GateRely (w w' : World) : Prop :=
  (w.store.KeysNodup → w'.store.KeysNodup) ∧
    (w'.stopSinceGate = false → w.stopSinceGate = false ∧
      (w'.store.dispatchState = .stop → w.store.dispatchState = .stop))

/-- A launch while nobody else has set a STOP since the last read happens while
the committed state is `RUN`, and the scheduler never clears a STOP. -/
def gateContract : Contract Effect World Oracle where
  rely := GateRely
  rely_refl := fun _ => ⟨id, fun h => ⟨h, id⟩⟩
  rely_trans := by
    intro s t u hst htu
    refine ⟨fun h => htu.1 (hst.1 h), fun h => ?_⟩
    obtain ⟨ht, hstop⟩ := htu.2 h
    obtain ⟨hs, hstop'⟩ := hst.2 ht
    exact ⟨hs, fun hu => hstop' (hstop hu)⟩
  allowed w _ e := ∀ command gpus, e = .launch command gpus → w.stopSinceGate = false
  safe w _ e := match e with
    | .launch .. => w.store.dispatchState = .run
    | .write op | .attach op => op.isClearDispatchStop = false
    | _ => True

theorem GateHolds.rely {w' : World} (h : GateHolds w) (hrely : GateRely w w') : GateHolds w' := by
  refine ⟨hrely.1 h.1, fun hgate => ?_⟩
  obtain ⟨hgate', hstop⟩ := hrely.2 hgate
  cases hstate : w'.store.dispatchState with
  | run => rfl
  | stop =>
    have hrun := h.2 hgate'
    rw [hstop hstate] at hrun
    cases hrun

/-- A foreign action respects the gate. -/
theorem foreign_gateRely (hw : w.store.KeysNodup) (i : Foreign) : GateRely w (w.foreign i) := by
  cases i with
  | exit child => exact ⟨id, fun h => ⟨h, id⟩⟩
  | call op =>
    refine ⟨fun h => (step_changes h op).keysNodup h, fun h => ?_⟩
    simp only [World.foreign, Bool.or_eq_false_iff] at h
    refine ⟨h.1, fun hstop => ?_⟩
    rcases step_dispatchState hw op with hsame | ⟨hset, _⟩ | ⟨_, hrun⟩
    · exact hsame.symm.trans hstop
    · rw [h.2] at hset
      cases hset
    · have hrun' : (w.foreign (.call op)).store.dispatchState = .run := hrun
      rw [hstop] at hrun'
      cases hrun'

/-! ## Every effect against the gate -/

/-- A transaction outside the dispatch state keeps the gate. -/
theorem GateHolds.transact (h : GateHolds w) (hop : ChangeKind.dispatch ∉ op.kinds) :
    GateHolds (w.transact op).2 := by
  have hchanges := step_changes h.1 op
  refine ⟨hchanges.keysNodup h.1, fun hgate => ?_⟩
  exact (hchanges.dispatchState hop).trans (h.2 hgate)

/-- A clear is a change of the dispatch state. -/
theorem dispatch_mem_kinds (h : op.isClearDispatchStop = true) :
    ChangeKind.dispatch ∈ op.kinds := by
  cases op with
  | clearDispatchStop => simp [StoreOp.kinds]
  | _ => cases h

theorem not_clear (h : ChangeKind.dispatch ∉ op.kinds) : op.isClearDispatchStop = false :=
  Bool.eq_false_iff.mpr fun hclear => h (dispatch_mem_kinds hclear)

/-- The start of a command is safe and keeps the gate. -/
theorem starting_gate (w : World) (ω : Oracle) (e : Effect) (he : e.Starting) (hw : GateHolds w)
    (hallowed : gateContract.allowed w ω e) :
    gateContract.safe w ω e ∧ GateHolds (w.handle ω e).2 := by
  cases e with
  | read => exact ⟨trivial, hw⟩
  | ask query => exact ⟨trivial, hw⟩
  | dispatchControl => exact he.elim
  | write op =>
    have hop : ChangeKind.dispatch ∉ op.kinds := fun hmem => by simpa using he hmem
    exact ⟨not_clear hop, hw.transact hop⟩
  | attach op =>
    have hop : ChangeKind.dispatch ∉ op.kinds := fun hmem => by simpa using he hmem
    refine ⟨not_clear hop, ?_⟩
    unfold World.handle
    split
    · exact hw
    · exact hw.transact hop
  | launch command gpus =>
    -- the gate was read as RUN and nobody else has set a STOP since
    exact ⟨hw.2 (hallowed command gpus rfl), hw⟩

/-- Any other effect is safe; it may set a STOP. -/
theorem standing_gate (w : World) (ω : Oracle) (e : Effect) (he : e.Standing)
    (hw : w.store.KeysNodup) (_ : gateContract.allowed w ω e) :
    gateContract.safe w ω e ∧ (w.handle ω e).2.store.KeysNodup := by
  refine ⟨?_, handle_keysNodup hw ω e⟩
  cases e with
  | read | ask | dispatchControl => trivial
  | write op => exact he.2
  | attach op => exact he.elim
  | launch command gpus => exact he.elim

theorem wp_standing_gate {α : Type} {p : Sched α} (hp : p.All Effect.Standing)
    (hw : w.store.KeysNodup) :
    wp World.handle gateContract (fun _ w => w.store.KeysNodup) (fun _ w => w.store.KeysNodup)
      p w :=
  wp_of_all (fun _ _ h (hrely : GateRely _ _) => hrely.1 h) standing_gate hp hw

theorem wp_starting_gate {α : Type} {p : Sched α} (hp : p.All Effect.Starting) (hw : GateHolds w) :
    wp World.handle gateContract (fun _ => GateHolds) (fun _ => GateHolds) p w :=
  wp_of_all (fun _ _ h (hrely : GateRely _ _) => h.rely hrely) starting_gate hp hw

/-! ## The loop -/

/-- At the head of the loop the gate holds. -/
def gateLoop : CycleState → World → Prop
  | .start, w => w.store.KeysNodup
  | .dispatch .., w => GateHolds w

/-- What a round of the loop leaves. -/
abbrev GateOutcome : CycleState ⊕ CycleResult → World → Prop :=
  Outcome (fun w => w.store.KeysNodup) gateLoop

theorem wp_endCycle_gate (reconciled : List Reconciled)
    (dispatched : List (AttemptKey × List String)) (hw : w.store.KeysNodup) :
    wp World.handle gateContract GateOutcome (fun _ w => w.store.KeysNodup)
      (endCycle reconciled dispatched) w := by
  intro w' hrely ω _
  refine ⟨trivial, fun w'' hrely' => ?_⟩
  exact (hrely' : GateRely _ _).1 ((hrely : GateRely _ _).1 hw)

/-- A selection that returns a command set no STOP. -/
theorem wp_selectDispatch_gate (envelope : InterferenceEnvelope) (hw : GateHolds w) :
    wp World.handle gateContract
      (fun selected w => w.store.KeysNodup ∧ (selected.isSome = true → GateHolds w))
      (fun _ w => w.store.KeysNodup) (selectDispatch envelope) w := by
  have hstop (reason : String) {w : World} (hw : GateHolds w) :
      wp World.handle gateContract
        (fun selected w => w.store.KeysNodup ∧ (selected.isSome = true → GateHolds w))
        (fun _ w => w.store.KeysNodup) (stopSelection reason) w := by
    refine wp_bind (wp_mono (wp_standing_gate (quiet_standing now_quiet) hw.1) ?_ fun _ _ h => h)
    intro stopped w hw
    refine wp_bind (wp_mono (wp_standing_gate (quiet_standing (setStop_quiet ..)) hw) ?_
      fun _ _ h => h)
    intro _ w hw w' hrely
    exact ⟨(hrely : GateRely _ _).1 hw, by simp⟩
  have hquery {α : Type} (f : Store → Except Error α) {w : World} (hw : GateHolds w) :
      wp World.handle gateContract (fun _ => GateHolds) (fun _ w => w.store.KeysNodup)
        (query f) w :=
    wp_mono (wp_starting_gate (all_query trivial f) hw) (fun _ _ h => h) fun _ _ h => h.1
  refine wp_bind (wp_mono (hquery _ hw) ?_ fun _ _ h => h)
  intro rows w hw
  refine wp_bind (wp_mono (hquery _ hw) ?_ fun _ _ h => h)
  intro running w hw
  split
  · refine wp_bind (wp_mono (hquery _ hw) ?_ fun _ _ h => h)
    intro preferred w hw
    refine wp_bind (wp_mono (hquery _ hw) ?_ fun _ _ h => h)
    intro pending w hw
    split
    · exact fun w' hrely => ⟨(hw.rely hrely).1, by simp⟩
    · exact hstop _ hw
    · exact fun w' hrely => ⟨(hw.rely hrely).1, fun _ => hw.rely hrely⟩
  · exact hstop _ hw

/-- The gate holds after the control was read as `RUN`. -/
theorem wp_dispatchControl_gate (hw : w.store.KeysNodup) : wp World.handle gateContract
      (fun control w => w.store.KeysNodup ∧ (control.1 ≠ .stop → GateHolds w))
      (fun _ w => w.store.KeysNodup) dispatchControl w := by
  refine wp_dispatchControl fun w' ω hrely _ => ⟨trivial, fun w'' hrely' => ?_⟩
  have hkeys := (hrely : GateRely _ _).1 hw
  refine ⟨(hrely' : GateRely _ _).1 hkeys, fun hrun => ?_⟩
  refine GateHolds.rely (w := { w' with stopSinceGate := false }) ⟨hkeys, fun _ => ?_⟩ hrely'
  cases hstate : w'.store.dispatchState with
  | run => rfl
  | stop => exact absurd hstate hrun

/-- After a failed start the control is read again. -/
theorem wp_dispatchSelected_gate (cfg : SchedulerConfig) (envelope : InterferenceEnvelope)
    (reconciled : List Reconciled) (dispatched : List (AttemptKey × List String))
    (command : QueuedCommandSpec) (gpus : List String) (hw : GateHolds w) :
    wp World.handle gateContract GateOutcome (fun _ w => w.store.KeysNodup)
      (dispatchSelected cfg envelope reconciled dispatched command gpus) w := by
  have hnow : now.All Effect.Starting :=
    (all_ask trivial).bind fun _ => (Prog.all_ofExcept _).bind fun _ => trivial
  refine wp_bind (wp_mono (wp_starting_gate hnow hw) ?_ fun _ _ h => h.1)
  intro started w hw
  refine wp_bind (wp_mono (wp_starting_gate (all_attempt (startCommand_starting ..)) hw) ?_
    fun _ _ h => h.1)
  intro result w hw
  cases result with
  | error e =>
    refine wp_bind (wp_mono (wp_standing_gate (failStart_standing ..) hw.1) ?_ fun _ _ h => h)
    intro _ w hw
    refine wp_bind (wp_mono (wp_dispatchControl_gate hw) ?_ fun _ _ h => h)
    intro control w hw
    split
    · exact wp_endCycle_gate _ _ hw.1
    · rename_i hrun
      exact fun w' hrely => (hw.2 hrun).rely hrely
  | ok _ =>
    have hrecord : (write (.recordLaunchCompatibilityKey
        command.val.launchCompatibilityKey)).All Effect.Starting :=
      all_write (P := Effect.Starting) (by simp [Effect.Starting, StoreOp.kinds])
    have hevent (occurred : Int) : (record "COMMAND_DISPATCHED" command.key occurred).All
        Effect.Starting :=
      all_write (P := Effect.Starting) (by simp [Effect.Starting, StoreOp.kinds])
    refine wp_bind (wp_mono (wp_starting_gate hrecord hw) ?_ fun _ _ h => h.1)
    intro _ w hw
    refine wp_bind (wp_mono (wp_starting_gate hnow hw) ?_ fun _ _ h => h.1)
    intro occurred w hw
    refine wp_bind (wp_mono (wp_starting_gate (hevent occurred) hw) ?_ fun _ _ h => h.1)
    intro _ w hw
    exact fun w' hrely => hw.rely hrely

/-- The checks between the gate and the start leave the gate as it was. -/
theorem wp_gateSelected_gate (cfg : SchedulerConfig) (envelope : InterferenceEnvelope)
    (reconciled : List Reconciled) (dispatched : List (AttemptKey × List String))
    (command : QueuedCommandSpec) (gpus : List String) (hw : GateHolds w) :
    wp World.handle gateContract GateOutcome (fun _ w => w.store.KeysNodup)
      (gateSelected cfg envelope reconciled dispatched command gpus) w := by
  have hdisk : (freeDiskBytes command).All Effect.Starting := by
    refine (all_returned (all_ask trivial)).bind fun answer => ?_
    cases answer with
    | other => trivial
    | value free => exact (Prog.all_ofExcept _).bind fun _ => trivial
  have hstop (eventType reason : String) {w : World} (hw : GateHolds w) :
      wp World.handle gateContract GateOutcome (fun _ w => w.store.KeysNodup)
        ((stopForDisk eventType reason command).bind fun _ => endCycle reconciled dispatched) w := by
    refine wp_bind (wp_mono (wp_standing_gate (quiet_standing (stopForDisk_quiet ..)) hw.1) ?_
      fun _ _ h => h)
    intro _ w hw
    exact wp_endCycle_gate _ _ hw
  refine wp_bind (wp_mono (wp_starting_gate (all_query trivial _) hw) ?_ fun _ _ h => h.1)
  intro running w hw
  refine wp_bind (wp_mono (wp_starting_gate (all_attempt hdisk) hw) ?_ fun _ _ h => h.1)
  intro result w hw
  cases result with
  | error e => exact hstop _ _ hw
  | ok free =>
    dsimp only
    split
    · exact wp_dispatchSelected_gate cfg envelope reconciled dispatched command gpus hw
    · exact hstop _ _ hw

/-- `run_once` meets the gate contract. -/
theorem runOnce_gate (cfg : SchedulerConfig) : LoopInvariant World.handle gateContract
    (runOnce cfg) .start (fun w => w.store.KeysNodup) gateLoop where
  idle_rely := fun _ _ h (hrely : GateRely _ _) => hrely.1 h
  loop_start := fun _ h => h
  loop_body := by
    intro c w hw
    cases c with
    | start =>
      refine wp_bind (wp_mono (wp_standing_gate (reconcileRunning_standing cfg) hw) ?_
        fun _ _ h => h)
      intro reconciled w hw
      refine wp_bind (wp_mono (wp_dispatchControl_gate hw) ?_ fun _ _ h => h)
      intro control w hw
      split
      · exact fun w' hrely => (hrely : GateRely _ _).1 hw.1
      · rename_i hrun
        refine wp_bind (wp_mono (wp_starting_gate (all_query trivial _) (hw.2 hrun)) ?_
          fun _ _ h => h.1)
        intro envelope w hw w' hrely'
        exact hw.rely hrely'
    | dispatch envelope reconciled dispatched =>
      refine wp_bind (wp_mono (wp_selectDispatch_gate envelope hw) ?_ fun _ _ h => h)
      intro selected w hw
      cases selected with
      | none => exact wp_endCycle_gate reconciled dispatched hw.1
      | some pair =>
        obtain ⟨command, gpus⟩ := pair
        exact wp_gateSelected_gate cfg envelope reconciled dispatched command gpus (hw.2 rfl)

/-! ## Every run -/

/-- A call that ends a STOP is a clear. -/
theorem isClear_of_run (hs : s.KeysNodup) (hstop : s.dispatchState = .stop)
    (hrun : (s.step op).2.dispatchState = .run) : op.isClearDispatchStop = true := by
  rcases step_dispatchState hs op with hsame | ⟨_, hset⟩ | ⟨hclear, _⟩
  · rw [hsame, hstop] at hrun
    cases hrun
  · rw [hset] at hrun
    cases hrun
  · exact hclear

/-- No safe effect of the scheduler ends a STOP. -/
theorem stop_of_safe (hw : w.store.KeysNodup) {ω : Oracle} {e : Effect}
    (hsafe : gateContract.safe w ω e) (hstop : w.store.dispatchState = .stop) :
    (w.handle ω e).2.store.dispatchState ≠ .run := by
  have hwrite {op : StoreOp} (hop : op.isClearDispatchStop = false) :
      (w.transact op).2.store.dispatchState ≠ .run := by
    intro hrun
    rw [isClear_of_run hw hstop hrun] at hop
    cases hop
  have hsame : w.store.dispatchState ≠ .run := by simp [hstop]
  cases e with
  | read | dispatchControl | launch | ask => exact hsame
  | write op => exact hwrite hsafe
  | attach op =>
    unfold World.handle
    split
    · exact hsame
    · exact hwrite hsafe

/-- The process is about to call the launch callback. -/
def launching (q : Daemon) : Bool :=
  match q.next with
  | some (.launch ..) => true
  | _ => false

/-- No other process has committed a STOP between the last read of the dispatch
control and a launch. -/
def GateCurrent (q : Daemon) : Input Oracle Foreign → Prop
  | .resume _ => launching q = true → q.state.stopSinceGate = false
  | _ => True

instance (q : Daemon) (input : Input Oracle Foreign) : Decidable (GateCurrent q input) := by
  induction input using Input.casesOn <;> unfold GateCurrent <;> infer_instance

/-- The step launches nothing while the committed state is `STOP`, and ends a
STOP only as a clear by another process. -/
def GateKept (ev : Event Daemon (Input Oracle Foreign) (Option Effect)) : Prop :=
  (∀ command gpus, ev.output = some (.launch command gpus) →
    ev.pre.state.store.dispatchState = .run) ∧
  (ev.pre.state.store.dispatchState = .stop → ev.post.state.store.dispatchState = .run →
    ∃ op, ev.input = .interfere (.call op) ∧ op.isClearDispatchStop = true)

/-- In every interleaving with other processes whose STOPs never fall between
the last read of the gate and a launch, every step keeps the gate. -/
theorem launch_only_while_run (cfg : SchedulerConfig) (inputs : List (Input Oracle Foreign))
    (hgate : ∀ ev ∈ trace (step cfg) (boot Store.empty) inputs, GateCurrent ev.pre ev.input) :
    ∀ ev ∈ trace (step cfg) (boot Store.empty) inputs, GateKept ev := by
  have hempty : (boot Store.empty).state.store.KeysNodup := List.nodup_nil
  have hkeys : ∀ ev ∈ trace (step cfg) (boot Store.empty) inputs,
      ev.pre.state.store.KeysNodup ∧ ev.post.state.store.KeysNodup := trace_keysNodup cfg hempty
  have hrun : ∀ ev ∈ trace (step cfg) (boot Store.empty) inputs,
      Respects gateContract World.foreign ev.pre ev.input := by
    intro ev hev
    cases hinput : ev.input with
    | begin => trivial
    | interfere i => exact foreign_gateRely (hkeys ev hev).1 i
    | resume ω =>
        intro e hnext command gpus he
        have hcurrent := hgate ev hev
        rw [hinput] at hcurrent
        exact hcurrent (by simp [launching, hnext, he])
  have hsafe := (run_safe (runOnce_gate cfg) (q := boot Store.empty) hempty hrun).1
  intro ev hev
  have hevent := eq_event_of_mem_trace hev
  obtain ⟨_, hev_safe⟩ := hsafe ev hev
  refine ⟨fun command gpus hout => ?_, fun hstop hpost => ?_⟩
  · rw [hevent] at hout
    -- a launch effect stands in the gate of its own call
    obtain ⟨ω, hinput, hnext, _⟩ := step_output hout
    exact hev_safe ω _ hinput hnext
  · have hpost' : (step cfg ev.pre ev.input).2.state.store.dispatchState = .run := by
      rw [hevent] at hpost
      exact hpost
    cases hout : (step cfg ev.pre ev.input).1 with
    | some e =>
        obtain ⟨ω, hinput, hnext, hstate⟩ := step_output hout
        -- the loop never clears a stop itself
        refine absurd ?_ (stop_of_safe (hkeys ev hev).1 (hev_safe ω e hinput hnext) hstop)
        rw [← hstate]
        exact hpost'
    | none =>
        rcases step_silent hout with hsame | ⟨i, hinput, hstate⟩
        · rw [step, hsame, hstop] at hpost'
          cases hpost'
        · rw [step, hstate] at hpost'
          cases i with
          -- a child that exits writes nothing to the store
          | exit child =>
              rw [World.foreign, hstop] at hpost'
              cases hpost'
          | call op =>
              exact ⟨op, hinput, isClear_of_run (hkeys ev hev).1 hstop hpost'⟩

/-- One queued command on one GPU. -/
def Sample.single : List (Input Oracle Foreign) :=
  Sample.calls (Sample.plan Sample.oneGpu ++
    Sample.enqueue (Sample.command "a" 1 "/a") "/a" Sample.attempt_checks Sample.command_checks)

/-- A cycle that launches, with a STOP of another process before the cycle that
was cleared in time. -/
theorem launch_only_while_run_single :
    (trace (step {}) (boot Store.empty) (Sample.single ++
        Sample.calls [.setDispatchStop "maintenance" 2, .clearDispatchStop "done" none 3] ++
        Sample.cycle 16 (Sample.oracle 10))).any (fun ev => launching ev.pre) = true ∧
      ∀ ev ∈ trace (step {}) (boot Store.empty) (Sample.single ++
        Sample.calls [.setDispatchStop "maintenance" 2, .clearDispatchStop "done" none 3] ++
        Sample.cycle 16 (Sample.oracle 10)), GateKept ev :=
  ⟨by decide +kernel, launch_only_while_run {} _ (by decide +kernel)⟩

/-- The launch of a run that another process stopped after the selection. -/
def launchedInStop (ev : Event Daemon (Input Oracle Foreign) (Option Effect)) : Bool :=
  match ev.output with
  | some (.launch ..) => ev.pre.state.store.dispatchState = .stop
  | _ => false

/-- A STOP that is committed between the read of the gate and the launch does
not hold the launch back. -/
theorem launch_after_foreign_stop :
    ¬ ∀ cfg inputs, ∀ ev ∈ trace (step cfg) (boot Store.empty) inputs, GateKept ev := by
  intro h
  have hbad : (trace (step {}) (boot Store.empty) (Sample.single ++
      Sample.cycle 15 (Sample.oracle 10) ++ Sample.calls [.setDispatchStop "maintenance" 11] ++
      [.resume (Sample.oracle 12)])).any launchedInStop = true := by decide +kernel
  obtain ⟨ev, hev, hstop⟩ := List.any_eq_true.mp hbad
  have hkept := (h {} _ ev hev).1
  unfold launchedInStop at hstop
  split at hstop
  · rename_i command gpus hout
    have hrun := hkept command gpus hout
    rw [of_decide_eq_true hstop] at hrun
    cases hrun
  · cases hstop

end Scheduler

end Operator

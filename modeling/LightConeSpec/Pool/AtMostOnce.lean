import LightConeSpec.Pool.Chain

/-!
# At most one success

The invariant of a chain of calls, and what it says about the runner: it is not
called again for an assignment that has succeeded, nor more often than the budget
allows, nor in a wave before the waves ahead of it have succeeded.
-/

namespace Pool

open Python Intervals List

variable {D J : Type} [DecidableEq D] {sha : ContentSha D}
  {sink : Option (AttemptJournalSink D J)} {plan : FrozenPlan D} {ctx : ExecutionContext D}

/-! ## Opening a schedule -/

/-- What is known of the events when a call begins: nothing has happened, or the
receipt that the call resumes from covers them. -/
def Resumable (plan : FrozenPlan D) (ctx : ExecutionContext D) (events : List (ExecutionEvent D)) :
    Option (DispatchScheduleReceipt D) → Prop
  | none => events = []
  | some R => ∃ n, Sound plan ctx events n R

variable {n : ℕ} {succeeded : Bool}

theorem phaseAfter_eq_failed {total : ℕ}
    (h : DispatchExecutionState.phaseAfter succeeded n total = .failed) : succeeded = false := by
  unfold DispatchExecutionState.phaseAfter at h
  split at h
  · assumption
  · split at h <;> cases h

theorem phaseAfter_eq_running {total : ℕ}
    (h : DispatchExecutionState.phaseAfter succeeded n total = .running) :
    succeeded = true ∧ n ≠ total := by
  unfold DispatchExecutionState.phaseAfter at h
  split at h
  · cases h
  · split at h
    · cases h
    · rename_i hsucceeded hn
      exact ⟨by simpa using hsucceeded, hn⟩

theorem phaseAfter_eq_complete {total : ℕ} :
    DispatchExecutionState.phaseAfter succeeded n total = .complete ↔
      succeeded = true ∧ n = total := by
  unfold DispatchExecutionState.phaseAfter
  cases succeeded with
  | false => simp
  | true =>
    by_cases hn : n = total
    · simp [hn]
    · simp [hn]

variable {events : List (ExecutionEvent D)} {R : DispatchScheduleReceipt D}
  {state : DispatchExecutionState D} {resume : Option (DispatchScheduleReceipt D)}

section Open

variable {events : List (ExecutionEvent D)} {n : ℕ} {R : DispatchScheduleReceipt D}

/-- All waves of the receipt have succeeded exactly when their last receipts have. -/
theorem Sound.all_succeeded (h : Sound plan ctx events n R) :
    R.waveReceipts.all (·.succeeded) = true ↔ ∀ w ∈ plan.waves.take n, ∀ x ∈ w.assignments, ∃ r,
      latestReceipt events x.assignmentId = some r ∧ r.succeeded = true := by
  rw [h.waveReceipts_eq, all_map, all_eq_true]
  constructor
  · intro hall w hw x hx
    obtain ⟨r, hr⟩ := Option.isSome_iff_exists.mp (h.present w hw x hx)
    exact ⟨r, hr, waveReceiptOf_succeeded.mp (hall w hw) x hx r hr⟩
  · intro hall w hw
    refine waveReceiptOf_succeeded.mpr fun x hx r hr => ?_
    obtain ⟨r', hr', hsucceeded⟩ := hall w hw x hx
    rw [hr] at hr'
    rw [Option.some.inj hr']
    exact hsucceeded

omit [DecidableEq D] in
theorem rowsOf_eq_nil {latest : D → Option (AssignmentExecutionReceipt D)} {wave : PlannedWave D}
    (h : ∀ x ∈ wave.assignments, latest x.assignmentId = none) : rowsOf latest wave = [] :=
  filterMap_eq_nil_iff.mpr h

/-- A receipt whose last wave failed: the loop starts again at that wave. -/
theorem loopReady_of_failed (hsafe : Safe plan ctx events) (h : Sound plan ctx events n R)
    {failed : DispatchWaveExecutionReceipt D} (hlast : R.waveReceipts.getLast? = some failed) :
    LoopReady plan ctx events failed.waveIndex
      ⟨R.waveReceipts.dropLast, some failed, state, some R⟩ := by
  have hreceipts := h.waveReceipts_eq
  have hn : n ≠ 0 := by
    rintro rfl
    rw [hreceipts] at hlast
    simp at hlast
  obtain ⟨k, rfl⟩ := Nat.exists_eq_succ_of_ne_zero hn
  obtain ⟨wave, hk⟩ : ∃ wave, plan.waves[k]? = some wave := ⟨_, getElem?_eq_getElem h.le⟩
  have hfailed : failed = waveReceiptOf plan ctx (latestReceipt events) wave := by
    rw [hreceipts, take_add_one, hk, map_append] at hlast
    simpa using hlast.symm
  have hindex : failed.waveIndex = k := by
    rw [hfailed]
    exact plan.waveIndex_eq hk
  rw [hindex]
  refine ⟨hsafe, ?_, h.earlier, fun wave' hwave => ?_, fun f hf => ?_, h.later, h.counted,
    fun R' hR' => ⟨_, Option.some.inj hR' ▸ h⟩⟩
  · show R.waveReceipts.dropLast = _
    rw [hreceipts, take_add_one, hk, map_append]
    exact dropLast_concat
  · obtain rfl := Option.some.inj (hk.symm.trans hwave)
    show (if _ then failed.assignmentReceipts else []) = _
    rw [if_pos (by rw [hindex]; exact plan.waveIndex_eq hk), hfailed]
    rfl
  · rw [← Option.some.inj hf]
    exact hindex

/-- A receipt whose waves succeeded: the loop starts at the next one. -/
theorem loopReady_of_running (hsafe : Safe plan ctx events) (h : Sound plan ctx events n R)
    (hall : R.waveReceipts.all (·.succeeded) = true) :
    LoopReady plan ctx events R.waveReceipts.length ⟨R.waveReceipts, none, state, some R⟩ := by
  have hlength : R.waveReceipts.length = n := by
    rw [h.waveReceipts_eq, length_map, length_take]
    exact Nat.min_eq_left h.le
  rw [hlength]
  refine ⟨hsafe, h.waveReceipts_eq, h.all_succeeded.mp hall, fun wave hwave => ?_, nofun, ?_,
    h.counted, fun R' hR' => ⟨_, Option.some.inj hR' ▸ h⟩⟩
  · refine (rowsOf_eq_nil (h.later wave ?_)).symm
    obtain ⟨hlt, rfl⟩ := List.getElem?_eq_some_iff.mp hwave
    exact mem_drop_iff_getElem.mpr ⟨0, by omega, rfl⟩
  · intro w hw x hx
    rw [← drop_drop] at hw
    exact h.later w (mem_of_mem_drop hw) x hx

theorem loopReady_start : LoopReady plan ctx [] 0 ⟨[], none, state, none⟩ where
  safe := safe_nil
  priorReceipts := rfl
  earlier := fun w hw => by cases hw
  priorRows := fun wave _ => (rowsOf_eq_nil fun _ _ => rfl).symm
  failedPrior := nofun
  later := fun _ _ _ _ => rfl
  counted := fun _ => rfl
  current := nofun

/-- The loop is ready where a call resumes. -/
theorem loopReady_of_resumable (hsafe : Safe plan ctx events) (h : Resumable plan ctx events resume)
    (hphase : resume.filter (fun receipt => receipt.phase = .complete) = none) :
    LoopReady plan ctx events (resumePoint resume).2.2
      ⟨(resumePoint resume).1, (resumePoint resume).2.1, state, resume⟩ := by
  cases resume with
  | none =>
    obtain rfl : events = [] := h
    exact loopReady_start
  | some R =>
    obtain ⟨n, hsound⟩ := h
    have hnotComplete : R.phase ≠ .complete := by
      simpa [Option.filter] using hphase
    have hcases := hsound.phase
    unfold resumePoint resumePointOf
    dsimp only
    split
    · rename_i failed hfailed hlast
      exact loopReady_of_failed hsafe hsound hlast
    · rename_i hnot
      refine loopReady_of_running hsafe hsound ?_
      cases hp : R.phase with
      | complete => exact absurd hp hnotComplete
      | running => exact (phaseAfter_eq_running (hcases.symm.trans hp)).1
      | planned =>
        rw [hp] at hcases
        unfold DispatchExecutionState.phaseAfter at hcases
        split at hcases
        · cases hcases
        · split at hcases <;> cases hcases
      | failed =>
        -- a failed receipt has a last wave, so it is the other case
        have hfalse := phaseAfter_eq_failed (hcases.symm.trans hp)
        cases hlast : R.waveReceipts.getLast? with
        | none =>
          rw [getLast?_eq_none_iff.mp hlast] at hfalse
          cases hfalse
        | some failed => exact absurd hlast (hnot failed hp)

/-- What a call does before its loop: it returns a sound receipt, or the loop is
ready. -/
theorem openSchedule_spec {replay : Option (DispatchAttemptJournalReplay D)} {stop : Option ℕ}
    {opened : DispatchScheduleReceipt D ⊕ List (PlannedWave D) × LoopState D}
    (hsafe : Safe plan ctx events) (h : Resumable plan ctx events resume)
    (hopen : openSchedule sha plan ctx resume replay stop = .ok opened) : match opened with
    | .inl R => ∃ n, Sound plan ctx events n R
    | .inr (waves, loop) => ∃ k tail, plan.waves.drop k = waves ++ tail ∧
        LoopReady plan ctx events k loop := by
  unfold openSchedule at hopen
  simp only [bind_eq_ok, check_eq_ok] at hopen
  obtain ⟨-, -, -, -, -, -, hopen⟩ := hopen
  split at hopen
  · -- the receipt that is resumed is complete
    rename_i receipt hfilter
    obtain rfl := pure_eq_ok.mp hopen
    obtain ⟨rfl, -⟩ := Option.filter_eq_some_iff.mp hfilter
    exact h
  rename_i hfilter
  simp only [bind_eq_ok, check_eq_ok] at hopen
  obtain ⟨-, hopen⟩ := hopen
  split at hopen
  · rename_i hwaves
    obtain ⟨receipt, hreceipt, rfl⟩ := map_eq_ok.mp hopen
    obtain ⟨-, -, rfl⟩ := makeScheduleReceipt_eq_ok.mp hreceipt
    refine ⟨0, Nat.zero_le _, fun _ => hwaves, rfl, ?_, ?_, ?_, ?_, ?_⟩
    · rw [hwaves]
      rfl
    · intro w hw
      cases hw
    · intro w hw
      cases hw
    · intro w hw
      rw [hwaves] at hw
      cases hw
    · cases resume with
      | none =>
        obtain rfl : events = [] := h
        exact fun _ => rfl
      | some R =>
        obtain ⟨n, hsound⟩ := h
        exact hsound.counted
  · obtain ⟨⟨waves, loop⟩, hwaves, rfl⟩ := map_eq_ok.mp hopen
    simp only [openWaves, bind_eq_ok, pure_eq_ok] at hwaves
    obtain ⟨planned, -, state, -, hwaves⟩ := hwaves
    obtain ⟨rfl, rfl⟩ := Prod.mk.inj hwaves
    refine ⟨(resumePoint resume).2.2, ?_, ?_, loopReady_of_resumable hsafe h hfilter⟩
    · exact (plan.waves.drop (stop.getD (plan.waves.length - 1) + 1)).drop
        ((resumePoint resume).2.2 - (plan.waves.take (stop.getD (plan.waves.length - 1) + 1)).length)
    · rw [← drop_append, take_append_drop]

end Open

/-! ## Chains -/

/-- The events and the receipt depend on the context through its ledger and its
budgets, which are the same in all calls of a chain. -/
theorem Safe.of_authorities {authorities : List (AssignmentTerminalAuthority D)} :
    Safe plan { ctx with resumeTerminalAuthorities := authorities } events ↔
      Safe plan ctx events :=
  ⟨fun h => ⟨h.ordered, h.stable, h.bounded, h.receipts, h.history, h.planned⟩,
    fun h => ⟨h.ordered, h.stable, h.bounded, h.receipts, h.history, h.planned⟩⟩

theorem Sound.of_authorities {authorities : List (AssignmentTerminalAuthority D)} :
    Sound plan { ctx with resumeTerminalAuthorities := authorities } events n R ↔
      Sound plan ctx events n R :=
  ⟨fun h => ⟨h.le, h.nonempty, h.record, h.phase, h.present, h.earlier, h.later, h.counted⟩,
    fun h => ⟨h.le, h.nonempty, h.record, h.phase, h.present, h.earlier, h.later, h.counted⟩⟩

/-- One call of a chain. -/
theorem executeDispatchPlan_sound {s : Session D J} (hsafe : Safe plan ctx s.events)
    (h : Resumable plan ctx s.events resume) (call : Call D) :
    Method.MeetsAt (executeDispatchPlan sha sink plan ctx resume call) s fun result t =>
      Safe plan ctx t.events ∧ Continues s.events t.events ∧
        ∀ R, result = .ok R → ∃ n, Sound plan ctx t.events n R := by
  have hresumable : Resumable plan
      { ctx with resumeTerminalAuthorities := call.resumeTerminalAuthorities } s.events resume := by
    cases resume with
    | none => exact h
    | some R =>
      obtain ⟨n, hsound⟩ := h
      exact ⟨n, Sound.of_authorities.mpr hsound⟩
  refine Method.meetsAt_check_bind
    (fun e _ => ⟨hsafe, .refl _, fun R hR => by cases hR⟩) fun opened hopened => ?_
  have hspec := openSchedule_spec (Safe.of_authorities.mpr hsafe) hresumable hopened
  cases opened with
  | inl receipt =>
    obtain ⟨n, hsound⟩ := hspec
    refine ⟨hsafe, .refl _, fun R hR => ?_⟩
    obtain rfl := Except.ok.inj hR
    exact ⟨n, Sound.of_authorities.mp hsound⟩
  | inr opened =>
    obtain ⟨waves, loop⟩ := opened
    obtain ⟨k, tail, hwaves, hready⟩ := hspec
    refine (runWaves_sound call.worlds hwaves hready).mono ?_
    rintro result t ⟨hafter, hcontinues, hsound⟩
    refine ⟨Safe.of_authorities.mp hafter, hcontinues, fun R hR => ?_⟩
    obtain ⟨n, hn⟩ := hsound R hR
    exact ⟨n, Sound.of_authorities.mp hn⟩

def DispatchWaveExecutionReceipt.Succeeds (receipt : DispatchWaveExecutionReceipt D)
    (x : PlannedAssignment D) : Prop :=
  ∃ r ∈ receipt.assignmentReceipts, r.assignmentSha256 = x.assignmentId ∧ r.succeeded = true

/-- The rows of a sound receipt are the last receipts of the waves it covers. -/
theorem Sound.mem_waveReceipts (h : Sound plan ctx events n R)
    {w : DispatchWaveExecutionReceipt D} : w ∈ R.waveReceipts ↔ ∃ wave ∈ plan.waves.take n,
      w = waveReceiptOf plan ctx (latestReceipt events) wave := by
  rw [h.waveReceipts_eq, mem_map]
  constructor
  · rintro ⟨wave, hwave, rfl⟩
    exact ⟨wave, hwave, rfl⟩
  · rintro ⟨wave, hwave, rfl⟩
    exact ⟨wave, hwave, rfl⟩

/-- An assignment with a last receipt is in a wave that the receipt covers. -/
theorem Sound.mem_take (h : Sound plan ctx events n R) {wave : PlannedWave D}
    (hwave : wave ∈ plan.waves) {x : PlannedAssignment D} (hx : x ∈ wave.assignments)
    {r : AssignmentExecutionReceipt D} (hr : latestReceipt events x.assignmentId = some r) :
    wave ∈ plan.waves.take n := by
  rw [← take_append_drop n plan.waves, mem_append] at hwave
  rcases hwave with hwave | hwave
  · exact hwave
  · rw [h.later wave hwave x hx] at hr
    cases hr

theorem Sound.complete_iff (h : Sound plan ctx events n R) : R.phase = .complete ↔
      ∀ wave ∈ plan.waves, ∀ x ∈ wave.assignments, ∃ w ∈ R.waveReceipts, w.Succeeds x := by
  rw [h.phase, phaseAfter_eq_complete, h.all_succeeded]
  constructor
  · rintro ⟨hall, rfl⟩ wave hwave x hx
    rw [take_length] at hall
    obtain ⟨r, hr, hsucceeded⟩ := hall wave hwave x hx
    refine ⟨_, h.mem_waveReceipts.mpr ⟨wave, by rwa [take_length], rfl⟩, r, ?_, ?_⟩
    · exact mem_rowsOf.mpr ⟨x, hx, hr⟩
    · exact ⟨filed_latestReceipt events _ _ hr, hsucceeded⟩
  · intro hall
    have hlatest : ∀ wave ∈ plan.waves, ∀ x ∈ wave.assignments, ∃ r,
        latestReceipt events x.assignmentId = some r ∧ r.succeeded = true := by
      intro wave hwave x hx
      obtain ⟨w, hw, r, hr, hid, hsucceeded⟩ := hall wave hwave x hx
      obtain ⟨wave', -, rfl⟩ := h.mem_waveReceipts.mp hw
      obtain ⟨y, hy, hlatest⟩ := mem_rowsOf.mp hr
      rw [← filed_latestReceipt events _ _ hlatest, hid] at hlatest
      exact ⟨r, hlatest, hsucceeded⟩
    refine ⟨fun w hw => hlatest w (mem_of_mem_take hw), ?_⟩
    -- a wave that is not covered has an assignment without a receipt
    by_contra hn
    have hlt : n < plan.waves.length := lt_of_le_of_ne h.le hn
    have hmem : plan.waves[n] ∈ plan.waves := getElem_mem hlt
    obtain ⟨x, hx⟩ := exists_mem_of_ne_nil _ (plan.nonempty _ hmem)
    obtain ⟨r, hr, -⟩ := hlatest _ hmem x hx
    rw [h.later plan.waves[n] (mem_drop_iff_getElem.mpr ⟨0, by omega, rfl⟩) x hx] at hr
    cases hr

/-- A success of a returned receipt stays in every later one. -/
theorem Sound.carries {past : List (ExecutionEvent D)} {n' : ℕ} {R' : DispatchScheduleReceipt D}
    (h : Sound plan ctx past n R) (hsafe : Safe plan ctx events) (hpast : past ⊆ events)
    (h' : Sound plan ctx events n' R') {w : DispatchWaveExecutionReceipt D}
    (hw : w ∈ R.waveReceipts) {r : AssignmentExecutionReceipt D} (hr : r ∈ w.assignmentReceipts)
    (hsucceeded : r.succeeded = true) :
    ∃ w' ∈ R'.waveReceipts, w'.waveIndex = w.waveIndex ∧ r ∈ w'.assignmentReceipts := by
  obtain ⟨wave, hwave, rfl⟩ := h.mem_waveReceipts.mp hw
  obtain ⟨x, hx, hlatest⟩ := mem_rowsOf.mp hr
  obtain ⟨hrecorded, hid⟩ := mem_of_latestReceipt hlatest
  have hstable := hsafe.stable r (hpast hrecorded) hsucceeded
  rw [hid] at hstable
  have htake := h'.mem_take (mem_of_mem_take hwave) hx hstable
  exact ⟨_, h'.mem_waveReceipts.mpr ⟨wave, htake, rfl⟩, rfl, mem_rowsOf.mpr ⟨x, hx, hstable⟩⟩

/-- A call returns a receipt that is sound for the events before. -/
def ReturnsSound (plan : FrozenPlan D) (ctx : ExecutionContext D)
    (past : List (ExecutionEvent D)) : ExecutionEvent D → Prop
  | .returned R => Safe plan ctx past ∧ ∃ n, Sound plan ctx past n R
  | _ => True

theorem returnsSound_continues {before after : List (ExecutionEvent D)}
    (h : Log.EachAfter (ReturnsSound plan ctx) before) (hafter : Continues before after) :
    Log.EachAfter (ReturnsSound plan ctx) after := by
  obtain ⟨more, rfl, hmore⟩ := hafter
  refine h.append fun e he past => ?_
  cases e with
  | returned R => exact absurd he (hmore R)
  | invoked _ _ => trivial
  | recorded _ => trivial

structure ChainInvariant (plan : FrozenPlan D) (ctx : ExecutionContext D) (chain : Chain D J) :
    Prop where
  safe : Safe plan ctx chain.session.events
  returns : Log.EachAfter (ReturnsSound plan ctx) chain.session.events
  resumable : chain.ended = false → Resumable plan ctx chain.session.events chain.receipt

theorem chainInvariant_start (journal : J) : ChainInvariant plan ctx (Chain.start journal) where
  safe := safe_nil
  returns := Log.eachAfter_nil
  resumable := fun _ => rfl

/-- Step lemma: one more call of a chain. -/
theorem chainInvariant_next {chain : Chain D J} (h : ChainInvariant plan ctx chain)
    (call : Call D) : ChainInvariant plan ctx (chain.next sha sink plan ctx call) := by
  unfold Chain.next
  cases hended : chain.ended with
  | true => exact h
  | false =>
    have hcall : Method.MeetsAt (executeDispatchPlan sha sink plan ctx chain.receipt call)
        chain.session _ := executeDispatchPlan_sound h.safe (h.resumable hended) call
    unfold Method.MeetsAt at hcall
    rw [if_neg (by simp)]
    cases hresult : executeDispatchPlan sha sink plan ctx chain.receipt call chain.session with
    | mk result s =>
      rw [hresult] at hcall
      obtain ⟨hsafe, hcontinues, hsound⟩ := hcall
      have hreturns := returnsSound_continues h.returns hcontinues
      cases result with
      | error e => exact ⟨hsafe, hreturns, nofun⟩
      | ok R =>
        obtain ⟨n, hn⟩ := hsound R rfl
        refine ⟨hsafe.returned R, Log.eachAfter_snoc.mpr ⟨hreturns, hsafe, n, hn⟩, fun _ => ⟨n, ?_⟩⟩
        have hlatest : latestReceipt (s.emit (.returned R)).events
            = latestReceipt s.events := by
          funext a
          exact congrArg List.getLast? receiptsOf_returned
        have hcounted : ∀ a, (invocationsOf (s.emit (.returned R)).events a).length =
            (receiptsOf (s.emit (.returned R)).events a).length := by
          intro a
          exact (congrArg List.length invocationsOf_returned).trans
            ((hn.counted a).trans (congrArg List.length receiptsOf_returned).symm)
        refine ⟨hn.le, hn.nonempty, ?_, hn.phase, ?_, ?_, ?_, hcounted⟩
        · rw [hlatest]
          exact hn.record
        · rw [hlatest]
          exact hn.present
        · rw [hlatest]
          exact hn.earlier
        · rw [hlatest]
          exact hn.later

theorem chainInvariant_run (journal : J) (calls : List (Call D)) :
    ChainInvariant plan ctx (Chain.run sha sink plan ctx journal calls) := by
  have hall : ∀ chain : Chain D J, ChainInvariant plan ctx chain →
      ChainInvariant plan ctx (calls.foldl (Chain.next sha sink plan ctx) chain) := by
    induction calls with
    | nil => exact fun chain h => h
    | cons call calls ih => exact fun chain h => ih _ (chainInvariant_next h call)
  exact hall _ (chainInvariant_start journal)

/-- Waves run in order and an assignment succeeds at most once, in every chain of
calls, each resumed from the receipt that the one before returned. -/
theorem wave_ordered_at_most_once (sha : ContentSha D) (sink : Option (AttemptJournalSink D J))
    (plan : FrozenPlan D) (ctx : ExecutionContext D) (journal : J) (calls : List (Call D)) :
    let events := (Chain.run sha sink plan ctx journal calls).session.events
    -- the runner is called for an assignment without a success, after the earlier waves
    (∀ past assignmentId attempt rest, events = past ++ .invoked assignmentId attempt :: rest →
      (∀ r, .recorded r ∈ past → r.assignmentSha256 = assignmentId → r.succeeded = false) ∧
      ∀ i wave, plan.waves[i]? = some wave → ∀ x ∈ wave.assignments,
        x.assignmentId = assignmentId → ∀ earlier ∈ plan.waves.take i,
          ∀ y ∈ earlier.assignments, ∃ r, .recorded r ∈ past ∧
            r.assignmentSha256 = y.assignmentId ∧ r.succeeded = true) ∧
    -- no more often than the budget allows
    (∀ wave ∈ plan.waves, ∀ x ∈ wave.assignments, ∀ budget,
      ctx.budgetsByCellId x.itemId = some budget →
        (invocationsOf events x.assignmentId).length ≤ budget.retryAllowance + 1) ∧
    -- a returned receipt carries the successes of those before, and says COMPLETE rightly
    (∀ past R rest, events = past ++ .returned R :: rest →
      (R.phase = .complete ↔
        ∀ wave ∈ plan.waves, ∀ x ∈ wave.assignments, ∃ w ∈ R.waveReceipts, w.Succeeds x) ∧
      ∀ earlier, .returned earlier ∈ past → ∀ w ∈ earlier.waveReceipts,
        ∀ r ∈ w.assignmentReceipts, r.succeeded = true →
          ∃ w' ∈ R.waveReceipts, w'.waveIndex = w.waveIndex ∧ r ∈ w'.assignmentReceipts) := by
  intro events
  have h : ChainInvariant plan ctx (Chain.run sha sink plan ctx journal calls) :=
    chainInvariant_run journal calls
  refine ⟨fun past assignmentId attempt rest hevents => ?_, h.safe.bounded,
    fun past R rest hevents => ?_⟩
  · exact h.safe.ordered past _ rest hevents
  · obtain ⟨hsafe, n, hsound⟩ := h.returns past _ rest hevents
    refine ⟨hsound.complete_iff, fun earlier hearlier w hw r hr hsucceeded => ?_⟩
    obtain ⟨first, between, rfl⟩ := List.append_of_mem hearlier
    obtain ⟨-, n₀, hsound₀⟩ := h.returns first (.returned earlier) (between ++ .returned R :: rest)
      (hevents.trans (by simp))
    exact hsound₀.carries hsafe (fun e he => List.mem_append_left _ he) hsound hw hr hsucceeded

end Pool

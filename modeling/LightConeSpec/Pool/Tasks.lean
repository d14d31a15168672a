import LightConeSpec.Lib.Log
import LightConeSpec.Pool.Execution

/-!
# The task group of a wave

What the events say about an assignment, and what one wave adds to them. A move
of a task does one of four things (`Advanced`); from it follows, for any order
of the moves, what a wave did to each assignment: nothing, a call of the runner
that has not ended, or a call that ended with a receipt that adds one attempt to
the receipt before.
-/

namespace Pool

open Python Intervals List Function

variable {D J : Type}

/-! ## Waves and assignments of a plan -/

variable {finished started : ℕ} {wave : PlannedWave D}

namespace FrozenPlan

theorem waveIndex_eq (plan : FrozenPlan D) {i : ℕ} (h : plan.waves[i]? = some wave) :
    wave.waveIndex = i := by
  have hmap := congrArg (fun indexes => indexes[i]?) plan.contiguous
  obtain ⟨hi, -⟩ := List.getElem?_eq_some_iff.mp h
  simp only [getElem?_map, h, Option.map_some, getElem?_range hi] at hmap
  exact Option.some.inj hmap

/-- An assignment is in one wave, once. -/
theorem assignment_unique (plan : FrozenPlan D) {i j : ℕ} {wave' : PlannedWave D}
    {x y : PlannedAssignment D} (hi : plan.waves[i]? = some wave) (hj : plan.waves[j]? = some wave')
    (hx : x ∈ wave.assignments) (hy : y ∈ wave'.assignments)
    (hid : x.assignmentId = y.assignmentId) : i = j ∧ x = y := by
  have hmem : x ∈ plan.waves.flatMap (·.assignments) :=
    mem_flatMap.mpr ⟨wave, mem_of_getElem? hi, hx⟩
  have hmem' : y ∈ plan.waves.flatMap (·.assignments) :=
    mem_flatMap.mpr ⟨wave', mem_of_getElem? hj, hy⟩
  have hxy : x = y := inj_on_of_nodup_map plan.distinct hmem hmem' hid
  refine ⟨?_, hxy⟩
  have hpairs := (nodup_flatMap.mp (List.Nodup.of_map _ plan.distinct)).2
  by_contra hne
  obtain ⟨hi', rfl⟩ := List.getElem?_eq_some_iff.mp hi
  obtain ⟨hj', rfl⟩ := List.getElem?_eq_some_iff.mp hj
  rw [pairwise_iff_getElem] at hpairs
  rcases lt_or_gt_of_ne hne with hlt | hlt
  · exact hpairs i j hi' hj' hlt hx (hxy ▸ hy)
  · exact hpairs j i hj' hi' hlt (hxy ▸ hy) hx

/-- The assignments of a wave have distinct digests. -/
theorem nodup_assignments (plan : FrozenPlan D) (h : wave ∈ plan.waves) :
    (wave.assignments.map (·.assignmentId)).Nodup := by
  have hdistinct := plan.distinct
  rw [map_flatMap] at hdistinct
  exact (nodup_flatMap.mp hdistinct).1 wave h

end FrozenPlan

variable [DecidableEq D]

/-! ## Reading the events -/

namespace ExecutionEvent

/-- The call of the runner that an event is. -/
def invocation : ExecutionEvent D → Option (D × ℕ)
  | .invoked assignmentId attempt => some (assignmentId, attempt)
  | _ => none

def receipt : ExecutionEvent D → Option (D × AssignmentExecutionReceipt D)
  | .recorded receipt => some (receipt.assignmentSha256, receipt)
  | _ => none

end ExecutionEvent

/-- The attempts of an assignment for which the runner was called. -/
def invocationsOf (events : List (ExecutionEvent D)) (assignmentId : D) : List ℕ :=
  Log.written ExecutionEvent.invocation events assignmentId

def receiptsOf (events : List (ExecutionEvent D)) (assignmentId : D) :
    List (AssignmentExecutionReceipt D) :=
  Log.written ExecutionEvent.receipt events assignmentId

def latestReceipt (events : List (ExecutionEvent D)) (assignmentId : D) :
    Option (AssignmentExecutionReceipt D) :=
  (receiptsOf events assignmentId).getLast?

section Events

variable {events : List (ExecutionEvent D)} {a b : D} {n : ℕ} {r : AssignmentExecutionReceipt D}
  {R : DispatchScheduleReceipt D}

@[simp] theorem invocationsOf_invoked : invocationsOf (events ++ [.invoked b n]) a =
    if b = a then invocationsOf events a ++ [n] else invocationsOf events a :=
  Log.written_snoc_of_some (show (ExecutionEvent.invoked b n).invocation = some (b, n) from rfl) a

@[simp] theorem invocationsOf_recorded :
    invocationsOf (events ++ [.recorded r]) a = invocationsOf events a :=
  Log.written_snoc_of_none rfl a

@[simp] theorem invocationsOf_returned :
    invocationsOf (events ++ [.returned R]) a = invocationsOf events a :=
  Log.written_snoc_of_none rfl a

@[simp] theorem receiptsOf_invoked :
    receiptsOf (events ++ [.invoked b n]) a = receiptsOf events a :=
  Log.written_snoc_of_none rfl a

@[simp] theorem receiptsOf_recorded : receiptsOf (events ++ [.recorded r]) a =
    if r.assignmentSha256 = a then receiptsOf events a ++ [r] else receiptsOf events a :=
  Log.written_snoc_of_some
    (show (ExecutionEvent.recorded r).receipt = some (r.assignmentSha256, r) from rfl) a

@[simp] theorem receiptsOf_returned :
    receiptsOf (events ++ [.returned R]) a = receiptsOf events a :=
  Log.written_snoc_of_none rfl a

theorem mem_invocationsOf : n ∈ invocationsOf events a ↔ .invoked a n ∈ events := by
  unfold invocationsOf
  rw [Log.mem_written]
  constructor
  · rintro ⟨e, he, hentry⟩
    cases e with
    | invoked a' n' =>
      obtain ⟨rfl, rfl⟩ := Prod.mk.inj (Option.some.inj hentry)
      exact he
    | recorded _ => cases hentry
    | returned _ => cases hentry
  · exact fun he => ⟨_, he, rfl⟩

theorem mem_receiptsOf :
    r ∈ receiptsOf events a ↔ .recorded r ∈ events ∧ r.assignmentSha256 = a := by
  unfold receiptsOf
  rw [Log.mem_written]
  constructor
  · rintro ⟨e, he, hentry⟩
    cases e with
    | recorded r' =>
      obtain ⟨rfl, rfl⟩ := Prod.mk.inj (Option.some.inj hentry)
      exact ⟨he, rfl⟩
    | invoked _ _ => cases hentry
    | returned _ => cases hentry
  · rintro ⟨he, rfl⟩
    exact ⟨_, he, rfl⟩

theorem mem_of_latestReceipt (h : latestReceipt events a = some r) :
    .recorded r ∈ events ∧ r.assignmentSha256 = a :=
  mem_receiptsOf.mp (mem_of_getLast? h)

theorem latestReceipt_eq_none : latestReceipt events a = none ↔ receiptsOf events a = [] :=
  getLast?_eq_none_iff

end Events

/-- The later events are the earlier ones and more, none of which ends a call. -/
def Continues (before after : List (ExecutionEvent D)) : Prop :=
  ∃ more, after = before ++ more ∧ ∀ R, .returned R ∉ more

omit [DecidableEq D] in
theorem Continues.refl (events : List (ExecutionEvent D)) : Continues events events :=
  ⟨[], by simp, by simp⟩

omit [DecidableEq D] in
theorem Continues.trans {first second third : List (ExecutionEvent D)}
    (h : Continues first second) (h' : Continues second third) : Continues first third := by
  obtain ⟨more, rfl, hmore⟩ := h
  obtain ⟨more', rfl, hmore'⟩ := h'
  refine ⟨more ++ more', by simp, fun R hR => ?_⟩
  rcases mem_append.mp hR with hR | hR
  · exact hmore R hR
  · exact hmore' R hR

variable {pending : List (PendingAttempt D)} {p : PendingAttempt D} {g : Group D J}
  {before : List (ExecutionEvent D)}

omit [DecidableEq D] in
theorem Continues.snoc {after : List (ExecutionEvent D)} (h : Continues before after)
    {e : ExecutionEvent D} (he : ∀ R, e ≠ .returned R) : Continues before (after ++ [e]) :=
  h.trans ⟨[e], rfl, fun R hR => he R (mem_singleton.mp hR).symm⟩

/-! ## The receipt of one attempt -/

variable {sha : ContentSha D} {sink : Option (AttemptJournalSink D J)} {scope : WaveScope D}

/-- The receipt adds one attempt, from `started` on, to the one before. -/
structure Extends (sha : ContentSha D) (scope : WaveScope D) (p : PendingAttempt D) (started : ℕ)
    (receipt : AssignmentExecutionReceipt D) : Prop where
  planSha256 : receipt.planSha256 = scope.plan.sha256
  waveSha256 : receipt.waveSha256 = scope.wave.sha256
  assignment : receipt.assignmentSha256 = p.assignment.assignmentId
  budget : receipt.budgetSha256 = p.budget.sha256
  attempt : receipt.attempt = p.attempt
  prior : receipt.priorAttemptReceiptSha256 = p.prior.map sha.assignmentReceipt
  fixedCount : receipt.fixedInstanceGpuCount = scope.ctx.deviceCount
  intervals : ∃ finished, receipt.attemptIntervalsMonotonicNs = p.intervals started finished
  valid : receipt.postInit sha = .ok ()
  success : receipt.succeeded = true → ∃ (terminal : AssignmentTerminalAuthority D)
    (binding : AssignmentTerminalBinding D),
    terminal.revalidate scope.ctx.registrySha256 scope.ctx.inventorySha256
      p.assignment.assignmentId p.budget.sha256 p.assignment.gpuUuids = .ok binding ∧
    receipt.terminalBinding = some binding

theorem extends_of_successReceipt {outcome : RunnerOutcome D}
    {receipt : AssignmentExecutionReceipt D}
    (h : successReceipt sha scope p outcome started finished = .ok receipt) :
    Extends sha scope p started receipt := by
  unfold successReceipt at h
  obtain ⟨terminal?, -, h⟩ := bind_eq_ok.mp h
  cases terminal? with
  | none => cases h
  | some terminal =>
    simp only [bind_eq_ok, AssignmentExecutionReceipt.construct, validated_eq_ok] at h
    obtain ⟨binding, hbinding, elapsed, -, hvalid, rfl⟩ := h
    exact ⟨rfl, rfl, rfl, rfl, rfl, rfl, rfl, ⟨finished, rfl⟩, hvalid,
      fun _ => ⟨terminal, binding, hbinding, rfl⟩⟩

theorem extends_of_failureReceipt {error : Error} {receipt : AssignmentExecutionReceipt D}
    (h : failureReceipt sha scope p error started finished = .ok receipt) :
    Extends sha scope p started receipt := by
  simp only [failureReceipt, bind_eq_ok, AssignmentExecutionReceipt.construct, validated_eq_ok] at h
  obtain ⟨elapsed, -, hvalid, rfl⟩ := h
  exact ⟨rfl, rfl, rfl, rfl, rfl, rfl, rfl, ⟨finished, rfl⟩, hvalid, fun hsucceeded => by
    cases hsucceeded⟩

theorem extends_of_terminalReceipt {outcome : RunnerOutcome D} {finishedAfterError : ℕ}
    {receipt : AssignmentExecutionReceipt D}
    (h : terminalReceipt sha scope p outcome started finished finishedAfterError = .ok receipt) :
    Extends sha scope p started receipt := by
  unfold terminalReceipt at h
  split at h
  · rename_i made hmade
    rw [← Except.ok.inj h]
    exact extends_of_successReceipt hmade
  · rename_i error herror
    split at h
    · exact extends_of_failureReceipt h
    · cases h

/-! ## What a move does -/

/-- The journal's part of the first steps of a task. -/
def Begins (sink : Option (AttemptJournalSink D J)) (scope : WaveScope D) (p : PendingAttempt D)
    (token : Option (DispatchAttemptJournalToken D)) (started : ℕ) (j j' : J) : Prop :=
  match sink, token with
  | none, none => j' = j
  | some journal, some token => journal.beginAttempt scope.plan scope.wave p scope.ctx.deviceCount
      scope.priorScheduleReceiptSha256 j = (.ok token, j') ∧ started = token.startedMonotonicNs
  | _, _ => False

/-- The journal's part of the last steps of a task. -/
def Finishes (sink : Option (AttemptJournalSink D J))
    (token : Option (DispatchAttemptJournalToken D)) (receipt : AssignmentExecutionReceipt D)
    (result : Except Error Unit) (j j' : J) : Prop :=
  match sink, token with
  | none, _ => j' = j ∧ result = .ok ()
  | some journal, some token => journal.finishAttempt token receipt j = (result, j')
  | some _, none => False

/-- What a task does to the journal when it raises. -/
inductive RaisesWith (sha : ContentSha D) (sink : Option (AttemptJournalSink D J))
    (scope : WaveScope D) (p : PendingAttempt D) : TaskState D → J → J → Prop
  | begin {journal : AttemptJournalSink D J} {error : Error} {j j' : J}
      (hsink : sink = some journal)
      (h : journal.beginAttempt scope.plan scope.wave p scope.ctx.deviceCount
        scope.priorScheduleReceiptSha256 j = (.error error, j')) :
      RaisesWith sha sink scope p .created j j'
  | runner {token : Option (DispatchAttemptJournalToken D)} {started : ℕ} {j : J} :
      RaisesWith sha sink scope p (.running token started) j j
  | finish {token : Option (DispatchAttemptJournalToken D)} {started : ℕ}
      {receipt : AssignmentExecutionReceipt D} {error : Error} {j j' : J}
      (hextends : Extends sha scope p started receipt)
      (h : Finishes sink token receipt (.error error) j j') :
      RaisesWith sha sink scope p (.running token started) j j'

/-- What a move does: nothing, or one task calls the runner, ends with a receipt,
or raises. -/
inductive Advanced (sha : ContentSha D) (sink : Option (AttemptJournalSink D J))
    (scope : WaveScope D) (pending : List (PendingAttempt D)) (g g' : Group D J) : Prop
  | idle (hsame : g' = g)
  | invoked (p : PendingAttempt D) (token : Option (DispatchAttemptJournalToken D)) (started : ℕ)
      (hp : p ∈ pending) (hstate : g.tasks p.assignment.assignmentId = .created)
      (hjournal : Begins sink scope p token started g.session.journal g'.session.journal)
      (htasks : g'.tasks =
        update g.tasks p.assignment.assignmentId (.running token started))
      (hevents : g'.session.events =
        g.session.events ++ [.invoked p.assignment.assignmentId p.attempt])
  | recorded (p : PendingAttempt D) (token : Option (DispatchAttemptJournalToken D)) (started : ℕ)
      (receipt : AssignmentExecutionReceipt D) (hp : p ∈ pending)
      (hstate : g.tasks p.assignment.assignmentId = .running token started)
      (hextends : Extends sha scope p started receipt)
      (hjournal : Finishes sink token receipt (.ok ()) g.session.journal g'.session.journal)
      (htasks : g'.tasks = update g.tasks p.assignment.assignmentId (.returned receipt))
      (hevents : g'.session.events = g.session.events ++ [.recorded receipt])
  | raised (p : PendingAttempt D) (error : Error) (hp : p ∈ pending)
      (hjournal : RaisesWith sha sink scope p (g.tasks p.assignment.assignmentId)
        g.session.journal g'.session.journal)
      (htasks : g'.tasks = update g.tasks p.assignment.assignmentId (.raised error))
      (hevents : g'.session.events = g.session.events)

theorem startTask_advanced (hp : p ∈ pending) (now : ℕ)
    (hstate : g.tasks p.assignment.assignmentId = .created) :
    Advanced sha sink scope pending g (startTask sink scope p now g) := by
  unfold startTask
  cases sink with
  | none => exact .invoked p none now hp hstate rfl rfl rfl
  | some journal =>
    dsimp only [Session.onJournal, Method.onAttribute]
    cases hbegin : journal.beginAttempt scope.plan scope.wave p scope.ctx.deviceCount
        scope.priorScheduleReceiptSha256 g.session.journal with
    | mk result j =>
      cases result with
      | error error =>
        refine .raised p error hp ?_ rfl rfl
        rw [hstate]
        exact .begin rfl hbegin
      | ok token => exact .invoked p (some token) _ hp hstate ⟨hbegin, rfl⟩ rfl rfl

/-- A task ends with a receipt or an error, whatever its runner does. -/
theorem finishTask_advanced (hp : p ∈ pending) {token : Option (DispatchAttemptJournalToken D)}
    (outcome : RunnerOutcome D) (finished finishedAfterError : ℕ)
    (hstate : g.tasks p.assignment.assignmentId = .running token started) :
    Advanced sha sink scope pending g
      (finishTask sha sink scope p token started outcome finished finishedAfterError g) := by
  unfold finishTask
  cases hreceipt : terminalReceipt sha scope p outcome started finished finishedAfterError with
  | error error =>
    refine .raised p error hp ?_ rfl rfl
    rw [hstate]
    exact .runner
  | ok receipt =>
    have hextends := extends_of_terminalReceipt hreceipt
    cases sink with
    | none => exact .recorded p token started receipt hp hstate hextends ⟨rfl, rfl⟩ rfl rfl
    | some journal =>
      cases token with
      | none =>
        refine .raised p _ hp ?_ rfl rfl
        rw [hstate]
        exact .runner
      | some token =>
        dsimp only [Session.onJournal, Method.onAttribute]
        cases hfinish : journal.finishAttempt token receipt g.session.journal with
        | mk result j =>
          cases result with
          | error error =>
            refine .raised p error hp ?_ rfl rfl
            rw [hstate]
            exact .finish hextends hfinish
          | ok _ => exact .recorded p _ started receipt hp hstate hextends hfinish rfl rfl

theorem advance_advanced (pending : List (PendingAttempt D)) (g : Group D J) (move : D × Move D) :
    Advanced sha sink scope pending g (advance sha sink scope pending g move) := by
  unfold advance
  split
  · exact .idle rfl
  · rename_i p hfind
    have hp := mem_of_find?_eq_some hfind
    have hid : p.assignment.assignmentId = move.1 := by simpa using find?_some hfind
    split
    · rename_i now hstate hmove
      exact startTask_advanced hp now (hid ▸ hstate)
    · rename_i token started outcome finished finishedAfterError hstate hmove
      exact finishTask_advanced hp outcome finished finishedAfterError (hid ▸ hstate)
    · exact .idle rfl

/-- What every move keeps holds of the group after them. -/
theorem runGroup_moves {I : Group D J → Prop} {moves : List (D × Move D)}
    (hstep : ∀ g, I g → ∀ move ∈ moves, I (advance sha sink scope pending g move)) {s : Session D J}
    (hstart : I ⟨fun _ => .created, s⟩) :
    ∃ tasks s', runGroup sha sink scope pending moves s = (.ok tasks, s') ∧ I ⟨tasks, s'⟩ := by
  refine ⟨_, _, rfl, ?_⟩
  have hall : ∀ g, I g → I (moves.foldl (advance sha sink scope pending) g) := by
    induction moves with
    | nil => exact fun g hg => hg
    | cons move moves ih =>
      exact fun g hg => ih (fun g hg move hmove => hstep g hg move (mem_cons_of_mem _ hmove))
        _ (hstep g hg move (by simp))
  exact hall _ hstart

/-- An invariant of the moves is an invariant of the group. -/
theorem runGroup_invariant {I : Group D J → Prop}
    (hstep : ∀ g g', I g → Advanced sha sink scope pending g g' → I g') {s : Session D J}
    (hstart : I ⟨fun _ => .created, s⟩) (moves : List (D × Move D)) :
    ∃ tasks s', runGroup sha sink scope pending moves s = (.ok tasks, s') ∧ I ⟨tasks, s'⟩ :=
  runGroup_moves (fun g hg move _ => hstep g _ hg (advance_advanced pending g move)) hstart

/-- A receipt that a move records is what the runner's outcome gives. -/
theorem recorded_advance {move : D × Move D} {r : AssignmentExecutionReceipt D}
    (hr : .recorded r ∈ (advance sha sink scope pending g move).session.events) :
    .recorded r ∈ g.session.events ∨ ∃ p ∈ pending, p.assignment.assignmentId = move.1 ∧
      ∃ started outcome finished finishedAfterError,
        move.2 = .finish outcome finished finishedAfterError ∧
        terminalReceipt sha scope p outcome started finished finishedAfterError = .ok r := by
  unfold advance at hr
  split at hr
  · exact .inl hr
  rename_i p hfind
  have hp := mem_of_find?_eq_some hfind
  have hid : p.assignment.assignmentId = move.1 := by simpa using find?_some hfind
  split at hr
  · -- the first steps of a task record nothing
    refine .inl ?_
    unfold startTask at hr
    cases sink with
    | none => simpa [Session.emit, Group.put] using hr
    | some journal =>
      dsimp only [Session.onJournal, Method.onAttribute] at hr
      split at hr
      · rename_i heq
        obtain ⟨-, rfl⟩ := Prod.mk.inj heq
        exact hr
      · rename_i heq
        obtain ⟨-, rfl⟩ := Prod.mk.inj heq
        simpa [Session.emit, Group.put] using hr
  · rename_i token started outcome finished finishedAfterError hstate hmove
    unfold finishTask at hr
    cases hreceipt : terminalReceipt sha scope p outcome started finished finishedAfterError with
    | error error =>
      rw [hreceipt] at hr
      exact .inl hr
    | ok receipt =>
      rw [hreceipt] at hr
      have hrecorded : .recorded r ∈ g.session.events ++ [.recorded receipt] →
          .recorded r ∈ g.session.events ∨ ∃ p ∈ pending, p.assignment.assignmentId = move.1 ∧
            ∃ started outcome finished finishedAfterError,
              move.2 = .finish outcome finished finishedAfterError ∧
              terminalReceipt sha scope p outcome started finished finishedAfterError = .ok r := by
        intro hmem
        rcases mem_append.mp hmem with hmem | hmem
        · exact .inl hmem
        · obtain rfl : r = receipt := by simpa using hmem
          exact .inr ⟨p, hp, hid, started, outcome, finished, finishedAfterError, hmove, hreceipt⟩
      cases sink with
      | none => exact hrecorded hr
      | some journal =>
        cases token with
        | none => exact .inl hr
        | some token =>
          dsimp only [Session.onJournal, Method.onAttribute] at hr
          split at hr
          · rename_i heq
            obtain ⟨-, rfl⟩ := Prod.mk.inj heq
            exact .inl hr
          · rename_i heq
            obtain ⟨-, rfl⟩ := Prod.mk.inj heq
            exact hrecorded hr
  · exact .inl hr

/-! ## What a wave does to an assignment -/

/-- What the events after `before` say about an assignment whose task is in the
given state. -/
def TaskDone (sha : ContentSha D) (scope : WaveScope D) (p : PendingAttempt D)
    (before after : List (ExecutionEvent D)) : TaskState D → Prop
  | .created =>
    invocationsOf after p.assignment.assignmentId = invocationsOf before p.assignment.assignmentId ∧
      receiptsOf after p.assignment.assignmentId = receiptsOf before p.assignment.assignmentId
  | .running _ _ =>
    invocationsOf after p.assignment.assignmentId
        = invocationsOf before p.assignment.assignmentId ++ [p.attempt] ∧
      receiptsOf after p.assignment.assignmentId = receiptsOf before p.assignment.assignmentId
  | .returned receipt =>
    invocationsOf after p.assignment.assignmentId
        = invocationsOf before p.assignment.assignmentId ++ [p.attempt] ∧
      receiptsOf after p.assignment.assignmentId
        = receiptsOf before p.assignment.assignmentId ++ [receipt] ∧
      ∃ started, Extends sha scope p started receipt
  | .raised _ =>
    (invocationsOf after p.assignment.assignmentId
        = invocationsOf before p.assignment.assignmentId ∨
      invocationsOf after p.assignment.assignmentId
        = invocationsOf before p.assignment.assignmentId ++ [p.attempt]) ∧
      receiptsOf after p.assignment.assignmentId = receiptsOf before p.assignment.assignmentId

/-- What the moves of a wave have done so far. -/
structure GroupDone (sha : ContentSha D) (scope : WaveScope D) (pending : List (PendingAttempt D))
    (before : List (ExecutionEvent D)) (g : Group D J) : Prop where
  tasks : ∀ p ∈ pending, TaskDone sha scope p before g.session.events
    (g.tasks p.assignment.assignmentId)
  others : ∀ a, (∀ p ∈ pending, p.assignment.assignmentId ≠ a) →
    invocationsOf g.session.events a = invocationsOf before a ∧
      receiptsOf g.session.events a = receiptsOf before a
  continues : Continues before g.session.events

theorem groupDone_start (pending : List (PendingAttempt D)) (s : Session D J) :
    GroupDone sha scope pending s.events ⟨fun _ => .created, s⟩ where
  tasks := fun _ _ => ⟨rfl, rfl⟩
  others := fun _ _ => ⟨rfl, rfl⟩
  continues := .refl _

/-- The runner was called for an assignment as it was before, or once more, for its
pending attempt. -/
theorem GroupDone.invocations (h : GroupDone sha scope pending before g) (a : D) :
    invocationsOf g.session.events a = invocationsOf before a ∨
      ∃ p ∈ pending, p.assignment.assignmentId = a ∧
        invocationsOf g.session.events a = invocationsOf before a ++ [p.attempt] := by
  by_cases ha : ∃ p ∈ pending, p.assignment.assignmentId = a
  · obtain ⟨p, hp, rfl⟩ := ha
    have hdone := h.tasks p hp
    cases hstate : g.tasks p.assignment.assignmentId with
    | created =>
      rw [hstate] at hdone
      exact .inl hdone.1
    | running token started =>
      rw [hstate] at hdone
      exact .inr ⟨p, hp, rfl, hdone.1⟩
    | returned receipt =>
      rw [hstate] at hdone
      exact .inr ⟨p, hp, rfl, hdone.1⟩
    | raised error =>
      rw [hstate] at hdone
      exact hdone.1.imp id fun hmore => ⟨p, hp, rfl, hmore⟩
  · exact .inl (h.others a fun p hp hid => ha ⟨p, hp, hid⟩).1

/-- Tasks and events of the other assignments are not moved. -/
theorem taskDone_of_ne {q : PendingAttempt D} {g' : Group D J} {state : TaskState D}
    (hne : q.assignment.assignmentId ≠ p.assignment.assignmentId)
    (htasks : g'.tasks = update g.tasks p.assignment.assignmentId state)
    (hinvocations : invocationsOf g'.session.events q.assignment.assignmentId
      = invocationsOf g.session.events q.assignment.assignmentId)
    (hreceipts : receiptsOf g'.session.events q.assignment.assignmentId
      = receiptsOf g.session.events q.assignment.assignmentId)
    (h : TaskDone sha scope q before g.session.events (g.tasks q.assignment.assignmentId)) :
    TaskDone sha scope q before g'.session.events (g'.tasks q.assignment.assignmentId) := by
  rw [htasks, update_of_ne hne]
  unfold TaskDone at h ⊢
  rw [hinvocations, hreceipts]
  exact h

/-- The event of a step is that of its task; the other tasks are as before. -/
theorem groupDone_step (hdistinct : (pending.map (·.assignment.assignmentId)).Nodup)
    {g' : Group D J} (h : GroupDone sha scope pending before g)
    (hstep : Advanced sha sink scope pending g g') : GroupDone sha scope pending before g' := by
  have hsame : ∀ p ∈ pending, ∀ q ∈ pending,
      q.assignment.assignmentId = p.assignment.assignmentId → q = p :=
    fun p hp q hq hid => inj_on_of_nodup_map hdistinct hq hp hid
  cases hstep with
  | idle hsame => exact hsame ▸ h
  | invoked p token started hp hstate hjournal htasks hevents =>
    have hdone := h.tasks p hp
    rw [hstate] at hdone
    refine ⟨fun q hq => ?_, fun a ha => ?_, ?_⟩
    · by_cases hid : q.assignment.assignmentId = p.assignment.assignmentId
      · obtain rfl := hsame p hp q hq hid
        rw [htasks, update_self]
        exact ⟨by simp [hevents, hdone.1], by simp [hevents, hdone.2]⟩
      · exact taskDone_of_ne hid htasks (by simp [hevents, Ne.symm hid]) (by simp [hevents])
          (h.tasks q hq)
    · have hne := ha p hp
      simpa [hevents, hne] using h.others a ha
    · rw [hevents]
      exact h.continues.snoc nofun
  | recorded p token started receipt hp hstate hextends hjournal htasks hevents =>
    have hdone := h.tasks p hp
    rw [hstate] at hdone
    refine ⟨fun q hq => ?_, fun a ha => ?_, ?_⟩
    · by_cases hid : q.assignment.assignmentId = p.assignment.assignmentId
      · obtain rfl := hsame p hp q hq hid
        rw [htasks, update_self]
        exact ⟨by simp [hevents, hdone.1], by simp [hevents, hextends.assignment, hdone.2],
          started, hextends⟩
      · exact taskDone_of_ne hid htasks (by simp [hevents])
          (by simp [hevents, hextends.assignment, Ne.symm hid]) (h.tasks q hq)
    · have hne := ha p hp
      simpa [hevents, hextends.assignment, hne] using h.others a ha
    · rw [hevents]
      exact h.continues.snoc nofun
  | raised p error hp hjournal htasks hevents =>
    refine ⟨fun q hq => ?_, fun a ha => ?_, ?_⟩
    · by_cases hid : q.assignment.assignmentId = p.assignment.assignmentId
      · obtain rfl := hsame p hp q hq hid
        have hdone := h.tasks q hq
        rw [htasks, update_self, hevents]
        generalize g.tasks q.assignment.assignmentId = state at hjournal hdone
        generalize g.session.journal = j, g'.session.journal = j' at hjournal
        cases hjournal with
        | begin _ _ => exact ⟨.inl hdone.1, hdone.2⟩
        | runner => exact ⟨.inr hdone.1, hdone.2⟩
        | finish _ _ => exact ⟨.inr hdone.1, hdone.2⟩
      · exact taskDone_of_ne hid htasks (by rw [hevents]) (by rw [hevents]) (h.tasks q hq)
    · rw [hevents]
      exact h.others a ha
    · rw [hevents]
      exact h.continues

end Pool

import LightConeSpec.Pool.Methods

/-!
# What every call of a journal keeps

A relation between two states of a journal that every append keeps, and that the
tokens do not matter to, is kept by the writing methods and by every run of
`execute_dispatch_plan` that writes to the journal, whether they return or raise.
Three such relations: the disk is the same, the files only grow, and a writer that
is stuck writes nothing.
-/

namespace Pool

open Python Intervals Method

variable {D : Type} [DecidableEq D] {sha : JournalSha D} {journal : DispatchAttemptJournal D}
  {s t : JournalState D} {R : JournalState D → JournalState D → Prop}

structure WriteRelation (sha : JournalSha D) (R : JournalState D → JournalState D → Prop) :
    Prop where
  refl : ∀ s, R s s
  trans : ∀ {s t u}, R s t → R t u → R s u
  append : ∀ event s, LeavesAt (DispatchAttemptJournal.appendEvent sha event) s (R s)
  fields : ∀ s activeWave openTokens preissued, R s { s with
    activeWave := activeWave
    openTokens := openTokens
    preissuedAssignmentTokens := preissued }

/-- The method keeps the relation, whether it returns or raises. -/
def Keeps {α : Type} (R : JournalState D → JournalState D → Prop)
    (m : Method (JournalState D) α) : Prop :=
  ∀ s, LeavesAt m s (R s)

namespace WriteRelation

section Methods

variable {α β : Type}

section

variable (h : WriteRelation sha R)

include h

theorem bind {m : Method (JournalState D) α}
    {f : α → Method (JournalState D) β} (hm : Keeps R m) (hf : ∀ a, Keeps R (f a)) :
    Keeps R (m >>= f) := fun s =>
  leavesAt_bind (hm s) (fun _ ht => ht) fun a t ht => (hf a t).mono fun _ hu => h.trans ht hu

theorem check (x : Except Error α) :
    Keeps R (Method.check x : Method (JournalState D) α) := fun s => h.refl s

theorem read (g : JournalState D → α) : Keeps R (Method.read g) :=
  fun s => h.refl s

theorem preissue (wave : PlannedWave D) (waveEventSha256 : D)
    (clock : ℕ → ℕ) (n : ℕ) (identities : List (AttemptIdentity D)) :
    Keeps R (journal.preissue sha wave waveEventSha256 clock n identities) := by
  induction identities generalizing n with
  | nil => exact fun s => h.refl s
  | cons identity rest ih =>
    refine h.bind (h.read _) fun event => h.bind (h.append event) fun digest => ?_
    exact h.bind (fun s => h.fields s _ _ _) fun _ => ih (n + 1)

theorem beginWaveAttempts (plan : FrozenPlan D) (wave : PlannedWave D)
    (attempts : List (PendingAttempt D)) (prior : Option D) (clock : ℕ → ℕ) :
    Keeps R (journal.beginWaveAttempts sha plan wave attempts prior clock) := by
  refine h.bind (h.read _) fun files => h.bind (h.check _) fun payload => ?_
  refine h.bind (h.read _) fun event => h.bind (h.append event) fun digest => ?_
  exact h.bind (fun s => h.fields s _ _ _) fun _ => h.preissue wave digest clock 0 _

theorem beginAttempt (plan : FrozenPlan D) (wave : PlannedWave D)
    (p : PendingAttempt D) (count : ℕ) (prior : Option D) :
    Keeps R (journal.beginAttempt sha plan wave p count prior) := by
  intro s
  have hspec := beginAttempt_spec sha journal s plan wave p count prior
  unfold LeavesAt
  rcases hspec.1 with hsame | htook
  · rw [hsame]
    exact h.refl s
  · rw [htook]
    exact h.fields s _ _ _

theorem finishAttempt (token : DispatchAttemptJournalToken D)
    (receipt : AssignmentExecutionReceipt D) :
    Keeps R (journal.finishAttempt sha token receipt) := by
  refine h.bind (h.read _) fun s => h.bind (h.check _) fun parts => ?_
  exact h.bind (h.read _) fun event => h.bind (h.append event) fun digest =>
    fun s => h.fields s _ _ _

end

end Methods

/-! ## Runs of the executor -/

variable {scope : WaveScope D}

/-- What every write keeps, every step of a task group keeps. -/
theorem advanced (h : WriteRelation sha R) {pending : List (PendingAttempt D)}
    {g g' : Group D (JournalState D)}
    (hstep : Advanced sha.toContentSha (some (journal.sink sha)) scope pending g g') :
    R g.session.journal g'.session.journal := by
  cases hstep with
  | idle hsame => exact hsame ▸ h.refl _
  | invoked p token started hp hstate hjournal htasks hevents =>
    cases token with
    | none => exact absurd hjournal id
    | some token =>
      exact (h.beginAttempt _ scope.wave _ _ _ _).of_eq hjournal.1
  | recorded p token started receipt hp hstate hextends hjournal htasks hevents =>
    cases token with
    | none => exact absurd hjournal id
    | some token =>
      exact (h.finishAttempt token receipt _).of_eq hjournal
  | raised p error hp hjournal htasks hevents =>
    generalize g.tasks p.assignment.assignmentId = state at hjournal
    generalize g.session.journal = j, g'.session.journal = j' at hjournal
    cases hjournal with
    | begin hsink hbegin =>
      obtain rfl := Option.some.inj hsink
      exact (h.beginAttempt _ scope.wave _ _ _ _).of_eq hbegin
    | runner => exact h.refl _
    | finish hextends hfinish =>
      rename_i token _ receipt _
      cases token with
      | none => exact absurd hfinish id
      | some token => exact (h.finishAttempt token receipt _).of_eq hfinish

theorem runWave (h : WriteRelation sha R) (rows : List (AssignmentExecutionReceipt D))
    (world : WaveWorld D) (s : Session D (JournalState D)) :
    LeavesAt (runWave sha.toContentSha (some (journal.sink sha)) scope rows world) s
      fun t => R s.journal t.journal := by
  refine leavesAt_check (h.refl _) fun pending hpending => ?_
  refine leavesAt_bind (Q := fun t => R s.journal t.journal) ?_ (fun _ ht => ht)
    fun _ t ht => ?_
  · exact h.beginWaveAttempts scope.plan scope.wave pending scope.priorScheduleReceiptSha256
      world.clock s.journal
  obtain ⟨tasks, u, hgroup, hu⟩ := runGroup_invariant
    (I := fun g : Group D (JournalState D) => R s.journal g.session.journal)
    (fun g g' hg hstep => h.trans hg (h.advanced hstep)) ht world.moves
  unfold LeavesAt
  rw [bind_apply_ok hgroup, check_bind_check]
  exact hu

theorem runWaves (h : WriteRelation sha R) (plan : FrozenPlan D) (ctx : ExecutionContext D)
    (worlds : ℕ → WaveWorld D) (waves : List (PlannedWave D)) (loop : LoopState D)
    (s : Session D (JournalState D)) :
    LeavesAt (runWaves sha.toContentSha (some (journal.sink sha)) plan ctx worlds waves loop)
      s fun t => R s.journal t.journal := by
  induction waves generalizing loop s with
  | nil =>
    unfold Pool.runWaves
    cases loop.currentScheduleReceipt with
    | none => exact h.refl _
    | some receipt => exact h.refl _
  | cons wave rest ih =>
    unfold Pool.runWaves
    refine leavesAt_bind (h.runWave _ _ s) (fun _ ht => ht) fun waveReceipt t ht => ?_
    refine leavesAt_check ht fun state _ => leavesAt_check ht fun receipt _ => ?_
    split
    · exact ht
    · exact (ih _ t).mono fun u hu => h.trans ht hu

theorem executeDispatchPlan (h : WriteRelation sha R) (journal : DispatchAttemptJournal D)
    (plan : FrozenPlan D) (ctx : ExecutionContext D) (resume : Option (DispatchScheduleReceipt D)) (call : Call D)
    (s : Session D (JournalState D)) :
    LeavesAt (executeDispatchPlan sha.toContentSha (some (journal.sink sha)) plan ctx resume
      call) s fun t => R s.journal t.journal := by
  refine leavesAt_check (h.refl _) fun opened hopened => ?_
  cases opened with
  | inl receipt => exact h.refl _
  | inr opened => exact h.runWaves _ _ _ _ _ s

end WriteRelation

/-! ## Three relations -/

/-- No method changes what the disk will do. -/
theorem writeRelation_disk (sha : JournalSha D) : WriteRelation sha fun s t => t.disk = s.disk where
  refl := fun _ => rfl
  trans := fun h h' => h'.trans h
  append := fun event s => by
    unfold LeavesAt
    rcases appendEvent_cases sha event s with happend | ⟨e, t, happend, hspoiled⟩
    · rw [happend]
      rfl
    · rw [happend]
      cases hspoiled <;> rfl
  fields := fun _ _ _ _ => rfl

/-- Files are only added. -/
theorem writeRelation_files (sha : JournalSha D) :
    WriteRelation sha fun s t => s.files <+: t.files where
  refl := fun _ => List.prefix_rfl
  trans := fun h h' => h.trans h'
  append := fun event s => by
    unfold LeavesAt
    rcases appendEvent_cases sha event s with happend | ⟨e, t, happend, hspoiled⟩
    · rw [happend]
      exact List.prefix_append _ _
    · rw [happend]
      cases hspoiled with
      | same => exact List.prefix_rfl
      | refused => exact List.prefix_rfl
      | torn => exact List.prefix_append _ _
      | unsynced => exact List.prefix_append _ _
  fields := fun _ _ _ _ => List.prefix_rfl

/-- A writer that does not know of a file appends none. -/
theorem Stuck.appendEvent (h : Stuck s) (sha : JournalSha D) (event : JournalEvent D) :
    ∃ e, DispatchAttemptJournal.appendEvent sha event s = (.error e, s) := by
  have hdiffer : s.files.map (fun file => (file.sequence, file.declaredSha256)) ≠ s.eventNames := by
    intro hnames
    have hlength := congrArg List.length hnames
    rw [List.length_map] at hlength
    unfold Stuck at h
    omega
  refine ⟨blockedError "dispatch_attempt_journal_changed_outside_writer", ?_⟩
  unfold DispatchAttemptJournal.appendEvent
  rw [read_bind]
  refine check_bind_error ?_ _ _
  unfold DispatchAttemptJournal.verifyCachedHead
  show require (s.files.map _ = s.eventNames) _ >>= _ = _
  rw [require, if_neg hdiffer]
  rfl

/-- A stuck writer stays stuck. -/
theorem writeRelation_stuck (sha : JournalSha D) :
    WriteRelation sha fun s t => Stuck s → Stuck t ∧ t.files = s.files where
  refl := fun _ h => ⟨h, rfl⟩
  trans := fun h h' hs => ⟨(h' (h hs).1).1, ((h' (h hs).1).2).trans (h hs).2⟩
  append := fun event s hs => by
    obtain ⟨e, happend⟩ := hs.appendEvent sha event
    rw [happend]
    exact ⟨hs, rfl⟩
  fields := fun _ _ _ _ h => ⟨h, rfl⟩

end Pool

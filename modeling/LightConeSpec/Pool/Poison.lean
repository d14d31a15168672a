import LightConeSpec.Pool.Digests
import LightConeSpec.Pool.Keeps

/-!
# A journal that its reader rejects

Any sequence of calls of the writing methods, with atomic writes. `finish_attempt`
checks less of a receipt than `replay` does: the plan, the wave of the intent, the
device count, the terminal binding, the start time of the intent and the types of
the attributed counts are checked by the reader only, so one accepted call can make
the journal unreadable for good. When every accepted FINISH is about its attempt,
and the files that its binding names are where they were, the reader follows the
writer in every state.
-/

namespace Pool

open Python Intervals

variable {D : Type} [DecidableEq D]

/-! ## Reading on a file system -/

/-- The constructors of the terminal bindings, which decoding the FINISH events runs
again. -/
def checkBindings (isResolved : String → Except Error Bool) (files : List (JournalFile D)) :
    Except Error Unit :=
  forEach (fun f : D × AssignmentExecutionReceipt D =>
    forEach (AssignmentTerminalBinding.postInit isResolved) f.2.terminalBinding.toList)
    (finishesOf files)

/-- `replay` on a file system. The source decodes a binding where its event is read;
here that comes first, so an error may be another one. -/
def DispatchAttemptJournal.replayOn (sha : JournalSha D) (journal : DispatchAttemptJournal D)
    (isResolved : String → Except Error Bool) (files : List (JournalFile D))
    (eventCount : Option ℕ) : Except Error (DispatchAttemptJournalSnapshot D) := do
  checkBindings isResolved (← replayNames files eventCount)
  journal.replay sha files eventCount

/-- The terminal bindings of the receipts pass their constructor again. -/
def BindingsStand {α : Type} (isResolved : String → Except Error Bool)
    (finished : List (α × AssignmentExecutionReceipt D)) : Prop :=
  ∀ f ∈ finished, ∀ binding ∈ f.2.terminalBinding, binding.postInit isResolved = .ok ()

instance {α : Type} (isResolved : String → Except Error Bool)
    (finished : List (α × AssignmentExecutionReceipt D)) :
    Decidable (BindingsStand isResolved finished) :=
  inferInstanceAs (Decidable (∀ f ∈ finished, ∀ binding ∈ f.2.terminalBinding, _))

omit [DecidableEq D] in
theorem checkBindings_eq_ok {isResolved : String → Except Error Bool}
    {files : List (JournalFile D)} (h : BindingsStand isResolved (finishesOf files)) :
    checkBindings isResolved files = .ok () :=
  forEach_eq_ok.mpr fun f hf => forEach_eq_ok.mpr fun binding hbinding =>
    h f hf binding (Option.mem_toList.mp hbinding)

/-- Where the bindings stand, the file system does not matter. -/
theorem replayOn_eq (sha : JournalSha D) (journal : DispatchAttemptJournal D)
    {isResolved : String → Except Error Bool} {files names : List (JournalFile D)}
    {eventCount : Option ℕ}
    (hnames : DispatchAttemptJournal.replayNames files eventCount = .ok names)
    (h : BindingsStand isResolved (finishesOf names)) :
    journal.replayOn sha isResolved files eventCount = journal.replay sha files eventCount := by
  unfold DispatchAttemptJournal.replayOn
  rw [hnames]
  show (checkBindings isResolved names >>= fun _ => _) = _
  rw [checkBindings_eq_ok h]
  rfl

/-! ## Calls -/

/-- A call of a writing method. A receipt that is passed has passed its
constructor. -/
inductive JournalCall (sha : ContentSha D)
  | beginWaveAttempts (plan : FrozenPlan D) (wave : PlannedWave D)
      (attempts : List (PendingAttempt D)) (prior : Option D) (clock : ℕ → ℕ)
      (isResolved : String → Except Error Bool)
  | beginAttempt (plan : FrozenPlan D) (wave : PlannedWave D) (p : PendingAttempt D)
      (fixedInstanceGpuCount : ℕ) (prior : Option D)
  | finishAttempt (token : DispatchAttemptJournalToken D)
      (receipt : AssignmentExecutionReceipt D) (types : AttributedTypes)
      (valid : receipt.postInit sha = .ok ())

/-- A journal and what the calls of `finish_attempt` that returned were given. -/
structure JournalRun (D : Type) where
  journal : JournalState D
  finished : Finished D

namespace JournalRun

/-- A new journal on a disk that writes whole files or refuses. -/
def start (refused : ℕ → Bool) : JournalRun D :=
  ⟨.new fun n => if refused n then .refused else .written, []⟩

/-- One call, which returns or raises. `begin_wave_attempts` replays the files before
it writes. -/
def next (sha : JournalSha D) (journal : DispatchAttemptJournal D) (run : JournalRun D) :
    JournalCall sha.toContentSha → JournalRun D
  | .beginWaveAttempts plan wave attempts prior clock isResolved =>
    match checkBindings isResolved run.journal.files with
    | .ok () =>
      ⟨(journal.beginWaveAttempts sha plan wave attempts prior clock run.journal).2, run.finished⟩
    | .error _ => run
  | .beginAttempt plan wave p count prior =>
    ⟨(journal.beginAttempt sha plan wave p count prior run.journal).2, run.finished⟩
  | .finishAttempt token receipt types _ =>
    match journal.finishAttempt sha token receipt types run.journal with
    | (.ok (), s) => ⟨s, run.finished ++ [(token, receipt)]⟩
    | (.error _, s) => ⟨s, run.finished⟩

/-- The calls one after the other. -/
def after (sha : JournalSha D) (journal : DispatchAttemptJournal D) (refused : ℕ → Bool)
    (calls : List (JournalCall sha.toContentSha)) : JournalRun D :=
  calls.foldl (next sha journal) (start refused)

end JournalRun

/-- `replay` on the file system returns, its incomplete intents are those whose `finish_attempt` has
not returned, and its receipts are the last ones that were passed to a
`finish_attempt` that returned. -/
def Readable (sha : JournalSha D) (journal : DispatchAttemptJournal D)
    (isResolved : String → Except Error Bool) (run : JournalRun D) : Prop :=
  ∃ snapshot, journal.replayOn sha isResolved run.journal.files none = .ok snapshot ∧
    (∀ d, d ∈ snapshot.incompleteIntentSha256s ↔
      d ∈ intentsOf run.journal.files ∧ ∀ f ∈ run.finished, f.1.intentSha256 ≠ d) ∧
    ∀ r, r ∈ snapshot.latestAssignmentReceipts ↔
      lastFinished run.finished r.assignmentSha256 = some r

variable {sha : JournalSha D} {journal : DispatchAttemptJournal D}

/-- A `finish_attempt` that is accepted has the start time of its intent and a
receipt that is about its assignment, with plain integers. -/
def Conforms (journal : DispatchAttemptJournal D) (s : JournalState D) :
    JournalCall sha.toContentSha → Prop
  | .finishAttempt token receipt types _ => ∀ intent wave finishedNs,
    Accepts journal s token receipt intent wave finishedNs →
      token.startedMonotonicNs = intent.startedMonotonicNs ∧ Describes journal receipt ∧
        types = {}
  | _ => True

/-- Every call of the run conforms. -/
def AllConform (sha : JournalSha D) (journal : DispatchAttemptJournal D) :
    JournalRun D → List (JournalCall sha.toContentSha) → Prop
  | _, [] => True
  | run, call :: rest =>
    Conforms journal run.journal call ∧ AllConform sha journal (run.next sha journal call) rest

/-! ## The invariant of the calls -/

/-- The writer agrees with its files, and writes are atomic. -/
def Consistent (sha : JournalSha D) (journal : DispatchAttemptJournal D) (run : JournalRun D) :
    Prop :=
  Atomic run.journal ∧ ∃ st, Tracks sha journal run.finished run.journal st

theorem consistent_start (refused : ℕ → Bool) :
    Consistent sha journal (JournalRun.start refused) := by
  refine ⟨fun n => ?_, {}, tracks_new _⟩
  show (if refused n then _ else _) = _ ∨ (if refused n then _ else _) = _
  cases refused n with
  | true => exact .inr rfl
  | false => exact .inl rfl

omit [DecidableEq D] in
theorem Atomic.congr {s t : JournalState D} (h : Atomic s) (hdisk : t.disk = s.disk) : Atomic t :=
  fun n => hdisk ▸ h n

/-- With atomic writes a method that raises leaves a writer that agrees with its
files. -/
theorem Survives.tracks {finished finished' : Finished D} {s : JournalState D}
    (h : Survives sha journal finished finished' s) (hatomic : Atomic s) :
    ∃ st, Tracks sha journal finished s st := by
  rcases h with h | ⟨hnot, -⟩
  · exact h
  · exact absurd hatomic hnot

/-- `finish_attempt` raises before it writes when its checks fail. -/
theorem exists_finishAttempt_error (sha : JournalSha D) {s : JournalState D}
    {token : DispatchAttemptJournalToken D} {receipt : AssignmentExecutionReceipt D}
    (types : AttributedTypes)
    (h : ∀ intent wave finishedNs, ¬Accepts journal s token receipt intent wave finishedNs) :
    ∃ e, journal.finishAttempt sha token receipt types s = (.error e, s) := by
  cases hparts : journal.finishPayload s token receipt types with
  | error e => exact ⟨e, Method.check_bind_error hparts _ s⟩
  | ok parts =>
    obtain ⟨intent, finishedNs, haccepts, -⟩ := finishPayload_eq_ok.mp hparts
    exact absurd haccepts (h intent parts.1 finishedNs)

theorem consistent_next {run : JournalRun D} (h : Consistent sha journal run)
    {call : JournalCall sha.toContentSha} (hconforms : Conforms journal run.journal call) :
    Consistent sha journal (run.next sha journal call) := by
  obtain ⟨hatomic, st, htracks⟩ := h
  cases call with
  | beginWaveAttempts plan wave attempts prior clock isResolved =>
    unfold JournalRun.next
    dsimp only
    split
    case h_2 => exact ⟨hatomic, st, htracks⟩
    have hdisk : Keeps _ (journal.beginWaveAttempts sha plan wave attempts prior clock) :=
      (writeRelation_disk sha).beginWaveAttempts plan wave attempts prior clock
    have hspec := beginWaveAttempts_spec htracks plan wave attempts prior clock
    have hafter := hatomic.congr (hdisk run.journal)
    refine ⟨hafter, ?_⟩
    show ∃ st, Tracks sha journal run.finished
      (journal.beginWaveAttempts sha plan wave attempts prior clock run.journal).2 st
    cases hresult : (journal.beginWaveAttempts sha plan wave attempts prior clock
        run.journal).1 with
    | ok u =>
      obtain ⟨st', hbegun⟩ := hspec.1 hresult
      exact ⟨st', hbegun.tracks⟩
    | error e => exact (hspec.2 e hresult).tracks hafter
  | beginAttempt plan wave p count prior =>
    have hspec := beginAttempt_spec sha journal run.journal plan wave p count prior
    show Consistent sha journal
      ⟨(journal.beginAttempt sha plan wave p count prior run.journal).2, run.finished⟩
    rcases hspec.1 with hsame | htook
    · rw [hsame]
      exact ⟨hatomic, st, htracks⟩
    · rw [htook]
      exact ⟨hatomic, st, htracks.congr rfl rfl rfl rfl⟩
  | finishAttempt token receipt types valid =>
    by_cases htypes : types ≠ {}
    · -- a call with other types is not accepted
      obtain ⟨e, he⟩ := exists_finishAttempt_error sha types fun intent wave finishedNs haccepts =>
        htypes (hconforms intent wave finishedNs haccepts).2.2
      have hnext : run.next sha journal (.finishAttempt token receipt types valid) = run := by
        simp only [JournalRun.next, he]
      rw [hnext]
      exact ⟨hatomic, st, htracks⟩
    obtain rfl := not_not.mp htypes
    have hdisk : Keeps _ (journal.finishAttempt sha token receipt) :=
      (writeRelation_disk sha).finishAttempt token receipt
    have hspec := finishAttempt_spec htracks valid fun intent wave finishedNs haccepts =>
      ⟨(hconforms intent wave finishedNs haccepts).1, (hconforms intent wave finishedNs haccepts).2.1⟩
    have hafter := hatomic.congr (hdisk run.journal)
    unfold Method.MeetsAt at hspec
    cases hresult : journal.finishAttempt sha token receipt {} run.journal with
    | mk result s =>
      rw [hresult] at hspec hafter
      cases result with
      | ok u =>
        have hnext : run.next sha journal (.finishAttempt token receipt {} valid)
            = ⟨s, run.finished ++ [(token, receipt)]⟩ := by
          simp only [JournalRun.next, hresult]
        obtain ⟨_, _, _, -, -, -, -, htracks'⟩ := hspec.1 rfl
        rw [hnext]
        exact ⟨hafter, _, htracks'⟩
      | error e =>
        have hnext : run.next sha journal (.finishAttempt token receipt {} valid)
            = ⟨s, run.finished⟩ := by
          simp only [JournalRun.next, hresult]
        rw [hnext]
        exact ⟨hafter, ((hspec.2 e rfl).survives htracks).tracks hafter⟩

theorem Consistent.readable {run : JournalRun D} (h : Consistent sha journal run)
    {isResolved : String → Except Error Bool} (hstand : BindingsStand isResolved run.finished) :
    Readable sha journal isResolved run := by
  obtain ⟨-, st, htracks⟩ := h
  obtain ⟨n, -, hreplay⟩ := htracks.replay_eq_ok
  have hfinishes : BindingsStand isResolved (finishesOf run.journal.files) := by
    rw [htracks.finishes]
    intro f hf
    obtain ⟨f, hmem, rfl⟩ := List.mem_map.mp hf
    exact hstand f hmem
  refine ⟨_, (replayOn_eq sha journal rfl hfinishes).trans hreplay, fun d => ?_, fun r => ?_⟩
  · exact (Recorded.mem_incomplete d).trans (htracks.unfinished d)
  · show r ∈ st.latest.values ↔ _
    rw [Dict.mem_values_iff, ← htracks.latest]
    constructor
    · rintro ⟨a, ha⟩
      rw [htracks.admissible.filed a r ha]
      exact ha
    · exact fun hr => ⟨_, hr⟩

/-- In every run whose accepted FINISH events are about their attempts, the reader
follows the writer, while the files of the terminal bindings are where they were. -/
theorem journal_readable (sha : JournalSha D) (journal : DispatchAttemptJournal D)
    (refused : ℕ → Bool) (calls : List (JournalCall sha.toContentSha))
    (isResolved : String → Except Error Bool)
    (h : AllConform sha journal (JournalRun.start refused) calls)
    (hstand : BindingsStand isResolved (JournalRun.after sha journal refused calls).finished) :
    Readable sha journal isResolved (JournalRun.after sha journal refused calls) := by
  have hall : ∀ calls run, Consistent sha journal run → AllConform sha journal run calls →
      Consistent sha journal (calls.foldl (JournalRun.next sha journal) run) := by
    intro calls
    induction calls with
    | nil => exact fun _ hrun _ => hrun
    | cons call rest ih =>
        exact fun run hrun hconform => ih _ (consistent_next hrun hconform.1) hconform.2
  exact (hall calls _ (consistent_start refused) h).readable hstand

/-! ## One assignment -/

/-- A plan of one assignment on one GPU, without retries. -/
def lonePlan : FrozenPlan Digest where
  sha256 := .text "plan"
  waves := [⟨0, .text "wave", [⟨.text "assignment", .text "cell", ["GPU-0"]⟩]⟩]
  scientificBudgetBound := true
  contiguous := rfl
  nonempty := by simp
  distinct := by simp
  distinctWaves := by simp

def loneJournal : DispatchAttemptJournal Digest where
  root := "/receipts/wave.json.attempt-journal"
  plan := lonePlan
  ctx := {
    registrySha256 := .text "registry"
    inventorySha256 := .text "inventory"
    deviceCount := 1
    budgetsByCellId := fun cellId =>
      if cellId = .text "cell" then some ⟨.text "budget", 0⟩ else none
    issuePlan := .ok lonePlan
    issuesWaves := by rintro _ ⟨⟩; exact List.cons_ne_nil _ _
    resumeTerminalAuthorities := [] }
  executionContextSha256 := .text "context"
  manifestSha256 := .text "manifest"

/-- The wave is begun at clock reading 10. -/
def loneBegin : JournalCall freeSha.toContentSha :=
  .beginWaveAttempts lonePlan ⟨0, .text "wave", [⟨.text "assignment", .text "cell", ["GPU-0"]⟩]⟩
    [⟨⟨.text "assignment", .text "cell", ["GPU-0"]⟩, 1, ⟨.text "budget", 0⟩, none⟩] none
    (fun _ => 10) fun _ => .ok true

/-- The token of the last intent after the calls, which was issued at a clock reading. -/
def lastToken (journal : DispatchAttemptJournal Digest)
    (calls : List (JournalCall freeSha.toContentSha)) (started : ℕ) :
    DispatchAttemptJournalToken Digest :=
  ⟨started, ((JournalRun.after freeSha journal (fun _ => false)
    calls).journal.eventSha256s.getLast?).getD (.number 0)⟩

/-- The receipt of a failed attempt from 10 to 25, for a plan. -/
def loneReceipt (planSha256 : Digest) : AssignmentExecutionReceipt Digest where
  planSha256 := planSha256
  waveSha256 := .text "wave"
  assignmentSha256 := .text "assignment"
  budgetSha256 := .text "budget"
  attempt := 1
  status := .failed
  terminalReceiptSha256 := none
  terminalBinding := none
  failureSha256 := some (.text "failure")
  priorAttemptReceiptSha256 := none
  gpuCount := 1
  fixedInstanceGpuCount := 1
  attemptIntervalsMonotonicNs := [(10, 25)]
  attributedGpuNs := 15
  attributedFixedInstanceGpuNs := 15

/-- The wave is begun and a receipt of another plan is finished. -/
def foreignCalls : List (JournalCall freeSha.toContentSha) :=
  [loneBegin, .finishAttempt (lastToken loneJournal [loneBegin] 10)
    (loneReceipt (.text "another plan")) {} rfl]

/-- A receipt of another plan is accepted by the writer and rejected by the reader. -/
theorem finish_poisons_journal : ¬Readable freeSha loneJournal (fun _ => .ok true)
    (JournalRun.after freeSha loneJournal (fun _ => false) foreignCalls) := by
  rintro ⟨snapshot, hreplay, -⟩
  have hraises : (loneJournal.replayOn freeSha (fun _ => .ok true) (JournalRun.after freeSha
      loneJournal (fun _ => false) foreignCalls).journal.files none).isOk = false := by
    decide +kernel
  rw [hreplay] at hraises
  cases hraises

/-! ## Two assignments in two waves -/

/-- An assignment on the one GPU, which is named like its cell. -/
def namedAssignment (name : String) : PlannedAssignment Digest :=
  ⟨.text name, .text name, ["GPU-0"]⟩

def namedWave (waveIndex : ℕ) (name : String) : PlannedWave Digest :=
  ⟨waveIndex, .text ("wave of " ++ name), [namedAssignment name]⟩

/-- A plan that runs `a` and then `b`. -/
def pairPlan : FrozenPlan Digest where
  sha256 := .text "plan"
  waves := [namedWave 0 "a", namedWave 1 "b"]
  scientificBudgetBound := true
  contiguous := rfl
  nonempty := by decide
  distinct := by decide
  distinctWaves := by decide

def pairJournal : DispatchAttemptJournal Digest :=
  { loneJournal with
    plan := pairPlan
    ctx := { loneJournal.ctx with
      budgetsByCellId := fun _ => some ⟨.text "budget", 0⟩
      issuePlan := .ok pairPlan
      issuesWaves := by rintro _ ⟨⟩; exact List.cons_ne_nil _ _ } }

def runFiles : List (String × Digest) :=
  ["receipt", "budget", "sidecar", "native"].map fun name =>
    ("/runs/" ++ name ++ ".json", .text name)

/-- The binding of `a`. -/
def pairBinding : AssignmentTerminalBinding Digest where
  authoritySha256 := .text "authority of a"
  cellId := .text "a"
  assignmentSha256 := .text "a"
  budgetSha256 := .text "budget"
  inventorySha256 := .text "inventory"
  physicalGpuUuids := ["GPU-0"]
  executionPlanSha256 := .text "execution plan"
  dispatchPlanSha256 := .text "plan"
  runId := "run"
  runNonceSha256 := .text "nonce"
  files := runFiles
  evidence := [("/runs/rows.parquet", .text "rows")]

/-- The wave of an assignment is begun. -/
def pairBegin (waveIndex : ℕ) (name : String) (prior : Option Digest) (now : ℕ) :
    JournalCall freeSha.toContentSha :=
  .beginWaveAttempts pairPlan (namedWave waveIndex name)
    [⟨namedAssignment name, 1, ⟨.text "budget", 0⟩, none⟩] prior (fun _ => now) fun _ => .ok true

/-- `a` succeeds. -/
def pairFirst : List (JournalCall freeSha.toContentSha) :=
  [pairBegin 0 "a" none 10, .finishAttempt (lastToken pairJournal [pairBegin 0 "a" none 10] 10)
    { loneReceipt (.text "plan") with
      waveSha256 := .text "wave of a"
      assignmentSha256 := .text "a"
      status := .succeeded
      terminalReceiptSha256 := some (freeSha.terminalBinding pairBinding)
      terminalBinding := some pairBinding
      failureSha256 := none } {} (by decide +kernel)]

/-- The wave of `b` is begun behind it. -/
def pairSecond : List (JournalCall freeSha.toContentSha) :=
  pairFirst ++ [pairBegin 1 "b" (((pairJournal.replay freeSha (JournalRun.after freeSha pairJournal
    (fun _ => false) pairFirst).journal.files none).toOption.bind (·.receipt)).map
      freeSha.scheduleReceipt) 30]

/-- `b` fails. -/
def pairCalls : List (JournalCall freeSha.toContentSha) :=
  pairSecond ++ [.finishAttempt (lastToken pairJournal pairSecond 30)
    { loneReceipt (.text "plan") with
      waveSha256 := .text "wave of b"
      assignmentSha256 := .text "b"
      attemptIntervalsMonotonicNs := [(30, 45)] } {} (by decide +kernel)]

/-- Both are finished, and the reader follows. -/
theorem journal_readable_pair :
    (JournalRun.after freeSha pairJournal (fun _ => false) pairCalls).finished.length = 2 ∧
      Readable freeSha pairJournal (fun _ => .ok true)
        (JournalRun.after freeSha pairJournal (fun _ => false) pairCalls) := by
  refine ⟨by decide +kernel, journal_readable freeSha pairJournal (fun _ => false) _ _
    ⟨trivial, fun intent wave finishedNs haccepts => ⟨?_, ⟨rfl, rfl, ?_⟩, rfl⟩,
      trivial, fun intent wave finishedNs haccepts => ⟨?_, ⟨rfl, rfl, ?_⟩, rfl⟩, trivial⟩ ?_⟩
  · have hopen : ((JournalRun.after freeSha pairJournal (fun _ => false)
        [pairBegin 0 "a" none 10]).journal.openTokens.get? (lastToken pairJournal
          [pairBegin 0 "a" none 10] 10).intentSha256).map (·.startedMonotonicNs) = some 10 := by
      decide +kernel
    exact Option.some.inj (hopen.symm.trans (congrArg (Option.map _) haccepts.opened))
  · rintro w (_ | ⟨_, _ | ⟨_, ⟨⟩⟩⟩) x hx hid
    · obtain rfl := List.mem_singleton.mp hx
      exact ⟨rfl, fun _ => ⟨_, rfl, rfl, rfl, rfl, rfl⟩⟩
    · obtain rfl := List.mem_singleton.mp hx
      exact absurd hid (by decide +kernel)
  · have hopen : ((JournalRun.after freeSha pairJournal (fun _ => false)
        pairSecond).journal.openTokens.get? (lastToken pairJournal pairSecond
          30).intentSha256).map (·.startedMonotonicNs) = some 30 := by
      decide +kernel
    exact Option.some.inj (hopen.symm.trans (congrArg (Option.map _) haccepts.opened))
  · rintro w (_ | ⟨_, _ | ⟨_, ⟨⟩⟩⟩) x hx hid
    · obtain rfl := List.mem_singleton.mp hx
      exact absurd hid (by decide +kernel)
    · obtain rfl := List.mem_singleton.mp hx
      exact ⟨rfl, nofun⟩
  · decide +kernel

end Pool

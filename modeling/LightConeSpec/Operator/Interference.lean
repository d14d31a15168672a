import LightConeSpec.Operator.Cycle

/-!
# The interference policy

The scheduler keeps commands apart by what `_select_dispatch` sees: a command
that needs several GPUs or has an exclusive timing class starts only when
nothing runs, and a single-GPU command starts on a free GPU unless an
exclusive class runs. Nothing stops a single-GPU command beside a multi-GPU
auxiliary one, and nothing counts to two in `DUAL_SINGLE` mode; both are
decided by the size of the inventory.
-/

namespace Operator

open Python Program Machine List Store

variable {s t : Store} {envelope : InterferenceEnvelope} {command : QueuedCommandSpec}
  {gpus : List String} {kind : ChangeKind}

variable {w : World} {c : QueuedCommandSpec} {started : Int}

namespace Scheduler

/-! ## The policy -/

def runningCommands (s : Store) : List QueuedCommandSpec := s.physicalCommands .running

def gpusOf (s : Store) (c : QueuedCommandSpec) : List String :=
  ((s.findAttempt c.key).map (·.assignedGpuUuids)).getD []

def RunsAlone (c : QueuedCommandSpec) : Prop :=
  1 < c.val.requiredGpuCount ∨ c.val.timingClass.isExclusive = true

instance (c : QueuedCommandSpec) : Decidable (RunsAlone c) :=
  inferInstanceAs (Decidable (_ ∨ _))

/-- The interference policy in a ledger state. In a run of the scheduler alone
the envelope stays as it is and every running command was started in the run,
so `headline` says that none was started while the mode was `UNRESOLVED`. -/
structure PolicyKept (s : Store) : Prop where
  alone : ∀ c ∈ runningCommands s, RunsAlone c → runningCommands s = [c]
  isolated : ∀ envelope, s.envelope = some envelope → envelope.mode = .isolated →
    (runningCommands s).length ≤ 1
  dualSingle : ∀ envelope, s.envelope = some envelope → envelope.mode = .dualSingle →
    (runningCommands s).length ≤ 2
  headline : ∀ envelope, s.envelope = some envelope → envelope.mode = .unresolved →
    ∀ c ∈ runningCommands s, c.val.timingClass ≠ .headline

/-- The condition on the envelope and the queue under which the policy is kept:
`DUAL_SINGLE` is configured over two GPUs, and outside `ISOLATED` mode a
multi-GPU auxiliary command needs the whole inventory. -/
def EnvelopeFits (s : Store) : Prop :=
  ∀ envelope, s.envelope = some envelope →
    (envelope.mode = .dualSingle → envelope.gpuUuids.length = 2) ∧
    (envelope.mode = .isolated ∨ ∀ c ∈ s.queue, 1 < c.val.requiredGpuCount →
      c.val.timingClass = .safeAuxiliary → envelope.gpuUuids.length ≤ c.val.requiredGpuCount)

instance (s : Store) : Decidable (EnvelopeFits s) :=
  inferInstanceAs (Decidable (∀ envelope ∈ s.envelope, _ ∧ _))

/-! ## The invariant -/

/-- What the scheduler maintains under an envelope. -/
structure Disciplined (envelope : InterferenceEnvelope) (s : Store) : Prop where
  size : ∀ c ∈ runningCommands s, (gpusOf s c).length = c.val.requiredGpuCount
  nodup : ∀ c ∈ runningCommands s, (gpusOf s c).Nodup
  within : ∀ c ∈ runningCommands s, ∀ gpu ∈ gpusOf s c, gpu ∈ envelope.gpuUuids
  disjoint : ∀ c ∈ runningCommands s, ∀ c' ∈ runningCommands s, c ≠ c' →
    ∀ gpu ∈ gpusOf s c, gpu ∉ gpusOf s c'
  alone : ∀ c ∈ runningCommands s, RunsAlone c → ∀ c' ∈ runningCommands s, c' = c
  isolated : envelope.mode = .isolated →
    ∀ c ∈ runningCommands s, ∀ c' ∈ runningCommands s, c' = c
  headline : envelope.mode = .unresolved → ∀ c ∈ runningCommands s,
    c.val.timingClass ≠ .headline

/-- The invariant of the ledger; without an envelope nothing runs. -/
structure PolicyInvariant (s : Store) : Prop where
  wellFormed : s.WellFormed
  disciplined : ∀ envelope, s.envelope = some envelope → Disciplined envelope s
  idle : s.envelope = none → runningCommands s = []

/-- The same commands, or fewer, run on the same GPUs. -/
def RunningShrinks (s t : Store) : Prop :=
  ∀ c ∈ runningCommands t, c ∈ runningCommands s ∧ gpusOf t c = gpusOf s c

theorem RunningShrinks.disciplined (h : RunningShrinks s t) (hs : Disciplined envelope s) :
    Disciplined envelope t where
  size := by
    intro c hc
    rw [(h c hc).2]
    exact hs.size c (h c hc).1
  nodup := by
    intro c hc
    rw [(h c hc).2]
    exact hs.nodup c (h c hc).1
  within := by
    intro c hc
    rw [(h c hc).2]
    exact hs.within c (h c hc).1
  disjoint := by
    intro c hc c' hc' hne
    rw [(h c hc).2, (h c' hc').2]
    exact hs.disjoint c (h c hc).1 c' (h c' hc').1 hne
  alone := fun c hc halone c' hc' => hs.alone c (h c hc).1 halone c' (h c' hc').1
  isolated := fun hmode c hc c' hc' => hs.isolated hmode c (h c hc).1 c' (h c' hc').1
  headline := fun hmode c hc => hs.headline hmode c (h c hc).1

/-! ## From the invariant to the policy -/

/-- A list of distinct values that are all equal has at most one. -/
theorem length_le_one {α : Type} {values : List α} (hnodup : values.Nodup)
    (h : ∀ a ∈ values, ∀ b ∈ values, b = a) : values.length ≤ 1 := by
  match values, hnodup, h with
  | [], _, _ => simp
  | [a], _, _ => simp
  | a :: b :: rest, hnodup, h =>
    have heq : b = a := h a (by simp) b (by simp)
    simp [heq] at hnodup

/-- Distinct running commands hold distinct GPUs of the inventory. -/
theorem Disciplined.length_le (hs : Disciplined envelope s) (hnodup : (runningCommands s).Nodup) :
    (runningCommands s).length ≤ envelope.gpuUuids.length := by
  -- a GPU of each command
  have hfirst : ∀ c ∈ runningCommands s, (gpusOf s c).headD "" ∈ gpusOf s c := by
    intro c hc
    have hpos : 0 < (gpusOf s c).length := by
      rw [hs.size c hc]
      exact c.requiredGpuCount_pos
    cases hgpus : gpusOf s c with
    | nil => simp [hgpus] at hpos
    | cons gpu rest => simp
  have hmap : ((runningCommands s).map fun c => (gpusOf s c).headD "").Nodup := by
    refine hnodup.map_on ?_
    intro c hc c' hc' heq
    by_contra hne
    have hgpu := hfirst c hc
    rw [heq] at hgpu
    exact hs.disjoint c hc c' hc' hne _ hgpu (hfirst c' hc')
  have hsub : ((runningCommands s).map fun c => (gpusOf s c).headD "") ⊆ envelope.gpuUuids := by
    intro gpu hgpu
    obtain ⟨c, hc, rfl⟩ := mem_map.mp hgpu
    exact hs.within c hc _ (hfirst c hc)
  have hle := (subperm_of_subset hmap hsub).length_le
  simpa using hle

theorem PolicyInvariant.policyKept (hs : PolicyInvariant s)
    (hdual : ∀ envelope, s.envelope = some envelope → envelope.mode = .dualSingle →
      envelope.gpuUuids.length = 2) : PolicyKept s := by
  have hnodup : (runningCommands s).Nodup :=
    physicalCommands_nodup hs.wellFormed .running
  constructor
  · intro c hc halone
    cases henvelope : s.envelope with
    | none =>
      rw [hs.idle henvelope] at hc
      cases hc
    | some envelope =>
      have hall := (hs.disciplined envelope henvelope).alone c hc halone
      have hle := length_le_one hnodup fun a ha b hb => (hall b hb).trans (hall a ha).symm
      obtain ⟨d, hd⟩ := length_eq_one_iff.mp (le_antisymm hle (length_pos_of_mem hc))
      rw [hd] at hc ⊢
      rw [mem_singleton.mp hc]
  · intro envelope henvelope hmode
    exact length_le_one hnodup ((hs.disciplined envelope henvelope).isolated hmode)
  · intro envelope henvelope hmode
    have hle := (hs.disciplined envelope henvelope).length_le hnodup
    rw [hdual envelope henvelope hmode] at hle
    exact hle
  · intro envelope henvelope hmode
    exact (hs.disciplined envelope henvelope).headline hmode

/-! ## Reconciliation only shrinks -/

/-- A running command as a queued command with a `RUNNING` row. -/
theorem mem_runningCommands : c ∈ runningCommands s ↔ c ∈ s.queue ∧
      (∃ r, s.findAttempt c.key = some r ∧ r.status = .running) ∧ s.isPhysical c.key = true :=
  mem_physicalCommands

/-- A change under which `RUNNING` rows keep their GPUs, queued commands with a
`RUNNING` row were queued before, and no attempt becomes physical. -/
theorem RunningShrinks.of {s t : Store}
    (hrow : ∀ key r', t.findAttempt key = some r' → r'.status = .running →
      ∃ r, s.findAttempt key = some r ∧ r.status = .running ∧
        r'.assignedGpuUuids = r.assignedGpuUuids)
    (hqueue : ∀ c ∈ t.queue, (∃ r, s.findAttempt c.key = some r ∧ r.status = .running) →
      c ∈ s.queue) (hphysical : ∀ key, t.isPhysical key = true → s.isPhysical key = true) :
    RunningShrinks s t := by
  intro c hc
  obtain ⟨hmem, ⟨r', hfind', hrunning'⟩, hphys⟩ := mem_runningCommands.mp hc
  obtain ⟨r, hfind, hrunning, hgpus⟩ := hrow c.key r' hfind' hrunning'
  refine ⟨mem_runningCommands.mpr ⟨hqueue c hmem ⟨r, hfind, hrunning⟩, ⟨r, hfind, hrunning⟩,
    hphysical _ hphys⟩, ?_⟩
  simp [gpusOf, hfind, hfind', hgpus]

/-- A row that a change of reconciliation leaves `RUNNING` keeps its GPUs. -/
theorem rowChange_running (hkind : kind ∈ reconcileKinds) {r r' : AttemptRow}
    (h : RowChange r r' kind) (hrunning : r'.status = .running) :
    r.status = .running ∧ r'.assignedGpuUuids = r.assignedGpuUuids := by
  cases kind with
  | observe =>
    rw [h.1] at hrunning
    exact ⟨hrunning, h.2.1⟩
  | finish => exact absurd hrunning h.2.1.2
  | start | stale | adopt => simp [reconcileKinds] at hkind
  | materialize | legacy | enqueue | group | settings | auxStart | dispatch | envelope =>
    exact h.elim

/-- Updates of groups that keep their leaders change no attempt's role. -/
theorem isPhysical_updateGroup (s : Store) (groupId : String) {f : GroupRow → GroupRow}
    (hf : ∀ g, (f g).groupId = g.groupId ∧ (f g).leader = g.leader) (key : AttemptKey) :
    (s.updateGroup groupId f).isPhysical key = s.isPhysical key := by
  have hfind (id : String) : (s.updateGroup groupId f).findGroup id =
      (s.findGroup id).map fun g => if g.groupId = groupId then f g else g := by
    simp only [Store.findGroup, Store.updateGroup, find?_map]
    congr 2
    funext g
    by_cases hg : g.groupId = groupId
    · simp [hg, (hf g).1]
    · simp [hg]
  unfold Store.isPhysical
  have hmember : (s.updateGroup groupId f).memberOf key = s.memberOf key := rfl
  rw [hmember]
  cases s.memberOf key with
  | none => rfl
  | some m =>
    dsimp only
    rw [hfind]
    cases s.findGroup m.groupId with
    | none => rfl
    | some g =>
      by_cases hg : g.groupId = groupId
      · simp [hg, (hf g).2]
      · simp [hg]

theorem RunningShrinks.of_ledger {s t : Store} (hledger : SameLedger s t) : RunningShrinks s t := by
  refine RunningShrinks.of ?_ ?_ ?_
  · intro key r' hfind hrunning
    unfold Store.findAttempt at hfind
    rw [hledger.attempts] at hfind
    exact ⟨r', hfind, hrunning, rfl⟩
  · intro c hc _
    rw [hledger.queue] at hc
    exact hc
  · intro key hphysical
    unfold Store.isPhysical Store.memberOf Store.findGroup at hphysical ⊢
    rw [hledger.members, hledger.groups] at hphysical
    exact hphysical

theorem Change.runningShrinks (h : Change kind s t) (hkind : kind ∈ reconcileKinds)
    (hs : s.WellFormed) : RunningShrinks s t := by
  -- a change of the attempt table only
  have hsame {s : Store} {key : AttemptKey} {r : AttemptRow} (hfind : s.findAttempt key = some r)
      (hrunning : r.status = .running) : ∃ r', s.findAttempt key = some r' ∧
        r'.status = .running ∧ r.assignedGpuUuids = r'.assignedGpuUuids :=
    ⟨r, hfind, hrunning, rfl⟩
  cases h with
  | rows keys f hspec hrow =>
    refine RunningShrinks.of ?_ (fun c hc _ => hc) fun _ h => h
    intro key r' hfind hrunning
    rw [findAttempt_updateAttempts fun r => (hspec r).spec] at hfind
    obtain ⟨r, hr, rfl⟩ := Option.map_eq_some_iff.mp hfind
    obtain ⟨hmem, hkey⟩ := findAttempt_eq_some hr
    by_cases hkeys : key ∈ keys
    · rw [if_pos hkeys] at hrunning ⊢
      have hchange := rowChange_running hkind (hrow r hmem (by rw [hkey]; exact hkeys)) hrunning
      exact ⟨r, hr, hchange⟩
    · rw [if_neg hkeys] at hrunning ⊢
      exact ⟨r, hr, hrunning, rfl⟩
  | materialize row hrow =>
    refine RunningShrinks.of ?_ (fun c hc _ => hc) fun _ h => h
    intro key r' hfind hrunning
    -- the new row is PENDING
    rw [Store.findAttempt, appendAttempt_attempts, find?_append] at hfind
    cases hold : s.attempts.find? fun row => decide (row.key = key) with
    | some r =>
      rw [hold] at hfind
      cases hfind
      exact hsame hold hrunning
    | none =>
      rw [hold] at hfind
      have hnew : r' = row := by
        have := mem_of_find?_eq_some hfind
        simpa using this
      rw [hnew, hrow.pending] at hrunning
      cases hrunning
  | enqueue command hrow fresh =>
    refine RunningShrinks.of (fun _ _ => hsame) ?_ fun _ h => h
    rintro c hc ⟨r, hfind, hrunning⟩
    rcases mem_append.mp hc with hc | hc
    · exact hc
    · -- the new command belongs to a PENDING row
      obtain ⟨r', hmem, hkey, hpending⟩ := hrow
      rw [mem_singleton.mp hc] at hfind
      obtain ⟨hmem', hkey'⟩ := findAttempt_eq_some hfind
      rw [hs.attempts.eq_of_key hmem' hmem (hkey'.trans hkey.symm), hpending] at hrunning
      cases hrunning
  | groupFinish groupId f hf _ =>
    refine RunningShrinks.of (fun _ _ => hsame) (fun c hc _ => hc) fun key h => ?_
    rwa [isPhysical_updateGroup s groupId hf] at h
  | settings hledger _ => exact .of_ledger hledger
  | dispatch hledger _ _ => exact .of_ledger hledger
  | legacy | insertGroup | insertMember | groupStart | auxStart | envelope =>
    simp [reconcileKinds] at hkind

/-- Changes of reconciliation keep the envelope. -/
theorem Change.envelope_eq (h : Change kind s t) (hkind : kind ∈ reconcileKinds) :
    t.envelope = s.envelope := by
  cases h with
  | settings _ hcontrol => exact hcontrol.envelope
  | dispatch _ henvelope _ => exact henvelope
  | envelope => simp [reconcileKinds] at hkind
  | auxStart => simp [reconcileKinds] at hkind
  | rows | materialize | legacy | enqueue | insertGroup | insertMember | groupStart
  | groupFinish => rfl

theorem PolicyInvariant.change (h : Change kind s t) (hkind : kind ∈ reconcileKinds)
    (hs : PolicyInvariant s) : PolicyInvariant t := by
  have hshrinks := Change.runningShrinks h hkind hs.wellFormed
  have henvelope := Change.envelope_eq h hkind
  refine ⟨h.wellFormed hs.wellFormed, ?_, ?_⟩
  · intro envelope henv
    rw [henvelope] at henv
    exact hshrinks.disciplined (hs.disciplined envelope henv)
  · intro hnone
    rw [henvelope] at hnone
    rw [eq_nil_iff_forall_not_mem]
    intro c hc
    have hc' := (hshrinks c hc).1
    rw [hs.idle hnone] at hc'
    cases hc'

/-! ## A start -/

/-- The commands that run after a start: those that ran before on their GPUs,
and the started one on its own. -/
def RunningGrows (s t : Store) (command : QueuedCommandSpec) (gpus : List String) : Prop :=
  ∀ c ∈ runningCommands t, (c ∈ runningCommands s ∧ gpusOf t c = gpusOf s c) ∨
    (c = command ∧ gpusOf t c = gpus)

/-- A claim of rows of which only the command's own is physical. -/
theorem RunningGrows.of {s t : Store} (hs : s.WellFormed) {keys : List AttemptKey}
    {command : QueuedCommandSpec} {gpus : List String} {started : Int}
    (hfind : ∀ key, t.findAttempt key =
      (s.findAttempt key).map fun r => if key ∈ keys then r.start gpus started else r)
    (hqueue : t.queue = s.queue) (hphysical : ∀ key, t.isPhysical key = s.isPhysical key)
    (hcommand : command ∈ s.queue)
    (hkeys : ∀ key ∈ keys, s.isPhysical key = true → key = command.key) :
    RunningGrows s t command gpus := by
  intro c hc
  obtain ⟨hmem, ⟨r', hfind', hrunning⟩, hphys⟩ := mem_runningCommands.mp hc
  rw [hqueue] at hmem
  rw [hphysical] at hphys
  rw [hfind] at hfind'
  obtain ⟨r, hr, rfl⟩ := Option.map_eq_some_iff.mp hfind'
  by_cases hclaimed : c.key ∈ keys
  · right
    refine ⟨hs.queue_eq hmem hcommand (hkeys _ hclaimed hphys), ?_⟩
    simp [gpusOf, hfind, hr, hclaimed, AttemptRow.start]
  · left
    rw [if_neg hclaimed] at hrunning
    refine ⟨mem_runningCommands.mpr ⟨hmem, ⟨r, hr, hrunning⟩, hphys⟩, ?_⟩
    simp [gpusOf, hfind, hr, hclaimed]

theorem markRunning_grows (hs : s.WellFormed) (hcommand : command ∈ s.queue)
    (h : s.markRunningBeforeSpawn command.key gpus started = .ok t) :
    RunningGrows s t command gpus := by
  obtain ⟨_, rfl⟩ := markRunningBeforeSpawn_eq_ok h
  refine RunningGrows.of hs (findAttempt_updateAttempts fun _ => rfl) rfl (fun _ => rfl)
    hcommand ?_
  intro key hkey _
  simpa using hkey

theorem startGroup_grows (hs : s.WellFormed) {view : GroupView} (hcommand : command ∈ s.queue)
    (hgroup : s.findGroup view.group.groupId = some view.group)
    (hleader : view.group.leader = command.key)
    (h : s.startPhysicalAttemptGroup view.group.groupId gpus started = .ok t) :
    RunningGrows s t command gpus := by
  obtain ⟨_, _, rfl⟩ := startPhysicalAttemptGroup_eq_ok h
  have hfind (key : AttemptKey) :
      (s.updateAttempts ((s.groupAttempts view.group.groupId).map (·.2.key))
        fun r => r.start gpus started).findAttempt key = _ :=
    findAttempt_updateAttempts (f := fun r => r.start gpus started) (fun _ => rfl) key
  have hphysical (key : AttemptKey) := isPhysical_updateGroup
    (s.updateAttempts ((s.groupAttempts view.group.groupId).map (·.2.key))
      fun r => r.start gpus started) view.group.groupId
    (f := fun g => { g with status := .running }) (fun _ => ⟨rfl, rfl⟩) key
  refine RunningGrows.of hs (fun key => hfind key) rfl hphysical hcommand ?_
  -- a physical member of the group is its leader
  intro key hkey hphysical
  obtain ⟨row, hrow, rfl⟩ := mem_map.mp hkey
  obtain ⟨m, hm, hid, _, hfind⟩ := mem_groupAttempts.mp hrow
  have hkey : m.key = row.2.key := (findAttempt_eq_some hfind).2.symm
  unfold Store.isPhysical at hphysical
  rw [← hkey, hs.memberOf hm] at hphysical
  simp only [hid, hgroup, Option.any_some, decide_eq_true_eq] at hphysical
  rw [← hkey, ← hphysical, hleader]

/-- The GPUs of a running command are occupied. -/
theorem gpusOf_subset_occupied (hc : c ∈ runningCommands s) {gpu : String}
    (hgpu : gpu ∈ gpusOf s c) : gpu ∈ occupiedGpus s.attempts := by
  obtain ⟨_, ⟨r, hfind, hrunning⟩, _⟩ := mem_runningCommands.mp hc
  refine mem_occupiedGpus.mpr ⟨r, (findAttempt_eq_some hfind).1, hrunning, ?_⟩
  simpa [gpusOf, hfind] using hgpu

/-- A command that is selected beside a running one shares with it: neither has
to run alone, and the mode is not `ISOLATED`. -/
theorem Selected.shares {pending : List QueuedCommandSpec}
    (hsel : Selected envelope s.attempts (runningCommands s) pending command gpus)
    (hs : Disciplined envelope s) (henvelope : s.envelope = some envelope) (hfits : EnvelopeFits s)
    (hc : c ∈ runningCommands s) :
    ¬ RunsAlone command ∧ ¬ RunsAlone c ∧ envelope.mode ≠ .isolated := by
  obtain ⟨hqueue, ⟨r, hfind, hrunning⟩, _⟩ := mem_runningCommands.mp hc
  have hgpu : ∃ gpu, gpu ∈ gpusOf s c := by
    refine exists_mem_of_length_pos ?_
    rw [hs.size c hc]
    exact c.requiredGpuCount_pos
  have hisolated : envelope.mode ≠ .isolated := by
    intro hmode
    obtain ⟨gpu, hgpu⟩ := hgpu
    have hocc := gpusOf_subset_occupied hc hgpu
    rw [hsel.isolated hmode] at hocc
    cases hocc
  refine ⟨fun halone => ?_, fun halone => ?_, hisolated⟩
  · exact hsel.unshared halone r (findAttempt_eq_some hfind).1 hrunning
  · have hshared := hsel.shared c hc
    rcases halone with hmany | hexclusive
    · -- a multi-GPU command that is not exclusive is auxiliary, and fills the inventory
      have hclass : c.val.timingClass = .safeAuxiliary := by
        cases hclass : c.val.timingClass with
        | headline => rw [c.requiredGpuCount_of_headline hclass] at hmany; omega
        | safeAuxiliary => rfl
        | exclusive | profiler | failure | archive =>
          simp [hclass, TimingClass.isExclusive] at hshared
      have hcount := ((hfits envelope henvelope).2.resolve_left hisolated) c hqueue hmany hclass
      have hcover : envelope.gpuUuids ⊆ gpusOf s c := by
        have hsub := subperm_of_subset (hs.nodup c hc) (hs.within c hc)
        refine (hsub.perm_of_length_le ?_).symm.subset
        rw [hs.size c hc]
        exact hcount
      obtain ⟨gpu, hgpu⟩ : ∃ gpu, gpu ∈ gpus := by
        refine exists_mem_of_length_pos ?_
        rw [hsel.size]
        exact command.requiredGpuCount_pos
      exact hsel.free gpu hgpu (gpusOf_subset_occupied hc (hcover (hsel.within gpu hgpu)))
    · rw [hshared] at hexclusive
      cases hexclusive

/-- A start of a selected command keeps the invariant. -/
theorem PolicyInvariant.start {pending : List QueuedCommandSpec} (hs : PolicyInvariant s)
    (henvelope : s.envelope = some envelope) (hfits : EnvelopeFits s)
    (hsel : Selected envelope s.attempts (runningCommands s) pending command gpus)
    (hgrows : RunningGrows s t command gpus) (ht : t.WellFormed)
    (henvelope' : t.envelope = s.envelope) : PolicyInvariant t := by
  have hold := hs.disciplined envelope henvelope
  have hshares {c : QueuedCommandSpec} (hc : c ∈ runningCommands s) :=
    hsel.shares hold henvelope hfits hc
  -- the GPUs of the started command are free
  have hfree {c : QueuedCommandSpec} (hc : c ∈ runningCommands s) :
      ∀ gpu ∈ gpus, gpu ∉ gpusOf s c :=
    fun gpu hgpu hmem => hsel.free gpu hgpu (gpusOf_subset_occupied hc hmem)
  refine ⟨ht, ?_, ?_⟩
  · intro envelope' h'
    rw [henvelope', henvelope] at h'
    cases h'
    constructor
    · intro c hc
      rcases hgrows c hc with ⟨hc', hgpus⟩ | ⟨rfl, hgpus⟩ <;> rw [hgpus]
      · exact hold.size c hc'
      · exact hsel.size
    · intro c hc
      rcases hgrows c hc with ⟨hc', hgpus⟩ | ⟨rfl, hgpus⟩ <;> rw [hgpus]
      · exact hold.nodup c hc'
      · exact hsel.nodup
    · intro c hc
      rcases hgrows c hc with ⟨hc', hgpus⟩ | ⟨rfl, hgpus⟩ <;> rw [hgpus]
      · exact hold.within c hc'
      · exact hsel.within
    · intro c hc c' hc' hne
      rcases hgrows c hc with ⟨hc₁, hgpus⟩ | ⟨rfl, hgpus⟩
      · rcases hgrows c' hc' with ⟨hc₂, hgpus'⟩ | ⟨rfl, hgpus'⟩ <;> rw [hgpus, hgpus']
        · exact hold.disjoint c hc₁ c' hc₂ hne
        · exact fun gpu hmem hgpu => hfree hc₁ gpu hgpu hmem
      · rcases hgrows c' hc' with ⟨hc₂, hgpus'⟩ | ⟨rfl, _⟩
        · rw [hgpus, hgpus']
          exact hfree hc₂
        · exact absurd rfl hne
    · intro c hc halone c' hc'
      rcases hgrows c hc with ⟨hc₁, _⟩ | ⟨rfl, _⟩
      · exact absurd halone (hshares hc₁).2.1
      · rcases hgrows c' hc' with ⟨hc₂, _⟩ | ⟨rfl, _⟩
        · exact absurd halone (hshares hc₂).1
        · rfl
    · intro hmode c hc c' hc'
      rcases hgrows c hc with ⟨hc₁, _⟩ | ⟨rfl, _⟩
      · exact absurd hmode (hshares hc₁).2.2
      · rcases hgrows c' hc' with ⟨hc₂, _⟩ | ⟨rfl, _⟩
        · exact absurd hmode (hshares hc₂).2.2
        · rfl
    · intro hmode c hc hheadline
      rcases hgrows c hc with ⟨hc', _⟩ | ⟨rfl, _⟩
      · exact hold.headline hmode c hc' hheadline
      · exact hsel.headline hheadline hmode
  · intro hnone
    rw [henvelope', henvelope] at hnone
    cases hnone

/-! ## The cycle -/

/-- Without other processes the store changes only by the scheduler. Every
transaction keeps the invariant and the envelope. -/
def policyContract : Contract Effect World Oracle where
  rely w w' := w'.store = w.store
  rely_refl := fun _ => rfl
  rely_trans := fun _ _ _ hst htu => htu.trans hst
  allowed w _ _ := EnvelopeFits w.store
  safe w ω e := PolicyInvariant (w.handle ω e).2.store ∧
    (w.handle ω e).2.store.envelope = w.store.envelope

/-- The invariant between cycles, and in the loop under its envelope. -/
def PolicyHolds (envelope : Option InterferenceEnvelope) (w : World) : Prop :=
  PolicyInvariant w.store ∧ ∀ e, envelope = some e → w.store.envelope = some e

def PolicyReady (envelope : InterferenceEnvelope) (command : QueuedCommandSpec)
    (gpus : List String) (w : World) : Prop :=
  PolicyHolds (some envelope) w ∧ Selected envelope w.store.attempts (runningCommands w.store)
    (w.store.physicalCommands .pending) command gpus

theorem PolicyHolds.of_store_eq {envelope : Option InterferenceEnvelope} {w' : World}
    (h : PolicyHolds envelope w) (hstore : w'.store = w.store) : PolicyHolds envelope w' := by
  unfold PolicyHolds
  rw [hstore]
  exact h

theorem PolicyReady.of_store_eq {w' : World} (h : PolicyReady envelope command gpus w)
    (hstore : w'.store = w.store) : PolicyReady envelope command gpus w' := by
  unfold PolicyReady PolicyHolds
  rw [hstore]
  exact h

/-- Changes of reconciliation keep the envelope. -/
theorem Changes.envelope_eq (h : Changes reconcileKinds s t) : t.envelope = s.envelope :=
  h.relation (R := fun s t => t.envelope = s.envelope) (fun _ => rfl)
    (fun _ _ _ hst htu => htu.trans hst) fun _ hkind _ _ hchange =>
      Change.envelope_eq hchange hkind

/-- An effect outside a claim is safe and keeps the invariant. -/
theorem within_policy (envelope : Option InterferenceEnvelope) (w : World) (ω : Oracle)
    (e : Effect) (he : e.Within reconcileKinds) (hw : PolicyHolds envelope w) :
    policyContract.safe w ω e ∧ PolicyHolds envelope (w.handle ω e).2 := by
  have hchanges := he.changes hw.1.wellFormed.attempts ω
  have hinv : PolicyInvariant (w.handle ω e).2.store :=
    hchanges.invariant (fun _ hkind _ _ hchange hs => hs.change hchange hkind) hw.1
  have henvelope := Changes.envelope_eq hchanges
  refine ⟨⟨hinv, henvelope⟩, hinv, fun e' he' => ?_⟩
  rw [henvelope]
  exact hw.2 e' he'

theorem wp_within_policy {α : Type} {p : Sched α} (hp : p.All (Effect.Within reconcileKinds))
    {envelope : Option InterferenceEnvelope} (hw : PolicyHolds envelope w) :
    wp World.handle policyContract (fun _ => PolicyHolds envelope)
      (fun _ => PolicyHolds envelope) p w :=
  wp_of_all (fun _ _ h hrely => h.of_store_eq hrely)
    (fun w ω e he hw _ => within_policy envelope w ω e he hw) hp hw

/-- The claim of a selected command keeps the invariant. -/
theorem claim_policy {view : Option GroupView} (hw : PolicyReady envelope command gpus w)
    (hfits : EnvelopeFits w.store)
    (hview : w.store.physicalAttemptGroupForAttempt command.key = .ok view)
    (h : w.store.apply (claimOp command gpus started view) = .ok s) :
    PolicyInvariant s ∧ s.envelope = w.store.envelope := by
  have hwf := hw.1.1.wellFormed
  obtain ⟨hqueue, _, hphysical⟩ := mem_physicalCommands.mp hw.2.pending
  have hview := physicalAttemptGroupForAttempt_eq_ok hview hphysical
  have hgrows : RunningGrows w.store s command gpus := by
    cases view with
    | none => exact markRunning_grows hwf hqueue h
    | some view => exact startGroup_grows hwf hqueue hview.1 hview.2.1 h
  have henvelope : s.envelope = w.store.envelope := by
    cases view with
    | none =>
      obtain ⟨_, rfl⟩ := markRunningBeforeSpawn_eq_ok h
      rfl
    | some view =>
      obtain ⟨_, _, rfl⟩ := startPhysicalAttemptGroup_eq_ok h
      rfl
  have hwf' : s.WellFormed := (apply_changes hwf.attempts h).wellFormed hwf
  exact ⟨hw.1.1.start (hw.1.2 envelope rfl) hfits hw.2 hgrows hwf' henvelope, henvelope⟩

theorem wp_startCommand_policy (envelope : InterferenceEnvelope) (command : QueuedCommandSpec)
    (gpus : List String) (started : Int) (hw : PolicyReady envelope command gpus w) :
    wp World.handle policyContract (fun _ => PolicyHolds (some envelope))
      (fun _ => PolicyHolds (some envelope)) (startCommand command gpus started) w := by
  refine wp_startCommand (R := PolicyReady envelope command gpus)
    (V := fun view w => PolicyReady envelope command gpus w ∧
      w.store.physicalAttemptGroupForAttempt command.key = .ok view)
    (T := fun _ => PolicyHolds (some envelope))
    (fun _ _ h hrely => h.of_store_eq hrely)
    (fun w ω hw _ => (within_policy (some envelope) w ω .read trivial hw.1).1) ?_
    (fun _ _ _ hw hrely => hw.1.of_store_eq hrely) ?_ ?_ hw
  · intro view w w' hw hquery hrely
    refine ⟨hw.of_store_eq hrely, ?_⟩
    rw [show w'.store = w.store from hrely]
    exact hquery
  · rintro view w w' ω ⟨hw, hquery⟩ hrely hfits
    have hstore : w'.store = w.store := hrely
    have hw' := hw.of_store_eq hrely
    have hquery' : w'.store.physicalAttemptGroupForAttempt command.key = .ok view := by
      rw [hstore]
      exact hquery
    -- a transaction that raises leaves the store as it was
    cases happly : w'.store.apply (claimOp command gpus started view) with
    | error e =>
      have hsame : (w'.handle ω (.write (claimOp command gpus started view))).2.store =
          w'.store := by
        simp [World.handle, World.transact, Store.step, happly]
      refine ⟨?_, fun w'' hrely' => hw'.1.of_store_eq hrely'⟩
      show PolicyInvariant _ ∧ _ = _
      rw [hsame]
      exact ⟨hw'.1.1, rfl⟩
    | ok s =>
      obtain ⟨hinv, henvelope⟩ := claim_policy hw' hfits hquery' happly
      have hsame : (w'.handle ω (.write (claimOp command gpus started view))).2.store = s := by
        simp [World.handle, World.transact, Store.step, happly]
      refine ⟨?_, hinv, fun e he => ?_⟩
      · show PolicyInvariant _ ∧ _ = _
        rw [hsame]
        exact ⟨hinv, henvelope⟩
      · exact henvelope.trans (hw'.1.2 e he)
  · intro view w hw
    exact wp_within_policy ((afterClaim_launching command gpus view).mono fun _ h => h.within) hw

/-- `run_once` keeps the policy. -/
theorem policy_rules (cfg : SchedulerConfig) : CycleRules policyContract cfg PolicyHolds
    PolicyReady (fun envelope _ => PolicyHolds (some envelope)) where
  rely := fun _ _ _ h hrely => h.of_store_eq hrely
  forget := fun _ _ h => ⟨h.1, fun _ h => by cases h⟩
  configured := fun envelope w h henvelope => ⟨h.1, fun _ h => by cases h; exact henvelope⟩
  quiet := fun envelope w ω e he hw _ => within_policy envelope w ω e
    ((he.retrying.releasing : Effect.Releasing ⟨"", 0⟩ none _).standing.within) hw
  reconcile := fun w hw =>
    wp_within_policy ((reconcileRunning_standing cfg).mono fun _ h => h.within) hw
  select := by
    intro envelope w hw
    refine wp_mono (wp_selectDispatch (I := PolicyHolds (some envelope))
      (S := fun s w => w.store = s) envelope (fun _ _ h hrely => h.of_store_eq hrely)
      (fun w ω e he hw _ => within_policy _ w ω e
        ((he.retrying.releasing : Effect.Releasing ⟨"", 0⟩ none _).standing.within) hw)
      (fun _ _ => rfl) (fun _ _ _ _ h hrely => Eq.trans hrely h) hw) ?_ fun _ _ h => h
    rintro selected w ⟨hw, hselected⟩
    refine ⟨hw, fun command gpus h => ?_⟩
    obtain ⟨_, _, _, ⟨rfl, rfl, rfl⟩, hsel⟩ := hselected command gpus h
    exact ⟨hw, hsel⟩
  ready := fun _ _ _ _ h => h.1
  ready_rely := fun _ _ _ _ _ h hrely => h.of_store_eq hrely
  ready_read := fun _ _ _ w ω e he h _ => h.of_store_eq (he.handle w ω).1
  start := by
    intro envelope command gpus started w hw
    refine wp_mono (wp_startCommand_policy envelope command gpus started hw) (fun _ _ h => h) ?_
    intro e w hw
    split
    · exact hw
    · exact ⟨hw.1, fun _ h => by cases h⟩
  fail := by
    intro envelope command error w hw
    refine wp_mono (wp_within_policy ((failStart_standing cfg command error).mono
      fun _ h => h.within) hw) (fun _ _ h => h) ?_
    exact fun _ _ hw => ⟨hw.1, fun _ h => by cases h⟩

/-! ## Every run -/

/-- A ledger in which nothing runs keeps the invariant. -/
theorem PolicyInvariant.of_idle (hs : s.WellFormed)
    (hidle : ∀ r ∈ s.attempts, r.status ≠ .running) : PolicyInvariant s := by
  have hnone : runningCommands s = [] := by
    rw [eq_nil_iff_forall_not_mem]
    intro c hc
    obtain ⟨_, ⟨r, hfind, hrunning⟩, _⟩ := mem_runningCommands.mp hc
    exact hidle r (findAttempt_eq_some hfind).1 hrunning
  refine ⟨hs, fun envelope _ => ?_, fun _ => hnone⟩
  constructor <;> simp [hnone]

/-- The scheduler keeps the interference policy in every state of every run, on
any queue that was set up before it and under any envelope that fits. -/
theorem interference_policy_kept (cfg : SchedulerConfig) (setup : List StoreOp)
    (hidle : ∀ r ∈ (final Store.step Store.empty setup).attempts, r.status ≠ .running)
    (inputs : List (Input Oracle Foreign)) (halone : ∀ input ∈ inputs, NoCall input)
    (hfits : ∀ ev ∈ trace (step cfg) (boot (final Store.step Store.empty setup)) inputs,
      EnvelopeFits ev.pre.state.store) :
    ∀ ev ∈ trace (step cfg) (boot (final Store.step Store.empty setup)) inputs,
      PolicyKept ev.pre.state.store ∧ PolicyKept ev.post.state.store := by
  have hinit : PolicyHolds none (boot (final Store.step Store.empty setup)).state :=
    ⟨.of_idle (final_wellFormed setup) hidle, fun _ h => by cases h⟩
  have hrun : ∀ ev ∈ trace (step cfg) (boot (final Store.step Store.empty setup)) inputs,
      Respects policyContract World.foreign ev.pre ev.input := by
    intro ev hev
    have hcall := halone _ (input_mem_of_mem_trace hev)
    cases hinput : ev.input with
    | begin => trivial
    | interfere i =>
        rw [hinput] at hcall
        exact NoCall.foreign_store hcall ev.pre.state
    | resume ω => exact fun _ _ => hfits ev hev
  -- the envelope is the one of the setup
  have hall := run_invariant (policy_rules cfg).loopInvariant
    (I := fun w => PolicyInvariant w.store ∧
      w.store.envelope = (final Store.step Store.empty setup).envelope)
    (fun w ω e hsafe hw => ⟨hsafe.1, hsafe.2.trans hw.2⟩)
    (fun w i hrely hw => by rw [show (w.foreign i).store = w.store from hrely]; exact hw)
    (q := boot (final Store.step Store.empty setup)) hinit ⟨hinit.1, rfl⟩ hrun
  intro ev hev
  obtain ⟨hpre, hpost⟩ := hall ev hev
  have hdual : ∀ envelope, ev.pre.state.store.envelope = some envelope →
      envelope.mode = .dualSingle → envelope.gpuUuids.length = 2 :=
    fun envelope henvelope => (hfits ev hev envelope henvelope).1
  refine ⟨hpre.1.policyKept hdual, hpost.1.policyKept ?_⟩
  rw [hpost.2, ← hpre.2]
  exact hdual


/-- Two GPUs in `DUAL_SINGLE` mode. -/
def Sample.twoGpus : InterferenceEnvelope where
  mode := .dualSingle
  gpuUuids := ["g0", "g1"]
  evidenceSha256 := .hex "e0"
  uuids_text := by decide
  uuids_nodup := by decide
  uuids_sorted := by decide
  dual_single := by decide

/-- Two single-GPU commands for two GPUs. -/
def Sample.pair : List StoreOp :=
  Sample.plan Sample.twoGpus ++
    Sample.enqueue (Sample.command "a" 1 "/a") "/a" Sample.attempt_checks Sample.command_checks ++
    Sample.enqueue (Sample.command "b" 1 "/b") "/b" (by decide) (by decide)

/-- Two commands run side by side at the end of this run. -/
theorem interference_policy_kept_pair :
    (runningCommands (final (step {}) (boot (final Store.step Store.empty Sample.pair))
        (Sample.cycle 32 (Sample.oracle 10))).state.store).length = 2 ∧
      ∀ ev ∈ trace (step {}) (boot (final Store.step Store.empty Sample.pair))
        (Sample.cycle 32 (Sample.oracle 10)),
        PolicyKept ev.pre.state.store ∧ PolicyKept ev.post.state.store :=
  ⟨by decide +kernel, interference_policy_kept {} Sample.pair (by decide +kernel) _
    (by decide +kernel) (by decide +kernel)⟩

def Sample.threeGpus : InterferenceEnvelope where
  mode := .unresolved
  gpuUuids := ["g0", "g1", "g2"]
  evidenceSha256 := .hex "e0"
  uuids_text := by decide
  uuids_nodup := by decide
  uuids_sorted := by decide
  dual_single := by decide

/-- An auxiliary command on two GPUs and one on a single GPU. -/
def Sample.crowded : List StoreOp :=
  Sample.plan Sample.threeGpus ++
    Sample.enqueue { Sample.command "a" 1 "/a" with requiredGpuCount := 2 } "/a" (by decide)
      (by decide) ++
    Sample.enqueue (Sample.command "b" 1 "/b") "/b" (by decide) (by decide)

/-- A single-GPU command starts beside a running two-GPU command. -/
theorem interference_policy_fails_beside_multi :
    ¬ ∀ cfg setup inputs,
      (∀ r ∈ (final Store.step Store.empty setup).attempts, r.status ≠ .running) →
      (∀ input ∈ inputs, NoCall input) →
      ∀ ev ∈ trace (step cfg) (boot (final Store.step Store.empty setup)) inputs,
        PolicyKept ev.pre.state.store ∧ PolicyKept ev.post.state.store := by
  intro h
  have hbad : (trace (step {}) (boot (final Store.step Store.empty Sample.crowded))
      (Sample.cycle 32 (Sample.oracle 10))).any (fun ev =>
        decide (∃ c ∈ runningCommands ev.post.state.store, RunsAlone c ∧
          (runningCommands ev.post.state.store).length = 2)) = true := by decide +kernel
  obtain ⟨ev, hev, htwo⟩ := List.any_eq_true.mp hbad
  obtain ⟨c, hc, halone, hlength⟩ := of_decide_eq_true htwo
  have hkept := (h {} Sample.crowded _ (by decide +kernel) (by decide +kernel) ev hev).2
  rw [hkept.alone c hc halone] at hlength
  cases hlength

end Scheduler

end Operator

import LightConeSpec.Operator.Footprint

/-!
# Running rows

What the statements about GPUs share: the unique keys of the ledger, what
`_select_dispatch` guarantees about the command and the GPUs it returns, and
what the two start operations do to the `RUNNING` rows.
-/

namespace Operator

open Python Program List

variable {s : Store} {rows : List AttemptRow} {envelope : InterferenceEnvelope}

variable {gpus : List String} {key : AttemptKey}

namespace Store

/-! ## Unique keys -/

/-- The primary keys of the four ledger tables are distinct. -/
structure WellFormed (s : Store) : Prop where
  attempts : s.KeysNodup
  queue : (s.queue.map (·.key)).Nodup
  groups : (s.groups.map (·.groupId)).Nodup
  members : (s.members.map (·.key)).Nodup

theorem WellFormed.empty : Store.empty.WellFormed :=
  ⟨nodup_nil, nodup_nil, nodup_nil, nodup_nil⟩

theorem map_groupId_updateGroup (s : Store) (groupId : String) {f : GroupRow → GroupRow}
    (hf : ∀ g, (f g).groupId = g.groupId) :
    (s.updateGroup groupId f).groups.map (·.groupId) = s.groups.map (·.groupId) := by
  simp only [updateGroup, map_map]
  apply map_congr_left
  intro g _
  by_cases hg : g.groupId = groupId
  · simp [hg, hf]
  · simp [hg]

/-- Every change keeps keys distinct. -/
theorem Change.wellFormed {kind : ChangeKind} {t : Store} (h : Change kind s t)
    (hs : s.WellFormed) : t.WellFormed := by
  have hkeys := h.keysNodup hs.attempts
  cases h with
  | rows => exact ⟨hkeys, hs.queue, hs.groups, hs.members⟩
  | materialize => exact ⟨hkeys, hs.queue, hs.groups, hs.members⟩
  | legacy => exact ⟨hkeys, hs.queue, hs.groups, hs.members⟩
  | enqueue command _ fresh =>
    exact ⟨hkeys, Rows.nodup_map_append hs.queue fresh, hs.groups, hs.members⟩
  | insertGroup group _ fresh =>
    exact ⟨hkeys, hs.queue, Rows.nodup_map_append hs.groups fresh, hs.members⟩
  | insertMember member fresh =>
    exact ⟨hkeys, hs.queue, hs.groups, Rows.nodup_map_append hs.members fresh⟩
  | groupStart groupId f hf =>
    refine ⟨hkeys, hs.queue, ?_, hs.members⟩
    rw [map_groupId_updateGroup s groupId fun g => (hf g).1]
    exact hs.groups
  | groupFinish groupId f hf =>
    refine ⟨hkeys, hs.queue, ?_, hs.members⟩
    rw [map_groupId_updateGroup s groupId fun g => (hf g).1]
    exact hs.groups
  | settings hledger | auxStart hledger | dispatch hledger | envelope hledger =>
    refine ⟨hkeys, ?_, ?_, ?_⟩
    · rw [hledger.queue]
      exact hs.queue
    · rw [hledger.groups]
      exact hs.groups
    · rw [hledger.members]
      exact hs.members

theorem Changes.wellFormed {kinds : List ChangeKind} {t : Store} (h : Changes kinds s t)
    (hs : s.WellFormed) : t.WellFormed :=
  h.invariant (fun _ _ _ _ hstep => hstep.wellFormed) hs

theorem step_wellFormed (hs : s.WellFormed) (op : StoreOp) : (s.step op).2.WellFormed :=
  (step_changes hs.attempts op).wellFormed hs

theorem WellFormed.queue_eq (hs : s.WellFormed) {c c' : QueuedCommandSpec} (hc : c ∈ s.queue)
    (hc' : c' ∈ s.queue) (h : c.key = c'.key) : c = c' :=
  inj_on_of_nodup_map hs.queue hc hc' h

theorem memberOf_eq_some {m : MemberRow} (h : s.memberOf key = some m) :
    m ∈ s.members ∧ m.key = key :=
  ⟨mem_of_find?_eq_some h, by simpa using find?_some h⟩

theorem WellFormed.memberOf (hs : s.WellFormed) {m : MemberRow} (hm : m ∈ s.members) :
    s.memberOf m.key = some m :=
  Rows.find?_of_nodup hs.members hm (by simp)

theorem findGroup_eq_some {groupId : String} {g : GroupRow} (h : s.findGroup groupId = some g) :
    g ∈ s.groups ∧ g.groupId = groupId :=
  ⟨mem_of_find?_eq_some h, by simpa using find?_some h⟩

theorem WellFormed.findGroup (hs : s.WellFormed) {g : GroupRow} (hg : g ∈ s.groups) :
    s.findGroup g.groupId = some g :=
  Rows.find?_of_nodup hs.groups hg (by simp)

/-! ## Queries about running work -/

/-- A physical command of a status: queued, with a row of that status, and
standalone or the leader of its group. -/
theorem mem_physicalCommands {status : AttemptStatus} {c : QueuedCommandSpec} :
    c ∈ s.physicalCommands status ↔ c ∈ s.queue ∧
      (∃ r, s.findAttempt c.key = some r ∧ r.status = status) ∧ s.isPhysical c.key = true := by
  simp only [physicalCommands, mem_sortedBy, mem_filter, Bool.and_eq_true,
    Option.any_eq_true, decide_eq_true_eq]

theorem physicalCommands_nodup (hs : s.WellFormed) (status : AttemptStatus) :
    (s.physicalCommands status).Nodup := by
  refine (sortedBy_perm queueOrder _).nodup_iff.mpr (List.Nodup.filter _ ?_)
  exact List.Nodup.of_map _ hs.queue

/-- What `physical_attempt_group_for_attempt` says about the attempt of a
physical command: it is standalone, or the leader of the group. -/
theorem physicalAttemptGroupForAttempt_eq_ok {view : Option GroupView}
    (h : s.physicalAttemptGroupForAttempt key = .ok view) (hphysical : s.isPhysical key = true) :
    match view with
    | none => s.memberOf key = none
    | some view => s.findGroup view.group.groupId = some view.group ∧ view.group.leader = key ∧
        view.members = s.membersOf view.group.groupId ∧
        ∃ m ∈ s.members, m.key = key ∧ m.groupId = view.group.groupId := by
  simp only [physicalAttemptGroupForAttempt, bind_eq_ok] at h
  obtain ⟨_, _, h⟩ := h
  unfold isPhysical at hphysical
  cases hmember : s.memberOf key with
  | none =>
    simp only [hmember, pure_eq_ok] at h
    subst h
    rfl
  | some member =>
    simp only [hmember] at h hphysical
    obtain ⟨hmem, hkey⟩ := memberOf_eq_some hmember
    cases hgroup : s.findGroup member.groupId with
    | none => simp [hgroup] at hphysical
    | some group =>
      simp only [hgroup, bind_eq_ok, pure_eq_ok] at h
      obtain ⟨_, _, rfl⟩ := h
      obtain ⟨_, hid⟩ := findGroup_eq_some hgroup
      have hleader : group.leader = key := by simpa [hgroup] using hphysical
      exact ⟨by rw [hid]; exact hgroup, hleader, rfl, member, hmem, hkey, hid.symm⟩

/-! ## Starts -/

theorem markRunningBeforeSpawn_eq_ok {s' : Store} {started : Int}
    (h : s.markRunningBeforeSpawn key gpus started = .ok s') :
    (∃ row, s.findAttempt key = some row ∧ row.status = .pending) ∧
      s' = s.updateAttempts [key] fun r => r.start gpus started := by
  simp only [markRunningBeforeSpawn, bind_eq_ok, check_eq_ok, pure_eq_ok] at h
  obtain ⟨_, _, _, _, row, hrow, hpending, _, _, rfl⟩ := h
  exact ⟨⟨row, requireAttempt_eq_ok hrow, hpending⟩, rfl⟩

/-- The row of a key after an update of some rows. -/
theorem findAttempt_updateAttempts {keys : List AttemptKey} {f : AttemptRow → AttemptRow}
    (hf : ∀ r, (f r).spec = r.spec) (key : AttemptKey) : (s.updateAttempts keys f).findAttempt key =
      (s.findAttempt key).map fun r => if key ∈ keys then f r else r := by
  simp only [findAttempt, updateAttempts_attempts, find?_map]
  have hpred : ((fun row : AttemptRow => decide (row.key = key)) ∘
      fun row => if row.key ∈ keys then f row else row) =
      fun row => decide (row.key = key) := by
    funext row
    by_cases hrow : row.key ∈ keys
    · simp [hrow, AttemptRow.key_eq_of_spec (hf row)]
    · simp [hrow]
  rw [hpred]
  cases hfind : s.attempts.find? fun row => decide (row.key = key) with
  | none => rfl
  | some r =>
    have hkey : r.key = key := by simpa using find?_some hfind
    simp [hkey]

end Store

namespace Scheduler

/-! ## Selection -/

/-- What `_select_dispatch` checks of the command and the GPUs it returns. -/
structure Selected (envelope : InterferenceEnvelope) (rows : List AttemptRow)
    (running pending : List QueuedCommandSpec) (command : QueuedCommandSpec)
    (gpus : List String) : Prop where
  pending : command ∈ pending
  size : gpus.length = command.val.requiredGpuCount
  nodup : gpus.Nodup
  within : ∀ gpu ∈ gpus, gpu ∈ envelope.gpuUuids
  free : ∀ gpu ∈ gpus, gpu ∉ occupiedGpus rows
  unshared : 1 < command.val.requiredGpuCount ∨ command.val.timingClass.isExclusive = true →
    ∀ r ∈ rows, r.status ≠ .running
  shared : ∀ c ∈ running, c.val.timingClass.isExclusive = false
  isolated : envelope.mode = .isolated → occupiedGpus rows = []
  headline : command.val.timingClass = .headline → envelope.mode ≠ .unresolved

theorem mem_occupiedGpus {gpu : String} :
    gpu ∈ occupiedGpus rows ↔ ∃ r ∈ rows, r.status = .running ∧ gpu ∈ r.assignedGpuUuids := by
  simp [occupiedGpus, and_assoc]

/-- Without `RUNNING` rows nothing is occupied. -/
theorem occupiedGpus_eq_nil (h : ∀ r ∈ rows, r.status ≠ .running) : occupiedGpus rows = [] := by
  rw [eq_nil_iff_forall_not_mem]
  intro gpu hgpu
  obtain ⟨r, hr, hrunning, _⟩ := mem_occupiedGpus.mp hgpu
  exact h r hr hrunning

theorem mem_availableGpus {occupied : List String} {gpu : String} :
    gpu ∈ availableGpus envelope occupied ↔ gpu ∈ envelope.gpuUuids ∧ gpu ∉ occupied := by
  simp [availableGpus]

/-- The loop over the pending commands returns a command of the list with GPUs
that pass its own checks. -/
theorem choosePending_eq_dispatch {running pending : List QueuedCommandSpec}
    {command : QueuedCommandSpec} (hshared : ∀ c ∈ running, c.val.timingClass.isExclusive = false)
    (h : choosePending envelope (rows.any fun row => row.status = .running) (occupiedGpus rows)
      (availableGpus envelope (occupiedGpus rows)) pending = .dispatch command gpus) :
    Selected envelope rows running pending command gpus := by
  -- the commands that are passed over do not matter
  have hskip {c : QueuedCommandSpec} {rest : List QueuedCommandSpec}
      (h : Selected envelope rows running rest command gpus) :
      Selected envelope rows running (c :: rest) command gpus :=
    { h with pending := mem_cons_of_mem _ h.pending }
  induction pending with
  | nil => cases h
  | cons c rest ih =>
    unfold choosePending at h
    split at h
    · exact hskip (ih h)
    · split at h
    -- a command that must run alone
      · rename_i hexclusive
        split at h
        · exact hskip (ih h)
        · rename_i hfree
          simp only [not_or, Bool.not_eq_true, not_lt, any_eq_false,
            decide_eq_true_eq] at hfree
          obtain ⟨hnone, hsize⟩ := hfree
          obtain ⟨rfl, rfl⟩ := Choice.dispatch.inj h
          refine ⟨by simp, ?_, ?_, ?_, ?_, fun _ => hnone, hshared,
            fun _ => occupiedGpus_eq_nil hnone, ?_⟩
          · rw [length_take]
            omega
          · exact (envelope.uuids_nodup.filter _).sublist (take_sublist _ _)
          · exact fun gpu hgpu => (mem_availableGpus.mp (mem_of_mem_take hgpu)).1
          · exact fun gpu hgpu => (mem_availableGpus.mp (mem_of_mem_take hgpu)).2
          · intro hheadline
            -- a headline command needs one GPU and is not exclusive
            have hone := c.requiredGpuCount_of_headline hheadline
            rcases hexclusive with hmany | hclass
            · omega
            · simp [hheadline, TimingClass.isExclusive] at hclass
      · rename_i hsingle
        simp only [not_or, not_lt, Bool.not_eq_true] at hsingle
        have hone : c.val.requiredGpuCount = 1 :=
          le_antisymm hsingle.1 c.requiredGpuCount_pos
        split at h
        · exact hskip (ih h)
        · rename_i hisolated
          split at h
          · exact hskip (ih h)
          · rename_i hheadline
            -- a single-GPU command on a GPU that is available
            have hselect (gpu : String)
                (hgpu : gpu ∈ availableGpus envelope (occupiedGpus rows)) :
                Selected envelope rows running (c :: rest) c [gpu] := by
              obtain ⟨hwithin, hfree⟩ := mem_availableGpus.mp hgpu
              refine ⟨by simp, by simp [hone], by simp, by simpa using hwithin,
                by simpa using hfree, ?_, hshared, ?_, ?_⟩
              · intro hexclusive
                simp [hone, hsingle.2] at hexclusive
              · intro hmode
                by_contra hne
                exact hisolated ⟨hmode, hne⟩
              · intro hclass hmode
                exact hheadline ⟨hclass, hmode⟩
            split at h
            · split at h
              · cases h
              · split at h
                · rename_i gpu _ hgpu
                  obtain ⟨rfl, rfl⟩ := Choice.dispatch.inj h
                  exact hselect gpu hgpu
                · exact hskip (ih h)
            · split at h
              · rename_i gpu tail havailable
                obtain ⟨rfl, rfl⟩ := Choice.dispatch.inj h
                exact hselect gpu (by rw [havailable]; simp)
              · exact hskip (ih h)

theorem choose_eq_dispatch {running pending : List QueuedCommandSpec} {command : QueuedCommandSpec}
    (h : choose envelope rows running pending = .dispatch command gpus) :
    Selected envelope rows running pending command gpus := by
  unfold choose at h
  dsimp only at h
  split at h
  · cases h
  · rename_i hshared
    refine choosePending_eq_dispatch ?_ h
    simpa using hshared

end Scheduler

end Operator

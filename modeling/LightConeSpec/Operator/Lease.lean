import LightConeSpec.Operator.Cycle

/-!
# GPU leases

A GPU is leased by a standalone `RUNNING` attempt, by a `RUNNING` physical
group or by a `RUNNING` auxiliary group of the controller. `_select_dispatch`
sees the first two through the rows of the attempts and never looks at the
third, and the start of an auxiliary group looks at nothing. So two leases are
kept apart only where the two drivers do not meet; everything else that happens
to the ledger only shrinks leases.
-/

namespace Operator

open Python Program Machine List Store

/-! ## Leases of a ledger -/

inductive Lease
  | attempt (key : AttemptKey)
  | group (groupId : String)
  | auxiliary (groupId : String) (attempt : Nat)
deriving DecidableEq

/-- The `RUNNING` leases with their GPUs; a group holds the GPUs of its rows. -/
def Store.leases (s : Store) : List (Lease × List String) :=
  (s.attempts.filter fun r => r.status = .running ∧ s.memberOf r.key = none).map
      (fun r => (.attempt r.key, r.assignedGpuUuids)) ++
    (s.groups.filter fun g => g.status = .running).map
      (fun g => (.group g.groupId, (s.groupAttempts g.groupId).flatMap (·.2.assignedGpuUuids))) ++
    (s.auxGroups.filter fun a => a.status = .running).map
      (fun a => (.auxiliary a.groupId a.attempt, a.assignedGpuUuids))

def Holds (s : Store) (lease : Lease) (gpu : String) : Prop :=
  ∃ gpus, (lease, gpus) ∈ s.leases ∧ gpu ∈ gpus

/-- No GPU belongs to two leases. -/
def Exclusive (s : Store) : Prop :=
  ∀ l ∈ s.leases, ∀ l' ∈ s.leases, ∀ gpu ∈ l.2, gpu ∈ l'.2 → l.1 = l'.1

instance (s : Store) : Decidable (Exclusive s) :=
  inferInstanceAs (Decidable (∀ l ∈ s.leases, ∀ l' ∈ s.leases, ∀ gpu ∈ l.2, gpu ∈ l'.2 → l.1 = l'.1))

variable {s t : Store} {gpu : String} {gpus : List String} {started : Int} {kind : ChangeKind}

theorem exclusive_iff : Exclusive s ↔ ∀ l l' gpu, Holds s l gpu → Holds s l' gpu → l = l' := by
  constructor
  · rintro h l l' gpu ⟨gpus, hl, hgpu⟩ ⟨gpus', hl', hgpu'⟩
    exact h _ hl _ hl' gpu hgpu hgpu'
  · intro h l hl l' hl' gpu hgpu hgpu'
    exact h l.1 l'.1 gpu ⟨l.2, hl, hgpu⟩ ⟨l'.2, hl', hgpu'⟩

variable {key : AttemptKey} {groupId : String} {r' : AttemptRow}

theorem holds_attempt :
    Holds s (.attempt key) gpu ↔ ∃ r ∈ s.attempts, r.key = key ∧ r.status = .running ∧
      s.memberOf key = none ∧ gpu ∈ r.assignedGpuUuids := by
  constructor
  · rintro ⟨gpus, hmem, hgpu⟩
    simp only [Store.leases, mem_append, mem_map, mem_filter, decide_eq_true_eq,
      Prod.mk.injEq, Lease.attempt.injEq, reduceCtorEq, false_and, and_false, exists_false,
      or_false] at hmem
    obtain ⟨r, ⟨hr, hrunning, hnone⟩, rfl, rfl⟩ := hmem
    exact ⟨r, hr, rfl, hrunning, hnone, hgpu⟩
  · rintro ⟨r, hr, rfl, hrunning, hnone, hgpu⟩
    refine ⟨r.assignedGpuUuids, ?_, hgpu⟩
    refine mem_append_left _ (mem_append_left _ (mem_map.mpr ⟨r, ?_, rfl⟩))
    exact mem_filter.mpr ⟨hr, by simp [hrunning, hnone]⟩

theorem holds_group (hs : s.KeysNodup) :
    Holds s (.group groupId) gpu ↔ (∃ g ∈ s.groups, g.groupId = groupId ∧ g.status = .running) ∧
      ∃ m ∈ s.members, m.groupId = groupId ∧ ∃ r ∈ s.attempts, r.key = m.key ∧
        gpu ∈ r.assignedGpuUuids := by
  constructor
  · rintro ⟨gpus, hmem, hgpu⟩
    simp only [Store.leases, mem_append, mem_map, mem_filter, decide_eq_true_eq,
      Prod.mk.injEq, Lease.group.injEq, reduceCtorEq, false_and, and_false, exists_false,
      or_false, false_or] at hmem
    obtain ⟨g, ⟨hg, hrunning⟩, rfl, rfl⟩ := hmem
    obtain ⟨row, hrow, hgpu⟩ := mem_flatMap.mp hgpu
    obtain ⟨m, hm, hid, _, hfind⟩ := mem_groupAttempts.mp hrow
    obtain ⟨hr, hkey⟩ := findAttempt_eq_some hfind
    exact ⟨⟨g, hg, rfl, hrunning⟩, m, hm, hid, row.2, hr, hkey, hgpu⟩
  · rintro ⟨⟨g, hg, rfl, hrunning⟩, m, hm, hid, r, hr, hkey, hgpu⟩
    refine ⟨(s.groupAttempts g.groupId).flatMap (·.2.assignedGpuUuids), ?_, ?_⟩
    · refine mem_append_left _ (mem_append_right _ (mem_map.mpr ⟨g, ?_, rfl⟩))
      exact mem_filter.mpr ⟨hg, by simp [hrunning]⟩
    · refine mem_flatMap.mpr ⟨(m.logicalKind, r), ?_, hgpu⟩
      refine mem_groupAttempts.mpr ⟨m, hm, hid, rfl, ?_⟩
      rw [← hkey]
      exact hs.findAttempt hr

theorem holds_auxiliary {n : Nat} :
    Holds s (.auxiliary groupId n) gpu ↔ ∃ a ∈ s.auxGroups, a.groupId = groupId ∧ a.attempt = n ∧
      a.status = .running ∧ gpu ∈ a.assignedGpuUuids := by
  constructor
  · rintro ⟨gpus, hmem, hgpu⟩
    simp only [Store.leases, mem_append, mem_map, mem_filter, decide_eq_true_eq,
      Prod.mk.injEq, Lease.auxiliary.injEq, reduceCtorEq, false_and, and_false, exists_false,
      false_or] at hmem
    obtain ⟨a, ⟨ha, hrunning⟩, ⟨rfl, rfl⟩, rfl⟩ := hmem
    exact ⟨a, ha, rfl, rfl, hrunning, hgpu⟩
  · rintro ⟨a, ha, rfl, rfl, hrunning, hgpu⟩
    refine ⟨a.assignedGpuUuids, ?_, hgpu⟩
    refine mem_append_right _ (mem_map.mpr ⟨a, ?_, rfl⟩)
    exact mem_filter.mpr ⟨ha, by simp [hrunning]⟩

/-- Leases that shrink stay exclusive. -/
theorem Exclusive.shrink (hs : Exclusive s) (h : ∀ l gpu, Holds t l gpu → Holds s l gpu) :
    Exclusive t := by
  rw [exclusive_iff] at hs ⊢
  exact fun l l' gpu hl hl' => hs l l' gpu (h l gpu hl) (h l' gpu hl')

/-- So do leases that grow by one on GPUs that nobody else holds. -/
theorem Exclusive.grow (hs : Exclusive s) (lease : Lease) (gpus : List String)
    (h : ∀ l gpu, Holds t l gpu → Holds s l gpu ∨ (l = lease ∧ gpu ∈ gpus))
    (hfree : ∀ l gpu, l ≠ lease → gpu ∈ gpus → ¬ Holds s l gpu) : Exclusive t := by
  rw [exclusive_iff] at hs ⊢
  intro l l' gpu hl hl'
  rcases h l gpu hl with hold | ⟨rfl, hgpu⟩
  · rcases h l' gpu hl' with hold' | ⟨rfl, hgpu⟩
    · exact hs l l' gpu hold hold'
    · by_contra hne
      exact hfree l gpu hne hgpu hold
  · rcases h l' gpu hl' with hold' | ⟨rfl, _⟩
    · by_contra hne
      exact hfree l' gpu (Ne.symm hne) hgpu hold'
    · rfl

/-! ## The invariant -/

/-- Leases are exclusive; every member has its row, and the rows of a `RUNNING`
group were claimed together. -/
structure LeaseInvariant (s : Store) : Prop where
  wellFormed : s.WellFormed
  rowed : ∀ m ∈ s.members, ∃ r ∈ s.attempts, r.key = m.key
  claimed : ∀ g ∈ s.groups, g.status = .running → ∃ gpus, ∀ m ∈ s.members,
    m.groupId = g.groupId → ∀ r ∈ s.attempts, r.key = m.key →
      r.status ≠ .pending ∧ r.assignedGpuUuids = gpus
  exclusive : Exclusive s

theorem LeaseInvariant.empty : LeaseInvariant Store.empty where
  wellFormed := .empty
  rowed := fun _ h => by cases h
  claimed := fun _ h => by cases h
  exclusive := fun _ h => by cases h

/-- A change that starts nothing. -/
structure LeasesShrink (s t : Store) : Prop where
  attempts : ∀ r' ∈ t.attempts, r'.status = .running → ∃ r ∈ s.attempts, r.key = r'.key ∧
    r.status = .running ∧ r.assignedGpuUuids = r'.assignedGpuUuids
  members : ∀ m ∈ s.members, m ∈ t.members
  groups : ∀ g' ∈ t.groups, g'.status = .running → ∃ g ∈ s.groups, g.groupId = g'.groupId ∧
    g.status = .running
  rows : ∀ g ∈ s.groups, g.status = .running → ∀ m ∈ t.members, m.groupId = g.groupId →
    m ∈ s.members ∧ ∀ r' ∈ t.attempts, r'.key = m.key → ∃ r ∈ s.attempts, r.key = m.key ∧
      r'.assignedGpuUuids = r.assignedGpuUuids ∧ r'.status ≠ .pending
  auxiliary : ∀ a' ∈ t.auxGroups, a'.status = .running → ∃ a ∈ s.auxGroups,
    a.status = .running ∧ a.groupId = a'.groupId ∧ a.attempt = a'.attempt ∧
      a.assignedGpuUuids = a'.assignedGpuUuids

/-- An attempt without a membership row had none before. -/
theorem LeasesShrink.memberOf (h : LeasesShrink s t) (hnone : t.memberOf key = none) :
    s.memberOf key = none := by
  unfold Store.memberOf at hnone ⊢
  rw [find?_eq_none] at hnone ⊢
  exact fun m hm => hnone m (h.members m hm)

theorem LeasesShrink.holds_ledger (h : LeasesShrink s t) (hs : s.KeysNodup) (ht : t.KeysNodup)
    {l : Lease} (hl : Holds t l gpu) (haux : ∀ groupId n, l ≠ .auxiliary groupId n) :
    Holds s l gpu := by
  cases l with
  | attempt key =>
    obtain ⟨r', hr', rfl, hrunning', hnone, hgpu⟩ := holds_attempt.mp hl
    obtain ⟨r, hr, hkey, hrunning, hgpus⟩ := h.attempts r' hr' hrunning'
    exact holds_attempt.mpr ⟨r, hr, hkey, hrunning, h.memberOf hnone, hgpus ▸ hgpu⟩
  | group groupId =>
    obtain ⟨⟨g', hg', rfl, hrunning'⟩, m, hm, hid, r', hr', hkey', hgpu⟩ := (holds_group ht).mp hl
    obtain ⟨g, hg, hgid, hrunning⟩ := h.groups g' hg' hrunning'
    obtain ⟨hm', hrow⟩ := h.rows g hg hrunning m hm (hid.trans hgid.symm)
    obtain ⟨r, hr, hkey, hgpus, _⟩ := hrow r' hr' hkey'
    exact (holds_group hs).mpr ⟨⟨g, hg, hgid, hrunning⟩, m, hm', hid, r, hr, hkey, hgpus ▸ hgpu⟩
  | auxiliary groupId n => exact absurd rfl (haux groupId n)

theorem LeasesShrink.holds (h : LeasesShrink s t) (hs : s.KeysNodup) (ht : t.KeysNodup) {l : Lease}
    (hl : Holds t l gpu) : Holds s l gpu := by
  cases l with
  | attempt key => exact h.holds_ledger hs ht hl fun _ _ h => by cases h
  | group groupId => exact h.holds_ledger hs ht hl fun _ _ h => by cases h
  | auxiliary groupId n =>
    obtain ⟨a', ha', rfl, rfl, hrunning', hgpu⟩ := holds_auxiliary.mp hl
    obtain ⟨a, ha, hrunning, hid, hattempt, hgpus⟩ := h.auxiliary a' ha' hrunning'
    exact holds_auxiliary.mpr ⟨a, ha, hid, hattempt, hrunning, hgpus ▸ hgpu⟩

theorem LeasesShrink.claimed (h : LeasesShrink s t) (hs : LeaseInvariant s) :
    ∀ g ∈ t.groups, g.status = .running → ∃ gpus, ∀ m ∈ t.members,
      m.groupId = g.groupId → ∀ r ∈ t.attempts, r.key = m.key →
        r.status ≠ .pending ∧ r.assignedGpuUuids = gpus := by
  intro g' hg' hrunning'
  obtain ⟨g, hg, hgid, hrunning⟩ := h.groups g' hg' hrunning'
  obtain ⟨gpus, hgpus⟩ := hs.claimed g hg hrunning
  refine ⟨gpus, fun m hm hid r' hr' hkey' => ?_⟩
  obtain ⟨hm', hrow⟩ := h.rows g hg hrunning m hm (hid.trans hgid.symm)
  obtain ⟨r, hr, hkey, hsame, hpending⟩ := hrow r' hr' hkey'
  exact ⟨hpending, hsame.trans (hgpus m hm' (hid.trans hgid.symm) r hr hkey).2⟩

/-- Occupied GPUs were occupied before. -/
theorem LeasesShrink.occupied (h : LeasesShrink s t)
    (hgpu : gpu ∈ Scheduler.occupiedGpus t.attempts) : gpu ∈ Scheduler.occupiedGpus s.attempts := by
  obtain ⟨r', hr', hrunning', hmem⟩ := Scheduler.mem_occupiedGpus.mp hgpu
  obtain ⟨r, hr, _, hrunning, hgpus⟩ := h.attempts r' hr' hrunning'
  exact Scheduler.mem_occupiedGpus.mpr ⟨r, hr, hrunning, hgpus ▸ hmem⟩
/-! ## Changes that start nothing -/

/-- Rows that are neither claimed nor pending keep their GPUs. -/
theorem rowChange_shrinks (hkind : kind ≠ .start) {r : AttemptRow} (h : RowChange r r' kind) :
    (r'.status = .running → r.status = .running ∧ r.assignedGpuUuids = r'.assignedGpuUuids) ∧
      (r.status ≠ .pending → r'.assignedGpuUuids = r.assignedGpuUuids ∧ r'.status ≠ .pending) := by
  cases kind with
  | start => exact absurd rfl hkind
  | observe =>
    obtain ⟨hstatus, hgpus, _⟩ := h
    rw [hstatus]
    exact ⟨fun hrunning => ⟨hrunning, hgpus.symm⟩, fun hpending => ⟨hgpus, hpending⟩⟩
  | finish =>
    obtain ⟨_, ⟨hpending, hrunning⟩, _, hgpus⟩ := h
    exact ⟨fun h => absurd h hrunning, fun _ => ⟨hgpus, hpending⟩⟩
  | stale =>
    obtain ⟨_, hstatus, hgpus, _⟩ := h
    rw [hstatus]
    exact ⟨fun h => (nomatch h), fun _ => ⟨hgpus, by simp⟩⟩
  | adopt =>
    obtain ⟨hpending, hstatus⟩ := h
    rw [hstatus]
    exact ⟨fun h => (nomatch h), fun hne => absurd hpending hne⟩
  | materialize | legacy | enqueue | group | settings | auxStart | dispatch | envelope =>
    exact h.elim

/-- A change that leaves the attempts and the groups as they are. -/
theorem LeasesShrink.of_ledger (hs : LeaseInvariant s) (hattempts : t.attempts = s.attempts)
    (hgroups : t.groups = s.groups) (hmembers : t.members = s.members)
    (haux : ∀ a' ∈ t.auxGroups, a'.status = .running → ∃ a ∈ s.auxGroups,
      a.status = .running ∧ a.groupId = a'.groupId ∧ a.attempt = a'.attempt ∧
        a.assignedGpuUuids = a'.assignedGpuUuids) : LeasesShrink s t where
  attempts := by
    rw [hattempts]
    exact fun r hr hrunning => ⟨r, hr, rfl, hrunning, rfl⟩
  members := by
    rw [hmembers]
    exact fun _ h => h
  groups := by
    rw [hgroups]
    exact fun g hg hrunning => ⟨g, hg, rfl, hrunning⟩
  rows := by
    rw [hmembers, hattempts]
    intro g hg hrunning m hm hid
    obtain ⟨gpus, hgpus⟩ := hs.claimed g hg hrunning
    exact ⟨hm, fun r hr hkey => ⟨r, hr, hkey, rfl, (hgpus m hm hid r hr hkey).1⟩⟩
  auxiliary := haux

/-- A new row that is not `RUNNING`. -/
theorem LeasesShrink.of_append (hs : LeaseInvariant s) {row : AttemptRow}
    (hrow : row.status ≠ .running) (hfresh : ∀ r ∈ s.attempts, r.key ≠ row.key) :
    LeasesShrink s (s.appendAttempt row) where
  attempts := by
    intro r' hr' hrunning
    rcases mem_append.mp hr' with hr' | hr'
    · exact ⟨r', hr', rfl, hrunning, rfl⟩
    · rw [mem_singleton.mp hr'] at hrunning
      exact absurd hrunning hrow
  members := fun _ h => h
  groups := fun g hg hrunning => ⟨g, hg, rfl, hrunning⟩
  rows := by
    intro g hg hrunning m hm hid
    obtain ⟨gpus, hgpus⟩ := hs.claimed g hg hrunning
    refine ⟨hm, fun r' hr' hkey => ?_⟩
    rcases mem_append.mp hr' with hr' | hr'
    · exact ⟨r', hr', hkey, rfl, (hgpus m hm hid r' hr' hkey).1⟩
    · -- every member has a row already
      obtain ⟨r, hr, hkey'⟩ := hs.rowed m hm
      rw [mem_singleton.mp hr'] at hkey
      exact absurd (hkey'.trans hkey.symm) (hfresh r hr)
  auxiliary := fun a ha hrunning => ⟨a, ha, hrunning, rfl, rfl, rfl⟩

theorem Store.Change.leasesShrink (h : Change kind s t) (hstart : kind ≠ .start)
    (haux : kind ≠ .auxStart) (hs : LeaseInvariant s) : LeasesShrink s t := by
  cases h with
  | rows keys f hspec hrow =>
    have hkey (r : AttemptRow) : (if r.key ∈ keys then f r else r).key = r.key := by
      by_cases hr : r.key ∈ keys
      · rw [if_pos hr]
        exact AttemptRow.key_eq_of_spec (hspec r).spec
      · rw [if_neg hr]
    refine ⟨?_, fun _ h => h, fun g hg hrunning => ⟨g, hg, rfl, hrunning⟩, ?_,
      fun a ha hrunning => ⟨a, ha, hrunning, rfl, rfl, rfl⟩⟩
    · intro r' hr' hrunning
      obtain ⟨r, hr, rfl⟩ := mem_map.mp hr'
      refine ⟨r, hr, (hkey r).symm, ?_⟩
      by_cases hmem : r.key ∈ keys
      · rw [if_pos hmem] at hrunning ⊢
        exact (rowChange_shrinks hstart (hrow r hr hmem)).1 hrunning
      · rw [if_neg hmem] at hrunning ⊢
        exact ⟨hrunning, rfl⟩
    · intro g hg hrunning m hm hid
      obtain ⟨gpus, hgpus⟩ := hs.claimed g hg hrunning
      refine ⟨hm, fun r' hr' hkey' => ?_⟩
      obtain ⟨r, hr, rfl⟩ := mem_map.mp hr'
      rw [hkey] at hkey'
      have hpending := (hgpus m hm hid r hr hkey').1
      refine ⟨r, hr, hkey', ?_⟩
      by_cases hmem : r.key ∈ keys
      · rw [if_pos hmem]
        exact (rowChange_shrinks hstart (hrow r hr hmem)).2 hpending
      · rw [if_neg hmem]
        exact ⟨rfl, hpending⟩
  | materialize row hrow =>
    exact .of_append hs (by simp [hrow.pending]) fun r hr => (hrow.fresh r hr).1
  | legacy item now fresh => exact .of_append hs (by simp [AttemptRow.ofLegacy]) fresh
  | enqueue => exact .of_ledger hs rfl rfl rfl fun a ha h => ⟨a, ha, h, rfl, rfl, rfl⟩
  | insertGroup group hpending fresh =>
    have hsame := LeasesShrink.of_ledger hs rfl rfl rfl
      fun a ha h => ⟨a, ha, h, rfl, rfl, rfl⟩
    refine { hsame with groups := ?_ }
    intro g hg hrunning
    rcases mem_append.mp hg with hg | hg
    · exact ⟨g, hg, rfl, hrunning⟩
    · rw [mem_singleton.mp hg, hpending] at hrunning
      cases hrunning
  | insertMember member fresh hrow hgroup =>
    have hsame := LeasesShrink.of_ledger hs rfl rfl rfl
      fun a ha h => ⟨a, ha, h, rfl, rfl, rfl⟩
    refine { hsame with members := fun m hm => mem_append_left _ hm, rows := ?_ }
    intro g hg hrunning m hm hid
    rcases mem_append.mp hm with hm | hm
    · exact hsame.rows g hg hrunning m hm hid
    · -- the group of the new member is PENDING
      obtain ⟨g', hg', hgid, hpending⟩ := hgroup
      rw [mem_singleton.mp hm] at hid
      rw [inj_on_of_nodup_map hs.wellFormed.groups hg hg' (hid.symm.trans hgid.symm),
        hpending] at hrunning
      cases hrunning
  | groupStart => exact absurd rfl hstart
  | groupFinish groupId f hf hstatus =>
    have hsame := LeasesShrink.of_ledger hs rfl rfl rfl
      fun a ha h => ⟨a, ha, h, rfl, rfl, rfl⟩
    refine { hsame with groups := ?_ }
    intro g' hg' hrunning
    obtain ⟨g, hg, rfl⟩ := mem_map.mp hg'
    by_cases hid : g.groupId = groupId
    · rw [if_pos hid] at hrunning
      exact absurd hrunning (hstatus g).2
    · rw [if_neg hid] at hrunning ⊢
      exact ⟨g, hg, rfl, hrunning⟩
  | settings hledger hcontrol =>
    exact .of_ledger hs hledger.attempts hledger.groups hledger.members hcontrol.running
  | auxStart => exact absurd rfl haux
  | dispatch hledger _ hsame | envelope hledger _ hsame =>
    refine .of_ledger hs hledger.attempts hledger.groups hledger.members ?_
    rw [hsame]
    exact fun a ha hrunning => ⟨a, ha, hrunning, rfl, rfl, rfl⟩

/-- Every member has its row. -/
def Rowed (s : Store) : Prop := ∀ m ∈ s.members, ∃ r ∈ s.attempts, r.key = m.key

/-- No change takes the row of a member away. -/
theorem Store.Change.rowed (h : Change kind s t) (hs : Rowed s) : Rowed t := by
  have happend (row : AttemptRow) : Rowed (s.appendAttempt row) := by
    intro m hm
    obtain ⟨r, hr, hkey⟩ := hs m hm
    exact ⟨r, mem_append_left _ hr, hkey⟩
  have hledger {t : Store} (h : Store.SameLedger s t) : Rowed t := by
    unfold Rowed
    rw [h.members, h.attempts]
    exact hs
  cases h with
  | rows keys f hspec _ =>
    intro m hm
    obtain ⟨r, hr, hkey⟩ := hs m hm
    refine ⟨_, mem_map_of_mem hr, ?_⟩
    by_cases hmem : r.key ∈ keys
    · rw [if_pos hmem, AttemptRow.key_eq_of_spec (hspec r).spec, hkey]
    · rw [if_neg hmem, hkey]
  | materialize row _ => exact happend row
  | legacy item now _ => exact happend _
  | insertMember member _ hrow _ =>
    intro m hm
    rcases mem_append.mp hm with hm | hm
    · exact hs m hm
    · obtain ⟨r, hr, hkey, _⟩ := hrow
      rw [mem_singleton.mp hm]
      exact ⟨r, hr, hkey⟩
  | enqueue | insertGroup | groupStart | groupFinish => exact hs
  | settings h _ | auxStart h _ _ | dispatch h _ _ | envelope h _ _ => exact hledger h

theorem LeaseInvariant.change (h : Change kind s t) (hstart : kind ≠ .start)
    (haux : kind ≠ .auxStart) (hs : LeaseInvariant s) : LeaseInvariant t := by
  have hshrinks := h.leasesShrink hstart haux hs
  have hwf := h.wellFormed hs.wellFormed
  exact ⟨hwf, h.rowed hs.rowed, hshrinks.claimed hs,
    hs.exclusive.shrink fun _ _ => hshrinks.holds hs.wellFormed.attempts hwf.attempts⟩

/-! ## Starts -/

/-- `_select_dispatch` does not see the lease: it is auxiliary, or belongs to a
group without a `RUNNING` row. -/
def Unseen (s : Store) : Lease → Prop
  | .attempt _ => False
  | .group groupId => ∀ row ∈ s.groupAttempts groupId, row.2.status ≠ .running
  | .auxiliary .. => True

instance (s : Store) (lease : Lease) : Decidable (Unseen s lease) := by
  cases lease <;> unfold Unseen <;> infer_instance

/-- The start meets no lease that its driver does not look at. The scheduler
looks at the leases it can see, the controller at none. -/
def StartFits (s : Store) : StoreOp → Prop
  | .markRunningBeforeSpawn _ gpus _ | .startPhysicalAttemptGroup _ gpus _ =>
    ∀ l ∈ s.leases, Unseen s l.1 → ∀ gpu ∈ gpus, gpu ∉ l.2
  | .startControllerAuxiliaryGroup spec _ =>
    ∀ l ∈ s.leases, l.1 ≠ .auxiliary spec.groupId spec.attempt →
      ∀ a ∈ s.auxGroups, a.groupId = spec.groupId → a.attempt = spec.attempt →
        ∀ gpu ∈ a.assignedGpuUuids, gpu ∉ l.2
  | _ => True

-- one of two instances for implications
attribute [local instance (1100)] instDecidableForall in
instance (s : Store) (op : StoreOp) : Decidable (StartFits s op) := by
  induction op using StoreOp.casesOn <;> unfold StartFits <;> infer_instance

/-- GPUs that no `RUNNING` row holds and that no unseen lease holds are free. -/
theorem LeaseInvariant.free (hs : LeaseInvariant s)
    (hfree : ∀ gpu ∈ gpus, gpu ∉ Scheduler.occupiedGpus s.attempts)
    (hfits : ∀ l ∈ s.leases, Unseen s l.1 → ∀ gpu ∈ gpus, gpu ∉ l.2) {l : Lease}
    (hgpu : gpu ∈ gpus) : ¬ Holds s l gpu := by
  have hunseen (hl : Unseen s l) : ¬ Holds s l gpu := by
    rintro ⟨gpus', hmem, hgpu'⟩
    exact hfits _ hmem hl gpu hgpu hgpu'
  intro hholds
  cases l with
  | attempt key =>
    obtain ⟨r, hr, _, hrunning, _, hmem⟩ := holds_attempt.mp hholds
    exact hfree gpu hgpu (Scheduler.mem_occupiedGpus.mpr ⟨r, hr, hrunning, hmem⟩)
  | group groupId =>
    by_cases hrunning : ∃ row ∈ s.groupAttempts groupId, row.2.status = .running
    · -- a RUNNING row of the group has the GPUs of every row
      obtain ⟨row, hrow, hrunning⟩ := hrunning
      obtain ⟨m, hm, hid, _, hfind⟩ := mem_groupAttempts.mp hrow
      obtain ⟨hr, hkey⟩ := findAttempt_eq_some hfind
      obtain ⟨⟨g, hg, rfl, hgroup⟩, m', hm', hid', r', hr', hkey', hmem⟩ :=
        (holds_group hs.wellFormed.attempts).mp hholds
      obtain ⟨gpus', hgpus⟩ := hs.claimed g hg hgroup
      rw [(hgpus m' hm' hid' r' hr' hkey').2, ← (hgpus m hm hid row.2 hr hkey).2] at hmem
      exact hfree gpu hgpu (Scheduler.mem_occupiedGpus.mpr ⟨row.2, hr, hrunning, hmem⟩)
    · refine hunseen (fun row hrow hstatus => hrunning ⟨row, hrow, hstatus⟩) hholds
  | auxiliary groupId n => exact hunseen trivial hholds

/-- A row after a claim is a claimed row or the row of before. -/
theorem mem_claim {keys : List AttemptKey}
    (h : r' ∈ (s.updateAttempts keys fun r => r.start gpus started).attempts) :
    (∃ r ∈ s.attempts, r.key ∈ keys ∧ r' = r.start gpus started) ∨
      (r' ∈ s.attempts ∧ r'.key ∉ keys) := by
  obtain ⟨r, hr, rfl⟩ := mem_map.mp h
  by_cases hmem : r.key ∈ keys
  · rw [if_pos hmem]
    exact .inl ⟨r, hr, hmem, rfl⟩
  · rw [if_neg hmem]
    exact .inr ⟨hr, hmem⟩

/-- The rows of a `RUNNING` group are not claimed again. -/
theorem LeaseInvariant.claim_row (hs : LeaseInvariant s) {keys : List AttemptKey}
    (hpending : ∀ r ∈ s.attempts, r.key ∈ keys → r.status = .pending) {g : GroupRow}
    (hg : g ∈ s.groups) (hrunning : g.status = .running) {m : MemberRow} (hm : m ∈ s.members)
    (hid : m.groupId = g.groupId)
    (hr' : r' ∈ (s.updateAttempts keys fun r => r.start gpus started).attempts)
    (hkey : r'.key = m.key) : r' ∈ s.attempts := by
  rcases mem_claim hr' with ⟨r, hr, hmem, rfl⟩ | ⟨hr, _⟩
  · obtain ⟨_, hgpus⟩ := hs.claimed g hg hrunning
    exact absurd (hpending r hr hmem) (hgpus m hm hid r hr hkey).1
  · exact hr

/-- The claim of a standalone attempt. -/
theorem markRunning_leases (hs : LeaseInvariant s) (hfree : ∀ l gpu, gpu ∈ gpus → ¬ Holds s l gpu)
    (h : s.markRunningBeforeSpawn key gpus started = .ok t) : LeaseInvariant t := by
  have hkeys := hs.wellFormed.attempts
  have hchanges : Changes [.start] s t :=
    apply_changes hkeys (show s.apply (.markRunningBeforeSpawn key gpus started) = .ok t from h)
  obtain ⟨⟨row, hrow, hpending⟩, rfl⟩ := markRunningBeforeSpawn_eq_ok h
  obtain ⟨hmem, hkey⟩ := findAttempt_eq_some hrow
  have hpending' : ∀ r ∈ s.attempts, r.key ∈ [key] → r.status = .pending := by
    intro r hr hr'
    rw [hkeys.eq_of_key hr hmem ((mem_singleton.mp hr').trans hkey.symm)]
    exact hpending
  have hwf := hchanges.wellFormed hs.wellFormed
  refine ⟨hwf, hchanges.invariant (fun _ _ _ _ h => h.rowed) hs.rowed, ?_, ?_⟩
  · intro g hg hrunning
    obtain ⟨gpus', hgpus⟩ := hs.claimed g hg hrunning
    refine ⟨gpus', fun m hm hid r' hr' hkey' => ?_⟩
    exact hgpus m hm hid r' (hs.claim_row hpending' hg hrunning hm hid hr' hkey') hkey'
  · refine hs.exclusive.grow (.attempt key) gpus ?_ fun l gpu _ hgpu => hfree l gpu hgpu
    intro l gpu hl
    cases l with
    | attempt key' =>
      obtain ⟨r', hr', hkey', hrunning, hnone, hgpu⟩ := holds_attempt.mp hl
      rcases mem_claim hr' with ⟨r, _, hr, rfl⟩ | ⟨hr, _⟩
      · right
        refine ⟨?_, hgpu⟩
        rw [← hkey', ← mem_singleton.mp hr]
        rfl
      · exact .inl (holds_attempt.mpr ⟨r', hr, hkey', hrunning, hnone, hgpu⟩)
    | group groupId =>
      obtain ⟨⟨g, hg, hgid, hrunning⟩, m, hm, hid, r', hr', hkey', hgpu⟩ :=
        (holds_group hwf.attempts).mp hl
      have hr := hs.claim_row hpending' hg hrunning hm (hid.trans hgid.symm) hr' hkey'
      exact .inl ((holds_group hkeys).mpr
        ⟨⟨g, hg, hgid, hrunning⟩, m, hm, hid, r', hr, hkey', hgpu⟩)
    | auxiliary groupId n =>
      obtain ⟨a, ha, hauxiliary⟩ := holds_auxiliary.mp hl
      exact .inl (holds_auxiliary.mpr ⟨a, ha, hauxiliary⟩)

/-- The claim of a group. -/
theorem startGroup_leases (hs : LeaseInvariant s) (hfree : ∀ l gpu, gpu ∈ gpus → ¬ Holds s l gpu)
    (h : s.startPhysicalAttemptGroup groupId gpus started = .ok t) : LeaseInvariant t := by
  have hkeys := hs.wellFormed.attempts
  have hchanges : Changes [.start] s t :=
    apply_changes hkeys (show s.apply (.startPhysicalAttemptGroup groupId gpus started) = .ok t from h)
  obtain ⟨_, hrows, rfl⟩ := startPhysicalAttemptGroup_eq_ok h
  have hpending : ∀ r ∈ s.attempts, r.key ∈ (s.groupAttempts groupId).map (·.2.key) →
      r.status = .pending := by
    intro r hr hr'
    obtain ⟨row, hrow, hkey⟩ := mem_map.mp hr'
    obtain ⟨m, _, _, _, hfind⟩ := mem_groupAttempts.mp hrow
    rw [hkeys.eq_of_key hr (findAttempt_eq_some hfind).1 hkey.symm]
    exact hrows row hrow
  -- the rows of the members of the group are the claimed ones
  have hclaimed : ∀ m ∈ s.members, m.groupId = groupId → ∀ r ∈ s.attempts, r.key = m.key →
      r.key ∈ (s.groupAttempts groupId).map (·.2.key) := by
    intro m hm hid r hr hkey
    refine mem_map.mpr ⟨(m.logicalKind, r), ?_, rfl⟩
    refine mem_groupAttempts.mpr ⟨m, hm, hid, rfl, ?_⟩
    rw [← hkey]
    exact hkeys.findAttempt hr
  have hmembers : ∀ r ∈ s.attempts, r.key ∈ (s.groupAttempts groupId).map (·.2.key) →
      s.memberOf r.key ≠ none := by
    intro r hr hr' hnone
    obtain ⟨row, hrow, hkey⟩ := mem_map.mp hr'
    obtain ⟨m, hm, _, _, hfind⟩ := mem_groupAttempts.mp hrow
    have hmkey : m.key = r.key := (findAttempt_eq_some hfind).2.symm.trans hkey
    rw [← hmkey, hs.wellFormed.memberOf hm] at hnone
    cases hnone
  have hwf := hchanges.wellFormed hs.wellFormed
  refine ⟨hwf, hchanges.invariant (fun _ _ _ _ h => h.rowed) hs.rowed, ?_, ?_⟩
  · intro g' hg' hrunning
    obtain ⟨g, hg, rfl⟩ := mem_map.mp hg'
    by_cases hid : g.groupId = groupId
    · refine ⟨gpus, fun m hm hmid r' hr' hkey' => ?_⟩
      rw [if_pos hid] at hmid
      rcases mem_claim hr' with ⟨r, _, _, rfl⟩ | ⟨hr, hnot⟩
      · simp [AttemptRow.start]
      · exact absurd (hclaimed m hm (hmid.trans hid) r' hr hkey') hnot
    · rw [if_neg hid] at hrunning ⊢
      obtain ⟨gpus', hgpus⟩ := hs.claimed g hg hrunning
      refine ⟨gpus', fun m hm hmid r' hr' hkey' => ?_⟩
      exact hgpus m hm hmid r' (hs.claim_row hpending hg hrunning hm hmid hr' hkey') hkey'
  · refine hs.exclusive.grow (.group groupId) gpus ?_ fun l gpu _ hgpu => hfree l gpu hgpu
    intro l gpu hl
    cases l with
    | attempt key' =>
      obtain ⟨r', hr', hkey', hrunning, hnone, hgpu⟩ := holds_attempt.mp hl
      rcases mem_claim hr' with ⟨r, hr, hmem, rfl⟩ | ⟨hr, _⟩
      · subst hkey'
        exact absurd hnone (hmembers r hr hmem)
      · exact .inl (holds_attempt.mpr ⟨r', hr, hkey', hrunning, hnone, hgpu⟩)
    | group groupId' =>
      obtain ⟨⟨g', hg', hgid, hrunning⟩, m, hm, hid, r', hr', hkey', hgpu⟩ :=
        (holds_group hwf.attempts).mp hl
      obtain ⟨g, hg, rfl⟩ := mem_map.mp hg'
      by_cases hgroup : g.groupId = groupId
      · right
        rw [if_pos hgroup] at hgid
        have hgid' : groupId = groupId' := hgroup.symm.trans hgid
        rcases mem_claim hr' with ⟨r, _, _, rfl⟩ | ⟨hr, hnot⟩
        · exact ⟨by rw [hgid'], hgpu⟩
        · exact absurd (hclaimed m hm (hid.trans hgid'.symm) r' hr hkey') hnot
      · left
        rw [if_neg hgroup] at hgid hrunning
        have hr := hs.claim_row hpending hg hrunning hm (hid.trans hgid.symm) hr' hkey'
        exact (holds_group hkeys).mpr ⟨⟨g, hg, hgid, hrunning⟩, m, hm, hid, r', hr, hkey', hgpu⟩
    | auxiliary groupId' n =>
      obtain ⟨a, ha, hauxiliary⟩ := holds_auxiliary.mp hl
      exact .inl (holds_auxiliary.mpr ⟨a, ha, hauxiliary⟩)

/-- The start of an auxiliary group. -/
theorem auxStart_leases (hs : LeaseInvariant s) {spec : AuxiliaryGroupSpec}
    (hfits : StartFits s (.startControllerAuxiliaryGroup spec started))
    (h : s.startControllerAuxiliaryGroup spec started = .ok t) : LeaseInvariant t := by
  obtain ⟨hchange, hledger, hrunning⟩ := startControllerAuxiliaryGroup_change h
  have hwf := hchange.wellFormed hs.wellFormed
  refine ⟨hwf, hchange.rowed hs.rowed, ?_, ?_⟩
  · rw [hledger.groups, hledger.members, hledger.attempts]
    exact hs.claimed
  · refine hs.exclusive.grow (.auxiliary spec.groupId spec.attempt)
      ((s.auxGroups.filter fun a => a.groupId = spec.groupId ∧ a.attempt = spec.attempt).flatMap
        (·.assignedGpuUuids)) ?_ ?_
    · intro l gpu hl
      cases l with
      | attempt key =>
        obtain ⟨r, hr, hkey, hstatus, hnone, hgpu⟩ := holds_attempt.mp hl
        rw [hledger.attempts] at hr
        unfold Store.memberOf at hnone
        rw [hledger.members] at hnone
        exact .inl (holds_attempt.mpr ⟨r, hr, hkey, hstatus, hnone, hgpu⟩)
      | group groupId =>
        have hgroup := (holds_group hwf.attempts).mp hl
        rw [hledger.groups, hledger.members, hledger.attempts] at hgroup
        exact .inl ((holds_group hs.wellFormed.attempts).mpr hgroup)
      | auxiliary groupId n =>
        obtain ⟨a', ha', rfl, rfl, hstatus, hgpu⟩ := holds_auxiliary.mp hl
        rcases hrunning a' ha' hstatus with ha | ⟨a, ha, hid, hn, hid', hn', hgpus⟩
        · exact .inl (holds_auxiliary.mpr ⟨a', ha, rfl, rfl, hstatus, hgpu⟩)
        · right
          refine ⟨by rw [hid', hn', hid, hn], mem_flatMap.mpr ⟨a, ?_, hgpus ▸ hgpu⟩⟩
          exact mem_filter.mpr ⟨ha, by simp [hid, hn]⟩
    · rintro l gpu hne hgpu ⟨gpus, hl, hmem⟩
      obtain ⟨a, ha, hgpu⟩ := mem_flatMap.mp hgpu
      obtain ⟨ha, hkey⟩ := mem_filter.mp ha
      obtain ⟨hid, hn⟩ := of_decide_eq_true hkey
      exact hfits (l, gpus) hl hne a ha hid hn gpu hgpu hmem
/-! ## Operations -/

/-- An operation outside the scheduler's two starts keeps the invariant, and
occupied GPUs were occupied before. -/
theorem step_leases (hs : LeaseInvariant s) {op : StoreOp} (hop : ChangeKind.start ∉ op.kinds)
    (hfits : StartFits s op) :
    LeaseInvariant (s.step op).2 ∧ ∀ gpu ∈ Scheduler.occupiedGpus (s.step op).2.attempts,
      gpu ∈ Scheduler.occupiedGpus s.attempts := by
  by_cases haux : ChangeKind.auxStart ∈ op.kinds
  · cases op with
    | startControllerAuxiliaryGroup spec started =>
      unfold Store.step
      cases happly : s.apply (.startControllerAuxiliaryGroup spec started) with
      | error e => exact ⟨hs, fun _ h => h⟩
      | ok t =>
        obtain ⟨_, hledger, _⟩ := startControllerAuxiliaryGroup_change happly
        refine ⟨auxStart_leases hs hfits happly, fun gpu hgpu => ?_⟩
        rw [hledger.attempts] at hgpu
        exact hgpu
    | _ => simp [StoreOp.kinds] at haux
  · refine (step_changes hs.wellFormed.attempts op).invariant (P := fun t =>
      LeaseInvariant t ∧ ∀ gpu ∈ Scheduler.occupiedGpus t.attempts,
        gpu ∈ Scheduler.occupiedGpus s.attempts) ?_ ⟨hs, fun _ h => h⟩
    rintro kind hkind t u hchange ⟨ht, hocc⟩
    have hstart : kind ≠ .start := fun h => hop (h ▸ hkind)
    have haux : kind ≠ .auxStart := fun h => haux (h ▸ hkind)
    exact ⟨ht.change hchange hstart haux,
      fun gpu hgpu => hocc gpu ((hchange.leasesShrink hstart haux ht).occupied hgpu)⟩

namespace Scheduler

/-! ## The cycle -/

/-- Other processes keep the invariant and free GPUs only; every start fits. -/
def leaseContract : Contract Effect World Oracle where
  rely w w' := LeaseInvariant w.store → LeaseInvariant w'.store ∧
    ∀ gpu ∈ occupiedGpus w'.store.attempts, gpu ∈ occupiedGpus w.store.attempts
  rely_refl := fun _ h => ⟨h, fun _ h => h⟩
  rely_trans := by
    intro u v w huv hvw h
    obtain ⟨hv, hocc⟩ := huv h
    obtain ⟨hw, hocc'⟩ := hvw hv
    exact ⟨hw, fun gpu hgpu => hocc gpu (hocc' gpu hgpu)⟩
  allowed w _ e := ∀ op, e = .write op → StartFits w.store op
  safe w ω e := LeaseInvariant (w.handle ω e).2.store

/-- The invariant, between cycles and in the loop. -/
def LeasesKept (_ : Option InterferenceEnvelope) (w : World) : Prop := LeaseInvariant w.store

/-- The selected GPUs are not occupied. -/
def LeaseReady (_ : InterferenceEnvelope) (_ : QueuedCommandSpec) (gpus : List String)
    (w : World) : Prop :=
  LeaseInvariant w.store ∧ ∀ gpu ∈ gpus, gpu ∉ occupiedGpus w.store.attempts

theorem leasesKept_rely (envelope : Option InterferenceEnvelope) (w w' : World)
    (hw : LeasesKept envelope w) (hrely : leaseContract.rely w w') : LeasesKept envelope w' :=
  (hrely hw).1

theorem LeaseReady.rely {envelope : InterferenceEnvelope} {command : QueuedCommandSpec}
    {w w' : World} (hw : LeaseReady envelope command gpus w) (hrely : leaseContract.rely w w') :
    LeaseReady envelope command gpus w' := by
  obtain ⟨hinv, hocc⟩ := hrely hw.1
  exact ⟨hinv, fun gpu hgpu hmem => hw.2 gpu hgpu (hocc gpu hmem)⟩

/-- An effect outside a claim is safe. -/
theorem within_leases (envelope : Option InterferenceEnvelope) (w : World) (ω : Oracle)
    (e : Effect) (he : e.Within reconcileKinds) (hw : LeasesKept envelope w) :
    leaseContract.safe w ω e ∧ LeasesKept envelope (w.handle ω e).2 := by
  have hinv : LeaseInvariant (w.handle ω e).2.store := by
    refine (he.changes hw.wellFormed.attempts ω).invariant ?_ hw
    intro kind hkind s t hchange hs
    refine hs.change hchange ?_ ?_ <;> rintro rfl <;> simp [reconcileKinds] at hkind
  exact ⟨hinv, hinv⟩

theorem wp_within_leases {α : Type} {p : Sched α} (hp : p.All (Effect.Within reconcileKinds))
    {envelope : Option InterferenceEnvelope} {w : World} (hw : LeasesKept envelope w) :
    wp World.handle leaseContract (fun _ => LeasesKept envelope)
      (fun _ => LeasesKept envelope) p w :=
  wp_of_all (leasesKept_rely envelope)
    (fun w ω e he hw _ => within_leases envelope w ω e he hw) hp hw

/-- A claim on GPUs that are free in the rows keeps the invariant. -/
theorem claim_leases {command : QueuedCommandSpec} {view : Option GroupView}
    (hs : LeaseInvariant s) (hfree : ∀ gpu ∈ gpus, gpu ∉ occupiedGpus s.attempts)
    (hfits : StartFits s (claimOp command gpus started view))
    (h : s.apply (claimOp command gpus started view) = .ok t) : LeaseInvariant t := by
  cases view with
  | none => exact markRunning_leases hs (fun l gpu hgpu => hs.free hfree hfits hgpu) h
  | some view => exact startGroup_leases hs (fun l gpu hgpu => hs.free hfree hfits hgpu) h

theorem wp_startCommand_leases (envelope : InterferenceEnvelope) (command : QueuedCommandSpec)
    (gpus : List String) (started : Int) {w : World} (hw : LeaseReady envelope command gpus w) :
    wp World.handle leaseContract (fun _ => LeasesKept (some envelope))
      (fun _ => LeasesKept (some envelope)) (startCommand command gpus started) w := by
  refine wp_startCommand (R := LeaseReady envelope command gpus)
    (V := fun _ => LeaseReady envelope command gpus)
    (T := fun _ => LeasesKept (some envelope)) (fun _ _ h hrely => h.rely hrely)
    (fun w ω hw _ => (within_leases (some envelope) w ω .read trivial hw.1).1)
    (fun _ _ _ hw _ hrely => hw.rely hrely) (fun _ _ _ hw hrely => (hrely hw.1).1) ?_ ?_ hw
  · intro view w w' ω hw hrely hallowed
    have hw' := hw.rely hrely
    -- a transaction that raises leaves the store as it was
    cases happly : w'.store.apply (claimOp command gpus started view) with
    | error e =>
      refine ⟨?_, fun w'' hrely' => (hrely' hw'.1).1⟩
      show LeaseInvariant (w'.store.step _).2
      rw [Store.step, happly]
      exact hw'.1
    | ok s =>
      have hinv := claim_leases hw'.1 hw'.2 (hallowed _ rfl) happly
      refine ⟨?_, hinv⟩
      show LeaseInvariant (w'.store.step _).2
      rw [Store.step, happly]
      exact hinv
  · intro view w hw
    exact wp_within_leases ((afterClaim_launching command gpus view).mono fun _ h => h.within) hw

/-- `run_once` keeps leases exclusive. -/
theorem lease_rules (cfg : SchedulerConfig) : CycleRules leaseContract cfg LeasesKept LeaseReady
    (fun envelope _ => LeasesKept (some envelope)) where
  rely := leasesKept_rely
  forget := fun _ _ h => h
  configured := fun _ _ h _ => h
  quiet := fun envelope w ω e he hw _ => within_leases envelope w ω e
    ((he.retrying.releasing : Effect.Releasing ⟨"", 0⟩ none _).standing.within) hw
  reconcile := fun _ hw =>
    wp_within_leases ((reconcileRunning_standing cfg).mono fun _ h => h.within) hw
  select := by
    intro envelope w hw
    refine wp_mono (wp_selectDispatch (I := LeasesKept (some envelope))
      (S := fun s w => ∀ gpu ∈ occupiedGpus w.store.attempts, gpu ∈ occupiedGpus s.attempts)
      envelope (leasesKept_rely _)
      (fun w ω e he hw _ => within_leases _ w ω e
        ((he.retrying.releasing : Effect.Releasing ⟨"", 0⟩ none _).standing.within) hw)
      (fun _ _ _ h => h) (fun _ w w' hw h hrely gpu hgpu => h gpu ((hrely hw).2 gpu hgpu)) hw) ?_
      fun _ _ h => h
    rintro selected w ⟨hw, hselected⟩
    refine ⟨hw, fun command gpus h => ?_⟩
    obtain ⟨s₁, _, _, ⟨hseen, _, _⟩, hsel⟩ := hselected command gpus h
    exact ⟨hw, fun gpu hgpu hocc => hsel.free gpu hgpu (hseen gpu hocc)⟩
  ready := fun _ _ _ _ h => h.1
  ready_rely := fun _ _ _ _ _ h hrely => h.rely hrely
  ready_read := by
    intro envelope command gpus w ω e he hw _
    unfold LeaseReady
    rw [(he.handle w ω).1]
    exact hw
  start := by
    intro envelope command gpus started w hw
    refine wp_mono (wp_startCommand_leases envelope command gpus started hw) (fun _ _ h => h) ?_
    intro e w hw
    split
    · exact hw
    · exact hw
  fail := fun _ command error _ hw =>
    wp_within_leases ((failStart_standing cfg command error).mono fun _ h => h.within) hw

/-! ## Every run -/

/-- Attempts and groups are started by the scheduler only. -/
def SchedulerStarts : Input Oracle Foreign → Prop
  | .interfere (.call op) => ChangeKind.start ∉ op.kinds
  | _ => True

instance (input : Input Oracle Foreign) : Decidable (SchedulerStarts input) := by
  induction input using Input.casesOn with
  | interfere foreign =>
    induction foreign using Foreign.casesOn <;> unfold SchedulerStarts <;> infer_instance
  | _ => exact instDecidableTrue

/-- If the step is a start, it meets no lease that its driver does not look at. -/
def StartsFit (q : Daemon) : Input Oracle Foreign → Prop
  | .interfere (.call op) => StartFits q.state.store op
  | .resume _ =>
    match q.next with
    | some (.write op) => StartFits q.state.store op
    | _ => True
  | _ => True

instance (q : Daemon) (input : Input Oracle Foreign) : Decidable (StartsFit q input) := by
  unfold StartsFit
  split
  · infer_instance
  · split <;> infer_instance
  · infer_instance

/-- No GPU belongs to two leases, in every interleaving of the scheduler with
the operations of the controller and of others. -/
theorem leases_exclusive (cfg : SchedulerConfig) (inputs : List (Input Oracle Foreign))
    (hstarts : ∀ input ∈ inputs, SchedulerStarts input)
    (hfits : ∀ ev ∈ trace (step cfg) (boot Store.empty) inputs, StartsFit ev.pre ev.input) :
    ∀ ev ∈ trace (step cfg) (boot Store.empty) inputs, Exclusive ev.post.state.store := by
  have hinit : LeasesKept none (boot Store.empty).state := LeaseInvariant.empty
  have hrun : ∀ ev ∈ trace (step cfg) (boot Store.empty) inputs,
      Respects leaseContract World.foreign ev.pre ev.input := by
    intro ev hev
    have hop := hstarts _ (input_mem_of_mem_trace hev)
    have hfit := hfits ev hev
    cases hinput : ev.input with
    | begin => trivial
    | interfere i =>
        rw [hinput] at hop hfit
        cases i with
        | exit child => exact fun h => ⟨h, fun _ h => h⟩
        | call op => exact fun h => step_leases h hop hfit
    | resume ω =>
        rw [hinput] at hfit
        intro e hnext op he
        subst he
        unfold StartsFit at hfit
        rw [hnext] at hfit
        exact hfit
  have hall := run_invariant (lease_rules cfg).loopInvariant
    (I := fun w : World => LeaseInvariant w.store) (fun _ _ _ hsafe _ => hsafe)
    (fun w i hrely hw => (hrely hw).1) (q := boot Store.empty) hinit hinit hrun
  exact fun ev hev => (hall ev hev).2.exclusive

/-! A cell of the first node runs, completes and is marked stale; its rerun and
an auxiliary group of the second node are both given the only GPU. -/

def Sample.artifact (path : String) : ArtifactBinding := ⟨path, .hex "a0"⟩

/-- An auxiliary group of node `next` on one GPU. -/
def Sample.auxiliary : AuxiliaryGroupSpec where
  groupId := "x"
  attempt := 1
  node := "next"
  sourceKind := "campaign"
  jobs := [⟨"j", 1, "adopt", "\x7b\"tp\":1\x7d",
    ⟨.hex "e0", .hex "e1", .hex "e2", "\x7b\x7d"⟩, .hex "c0", "/aux/j"⟩]
  assignedGpuUuids := ["g0"]
  launchCommandSha256 := .hex "c1"
  outputDirectory := "/aux"
  attempt_pos := Nat.one_pos
  jobs_ne := by decide
  jobs_checks := by decide
  jobs_sorted := by decide
  jobs_attempt := by decide
  adoption_nodup := by decide
  output_nodup := by decide
  uuids_ne := Sample.g0_ne
  uuids_text := Sample.g0_text
  uuids_nodup := Sample.g0_nodup

/-- A node with one cell, and the node after it. -/
def Sample.twoNodes : List StoreOp :=
  [.initializeStagePlan [⟨"node", 0, "smoke", "final", "1", none⟩,
      ⟨"next", 1, "main", "final", "1", none⟩] 1,
   .configureInterferenceEnvelope Sample.oneGpu 1,
   .recordControllerMaterialization (fun _ => .ok ()) "node" (Sample.artifact "/m0")
     (Sample.artifact "/m1") ["a"] [] 2,
   .recordControllerExecutionPlan (fun _ => .ok ()) "node" (Sample.artifact "/e") none 3] ++
  Sample.enqueue (Sample.command "a" 1 "/a") "/a" Sample.attempt_checks Sample.command_checks

/-- The end of a complete attempt. -/
def Sample.complete : FinishArgs where
  status := .complete
  exitCode := some 0
  terminalSha256 := some (.hex "d0")
  junitSha256 := some (.hex "d1")
  rawLogSha256 := some (.hex "d2")
  includedInAnalysis := true
  finishedAtNs := 20

/-- The node is reduced, its cell is stale and queued again, and the group of the
next node is registered. -/
def Sample.rerun : List StoreOp :=
  [.finishAttempt ⟨"a", 1⟩ Sample.complete,
   .recordControllerReduction (fun _ => .ok ()) "node" (Sample.artifact "/d")
     (Sample.artifact "/c") 21,
   .markStaleIdentity ⟨"a", 1⟩ "identity" "RERUN" 22] ++
  Sample.enqueue (Sample.command "a" 2 "/a2") "/a2" (by decide) (by decide) ++
  [.registerControllerAuxiliaryGroup Sample.auxiliary 23]

/-- The first cycle starts the cell; the group starts after the cell has ended. -/
def Sample.inTurn : List (Input Oracle Foreign) :=
  Sample.calls Sample.twoNodes ++ Sample.cycle 28 (Sample.oracle 10) ++
    Sample.calls (Sample.rerun ++ [.startControllerAuxiliaryGroup Sample.auxiliary 24])

/-- At the end of this run the auxiliary group holds the only lease. -/
theorem leases_exclusive_in_turn :
    (final (step {}) (boot Store.empty) Sample.inTurn).state.store.leases =
        [(.auxiliary "x" 1, ["g0"])] ∧
      ∀ ev ∈ trace (step {}) (boot Store.empty) Sample.inTurn, Exclusive ev.post.state.store :=
  ⟨by decide +kernel, leases_exclusive {} Sample.inTurn (by decide +kernel) (by decide +kernel)⟩

/-- The scheduler starts the rerun on the GPU of the running auxiliary group. -/
theorem leases_exclusive_fails_beside_auxiliary :
    ¬ ∀ cfg inputs, (∀ input ∈ inputs, SchedulerStarts input) →
      ∀ ev ∈ trace (step cfg) (boot Store.empty) inputs, Exclusive ev.post.state.store := by
  intro h
  have hbad : (trace (step {}) (boot Store.empty) (Sample.inTurn ++
      Sample.cycle 15 (Sample.oracle 30))).any (fun ev =>
        decide (¬ Exclusive ev.post.state.store)) = true := by decide +kernel
  obtain ⟨ev, hev, hshared⟩ := List.any_eq_true.mp hbad
  exact of_decide_eq_true hshared (h {} _ (by decide +kernel) ev hev)

end Scheduler


end Operator

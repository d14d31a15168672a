import LightConeSpec.Operator.Lockstep
import LightConeSpec.Operator.Summary
import LightConeSpec.Operator.Tables

/-!
# GPU time

A physical lease is a standalone attempt, a physical group or an auxiliary
group, and the call that ends it charges its GPU time to one row of the ledger.
The total of the ledger is the sum of these charges as long as `finish_attempt`
charges nothing to a member of a physical group: it does not look at the
membership, so a member that is finished on its own is charged besides its group.
-/

namespace Operator

open Python Machine List

inductive PhysicalLease
  | attempt (key : AttemptKey)
  | group (groupId : String)
  | auxiliary (groupId : String) (attempt : Nat)
deriving DecidableEq

theorem AttemptRow.SameSpec.stage {r r' : AttemptRow} (h : r.SameSpec r') :
    r'.stage = r.stage ∧ r'.phase = r.phase := by
  have hspec := h.spec
  simp only [AttemptRow.spec, CellAttempt.mk.injEq] at hspec
  exact ⟨hspec.2.2.1, hspec.2.2.2.1⟩

variable {s s' : Store} {groupId : String} {f : AttemptRow → AttemptRow} {keys : List AttemptKey}
  {adoptions : List AuxiliaryCellAdoption}

variable {t : Store} {automatic : Bool} {row : AttemptRow} {adopted finished : Int}

namespace Store

/-- The GPU time of all attempts and of the auxiliary groups not adopted. -/
def ledgerGpuSeconds (s : Store) : GpuSeconds :=
  (s.attempts.map (·.gpuSeconds)).sum +
    ((s.auxGroups.filter fun row => row.adoptedAtNs = none).map (·.gpuSeconds)).sum

/-- What a call charges, and to which lease, if it succeeds. A member of a
physical group is no lease of its own. -/
def charges (s : Store) : StoreOp → List (PhysicalLease × GpuSeconds)
  | .finishAttempt key args =>
    if (s.memberOf key).isSome then [] else [(.attempt key, args.gpuSeconds)]
  | .importLegacyStaleAttempts items _ =>
    items.map fun item => (.attempt item.spec.key, item.gpuSeconds)
  | .finishPhysicalAttemptGroup groupId terminals _ _ =>
    let rows := s.groupAttempts groupId
    [(.group groupId, evidenceGpuSeconds rows
      (rows.filterMap fun row => terminalFor terminals row.2.cellId))]
  | .failPhysicalAttemptGroupSpawn groupId _ _ _ => [(.group groupId, 0)]
  | .failPhysicalAttemptGroupInfrastructure groupId _ _ _ _ finished =>
    match (s.findGroup groupId).map fun group =>
        leaderGpuSeconds finished group (s.groupAttempts groupId) with
    | some (.ok time) => [(.group groupId, time)]
    | _ => []
  | .finishControllerAuxiliaryGroup _ spec terminal _ =>
    [(.auxiliary spec.groupId spec.attempt, terminal.gpuSeconds)]
  | .failControllerAuxiliarySpawn spec _ _ => [(.auxiliary spec.groupId spec.attempt, 0)]
  | _ => []

/-- The charges of a step: a call that fails charges nothing. -/
def chargesOf (ev : Event Store StoreOp (Except Error Unit)) : List (PhysicalLease × GpuSeconds) :=
  match ev.output with
  | .ok _ => ev.pre.charges ev.input
  | .error _ => []

/-- `finish_attempt` of a member of a physical group charges nothing. -/
def ChargesLeases (s : Store) : StoreOp → Prop
  | .finishAttempt key args => (s.memberOf key).isSome = true → args.gpuSeconds = 0
  | _ => True

instance (s : Store) (op : StoreOp) : Decidable (s.ChargesLeases op) := by
  induction op using StoreOp.casesOn <;> unfold ChargesLeases <;> infer_instance

/-! ## Totals -/

/-- The GPU time of the attempts of the selected stages. -/
def rowsTotal (s : Store) (p : String → String → Bool) : GpuSeconds :=
  (s.attempts.map fun r => if p r.stage r.phase = true then r.gpuSeconds else 0).sum

/-- The GPU time of the auxiliary groups of the selected nodes that are not
adopted. -/
def pendingTotal (s : Store) (q : String → Bool) : GpuSeconds :=
  (s.auxGroups.map fun g =>
    if q g.node = true ∧ g.adoptedAtNs = none then g.gpuSeconds else 0).sum

theorem ledgerGpuSeconds_eq (s : Store) :
    s.ledgerGpuSeconds = s.rowsTotal (fun _ _ => true) + s.pendingTotal fun _ => true := by
  unfold ledgerGpuSeconds rowsTotal pendingTotal
  rw [Rows.sum_map_filter]
  simp

theorem stageSummary_gpuSeconds (s : Store) (plan : PlanRow) : (s.stageSummary plan).gpuSeconds =
    s.rowsTotal (fun stage phase => decide (stage = plan.stage ∧ phase = plan.phase)) +
      s.pendingTotal fun node => decide (node = plan.node) := by
  show s.stageGpuSeconds plan.stage plan.phase + s.pendingAuxiliaryGpuSeconds plan.node = _
  unfold stageGpuSeconds pendingAuxiliaryGpuSeconds rowsTotal pendingTotal
  rw [Rows.sum_map_filter, Rows.sum_map_filter]
  simp

theorem rowsTotal_append (s : Store) (row : AttemptRow) (p : String → String → Bool) :
    (s.appendAttempt row).rowsTotal p =
      s.rowsTotal p + if p row.stage row.phase = true then row.gpuSeconds else 0 := by
  simp [rowsTotal]

/-- An update that charges nothing leaves every total. -/
theorem rowsTotal_updateAttempts (hspec : ∀ r, AttemptRow.SameSpec r (f r))
    (h : ∀ r ∈ s.attempts, r.key ∈ keys → (f r).gpuSeconds = r.gpuSeconds)
    (p : String → String → Bool) : (s.updateAttempts keys f).rowsTotal p = s.rowsTotal p := by
  unfold rowsTotal
  rw [updateAttempts_attempts, map_map]
  congr 1
  apply map_congr_left
  intro r hr
  by_cases hkey : r.key ∈ keys
  · simp [hkey, (hspec r).stage.1, (hspec r).stage.2, h r hr hkey]
  · simp [hkey]

/-- An update that charges one row moves the ledger by the charge. -/
theorem rowsTotal_charge (hs : s.KeysNodup) (hrow : row ∈ s.attempts) (hkey : row.key ∈ keys)
    {time : GpuSeconds} (hcharge : (f row).gpuSeconds = row.gpuSeconds + time)
    (hrest : ∀ r ∈ s.attempts, r.key ∈ keys → r.key ≠ row.key → (f r).gpuSeconds = r.gpuSeconds) :
    (s.updateAttempts keys f).rowsTotal (fun _ _ => true) =
      s.rowsTotal (fun _ _ => true) + time := by
  unfold rowsTotal
  rw [updateAttempts_attempts, map_map]
  refine Rows.sum_map_add hs hrow (by simp [hkey, hcharge]) ?_
  intro r hr hne
  by_cases hr' : r.key ∈ keys
  · simp [hr', hrest r hr hr' hne]
  · simp [hr']

/-! ## Attempts and physical groups -/

/-- What the charges of attempts and physical groups rely on: an attempt is
charged when it ends, and of the members of a group only the leader is. -/
structure AttemptCharges (s : Store) : Prop where
  wellFormed : s.WellFormed
  rows : ∀ m ∈ s.members, ∃ r ∈ s.attempts, r.key = m.key
  owned : ∀ m ∈ s.members, ∃ g ∈ s.groups, g.groupId = m.groupId
  led : ∀ g ∈ s.groups, ∃ m ∈ s.members, m.groupId = g.groupId ∧ m.key = g.leader
  sameAttempt : ∀ g ∈ s.groups, ∀ m ∈ s.members, m.groupId = g.groupId →
    m.key.attempt = g.leader.attempt
  uncharged : ∀ r ∈ s.attempts, r.status.isActive = true → r.gpuSeconds = 0
  leaderOnly : ∀ g ∈ s.groups, ∀ m ∈ s.members, m.groupId = g.groupId → m.key ≠ g.leader →
    ∀ r ∈ s.attempts, r.key = m.key → r.gpuSeconds = 0

theorem AttemptCharges.empty : AttemptCharges Store.empty where
  wellFormed := .empty
  rows := by simp [Store.empty]
  owned := by simp [Store.empty]
  led := by simp [Store.empty]
  sameAttempt := by simp [Store.empty]
  uncharged := by simp [Store.empty]
  leaderOnly := by simp [Store.empty]

/-- The tables of attempts, groups and members decide. -/
theorem AttemptCharges.of_ledger (hs : AttemptCharges s) (h : SameLedger s t) :
    AttemptCharges t := by
  refine ⟨⟨?_, ?_, ?_, ?_⟩, ?_, ?_, ?_, ?_, ?_, ?_⟩
  · simpa [KeysNodup, h.attempts] using hs.wellFormed.attempts
  · rw [h.queue]
    exact hs.wellFormed.queue
  · rw [h.groups]
    exact hs.wellFormed.groups
  · rw [h.members]
    exact hs.wellFormed.members
  · rw [h.members, h.attempts]
    exact hs.rows
  · rw [h.groups, h.members]
    exact hs.owned
  · rw [h.groups, h.members]
    exact hs.led
  · rw [h.groups, h.members]
    exact hs.sameAttempt
  · rw [h.attempts]
    exact hs.uncharged
  · rw [h.groups, h.members, h.attempts]
    exact hs.leaderOnly

/-- An update that charges leaders only, and none that is active. -/
theorem AttemptCharges.updateAttempts (hs : AttemptCharges s)
    (hspec : ∀ r, AttemptRow.SameSpec r (f r))
    (hactive : ∀ r ∈ s.attempts, r.key ∈ keys → (f r).status.isActive = true → (f r).gpuSeconds = 0)
    (hleader : ∀ g ∈ s.groups, ∀ m ∈ s.members, m.groupId = g.groupId → m.key ≠ g.leader →
      ∀ r ∈ s.attempts, r.key = m.key → r.key ∈ keys → (f r).gpuSeconds = 0) :
    AttemptCharges (s.updateAttempts keys f) := by
  have hkey (r : AttemptRow) : (if r.key ∈ keys then f r else r).key = r.key := by
    by_cases hr : r.key ∈ keys
    · rw [if_pos hr, AttemptRow.key_eq_of_spec (hspec r).spec]
    · rw [if_neg hr]
  refine ⟨⟨?_, hs.wellFormed.queue, hs.wellFormed.groups, hs.wellFormed.members⟩, ?_, hs.owned,
    hs.led, hs.sameAttempt, ?_, ?_⟩
  · unfold KeysNodup
    rw [updateAttempts_keys s keys hspec]
    exact hs.wellFormed.attempts
  · intro m hm
    obtain ⟨r, hr, hmember⟩ := hs.rows m hm
    exact ⟨_, mem_map.mpr ⟨r, hr, rfl⟩, (hkey r).trans hmember⟩
  · intro r' hr' hstatus
    obtain ⟨r, hr, rfl⟩ := mem_map.mp hr'
    by_cases hmem : r.key ∈ keys
    · rw [if_pos hmem] at hstatus ⊢
      exact hactive r hr hmem hstatus
    · rw [if_neg hmem] at hstatus ⊢
      exact hs.uncharged r hr hstatus
  · intro g hg m hm hgroup hne r' hr' hmember
    obtain ⟨r, hr, rfl⟩ := mem_map.mp hr'
    rw [hkey] at hmember
    by_cases hmem : r.key ∈ keys
    · rw [if_pos hmem]
      exact hleader g hg m hm hgroup hne r hr hmember hmem
    · rw [if_neg hmem]
      exact hs.leaderOnly g hg m hm hgroup hne r hr hmember

/-- An update that charges nothing. -/
theorem AttemptCharges.keepCharges (hs : AttemptCharges s)
    (hspec : ∀ r, AttemptRow.SameSpec r (f r))
    (hcharge : ∀ r ∈ s.attempts, r.key ∈ keys → (f r).gpuSeconds = r.gpuSeconds)
    (hactive : ∀ r ∈ s.attempts, r.key ∈ keys → (f r).status.isActive = true →
      r.status.isActive = true) : AttemptCharges (s.updateAttempts keys f) := by
  refine hs.updateAttempts hspec ?_ ?_
  · intro r hr hkey hstatus
    rw [hcharge r hr hkey]
    exact hs.uncharged r hr (hactive r hr hkey hstatus)
  · intro g hg m hm hgroup hne r hr hmember hkey
    rw [hcharge r hr hkey]
    exact hs.leaderOnly g hg m hm hgroup hne r hr hmember

theorem AttemptCharges.append (hs : AttemptCharges s) (hfresh : ∀ r ∈ s.attempts, r.key ≠ row.key)
    (hcharge : row.status.isActive = true → row.gpuSeconds = 0) :
    AttemptCharges (s.appendAttempt row) := by
  refine ⟨⟨Rows.nodup_map_append hs.wellFormed.attempts hfresh, hs.wellFormed.queue,
    hs.wellFormed.groups, hs.wellFormed.members⟩, ?_, hs.owned, hs.led, hs.sameAttempt, ?_, ?_⟩
  · intro m hm
    obtain ⟨r, hr, hmember⟩ := hs.rows m hm
    exact ⟨r, mem_append_left _ hr, hmember⟩
  · intro r hr hstatus
    rcases mem_append.mp hr with hr | hr
    · exact hs.uncharged r hr hstatus
    · rw [mem_singleton.mp hr] at hstatus ⊢
      exact hcharge hstatus
  · intro g hg m hm hgroup hne r hr hmember
    rcases mem_append.mp hr with hr | hr
    · exact hs.leaderOnly g hg m hm hgroup hne r hr hmember
    · -- a member has had its row already
      obtain ⟨r', hr', hmember'⟩ := hs.rows m hm
      rw [mem_singleton.mp hr] at hmember
      exact absurd (hmember'.trans hmember.symm) (hfresh r' hr')

theorem AttemptCharges.updateGroup (hs : AttemptCharges s) (groupId : String)
    {f : GroupRow → GroupRow} (hf : ∀ g, (f g).groupId = g.groupId ∧ (f g).leader = g.leader) :
    AttemptCharges (s.updateGroup groupId f) := by
  have hold : ∀ g' ∈ (s.updateGroup groupId f).groups, ∃ g ∈ s.groups,
      g'.groupId = g.groupId ∧ g'.leader = g.leader := by
    intro g' hg'
    obtain ⟨g, hg, rfl⟩ := mem_map.mp hg'
    refine ⟨g, hg, ?_⟩
    by_cases hid : g.groupId = groupId
    · rw [if_pos hid]
      exact hf g
    · rw [if_neg hid]
      exact ⟨rfl, rfl⟩
  refine ⟨⟨hs.wellFormed.attempts, hs.wellFormed.queue, ?_, hs.wellFormed.members⟩, hs.rows, ?_,
    ?_, ?_, hs.uncharged, ?_⟩
  · rw [map_groupId_updateGroup s groupId fun g => (hf g).1]
    exact hs.wellFormed.groups
  · intro m hm
    obtain ⟨g, hg, hid⟩ := hs.owned m hm
    refine ⟨_, mem_map.mpr ⟨g, hg, rfl⟩, ?_⟩
    by_cases hgroup : g.groupId = groupId
    · rw [if_pos hgroup, (hf g).1, hid]
    · rw [if_neg hgroup, hid]
  · intro g' hg'
    obtain ⟨g, hg, hid, hlead⟩ := hold g' hg'
    rw [hid, hlead]
    exact hs.led g hg
  · intro g' hg' m hm hgroup
    obtain ⟨g, hg, hid, hlead⟩ := hold g' hg'
    rw [hlead]
    exact hs.sameAttempt g hg m hm (hgroup.trans hid)
  · intro g' hg' m hm hgroup hne
    obtain ⟨g, hg, hid, hlead⟩ := hold g' hg'
    exact hs.leaderOnly g hg m hm (hgroup.trans hid) (by rw [← hlead]; exact hne)

/-- The kinds of changes that charge nothing. -/
def ChangeKind.isFree : ChangeKind → Bool
  | .observe | .start | .stale | .materialize | .enqueue | .settings | .auxStart | .dispatch
  | .envelope => true
  | .finish | .adopt | .legacy | .group => false

/-- A change of a free kind charges nothing. -/
theorem Change.free {kind : ChangeKind} (hkind : kind.isFree = true) (h : Change kind s t)
    (hs : AttemptCharges s) : AttemptCharges t ∧ ∀ p, t.rowsTotal p = s.rowsTotal p := by
  cases h with
  | rows keys f hspec hrow =>
    have hcharge : ∀ r ∈ s.attempts, r.key ∈ keys → (f r).gpuSeconds = r.gpuSeconds ∧
        ((f r).status.isActive = true → r.status.isActive = true) := by
      intro r hr hkey
      have hchange := hrow r hr hkey
      cases kind with
      | observe =>
        obtain ⟨hstatus, _, _, _, hgpu⟩ := hchange
        exact ⟨hgpu, by rw [hstatus]; exact id⟩
      | start =>
        obtain ⟨hpending, _, _, _, hgpu⟩ := hchange
        exact ⟨hgpu, fun _ => by rw [hpending]; rfl⟩
      | stale =>
        obtain ⟨_, hstatus, _, hgpu⟩ := hchange
        exact ⟨hgpu, by rw [hstatus]; simp [AttemptStatus.isActive]⟩
      | finish | adopt | legacy | group => cases hkind
      | materialize | enqueue | settings | auxStart | dispatch | envelope => cases hchange
    exact ⟨hs.keepCharges hspec (fun r hr hkey => (hcharge r hr hkey).1)
      fun r hr hkey => (hcharge r hr hkey).2,
      rowsTotal_updateAttempts hspec fun r hr hkey => (hcharge r hr hkey).1⟩
  | materialize row hrow =>
    refine ⟨hs.append (fun r hr => (hrow.fresh r hr).1) fun _ => hrow.uncharged, fun p => ?_⟩
    rw [rowsTotal_append, hrow.uncharged]
    simp
  | legacy | insertGroup | insertMember | groupFinish => cases hkind
  | enqueue command _ fresh =>
    exact ⟨{ hs with wellFormed := (Change.enqueue command ‹_› fresh).wellFormed hs.wellFormed },
      fun _ => rfl⟩
  | groupStart groupId f hf => exact ⟨hs.updateGroup groupId hf, fun _ => rfl⟩
  | settings hledger | auxStart hledger | dispatch hledger | envelope hledger =>
    exact ⟨hs.of_ledger hledger, fun p => by simp [rowsTotal, hledger.attempts]⟩

theorem Changes.free {kinds : List ChangeKind} (hkinds : ∀ kind ∈ kinds, kind.isFree = true)
    (h : Changes kinds s t) (hs : AttemptCharges s) :
    AttemptCharges t ∧ ∀ p, t.rowsTotal p = s.rowsTotal p := by
  refine h.invariant (P := fun t => AttemptCharges t ∧ ∀ p, t.rowsTotal p = s.rowsTotal p) ?_
    ⟨hs, fun _ => rfl⟩
  rintro kind hkind t u hstep ⟨ht, htotal⟩
  obtain ⟨hu, hsame⟩ := hstep.free (hkinds kind hkind) ht
  exact ⟨hu, fun p => (hsame p).trans (htotal p)⟩

/-- A new group charges nothing. -/
theorem AttemptCharges.insertGroup (hs : AttemptCharges s) {group : GroupRow}
    {members : List GroupMemberSpec} {now : Int} (h : InsertsGroup s s' group members now)
    (hwf : s'.WellFormed) : AttemptCharges s' ∧ ∀ p, s'.rowsTotal p = s.rowsTotal p := by
  -- a new row has used no time
  have hfresh : ∀ r ∈ s'.attempts, r ∈ s.attempts ∨ r.gpuSeconds = 0 := by
    intro r hr
    rw [h.attempts] at hr
    rcases mem_append.mp hr with hr | hr
    · exact .inl hr
    · obtain ⟨m, _, rfl⟩ := mem_map.mp hr
      exact .inr rfl
  have hnew : ∀ m ∈ members, ∃ r ∈ s'.attempts, r.key = m.attempt.key ∧ r.gpuSeconds = 0 := by
    intro m hm
    refine ⟨AttemptRow.ofSpec m.attempt.val now, ?_, rfl, rfl⟩
    rw [h.attempts]
    exact mem_append_right _ (mem_map.mpr ⟨m, hm, rfl⟩)
  have howned := h.ne_of_owned hs.owned
  refine ⟨⟨hwf, ?_, h.owned hs.owned, ?_, h.sameAttempt_groups hs.owned hs.sameAttempt, ?_, ?_⟩,
    fun p => ?_⟩
  · intro m hm
    rcases h.mem_members hm with hm | ⟨_, spec, hspec, hkey⟩
    · obtain ⟨r, hr, hmember⟩ := hs.rows m hm
      refine ⟨r, ?_, hmember⟩
      rw [h.attempts]
      exact mem_append_left _ hr
    · obtain ⟨r, hr, hmember, _⟩ := hnew spec hspec
      exact ⟨r, hr, hmember.trans hkey.symm⟩
  · intro g hg
    rw [h.groups] at hg
    rw [h.members]
    rcases mem_append.mp hg with hg | hg
    · obtain ⟨m, hm, hlead⟩ := hs.led g hg
      exact ⟨m, mem_append_left _ hm, hlead⟩
    · rw [mem_singleton.mp hg]
      obtain ⟨m, hm, hkey⟩ := h.leader
      obtain ⟨n, hn⟩ := mem_iff_getElem?.mp hm
      exact ⟨memberRow group.groupId (m, n), mem_append_right _
        (mem_map.mpr ⟨_, mk_mem_zipIdx_iff_getElem?.mpr hn, rfl⟩), rfl, hkey⟩
  · intro r hr hstatus
    rcases hfresh r hr with hr | hzero
    · exact hs.uncharged r hr hstatus
    · exact hzero
  · intro g hg m hm hgroup hne r hr hmember
    rcases hfresh r hr with hr' | hzero
    · rcases h.mem_members hm with hm | ⟨_, spec, hspec, hkey⟩
      · rw [h.groups] at hg
        rcases mem_append.mp hg with hg | hg
        · exact hs.leaderOnly g hg m hm hgroup hne r hr' hmember
        · rw [mem_singleton.mp hg] at hgroup
          exact absurd hgroup (howned m hm)
      · obtain ⟨r', hr', hmember', hzero⟩ := hnew spec hspec
        rw [hwf.attempts.eq_of_key hr hr' (hmember.trans (hkey.trans hmember'.symm))]
        exact hzero
    · exact hzero
  · have hzero : ∀ b ∈ (members.map fun m => AttemptRow.ofSpec m.attempt.val now).map
        (fun r => if p r.stage r.phase = true then r.gpuSeconds else 0), b = 0 := by
      intro b hb
      obtain ⟨r, hr, rfl⟩ := mem_map.mp hb
      obtain ⟨m, _, rfl⟩ := mem_map.mp hr
      split <;> rfl
    unfold rowsTotal
    rw [h.attempts, map_append, sum_append, sum_eq_zero hzero, add_zero]

/-- The rows that the update of a group writes are those of its members. -/
theorem groupAttempts_of_key (hs : s.KeysNodup) {r : AttemptRow} (hr : r ∈ s.attempts)
    (hkey : r.key ∈ (s.groupAttempts groupId).map (·.2.key)) :
    ∃ kind, (kind, r) ∈ s.groupAttempts groupId := by
  obtain ⟨row, hrow, heq⟩ := mem_map.mp hkey
  obtain ⟨_, _, _, _, hfind⟩ := mem_groupAttempts.mp hrow
  obtain ⟨hmem, _⟩ := findAttempt_eq_some hfind
  have hsame : row.2 = r := hs.eq_of_key hmem hr heq
  exact ⟨row.1, by rw [← hsame]; exact hrow⟩

/-- The end of a physical group charges its leader. -/
theorem AttemptCharges.endGroup (hs : AttemptCharges s) {group : GroupRow}
    (hfind : s.findGroup groupId = some group)
    (hrunning : ∀ row ∈ s.groupAttempts groupId, row.2.status = .running)
    (hspec : ∀ r, AttemptRow.SameSpec r (f r)) {time : GpuSeconds}
    (hf : ∀ row ∈ s.groupAttempts groupId, (f row.2).status.isActive = false ∧
      (f row.2).gpuSeconds = ownerCharge group.leader time row.2) {g : GroupRow → GroupRow}
    (hg : ∀ x, (g x).groupId = x.groupId ∧ (g x).leader = x.leader) :
    AttemptCharges ((s.updateAttempts ((s.groupAttempts groupId).map (·.2.key)) f).updateGroup
        groupId g) ∧ ((s.updateAttempts ((s.groupAttempts groupId).map (·.2.key)) f).updateGroup
        groupId g).rowsTotal (fun _ _ => true) = s.rowsTotal (fun _ _ => true) + time := by
  obtain ⟨hmem, hid⟩ := findGroup_eq_some hfind
  have hkeys := hs.wellFormed.attempts
  -- a row of the group that is not the leader's belongs to another cell
  have hother : ∀ r ∈ s.attempts, r.key ∈ (s.groupAttempts groupId).map (·.2.key) →
      r.key ≠ group.leader → (f r).gpuSeconds = 0 := by
    intro r hr hkey hne
    obtain ⟨kind, hrow⟩ := groupAttempts_of_key hkeys hr hkey
    obtain ⟨m, hm, hgroup, _, hfound⟩ := mem_groupAttempts.mp hrow
    have hmember : r.key = m.key := (findAttempt_eq_some hfound).2
    have hattempt := hs.sameAttempt group hmem m hm (hgroup.trans hid.symm)
    rw [(hf _ hrow).2, ownerCharge, if_neg]
    intro hcell
    exact hne (AttemptKey.ext hcell ((congrArg AttemptKey.attempt hmember).trans hattempt))
  refine ⟨AttemptCharges.updateGroup (hs.updateAttempts hspec ?_ ?_) groupId hg, ?_⟩
  · intro r hr hkey hstatus
    obtain ⟨kind, hrow⟩ := groupAttempts_of_key hkeys hr hkey
    rw [(hf _ hrow).1] at hstatus
    cases hstatus
  · intro g' hg' m hm hgroup hne r hr hmember hkey
    refine hother r hr hkey ?_
    -- the row belongs to this group only
    obtain ⟨kind, hrow⟩ := groupAttempts_of_key hkeys hr hkey
    obtain ⟨m', hm', hgroup', _, hfound⟩ := mem_groupAttempts.mp hrow
    have hmember' : r.key = m'.key := (findAttempt_eq_some hfound).2
    have hsame : m' = m := inj_on_of_nodup_map hs.wellFormed.members hm' hm
      (hmember'.symm.trans hmember)
    have hgroups : g' = group := inj_on_of_nodup_map hs.wellFormed.groups hg' hmem
      (hgroup.symm.trans ((congrArg MemberRow.groupId hsame).symm.trans
        (hgroup'.trans hid.symm)))
    rw [← hgroups, hmember]
    exact hne
  · -- the leader's row is one of the rows and was not charged before
    obtain ⟨m, hm, hgroup, hlead⟩ := hs.led group hmem
    obtain ⟨r, hr, hmember⟩ := hs.rows m hm
    have hrow : (m.logicalKind, r) ∈ s.groupAttempts groupId := by
      refine mem_groupAttempts.mpr ⟨m, hm, hgroup.trans hid, rfl, ?_⟩
      rw [← hmember]
      exact hkeys.findAttempt hr
    have hleader : r.key = group.leader := hmember.trans hlead
    have hzero : ∀ r ∈ s.attempts, r.key ∈ (s.groupAttempts groupId).map (·.2.key) →
        r.gpuSeconds = 0 := by
      intro r hr hkey
      obtain ⟨kind, hrow⟩ := groupAttempts_of_key hkeys hr hkey
      refine hs.uncharged r hr ?_
      rw [show r.status = .running from hrunning _ hrow]
      rfl
    have hkey : r.key ∈ (s.groupAttempts groupId).map (·.2.key) :=
      mem_map.mpr ⟨_, hrow, rfl⟩
    refine rowsTotal_charge hkeys hr hkey ?_ ?_
    · rw [(hf _ hrow).2, hzero r hr hkey, zero_add, ownerCharge, if_pos]
      exact congrArg AttemptKey.cellId hleader
    · intro r' hr' hkey' hne
      rw [hother r' hr' hkey' (by rw [← hleader]; exact hne), hzero r' hr' hkey']

def chargeSum (charges : List (PhysicalLease × GpuSeconds)) : GpuSeconds :=
  (charges.map (·.2)).sum

/-- A call adds what it charges to the rows. -/
structure RowsCharged (s s' : Store) (op : StoreOp) : Prop where
  rows : AttemptCharges s'
  total : s'.rowsTotal (fun _ _ => true) =
    s.rowsTotal (fun _ _ => true) + chargeSum (s.charges op)

section

variable (hs : AttemptCharges s)

include hs

theorem finishPhysicalAttemptGroup_charges {terminals : List (String × TerminalEvidence)}
    (h : s.finishPhysicalAttemptGroup groupId terminals automatic finished = .ok s') :
    RowsCharged s s' (.finishPhysicalAttemptGroup groupId terminals automatic finished) := by
  obtain ⟨group, kind, hfind, _, _, hrows, status, shared, _, _, rfl⟩ :=
    finishPhysicalAttemptGroup_eq_ok h
  have hcharge : chargeSum (s.charges
      (.finishPhysicalAttemptGroup groupId terminals automatic finished)) =
      evidenceGpuSeconds (s.groupAttempts groupId) ((s.groupAttempts groupId).filterMap
        fun row => terminalFor terminals row.2.cellId) := by
    simp [chargeSum, charges]
  refine And.elim (fun hrows htotal => ⟨hrows, htotal.trans (congrArg (_ + ·) hcharge.symm)⟩)
    (hs.endGroup hfind (fun row hrow => (hrows row hrow).2)
      (sameSpec_finishMember kind automatic terminals group.leader _ finished)
      (fun row hrow => ?_) fun _ => ⟨rfl, rfl⟩)
  obtain ⟨t, ht⟩ := terminalFor_isSome (hrows row hrow).1
  simp only [finishMember, ht]
  refine ⟨?_, rfl⟩
  show t.val.status.attemptStatus.isActive = false
  cases t.val.status <;> rfl

theorem failGroup_charges {statusError rowsError : String}
    {charge : GroupRow → List (LogicalKind × AttemptRow) → Except Error GpuSeconds}
    {update : String → GpuSeconds → AttemptRow → AttemptRow}
    (hspec : ∀ decision time r, AttemptRow.SameSpec r (update decision time r))
    (hupdate : ∀ decision time r, (update decision time r).status = .failed ∧
      (update decision time r).gpuSeconds = time)
    (h : s.failGroup groupId statusError rowsError automatic charge update = .ok s') :
    ∃ group time, s.findGroup groupId = some group ∧
      charge group (s.groupAttempts groupId) = .ok time ∧ AttemptCharges s' ∧
      s'.rowsTotal (fun _ _ => true) = s.rowsTotal (fun _ _ => true) + time := by
  obtain ⟨group, kind, time, hfind, _, _, hrunning, htime, rfl⟩ := failGroup_eq_ok h
  refine ⟨group, time, hfind, htime, hs.endGroup hfind hrunning (fun r => hspec _ _ r)
    (fun row _ => ⟨?_, (hupdate _ _ _).2⟩) fun _ => ⟨rfl, rfl⟩⟩
  rw [(hupdate _ _ _).1]
  rfl

theorem failPhysicalAttemptGroupSpawn_charges {exceptionType : String}
    (h : s.failPhysicalAttemptGroupSpawn groupId exceptionType automatic finished = .ok s') :
    RowsCharged s s' (.failPhysicalAttemptGroupSpawn groupId exceptionType automatic finished) := by
  simp only [failPhysicalAttemptGroupSpawn, bind_eq_ok] at h
  obtain ⟨_, _, _, _, _, _, h⟩ := h
  obtain ⟨group, time, _, htime, hs', htotal⟩ := failGroup_charges hs
    (fun _ _ r => r.sameSpec_failInfrastructure ..) (fun _ _ _ => ⟨rfl, rfl⟩) h
  cases htime
  exact ⟨hs', by simpa [chargeSum, charges] using htotal⟩

theorem failPhysicalAttemptGroupInfrastructure_charges {failureCode exclusionReason : String}
    {evidence : EvidenceFiles} (h : s.failPhysicalAttemptGroupInfrastructure groupId failureCode
      exclusionReason evidence automatic finished = .ok s') :
    RowsCharged s s' (.failPhysicalAttemptGroupInfrastructure groupId failureCode exclusionReason
      evidence automatic finished) := by
  simp only [failPhysicalAttemptGroupInfrastructure, bind_eq_ok, check_eq_ok] at h
  obtain ⟨_, _, _, _, _, _, _, _, _, _, _, h⟩ := h
  obtain ⟨group, time, hfind, htime, hs', htotal⟩ := failGroup_charges hs
    (fun _ _ r => r.sameSpec_failInfrastructure ..) (fun _ _ _ => ⟨rfl, rfl⟩) h
  exact ⟨hs', by simpa [chargeSum, charges, hfind, htime] using htotal⟩

/-- The end of an attempt charges the time of its lease. -/
theorem finishAttempt_charges {key : AttemptKey} {args : FinishArgs}
    (hlease : s.ChargesLeases (.finishAttempt key args)) (h : s.finishAttempt key args = .ok s') :
    RowsCharged s s' (.finishAttempt key args) := by
  simp only [finishAttempt, bind_eq_ok, check_eq_ok, pure_eq_ok] at h
  obtain ⟨_, hchecks, _, _, row, hrow, hactive, _, _, _, rfl⟩ := h
  obtain ⟨hmem, hkey⟩ := findAttempt_eq_some (requireAttempt_eq_ok hrow)
  have hkeys := hs.wellFormed.attempts
  have honly : ∀ r ∈ s.attempts, r.key ∈ [key] → r = row := fun r hr hr' =>
    hkeys.eq_of_key hr hmem ((mem_singleton.mp hr').trans hkey.symm)
  have hzero : row.gpuSeconds = 0 := by
    refine hs.uncharged row hmem ?_
    rcases hactive with hstatus | hstatus <;> rw [hstatus] <;> rfl
  have hterminal : (row.finish args).status.isActive = false := by
    obtain ⟨hpending, hrunning⟩ := status_of_checks hchecks
    show args.status.isActive = false
    cases hstatus : args.status <;> simp_all [AttemptStatus.isActive]
  refine ⟨hs.updateAttempts (fun r => r.sameSpec_finish args) ?_ ?_, ?_⟩
  · intro r hr hr' hstatus
    rw [honly r hr hr', hterminal] at hstatus
    cases hstatus
  · intro g hg m hm hgroup hne r hr hmember hr'
    refine hlease (Option.isSome_iff_exists.mpr ⟨m, ?_⟩)
    have hmkey : m.key = key := hmember.symm.trans (mem_singleton.mp hr')
    rw [← hmkey]
    exact hs.wellFormed.memberOf hm
  · have hcharge : chargeSum (s.charges (.finishAttempt key args)) = args.gpuSeconds := by
      by_cases hmember : (s.memberOf key).isSome = true
      · simp [chargeSum, charges, hmember, hlease hmember]
      · simp [chargeSum, charges, hmember]
    rw [hcharge]
    refine rowsTotal_charge hkeys hmem (by simp [hkey]) ?_ ?_
    · rw [hzero, zero_add]
      rfl
    · intro r hr hr' hne
      exact absurd (congrArg AttemptRow.key (honly r hr hr')) hne

theorem importLegacyLoop_charges {now : Int} {items : List LegacyStaleAttempt}
    (h : s.importLegacyLoop now items = .ok s') :
    RowsCharged s s' (.importLegacyStaleAttempts items now) := by
  induction items generalizing s with
  | nil =>
    cases h
    exact ⟨hs, by simp [chargeSum, charges]⟩
  | cons item rest ih =>
    obtain ⟨-, hfresh, h⟩ := importLegacyLoop_cons h
    have hmid := hs.append hfresh fun hactive => by cases hactive
    obtain ⟨hs', htotal⟩ := ih hmid h
    refine ⟨hs', ?_⟩
    rw [htotal, rowsTotal_append]
    simp [chargeSum, charges, AttemptRow.ofLegacy, add_assoc]

end

/-! ## Auxiliary groups -/

/-- What the charges of auxiliary groups rely on: a group is charged when it
ends and adopted afterwards. -/
structure AuxCharges (s : Store) : Prop where
  keys : (s.auxGroups.map fun g => (g.groupId, g.attempt)).Nodup
  uncharged : ∀ g ∈ s.auxGroups, g.status.isActive = true →
    g.gpuSeconds = 0 ∧ g.adoptedAtNs = none
  jobAttempt : ∀ ids ∈ s.auxJobs.map jobIds, ids.2.2 = ids.1.2
  jobKeys : ((s.auxJobs.map jobIds).map (·.2)).Nodup

theorem AuxCharges.empty : AuxCharges Store.empty where
  keys := nodup_nil
  uncharged := by simp [Store.empty]
  jobAttempt := by simp [Store.empty]
  jobKeys := nodup_nil

theorem AuxCharges.of_eq (hs : AuxCharges s) (hgroups : t.auxGroups = s.auxGroups)
    (hjobs : t.auxJobs = s.auxJobs) : AuxCharges t :=
  ⟨hgroups ▸ hs.keys, hgroups ▸ hs.uncharged, hjobs ▸ hs.jobAttempt, hjobs ▸ hs.jobKeys⟩

theorem updateAuxGroup_keys (s : Store) (groupId : String) (attempt : Nat)
    {f : AuxGroupRow → AuxGroupRow}
    (hf : ∀ g, (f g).groupId = g.groupId ∧ (f g).attempt = g.attempt) :
    (s.updateAuxGroup groupId attempt f).auxGroups.map (fun g => (g.groupId, g.attempt)) =
      s.auxGroups.map fun g => (g.groupId, g.attempt) := by
  rw [updateAuxGroup, map_map]
  apply map_congr_left
  intro g _
  simp only [Function.comp_apply]
  split
  · rw [(hf g).1, (hf g).2]
  · rfl

theorem AuxCharges.eq_of_key (hs : AuxCharges s) {row g : AuxGroupRow} (hrow : row ∈ s.auxGroups)
    (hg : g ∈ s.auxGroups) (h : g.groupId = row.groupId ∧ g.attempt = row.attempt) : g = row :=
  inj_on_of_nodup_map hs.keys hg hrow (Prod.ext h.1 h.2)

/-- An update of a group that has not ended charges it. -/
theorem AuxCharges.update (hs : AuxCharges s) {op : StoreOp} {row : AuxGroupRow}
    {f : AuxGroupRow → AuxGroupRow} (h : AuxUpdate s t op row f)
    (hcharge : (f row).status.isActive = true → (f row).gpuSeconds = 0) :
    AuxCharges t ∧ t.pendingTotal (fun _ => true) =
      s.pendingTotal (fun _ => true) + (f row).gpuSeconds := by
  obtain ⟨hzero, hopen⟩ := hs.uncharged row h.found h.active
  refine ⟨⟨?_, ?_, by rw [h.jobs]; exact hs.jobAttempt, by rw [h.jobs]; exact hs.jobKeys⟩, ?_⟩
  · rw [h.groups, updateAuxGroup_keys s row.groupId row.attempt
      fun g => ⟨(h.keeps g).1, (h.keeps g).2.1⟩]
    exact hs.keys
  · intro g' hg' hstatus
    rw [h.groups] at hg'
    obtain ⟨g, hg, rfl⟩ := mem_map.mp hg'
    by_cases hkey : g.groupId = row.groupId ∧ g.attempt = row.attempt
    · rw [if_pos hkey] at hstatus ⊢
      rw [hs.eq_of_key h.found hg hkey] at hstatus ⊢
      exact ⟨hcharge hstatus, (h.keeps row).2.2.2.1.trans hopen⟩
    · rw [if_neg hkey] at hstatus ⊢
      exact hs.uncharged g hg hstatus
  · unfold pendingTotal
    rw [h.groups, updateAuxGroup, map_map]
    refine Rows.sum_map_add hs.keys h.found ?_ ?_
    · simp [hopen, (h.keeps row).2.2.2.1, hzero]
    · intro g hg hne
      have hkey : ¬ (g.groupId = row.groupId ∧ g.attempt = row.attempt) :=
        fun h => hne (Prod.ext h.1 h.2)
      simp [hkey]

/-- A registration charges nothing. -/
theorem AuxCharges.register (hs : AuxCharges s) {spec : AuxiliaryGroupSpec} {registered : Int}
    (h : s.registerControllerAuxiliaryGroup spec registered = .ok s') :
    AuxCharges s' ∧ s'.pendingTotal (fun _ => true) = s.pendingTotal fun _ => true := by
  rcases (registerControllerAuxiliaryGroup_eq_ok h).2 with rfl | ⟨hgroup, hjobs, rfl⟩
  · exact ⟨hs, rfl⟩
  · have hids : (s.auxJobs ++ auxJobRows spec).map jobIds = s.auxJobs.map jobIds ++
        spec.jobs.map fun job => ((spec.groupId, spec.attempt), job.jobId, job.attempt) := by
      rw [map_append, auxJobRows, map_map]
      congr 1
      show spec.jobs.zipIdx.map ((fun job : AuxiliaryJobSpec =>
        ((spec.groupId, spec.attempt), job.jobId, job.attempt)) ∘ Prod.fst) = _
      rw [← map_map, zipIdx_map_fst]
    refine ⟨⟨?_, ?_, ?_, ?_⟩, ?_⟩
    · refine Rows.nodup_map_append hs.keys fun g hg hkey => hgroup g hg ?_
      exact ⟨congrArg Prod.fst hkey, congrArg Prod.snd hkey⟩
    · intro g hg hstatus
      rcases mem_append.mp hg with hg | hg
      · exact hs.uncharged g hg hstatus
      · rw [mem_singleton.mp hg]
        exact ⟨rfl, rfl⟩
    · rw [hids]
      intro ids hmem
      rcases mem_append.mp hmem with hmem | hmem
      · exact hs.jobAttempt ids hmem
      · obtain ⟨job, hjob, rfl⟩ := mem_map.mp hmem
        exact spec.jobs_attempt job hjob
    · rw [hids, map_append, nodup_append]
      refine ⟨hs.jobKeys, ?_, ?_⟩
      · rw [map_map]
        refine pairwise_map.mpr (spec.jobs_sorted.imp ?_)
        intro a b hlt heq
        exact absurd (congrArg Prod.fst heq) hlt.ne
      · rintro key hkey key' hkey' rfl
        simp only [map_map, mem_map, Function.comp_apply] at hkey hkey'
        obtain ⟨row, hrow, rfl⟩ := hkey
        obtain ⟨job, hjob, heq⟩ := hkey'
        exact hjobs row hrow job hjob ⟨(congrArg Prod.fst heq).symm, (congrArg Prod.snd heq).symm⟩
    · simp [pendingTotal, auxGroupRow]

/-! ## Adoption -/

/-- An update of the row that was just appended. -/
theorem updateAttempts_append (s : Store) (hfresh : ∀ r ∈ s.attempts, r.key ≠ row.key)
    (f : AttemptRow → AttemptRow) :
    (s.appendAttempt row).updateAttempts [row.key] f = s.appendAttempt (f row) := by
  unfold Store.updateAttempts appendAttempt
  congr 1
  rw [map_append]
  congr 1
  · calc s.attempts.map (fun r => if r.key ∈ [row.key] then f r else r)
        = s.attempts.map id := by
          apply map_congr_left
          intro r hr
          rw [if_neg (by simpa using hfresh r hr)]
          rfl
      _ = s.attempts := map_id _
  · simp

/-- A cell is materialised and adopted: together this appends its row. -/
theorem adopt_append {mid : Store} {spec : CellAttemptSpec}
    (h : s.materializeAttemptLocked spec adopted = .ok mid) (group : AuxGroupRow)
    (owner : Option String) (job : AuxJobRow) : (∀ r ∈ s.attempts, r.key ≠ spec.key) ∧
      mid.updateAttempts [spec.key] (fun r => adoptRow r group owner job adopted) =
        s.appendAttempt (adoptRow (AttemptRow.ofSpec spec.val adopted) group owner job adopted) := by
  obtain ⟨hrow, rfl⟩ := materializeAttemptLocked_change h
  have hfresh : ∀ r ∈ s.attempts, r.key ≠ (AttemptRow.ofSpec spec.val adopted).key :=
    fun r hr => (hrow.fresh r hr).1
  exact ⟨hfresh, updateAttempts_append s hfresh _⟩

/-- The adoption loop: the cell of the owning job takes over the time of the
group. -/
theorem adoptJobs_charges (hs : AttemptCharges s) {group : AuxGroupRow} {plan : PlanRow}
    {owner : Option String} {jobs : List AuxJobRow}
    (h : s.adoptJobs group plan owner adoptions adopted jobs = .ok s') :
    AttemptCharges s' ∧ s'.auxGroups = s.auxGroups ∧ s'.auxJobs.map jobIds = s.auxJobs.map jobIds ∧
      ∀ p, s'.rowsTotal p = s.rowsTotal p + if p plan.stage plan.phase = true then
        (jobs.map fun job => if owner = some job.jobId then group.gpuSeconds else 0).sum
      else 0 := by
  induction jobs generalizing s with
  | nil =>
    simp only [adoptJobs, pure_eq_ok] at h
    subst h
    exact ⟨hs, rfl, rfl, by simp⟩
  | cons job rest ih =>
    obtain ⟨found, mid, _, ⟨_, hstage, hphase⟩, hmid, h⟩ := adoptJobs_cons h
    obtain ⟨hfresh, hwrite⟩ := adopt_append hmid group owner job
    rw [hwrite] at h
    have hrow : (adoptRow (AttemptRow.ofSpec found.attempt.val adopted) group owner job
        adopted).stage = plan.stage ∧ (adoptRow (AttemptRow.ofSpec found.attempt.val adopted)
        group owner job adopted).phase = plan.phase := ⟨hstage, hphase⟩
    have happend : AttemptCharges (s.appendAttempt
        (adoptRow (AttemptRow.ofSpec found.attempt.val adopted) group owner job adopted)) :=
      hs.append hfresh fun hactive => by cases hactive
    have hcharge : (adoptRow (AttemptRow.ofSpec found.attempt.val adopted) group owner job
        adopted).gpuSeconds = if owner = some job.jobId then group.gpuSeconds else 0 := rfl
    generalize adoptRow (AttemptRow.ofSpec found.attempt.val adopted) group owner job adopted =
      row at h hrow happend hcharge
    have hbind := happend.of_ledger
      (t := (s.appendAttempt row).bindAdoptedCell job found.attempt.key) ⟨rfl, rfl, rfl, rfl⟩
    obtain ⟨hs', hgroups, hjobs, htotal⟩ := ih hbind h
    refine ⟨hs', hgroups, hjobs.trans ?_, fun p => ?_⟩
    · simp only [bindAdoptedCell, appendAttempt, map_map]
      apply map_congr_left
      intro other _
      simp only [Function.comp_apply]
      split <;> rfl
    · have hbound : ((s.appendAttempt row).bindAdoptedCell job found.attempt.key).rowsTotal p =
          (s.appendAttempt row).rowsTotal p := rfl
      rw [htotal p, hbound, rowsTotal_append, hrow.1, hrow.2, hcharge]
      by_cases hp : p plan.stage plan.phase = true
      · simp only [if_pos hp, map_cons, sum_cons, add_assoc]
      · simp only [if_neg hp, add_zero]

/-- One of the jobs owns the time of the group. -/
theorem sum_owner {jobs : List AuxJobRow} (hne : jobs ≠ []) (hnd : (jobs.map (·.jobId)).Nodup)
    (time : GpuSeconds) : (jobs.map fun job =>
      if jobs.head?.map (·.jobId) = some job.jobId then time else 0).sum = time := by
  cases jobs with
  | nil => exact absurd rfl hne
  | cons job rest =>
    rw [map_cons, nodup_cons] at hnd
    have hrest : rest.map (fun other =>
        if (job :: rest).head?.map (·.jobId) = some other.jobId then time else 0) =
        rest.map fun _ => 0 := by
      apply map_congr_left
      intro other hother
      rw [if_neg]
      intro heq
      exact hnd.1 (mem_map.mpr ⟨other, hother, (Option.some.inj heq).symm⟩)
    rw [map_cons, hrest]
    simp

/-- The jobs of a group have distinct identifiers, since they share its attempt. -/
theorem Adoptable.nodup_jobs (haux : AuxCharges s) {node : String} {groupAttempt : Nat}
    {controller : NodeRow} {group : AuxGroupRow}
    (h : Adoptable s node groupId groupAttempt adoptions controller group) :
    ((s.adoptionJobs groupId groupAttempt).map (·.jobId)).Nodup := by
  refine List.Nodup.of_map (fun jobId => (jobId, groupAttempt)) ?_
  have hmap : ((s.adoptionJobs groupId groupAttempt).map (·.jobId)).map
      (fun jobId => (jobId, groupAttempt)) =
      (s.adoptionJobs groupId groupAttempt).map fun job => (job.jobId, job.jobAttempt) := by
    rw [map_map]
    apply map_congr_left
    intro job hjob
    obtain ⟨hjob, hgroup⟩ := mem_filter.mp (mem_sortedBy.mp hjob)
    have hsame : job.jobAttempt = job.groupAttempt :=
      haux.jobAttempt (jobIds job) (mem_map.mpr ⟨job, hjob, rfl⟩)
    rw [hsame, (of_decide_eq_true hgroup).2]
    rfl
  rw [hmap, h.jobs]
  exact h.nodup

/-- An adoption moves the time of the group to its owner's cell, in the stage of
the node. -/
theorem adoptControllerAuxiliaryJobs_charges (hs : AttemptCharges s) (haux : AuxCharges s)
    {node : String} {groupAttempt : Nat}
    (h : s.adoptControllerAuxiliaryJobs node groupId groupAttempt adoptions adopted = .ok s') :
    AttemptCharges s' ∧ AuxCharges s' ∧ (s' = s ∨ ∃ plan time, s.planOfNode node = some plan ∧
      (∀ p, s'.rowsTotal p = s.rowsTotal p + if p plan.stage plan.phase = true then time else 0) ∧
      ∀ q, s.pendingTotal q = s'.pendingTotal q + if q node = true then time else 0) := by
  obtain ⟨controller, group, hadopt, ⟨_, rfl⟩ | ⟨hopen, plan, mid, hplan, hmid, rfl⟩⟩ :=
    adoptControllerAuxiliaryJobs_eq_ok h
  · exact ⟨hs, haux, .inl rfl⟩
  · obtain ⟨hmem, rfl, rfl⟩ := requireAuxGroup_eq_ok hadopt.foundGroup
    obtain ⟨hmids, hgroups, hids, htotal⟩ := adoptJobs_charges hs hmid
    have hkeys := updateAuxGroup_keys mid group.groupId group.attempt
      (f := fun row => { row with adoptedAtNs := some adopted }) fun _ => ⟨rfl, rfl⟩
    refine ⟨hmids.of_ledger ⟨rfl, rfl, rfl, rfl⟩, ⟨?_, ?_, ?_, ?_⟩,
      .inr ⟨plan, group.gpuSeconds, hplan, fun p => ?_, fun q => ?_⟩⟩
    · rw [hkeys, hgroups]
      exact haux.keys
    · intro g' hg' hstatus
      obtain ⟨g, hg, rfl⟩ := mem_map.mp hg'
      rw [hgroups] at hg
      by_cases hkey : g.groupId = group.groupId ∧ g.attempt = group.attempt
      · -- the adopted group is complete
        rw [if_pos hkey] at hstatus
        have hactive : g.status.isActive = true := hstatus
        rw [haux.eq_of_key hmem hg hkey, hadopt.complete.2] at hactive
        cases hactive
      · rw [if_neg hkey] at hstatus ⊢
        exact haux.uncharged g hg hstatus
    · show ∀ ids ∈ mid.auxJobs.map jobIds, _
      rw [hids]
      exact haux.jobAttempt
    · show ((mid.auxJobs.map jobIds).map (·.2)).Nodup
      rw [hids]
      exact haux.jobKeys
    · have hsame : ∀ f, (mid.updateAuxGroup group.groupId group.attempt f).rowsTotal p =
          mid.rowsTotal p := fun _ => rfl
      rw [hsame, htotal p, sum_owner hadopt.nonempty_jobs (hadopt.nodup_jobs haux)]
    · unfold pendingTotal
      rw [updateAuxGroup, hgroups, map_map]
      refine Rows.sum_map_add haux.keys hmem ?_ ?_
      · simp [hopen, hadopt.complete.1]
      · intro g hg hne
        have hkey : ¬ (g.groupId = group.groupId ∧ g.attempt = group.attempt) :=
          fun h => hne (Prod.ext h.1 h.2)
        simp [hkey]

end Store

end Operator

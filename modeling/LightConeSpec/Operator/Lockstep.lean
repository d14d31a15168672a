import LightConeSpec.Operator.Running
import LightConeSpec.Operator.History

/-!
# Physical groups and their members

A physical group is a row of its own beside the rows of its members. The group
operations write both together; `mark_running_before_spawn`, `attach_process`,
`finish_attempt` and `mark_stale_identity` write one row and do not look
whether it belongs to a group.

`GroupInvariant` is the relation between the tables that holds as long as those
four never move a member on their own. Most operations do not touch a member at
all, which is a `LeaseFrame`; the others are `GroupUpdate`s of one whole group
or the insertion of a new one.
-/

namespace Operator

open Python Machine List

/-! ## Leases -/

/-- The columns of a row that the members of a group share. -/
structure LeaseColumns where
  status : AttemptStatus
  assignedGpuUuids : List String
  pid : Option Nat
  pgid : Option Nat
  processStartReceiptSha256 : Option Digest

def AttemptRow.lease (r : AttemptRow) : LeaseColumns where
  status := r.status
  assignedGpuUuids := r.assignedGpuUuids
  pid := r.pid
  pgid := r.pgid
  processStartReceiptSha256 := r.processStartReceiptSha256

/-- The lease of a row that was just materialised. -/
def LeaseColumns.idle : LeaseColumns where
  status := .pending
  assignedGpuUuids := []
  pid := none
  pgid := none
  processStartReceiptSha256 := none

/-- What `attach_process` does to a lease. -/
def LeaseColumns.attach (l : LeaseColumns) (pid pgid : Nat) (receipt : Option Digest) : LeaseColumns :=
  if l.pid.isSome ∨ l.pgid.isSome then
    if l.processStartReceiptSha256 = none ∧ receipt.isSome then
      { l with processStartReceiptSha256 := receipt }
    else l
  else { l with pid := some pid, pgid := some pgid, processStartReceiptSha256 := receipt }

theorem AttemptRow.lease_attach (r : AttemptRow) (pid pgid : Nat) (receipt : Option Digest)
    (now : Int) : (r.attach pid pgid receipt now).lease = r.lease.attach pid pgid receipt := by
  unfold AttemptRow.attach LeaseColumns.attach
  by_cases hprocess : r.pid.isSome ∨ r.pgid.isSome
  · rw [if_pos hprocess, if_pos (show r.lease.pid.isSome ∨ r.lease.pgid.isSome from hprocess)]
    by_cases hreceipt : r.processStartReceiptSha256 = none ∧ receipt.isSome
    · rw [if_pos hreceipt,
        if_pos (show r.lease.processStartReceiptSha256 = none ∧ receipt.isSome from hreceipt)]
      rfl
    · rw [if_neg hreceipt,
        if_neg (show ¬ (r.lease.processStartReceiptSha256 = none ∧ receipt.isSome) from hreceipt)]
  · rw [if_neg hprocess, if_neg (show ¬ (r.lease.pid.isSome ∨ r.lease.pgid.isSome) from hprocess)]
    rfl

theorem LeaseColumns.status_attach (l : LeaseColumns) (pid pgid : Nat) (receipt : Option Digest) :
    (l.attach pid pgid receipt).status = l.status := by
  unfold LeaseColumns.attach
  split
  · split <;> rfl
  · rfl

/-- The row keeps its lease, or stays terminal. -/
def Kept (r r' : AttemptRow) : Prop :=
  r'.lease = r.lease ∨ (r.status.isActive = false ∧ r'.status.isActive = false)

theorem Kept.refl (r : AttemptRow) : Kept r r := .inl rfl

variable {r r' : AttemptRow} {automatic : Bool}

theorem Kept.terminal (h : Kept r r') (hr : r.status.isActive = false) :
    r'.status.isActive = false := by
  rcases h with hlease | hterminal
  · have hstatus : r'.status = r.status := congrArg LeaseColumns.status hlease
    rw [hstatus]
    exact hr
  · exact hterminal.2

theorem Kept.lease (h : Kept r r') (hr : r.status.isActive = true) : r'.lease = r.lease := by
  rcases h with hlease | hterminal
  · exact hlease
  · rw [hr] at hterminal
    exact absurd hterminal.1 (by simp)

theorem Kept.trans {r'' : AttemptRow} (h : Kept r r') (h' : Kept r' r'') : Kept r r'' := by
  cases hr : r.status.isActive with
  | false => exact .inr ⟨hr, h'.terminal (h.terminal hr)⟩
  | true =>
    have hlease := h.lease hr
    have hstatus : r'.status = r.status := congrArg LeaseColumns.status hlease
    exact .inl ((h'.lease (by rw [hstatus]; exact hr)).trans hlease)

variable {s s' : Store} {groupId : String} {members : List GroupMemberSpec} {now : Int}
  {g group : GroupRow} {f : AttemptRow → AttemptRow} {key : AttemptKey}

variable {t : Store} {finished : Int} {leader : String}

namespace Store

def MemberRowOf (s : Store) (groupId : String) (r : AttemptRow) : Prop :=
  ∃ m ∈ s.members, m.groupId = groupId ∧ s.findAttempt m.key = some r

theorem memberRowOf_iff :
    s.MemberRowOf groupId r ↔ ∃ kind, (kind, r) ∈ s.groupAttempts groupId := by
  constructor
  · rintro ⟨m, hm, hgroup, hfind⟩
    exact ⟨m.logicalKind, mem_groupAttempts.mpr ⟨m, hm, hgroup, rfl, hfind⟩⟩
  · rintro ⟨kind, hrow⟩
    obtain ⟨m, hm, hgroup, _, hfind⟩ := mem_groupAttempts.mp hrow
    exact ⟨m, hm, hgroup, hfind⟩

/-! ## The relation between the tables -/

/-- The members of a group are where the group is. -/
def InStep (s : Store) (g : GroupRow) : Prop :=
  match g.status with
  | .pending => ∀ r, s.MemberRowOf g.groupId r → r.lease = LeaseColumns.idle
  | .running => ∃ lease : LeaseColumns, lease.status = .running ∧
      ∀ r, s.MemberRowOf g.groupId r → r.lease = lease
  | .complete | .failed => ∀ r, s.MemberRowOf g.groupId r → r.status.isActive = false

/-- The relation between groups, members and attempts. -/
structure GroupInvariant (s : Store) : Prop where
  wellFormed : s.WellFormed
  rows : ∀ m ∈ s.members, (s.findAttempt m.key).isSome
  owned : ∀ m ∈ s.members, ∃ g ∈ s.groups, g.groupId = m.groupId
  named : ∀ g ∈ s.groups, requireText "physical attempt group ID" g.groupId = .ok ()
  registered : ∀ g ∈ s.groups, ∃ kind,
    physicalAttemptGroupKind ((s.membersOf g.groupId).map (·.logicalKind)) = .ok kind
  sameAttempt : ∀ g ∈ s.groups, ∀ m ∈ s.members, m.groupId = g.groupId →
    m.key.attempt = g.leader.attempt
  inStep : ∀ g ∈ s.groups, s.InStep g

theorem GroupInvariant.empty : GroupInvariant Store.empty where
  wellFormed := .empty
  rows := by simp [Store.empty]
  owned := by simp [Store.empty]
  named := by simp [Store.empty]
  registered := by simp [Store.empty]
  sameAttempt := by simp [Store.empty]
  inStep := by simp [Store.empty]

/-! ## Operations that leave every group alone -/

/-- Groups and members are the same, and every member keeps its lease. -/
structure LeaseFrame (s s' : Store) : Prop where
  groups : s'.groups = s.groups
  members : s'.members = s.members
  rows : ∀ m ∈ s.members, ∀ r, s.findAttempt m.key = some r →
    ∃ r', s'.findAttempt m.key = some r' ∧ Kept r r'

theorem LeaseFrame.refl (s : Store) : LeaseFrame s s :=
  ⟨rfl, rfl, fun _ _ r hr => ⟨r, hr, .refl r⟩⟩

theorem LeaseFrame.trans {u : Store} (h : LeaseFrame s t) (h' : LeaseFrame t u) :
    LeaseFrame s u := by
  refine ⟨h'.groups.trans h.groups, h'.members.trans h.members, fun m hm r hr => ?_⟩
  obtain ⟨r', hr', hkept⟩ := h.rows m hm r hr
  obtain ⟨r'', hr'', hkept'⟩ := h'.rows m (by rw [h.members]; exact hm) r' hr'
  exact ⟨r'', hr'', hkept.trans hkept'⟩

/-- The rows of a group's members before a frame. -/
theorem LeaseFrame.memberRow (h : LeaseFrame s s')
    (hrows : ∀ m ∈ s.members, (s.findAttempt m.key).isSome) (hr' : s'.MemberRowOf groupId r') :
    ∃ r, s.MemberRowOf groupId r ∧ Kept r r' := by
  obtain ⟨m, hm, hgroup, hfind'⟩ := hr'
  rw [h.members] at hm
  obtain ⟨r, hfind⟩ := Option.isSome_iff_exists.mp (hrows m hm)
  obtain ⟨r'', hr'', hkept⟩ := h.rows m hm r hfind
  rw [hfind'] at hr''
  cases hr''
  exact ⟨r, ⟨m, hm, hgroup, hfind⟩, hkept⟩

/-- Rows that keep their lease keep their group in step. -/
theorem InStep.of_kept (h : s.InStep g)
    (hrows : ∀ r', s'.MemberRowOf g.groupId r' → ∃ r, s.MemberRowOf g.groupId r ∧ Kept r r') :
    s'.InStep g := by
  unfold InStep at h ⊢
  cases hstatus : g.status with
  | pending =>
    rw [hstatus] at h
    intro r' hr'
    obtain ⟨r, hr, hkept⟩ := hrows r' hr'
    have hlease := h r hr
    have hpending : r.status = .pending := congrArg LeaseColumns.status hlease
    exact (hkept.lease (by rw [hpending]; rfl)).trans hlease
  | running =>
    rw [hstatus] at h
    obtain ⟨lease, hrunning, h⟩ := h
    refine ⟨lease, hrunning, fun r' hr' => ?_⟩
    obtain ⟨r, hr, hkept⟩ := hrows r' hr'
    have hlease := h r hr
    have hactive : r.status = .running := (congrArg LeaseColumns.status hlease).trans hrunning
    exact (hkept.lease (by rw [hactive]; rfl)).trans hlease
  | complete =>
    rw [hstatus] at h
    intro r' hr'
    obtain ⟨r, hr, hkept⟩ := hrows r' hr'
    exact hkept.terminal (h r hr)
  | failed =>
    rw [hstatus] at h
    intro r' hr'
    obtain ⟨r, hr, hkept⟩ := hrows r' hr'
    exact hkept.terminal (h r hr)

/-- An operation that leaves the leases of members keeps the groups in step. -/
theorem GroupInvariant.frame (hs : GroupInvariant s) (h : LeaseFrame s s') (hwf : s'.WellFormed) :
    GroupInvariant s' where
  wellFormed := hwf
  rows := by
    rw [h.members]
    intro m hm
    obtain ⟨r, hfind⟩ := Option.isSome_iff_exists.mp (hs.rows m hm)
    obtain ⟨r', hfind', _⟩ := h.rows m hm r hfind
    rw [hfind']
    rfl
  owned := by
    rw [h.members, h.groups]
    exact hs.owned
  named := by
    rw [h.groups]
    exact hs.named
  registered := by
    rw [h.groups]
    intro g hg
    unfold membersOf
    rw [h.members]
    exact hs.registered g hg
  sameAttempt := by
    rw [h.groups, h.members]
    exact hs.sameAttempt
  inStep := by
    rw [h.groups]
    intro g hg
    exact (hs.inStep g hg).of_kept fun r' hr' => h.memberRow hs.rows hr'

/-- An update of rows that keeps the leases of members. -/
theorem LeaseFrame.update {keys : List AttemptKey} (hspec : ∀ r, (f r).spec = r.spec)
    (h : ∀ m ∈ s.members, m.key ∈ keys → ∀ r, s.findAttempt m.key = some r → Kept r (f r)) :
    LeaseFrame s (s.updateAttempts keys f) := by
  refine ⟨rfl, rfl, fun m hm r hr => ?_⟩
  rw [findAttempt_updateAttempts hspec, hr]
  by_cases hkey : m.key ∈ keys
  · exact ⟨f r, by simp [hkey], h m hm hkey r hr⟩
  · exact ⟨r, by simp [hkey], .refl r⟩

theorem LeaseFrame.ledger (h : SameLedger s s') : LeaseFrame s s' := by
  refine ⟨h.groups, h.members, fun m _ r hr => ⟨r, ?_, .refl r⟩⟩
  unfold findAttempt at hr ⊢
  rw [h.attempts]
  exact hr

theorem LeaseFrame.append (s : Store) (row : AttemptRow) : LeaseFrame s (s.appendAttempt row) := by
  refine ⟨rfl, rfl, fun m _ r hr => ⟨r, ?_, .refl r⟩⟩
  unfold findAttempt at hr ⊢
  rw [appendAttempt_attempts, find?_append, hr]
  rfl

/-- The kinds of changes that insert rows or touch other tables. -/
def ChangeKind.framed : ChangeKind → Bool
  | .materialize | .legacy | .enqueue | .settings | .auxStart | .dispatch | .envelope => true
  | .observe | .start | .finish | .stale | .adopt | .group => false

theorem Change.leaseFrame {kind : ChangeKind} (hkind : kind.framed = true) (h : Change kind s t) :
    LeaseFrame s t := by
  cases h with
  | rows _ _ hspec hrow =>
    -- no kind in the list updates a row
    refine .update (fun r => (hspec r).spec) fun m _ hkey r hr => ?_
    obtain ⟨hmem, hr'⟩ := findAttempt_eq_some hr
    have := hrow r hmem (by rw [hr']; exact hkey)
    cases kind <;> simp_all [RowChange, ChangeKind.framed]
  | materialize row _ => exact .append s row
  | legacy item now _ => exact .append s _
  | enqueue => exact ⟨rfl, rfl, fun _ _ r hr => ⟨r, hr, .refl r⟩⟩
  | insertGroup | insertMember | groupStart | groupFinish => cases hkind
  | settings hledger _ => exact .ledger hledger
  | auxStart hledger _ _ => exact .ledger hledger
  | dispatch hledger _ _ => exact .ledger hledger
  | envelope hledger _ _ => exact .ledger hledger

theorem Changes.leaseFrame {kinds : List ChangeKind} (hkinds : ∀ kind ∈ kinds, kind.framed = true)
    (h : Changes kinds s t) : LeaseFrame s t :=
  h.relation .refl (fun _ _ _ => .trans) fun kind hkind _ _ hstep =>
    hstep.leaseFrame (hkinds kind hkind)

/-! ## Updates of one whole group -/

theorem GroupInvariant.member_eq (hs : GroupInvariant s) {m m' : MemberRow} (hm : m ∈ s.members)
    (hm' : m' ∈ s.members) (h : m.key = m'.key) : m = m' :=
  inj_on_of_nodup_map hs.wellFormed.members hm hm' h

/-- The keys that an update of a group names are those of its members. -/
theorem GroupInvariant.mem_groupKeys (hs : GroupInvariant s) {m : MemberRow} (hm : m ∈ s.members) :
    m.key ∈ (s.groupAttempts groupId).map (·.2.key) ↔ m.groupId = groupId := by
  rw [mem_map]
  constructor
  · rintro ⟨row, hrow, hkey⟩
    obtain ⟨m', hm', hgroup, _, hfind⟩ := mem_groupAttempts.mp hrow
    have hkey' : m'.key = m.key := (findAttempt_eq_some hfind).2.symm.trans hkey
    rw [← hs.member_eq hm' hm hkey']
    exact hgroup
  · intro hgroup
    obtain ⟨r, hfind⟩ := Option.isSome_iff_exists.mp (hs.rows m hm)
    exact ⟨(m.logicalKind, r), mem_groupAttempts.mpr ⟨m, hm, hgroup, rfl, hfind⟩,
      (findAttempt_eq_some hfind).2⟩

/-- The rows of every member of a group are updated, and then the group. -/
theorem GroupInvariant.updateGroup (hs : GroupInvariant s) {h : GroupRow → GroupRow}
    (hspec : ∀ r, (f r).spec = r.spec)
    (hkeep : ∀ g, (h g).groupId = g.groupId ∧ (h g).leader = g.leader)
    (hwf : ((s.updateAttempts ((s.groupAttempts groupId).map (·.2.key)) f).updateGroup
      groupId h).WellFormed) (hnew : ∀ g ∈ s.groups, g.groupId = groupId → ∀ s' : Store,
      (∀ r', s'.MemberRowOf groupId r' → ∃ r, s.MemberRowOf groupId r ∧ r' = f r) →
        s'.InStep (h g)) :
    GroupInvariant ((s.updateAttempts ((s.groupAttempts groupId).map (·.2.key)) f).updateGroup
      groupId h) := by
  set s' := (s.updateAttempts ((s.groupAttempts groupId).map (·.2.key)) f).updateGroup groupId h
    with hs'
  have hfind (key : AttemptKey) : s'.findAttempt key = (s.findAttempt key).map fun r =>
      if key ∈ (s.groupAttempts groupId).map (·.2.key) then f r else r :=
    findAttempt_updateAttempts hspec key
  have hgroups {g' : GroupRow} (hg' : g' ∈ s'.groups) : ∃ g ∈ s.groups,
      g' = if g.groupId = groupId then h g else g := by
    obtain ⟨g, hg, rfl⟩ := mem_map.mp hg'
    exact ⟨g, hg, rfl⟩
  have hsame {g : GroupRow} : (if g.groupId = groupId then h g else g).groupId = g.groupId ∧
      (if g.groupId = groupId then h g else g).leader = g.leader := by
    split
    · exact hkeep g
    · exact ⟨rfl, rfl⟩
  -- the rows of another group are the same
  have hother {id : String} (hid : id ≠ groupId) {r' : AttemptRow}
      (hr' : s'.MemberRowOf id r') : s.MemberRowOf id r' := by
    obtain ⟨m, hm, hgroup, hfind'⟩ := hr'
    rw [hfind] at hfind'
    obtain ⟨r, hr, heq⟩ := Option.map_eq_some_iff.mp hfind'
    rw [if_neg (fun hkey => hid (hgroup.symm.trans ((hs.mem_groupKeys hm).mp hkey)))] at heq
    exact ⟨m, hm, hgroup, by rw [hr, heq]⟩
  have hthis {r' : AttemptRow} (hr' : s'.MemberRowOf groupId r') :
      ∃ r, s.MemberRowOf groupId r ∧ r' = f r := by
    obtain ⟨m, hm, hgroup, hfind'⟩ := hr'
    rw [hfind] at hfind'
    obtain ⟨r, hr, heq⟩ := Option.map_eq_some_iff.mp hfind'
    rw [if_pos ((hs.mem_groupKeys hm).mpr hgroup)] at heq
    exact ⟨r, ⟨m, hm, hgroup, hr⟩, heq.symm⟩
  refine ⟨hwf, fun m hm => ?_, fun m hm => ?_, fun g' hg' => ?_, fun g' hg' => ?_,
    fun g' hg' m hm hgroup => ?_, fun g' hg' => ?_⟩
  · rw [hfind, Option.isSome_map]
    exact hs.rows m hm
  · obtain ⟨g, hg, hid⟩ := hs.owned m hm
    exact ⟨_, mem_map.mpr ⟨g, hg, rfl⟩, hsame.1.trans hid⟩
  · obtain ⟨g, hg, rfl⟩ := hgroups hg'
    rw [hsame.1]
    exact hs.named g hg
  · obtain ⟨g, hg, rfl⟩ := hgroups hg'
    rw [hsame.1]
    exact hs.registered g hg
  · obtain ⟨g, hg, rfl⟩ := hgroups hg'
    rw [hsame.2]
    exact hs.sameAttempt g hg m hm (hgroup.trans hsame.1)
  · obtain ⟨g, hg, rfl⟩ := hgroups hg'
    by_cases hid : g.groupId = groupId
    · rw [if_pos hid]
      exact hnew g hg hid s' fun r' => hthis
    · rw [if_neg hid]
      exact (hs.inStep g hg).of_kept fun r' hr' => ⟨r', hother hid hr', .refl r'⟩

/-- A group that is found is where its members are. -/
theorem GroupInvariant.inStep_of_find (hs : GroupInvariant s) {g' : GroupRow}
    (hfind : s.findGroup groupId = some g') (hg : g ∈ s.groups) (hid : g.groupId = groupId) :
    g = g' := by
  obtain ⟨hg', hid'⟩ := findGroup_eq_some hfind
  exact inj_on_of_nodup_map hs.wellFormed.groups hg hg' (hid.trans hid'.symm)

theorem startPhysicalAttemptGroup_inStep (hs : GroupInvariant s) {gpus : List String}
    {started : Int} (h : s.startPhysicalAttemptGroup groupId gpus started = .ok s')
    (hwf : s'.WellFormed) : GroupInvariant s' := by
  obtain ⟨⟨group, hfind, hpending⟩, _, rfl⟩ := startPhysicalAttemptGroup_eq_ok h
  refine hs.updateGroup (fun _ => rfl) (fun _ => ⟨rfl, rfl⟩) hwf fun g hg hid s' hrows => ?_
  obtain rfl := hs.inStep_of_find hfind hg hid
  have hidle := hs.inStep g hg
  unfold InStep at hidle
  rw [hpending] at hidle
  refine ⟨⟨.running, gpus, none, none, none⟩, rfl, fun r' hr' => ?_⟩
  obtain ⟨r, hr, rfl⟩ := hrows r' (by rw [← hid]; exact hr')
  have hlease := hidle r (by rw [hid]; exact hr)
  show (⟨.running, gpus, r.lease.pid, r.lease.pgid, r.lease.processStartReceiptSha256⟩ :
    LeaseColumns) = _
  rw [hlease]
  rfl

theorem updateGroup_id (s : Store) (groupId : String) : s.updateGroup groupId id = s := by
  have hgroups : (s.groups.map fun row => if row.groupId = groupId then id row else row) =
      s.groups := by simp
  unfold updateGroup
  rw [hgroups]

theorem attachPhysicalAttemptGroupProcess_inStep (hs : GroupInvariant s) {pid pgid : Nat}
    {receipt : Option Digest}
    (h : s.attachPhysicalAttemptGroupProcess groupId pid pgid receipt now = .ok s')
    (hwf : s'.WellFormed) : GroupInvariant s' := by
  simp only [attachPhysicalAttemptGroupProcess, bind_eq_ok, require_eq_ok, exists_const, pure_eq_ok,
    validatedTime_eq_ok] at h
  obtain ⟨_, _, _, _, _, hrunning, _, _, _, _, _, rfl⟩ := h
  rw [← updateGroup_id (s.updateAttempts _ _) groupId] at hwf ⊢
  refine hs.updateGroup (fun r => ((AttemptRow.observes_attach pid pgid receipt now).spec r).spec)
    (fun _ => ⟨rfl, rfl⟩) hwf fun g hg hid s' hrows => ?_
  have hstatus : g.status = .running := by
    cases hfind : s.findGroup groupId with
    | none => simp [hfind] at hrunning
    | some group =>
      rw [hs.inStep_of_find hfind hg hid]
      simpa [hfind] using hrunning
  have hleased := hs.inStep g hg
  unfold InStep at hleased ⊢
  rw [hstatus] at hleased
  rw [show (id g).status = .running from hstatus]
  obtain ⟨lease, hlease, hmembers⟩ := hleased
  refine ⟨lease.attach pid pgid receipt, (lease.status_attach pid pgid receipt).trans hlease,
    fun r' hr' => ?_⟩
  obtain ⟨r, hr, rfl⟩ := hrows r' (by rw [← hid]; exact hr')
  rw [r.lease_attach, hmembers r (by rw [hid]; exact hr)]

/-- Every row of a group becomes terminal, and the group with them. -/
theorem GroupInvariant.finishGroup (hs : GroupInvariant s) {h : GroupRow → GroupRow}
    (hspec : ∀ r, (f r).spec = r.spec)
    (hkeep : ∀ g, (h g).groupId = g.groupId ∧ (h g).leader = g.leader)
    (hstatus : ∀ g, (h g).status ≠ .pending ∧ (h g).status ≠ .running)
    (hwf : ((s.updateAttempts ((s.groupAttempts groupId).map (·.2.key)) f).updateGroup
      groupId h).WellFormed)
    (hrow : ∀ row ∈ s.groupAttempts groupId, (f row.2).status.isActive = false) :
    GroupInvariant ((s.updateAttempts ((s.groupAttempts groupId).map (·.2.key)) f).updateGroup
      groupId h) := by
  refine hs.updateGroup hspec hkeep hwf fun g hg hid s' hrows => ?_
  have hterminal : ∀ r', s'.MemberRowOf (h g).groupId r' → r'.status.isActive = false := by
    intro r' hr'
    obtain ⟨r, hr, rfl⟩ := hrows r' (by rw [← hid, ← (hkeep g).1]; exact hr')
    obtain ⟨kind, hmem⟩ := memberRowOf_iff.mp hr
    exact hrow (kind, r) hmem
  unfold InStep
  cases hg' : (h g).status with
  | pending => exact absurd hg' (hstatus g).1
  | running => exact absurd hg' (hstatus g).2
  | complete => exact hterminal
  | failed => exact hterminal

theorem isActive_eq_false {status : AttemptStatus} (h : status ≠ .pending ∧ status ≠ .running) :
    status.isActive = false := by
  cases status with
  | pending => exact absurd rfl h.1
  | running => exact absurd rfl h.2
  | complete | failed | blocked | staleIdentity => rfl

theorem finishPhysicalAttemptGroup_inStep (hs : GroupInvariant s)
    {terminals : List (String × TerminalEvidence)}
    (h : s.finishPhysicalAttemptGroup groupId terminals automatic finished = .ok s')
    (hwf : s'.WellFormed) : GroupInvariant s' := by
  obtain ⟨group, kind, _, _, _, hrows, status, shared, hpending, hrunning, rfl⟩ :=
    finishPhysicalAttemptGroup_eq_ok h
  refine hs.finishGroup
    (fun r => (sameSpec_finishMember kind automatic terminals group.leader _ finished r).spec)
    (fun _ => ⟨rfl, rfl⟩) (fun _ => ⟨hpending, hrunning⟩) hwf fun row hrow => ?_
  obtain ⟨t, ht⟩ := terminalFor_isSome (hrows row hrow).1
  simp only [finishMember, ht]
  exact isActive_eq_false (TerminalStatus.attemptStatus_terminal t.val.status)

theorem failGroup_inStep (hs : GroupInvariant s) {statusError rowsError : String}
    {charge : GroupRow → List (LogicalKind × AttemptRow) → Except Error GpuSeconds}
    {update : String → GpuSeconds → AttemptRow → AttemptRow}
    (hspec : ∀ decision time r, (update decision time r).spec = r.spec)
    (hfailed : ∀ decision time r, (update decision time r).status = .failed)
    (h : s.failGroup groupId statusError rowsError automatic charge update = .ok s')
    (hwf : s'.WellFormed) : GroupInvariant s' := by
  obtain ⟨group, kind, time, _, _, _, _, _, rfl⟩ := failGroup_eq_ok h
  refine hs.finishGroup (fun r => hspec _ _ r) (fun _ => ⟨rfl, rfl⟩) (fun _ => by simp) hwf fun row _ => ?_
  rw [hfailed]
  rfl

theorem failPhysicalAttemptGroupSpawn_inStep (hs : GroupInvariant s) {exceptionType : String}
    (h : s.failPhysicalAttemptGroupSpawn groupId exceptionType automatic finished = .ok s')
    (hwf : s'.WellFormed) : GroupInvariant s' := by
  simp only [failPhysicalAttemptGroupSpawn, bind_eq_ok] at h
  obtain ⟨_, _, _, _, _, _, h⟩ := h
  refine failGroup_inStep hs ?_ ?_ h hwf
  · intro decision time r
    rfl
  · intro decision time r
    rfl

theorem failPhysicalAttemptGroupInfrastructure_inStep (hs : GroupInvariant s)
    {failureCode exclusionReason : String} {evidence : EvidenceFiles}
    (h : s.failPhysicalAttemptGroupInfrastructure groupId failureCode
      exclusionReason evidence automatic finished = .ok s') (hwf : s'.WellFormed) :
    GroupInvariant s' := by
  simp only [failPhysicalAttemptGroupInfrastructure, bind_eq_ok, check_eq_ok] at h
  obtain ⟨_, _, _, _, _, _, _, _, _, _, _, h⟩ := h
  refine failGroup_inStep hs ?_ ?_ h hwf
  · intro decision time r
    rfl
  · intro decision time r
    rfl

/-! ## A new group -/

theorem physicalAttemptGroupKind_perm {kinds kinds' : List LogicalKind} (h : kinds.Perm kinds') :
    physicalAttemptGroupKind kinds = physicalAttemptGroupKind kinds' := by
  have hall : kinds.all (· == .serving) = kinds'.all (· == .serving) := by
    rw [Bool.eq_iff_iff, all_eq_true, all_eq_true]
    exact ⟨fun hk kind hkind => hk kind (h.mem_iff.mpr hkind),
      fun hk kind hkind => hk kind (h.mem_iff.mp hkind)⟩
  unfold physicalAttemptGroupKind
  rw [h.length_eq, h.count_eq, h.count_eq, h.count_eq, hall]

def memberRow (groupId : String) (member : GroupMemberSpec × Nat) : MemberRow :=
  ⟨groupId, member.1.attempt.key, member.1.logicalKind, member.2⟩

theorem insertMembers_tables {ordinal : Nat}
    (h : s.insertMembers groupId ordinal members = .ok s') :
    s'.attempts = s.attempts ∧ s'.groups = s.groups ∧
      s'.members = s.members ++ (members.zipIdx ordinal).map (memberRow groupId) := by
  induction members generalizing s ordinal with
  | nil =>
    simp only [insertMembers, pure_eq_ok] at h
    subst h
    exact ⟨rfl, rfl, by simp⟩
  | cons member rest ih =>
    simp only [insertMembers, bind_eq_ok, check_eq_ok] at h
    obtain ⟨_, mid, hmid, h⟩ := h
    obtain ⟨_, _, rfl⟩ := enqueueCommandLocked_change hmid
    obtain ⟨hattempts, hgroups, hmembers⟩ := ih h
    refine ⟨hattempts, hgroups, ?_⟩
    rw [hmembers]
    simp [appendCommand, appendMember, zipIdx_cons, memberRow]

/-- Everything that `materialize_physical_attempt_group` writes for a new group. -/
structure InsertsGroup (s s' : Store) (group : GroupRow) (members : List GroupMemberSpec)
    (now : Int) : Prop where
  fresh : ∀ g ∈ s.groups, g.groupId ≠ group.groupId
  pending : group.status = .pending
  named : requireText "physical attempt group ID" group.groupId = .ok ()
  registered : ∃ kind, physicalAttemptGroupKind (members.map (·.logicalKind)) = .ok kind
  sameAttempt : ∀ m ∈ members, m.attempt.key.attempt = group.leader.attempt
  leader : ∃ m ∈ members, m.attempt.key = group.leader
  attempts : s'.attempts = s.attempts ++ members.map fun m => AttemptRow.ofSpec m.attempt.val now
  groups : s'.groups = s.groups ++ [group]
  members : s'.members = s.members ++ (members.zipIdx).map (memberRow group.groupId)

/-- The members share the attempt number of the first. -/
theorem sameAttempt_of_check {kind : PhysicalGroupKind}
    (h : checkGroupMembers members leader kind = .ok ()) :
    ∀ m ∈ members, m.attempt.key.attempt = (members.head?.map (·.attempt.val.attempt)).getD 0 := by
  simp only [checkGroupMembers, bind_eq_ok, require_eq_ok, exists_const] at h
  obtain ⟨_, _, _, _, _, _, _, _, _, hattempt, _, _⟩ := h
  obtain ⟨attempt, hdedup⟩ := length_eq_one_iff.mp hattempt
  have hall : ∀ m ∈ members, m.attempt.val.attempt = attempt := by
    intro m hm
    have hmem : m.attempt.val.attempt ∈ (members.map (·.attempt.val.attempt)).dedup :=
      mem_dedup.mpr (mem_map.mpr ⟨m, hm, rfl⟩)
    rw [hdedup] at hmem
    exact mem_singleton.mp hmem
  intro m hm
  cases members with
  | nil => cases hm
  | cons first rest =>
    show m.attempt.val.attempt = first.attempt.val.attempt
    rw [hall m hm, hall first (by simp)]

/-- The leader is the cell of a member. -/
theorem leader_of_check {kind : PhysicalGroupKind}
    (h : checkGroupMembers members leader kind = .ok ()) :
    ∃ m ∈ members, m.attempt.val.cellId = leader := by
  simp only [checkGroupMembers, bind_eq_ok, check_eq_ok] at h
  obtain ⟨_, _, _, _, _, hhead, _⟩ := h
  obtain ⟨m, hm, hcell⟩ := Option.map_eq_some_iff.mp hhead
  exact ⟨m, mem_of_mem_head? hm, hcell⟩

/-- A group is registered already, or inserted with its members. -/
theorem materializePhysicalAttemptGroup_eq_ok {kind : PhysicalGroupKind}
    (h : s.materializePhysicalAttemptGroup groupId members leader kind now = .ok s') :
    s' = s ∨ ∃ group, InsertsGroup s s' group members now := by
  simp only [materializePhysicalAttemptGroup, bind_eq_ok] at h
  obtain ⟨_, hname, _, _, _, hcheck, _, _, h⟩ := h
  have hattempt := sameAttempt_of_check hcheck
  have hkind : ∃ kind, physicalAttemptGroupKind (members.map (·.logicalKind)) = .ok kind := by
    simp only [checkGroupMembers, bind_eq_ok, check_eq_ok] at hcheck
    obtain ⟨_, _, kind, hkind, _⟩ := hcheck
    exact ⟨kind, hkind⟩
  cases hfind : s.findGroup groupId with
  | some existing =>
    simp only [hfind, bind_eq_ok, pure_eq_ok] at h
    obtain ⟨_, _, rfl⟩ := h
    exact .inl rfl
  | none =>
    simp only [hfind, bind_eq_ok] at h
    obtain ⟨mid, hmid, h⟩ := h
    obtain ⟨_, hgroups, hmembers, hattempts⟩ := materializeMembers_changes hmid
    obtain ⟨hattempts', hgroups', hmembers'⟩ := insertMembers_tables h
    let group : GroupRow :=
      { groupId := groupId
        leader := ⟨leader, (members.head?.map (·.attempt.val.attempt)).getD 0⟩ }
    refine .inr ⟨group, ?_⟩
    have hleader : ∃ m ∈ members, m.attempt.key = group.leader := by
      obtain ⟨m, hm, hcell⟩ := leader_of_check hcheck
      exact ⟨m, hm, AttemptKey.ext hcell (hattempt m hm)⟩
    refine ⟨fun g hg heq => ?_, rfl, hname, hkind, hattempt, hleader, ?_, ?_, ?_⟩
    · have hnone := find?_eq_none.mp hfind g hg
      have hid : g.groupId = groupId := heq
      simp [hid] at hnone
    · rw [hattempts']
      exact hattempts
    · rw [hgroups']
      show mid.groups ++ _ = _
      rw [hgroups]
    · rw [hmembers']
      show mid.members ++ _ = _
      rw [hmembers]

section

variable (h : InsertsGroup s s' group members now)

include h

theorem InsertsGroup.mem_members {m : MemberRow} (hm : m ∈ s'.members) :
    m ∈ s.members ∨ (m.groupId = group.groupId ∧ ∃ spec ∈ members, m.key = spec.attempt.key) := by
  rw [h.members] at hm
  rcases mem_append.mp hm with hm | hm
  · exact .inl hm
  · obtain ⟨member, hmember, rfl⟩ := mem_map.mp hm
    exact .inr ⟨rfl, member.1, fst_mem_of_mem_zipIdx hmember, rfl⟩

theorem InsertsGroup.findAttempt
    (hr : s.findAttempt key = some r) : s'.findAttempt key = some r := by
  unfold Store.findAttempt at hr ⊢
  rw [h.attempts, find?_append, hr]
  rfl

/-- The membership rows of an old group are the same. -/
theorem InsertsGroup.membersOf_old
    (hid : groupId ≠ group.groupId) : s'.membersOf groupId = s.membersOf groupId := by
  have hnone : (members.zipIdx.map (memberRow group.groupId)).filter
      (fun row => decide (row.groupId = groupId)) = [] := by
    rw [filter_eq_nil_iff]
    intro m hm
    obtain ⟨member, _, rfl⟩ := mem_map.mp hm
    have hne : group.groupId ≠ groupId := hid.symm
    simp [memberRow, hne]
  unfold membersOf
  rw [h.members, filter_append, hnone, append_nil]

/-- The kinds of the members of the new group. -/
theorem InsertsGroup.kinds_perm (howned : ∀ m ∈ s.members, m.groupId ≠ group.groupId) :
    ((s'.membersOf group.groupId).map (·.logicalKind)).Perm (members.map (·.logicalKind)) := by
  have hnone : s.members.filter (fun row => decide (row.groupId = group.groupId)) = [] := by
    rw [filter_eq_nil_iff]
    intro m hm
    simpa using howned m hm
  have hall : (members.zipIdx.map (memberRow group.groupId)).filter
      (fun row => decide (row.groupId = group.groupId)) =
      members.zipIdx.map (memberRow group.groupId) := by
    rw [filter_eq_self]
    intro m hm
    obtain ⟨member, _, rfl⟩ := mem_map.mp hm
    simp [memberRow]
  have hkinds : (members.zipIdx.map (memberRow group.groupId)).map (·.logicalKind) =
      members.map (·.logicalKind) := by
    rw [map_map]
    show members.zipIdx.map ((·.logicalKind) ∘ Prod.fst) = _
    rw [← map_map, zipIdx_map_fst]
  unfold membersOf
  rw [h.members, filter_append, hnone, hall, nil_append]
  refine ((sortedBy_perm _ _).map _).trans ?_
  rw [hkinds]

section

variable (howned : ∀ m ∈ s.members, ∃ g ∈ s.groups, g.groupId = m.groupId)

include howned

theorem InsertsGroup.ne_of_owned : ∀ m ∈ s.members, m.groupId ≠ group.groupId := by
  intro m hm heq
  obtain ⟨g, hg, hid⟩ := howned m hm
  exact h.fresh g hg (hid.trans heq)

theorem InsertsGroup.owned : ∀ m ∈ s'.members, ∃ g ∈ s'.groups, g.groupId = m.groupId := by
  intro m hm
  rw [h.groups]
  rcases h.mem_members hm with hm | ⟨hgroup, _⟩
  · obtain ⟨g, hg, hid⟩ := howned m hm
    exact ⟨g, mem_append_left _ hg, hid⟩
  · exact ⟨group, by simp, hgroup.symm⟩

theorem InsertsGroup.sameAttempt_groups (hsame : ∀ g ∈ s.groups, ∀ m ∈ s.members,
      m.groupId = g.groupId → m.key.attempt = g.leader.attempt) :
    ∀ g ∈ s'.groups, ∀ m ∈ s'.members, m.groupId = g.groupId →
      m.key.attempt = g.leader.attempt := by
  intro g hg m hm hgroup
  rw [h.groups] at hg
  rcases mem_append.mp hg with hg | hg
  · rcases h.mem_members hm with hm | ⟨hgroup', _⟩
    · exact hsame g hg m hm hgroup
    · exact absurd (hgroup.symm.trans hgroup') (h.fresh g hg)
  · rw [mem_singleton.mp hg] at hgroup ⊢
    rcases h.mem_members hm with hm | ⟨_, spec, hspec, hkey⟩
    · exact absurd hgroup (h.ne_of_owned howned m hm)
    · rw [hkey]
      exact h.sameAttempt spec hspec

end

end

theorem GroupInvariant.insert (hs : GroupInvariant s) (h : InsertsGroup s s' group members now)
    (hwf : s'.WellFormed) : GroupInvariant s' := by
  have howned := h.ne_of_owned hs.owned
  -- the row of a new member is the one that was inserted for it
  have hnew {m : GroupMemberSpec} (hm : m ∈ members) :
      s'.findAttempt m.attempt.key = some (AttemptRow.ofSpec m.attempt.val now) := by
    have hmem : AttemptRow.ofSpec m.attempt.val now ∈ s'.attempts := by
      rw [h.attempts]
      exact mem_append_right _ (mem_map.mpr ⟨m, hm, rfl⟩)
    exact hwf.attempts.findAttempt hmem
  refine ⟨hwf, fun m hm => ?_, h.owned hs.owned, fun g hg => ?_, fun g hg => ?_,
    h.sameAttempt_groups hs.owned hs.sameAttempt, fun g hg => ?_⟩
  · rcases h.mem_members hm with hm | ⟨_, spec, hspec, hkey⟩
    · obtain ⟨r, hr⟩ := Option.isSome_iff_exists.mp (hs.rows m hm)
      rw [h.findAttempt hr]
      rfl
    · rw [hkey, hnew hspec]
      rfl
  · rw [h.groups] at hg
    rcases mem_append.mp hg with hg | hg
    · exact hs.named g hg
    · rw [mem_singleton.mp hg]
      exact h.named
  · rw [h.groups] at hg
    rcases mem_append.mp hg with hg | hg
    · rw [h.membersOf_old (h.fresh g hg)]
      exact hs.registered g hg
    · rw [mem_singleton.mp hg, physicalAttemptGroupKind_perm (h.kinds_perm howned)]
      exact h.registered
  · rw [h.groups] at hg
    rcases mem_append.mp hg with hg | hg
    · refine (hs.inStep g hg).of_kept fun r' hr' => ⟨r', ?_, .refl r'⟩
      obtain ⟨m, hm, hgroup, hfind⟩ := hr'
      rcases h.mem_members hm with hm | ⟨hgroup', _⟩
      · obtain ⟨r, hr⟩ := Option.isSome_iff_exists.mp (hs.rows m hm)
        have heq := (h.findAttempt hr).symm.trans hfind
        cases heq
        exact ⟨m, hm, hgroup, hr⟩
      · exact absurd (hgroup.symm.trans hgroup') (h.fresh g hg)
    · rw [mem_singleton.mp hg]
      unfold InStep
      rw [h.pending]
      rintro r ⟨m, hm, hgroup, hfind⟩
      rcases h.mem_members hm with hm | ⟨_, spec, hspec, hkey⟩
      · exact absurd hgroup (howned m hm)
      · rw [hkey, hnew hspec] at hfind
        cases hfind
        rfl

/-! ## Operations on one row -/

end Store

/-- A call that writes one row and finds that row in a group does not move it:
a member is not started, finished or retired on its own, and an attachment
adds nothing to it. -/
def LeavesMembers (s : Store) : StoreOp → Prop
  | .markRunningBeforeSpawn key _ _ => ∀ m ∈ s.members, m.key = key →
      ∀ r ∈ s.findAttempt key, r.status ≠ .pending
  | .attachProcess key _ _ receipt _ => ∀ m ∈ s.members, m.key = key →
      ∀ r ∈ s.findAttempt key, r.status = .running → (r.pid.isSome ∨ r.pgid.isSome) ∧
        (r.processStartReceiptSha256.isSome ∨ receipt = none)
  | .finishAttempt key _ => ∀ m ∈ s.members, m.key = key →
      ∀ r ∈ s.findAttempt key, r.status.isActive = false
  | .markStaleIdentity key _ _ _ => ∀ m ∈ s.members, m.key = key →
      ∀ r ∈ s.findAttempt key, r.status ≠ .pending
  | _ => True

instance (s : Store) (op : StoreOp) : Decidable (LeavesMembers s op) := by
  induction op using StoreOp.casesOn <;> unfold LeavesMembers <;> infer_instance

namespace Store

/-- The row functions of heartbeats, observations and termination bookkeeping
leave the lease alone. -/
structure KeepsLease (f : AttemptRow → AttemptRow) : Prop where
  spec : ∀ r, (f r).spec = r.spec
  lease : ∀ r, (f r).lease = r.lease

theorem KeepsLease.frame (h : KeepsLease f) (s : Store) (keys : List AttemptKey) :
    LeaseFrame s (s.updateAttempts keys f) :=
  .update h.spec fun _ _ _ r _ => .inl (h.lease r)

theorem keepsLease_observeLog (logSize observed : Int) :
    KeepsLease fun r => r.observeLog logSize observed :=
  ⟨fun _ => rfl, fun _ => rfl⟩

theorem keepsLease_heartbeat (logSize observed : Int) (sequence : Option Nat) :
    KeepsLease fun r => r.heartbeat logSize observed sequence :=
  ⟨fun _ => rfl, fun _ => rfl⟩

theorem keepsLease_requestTermination (reason : String) (requested : Int) :
    KeepsLease fun r => r.requestTermination reason requested := by
  refine ⟨fun r => ((AttemptRow.observes_requestTermination reason requested).spec r).spec,
    fun r => ?_⟩
  unfold AttemptRow.requestTermination
  split <;> rfl

theorem keepsLease_recordSignal (signal : SignalName) (sent : Int) :
    KeepsLease fun r => r.recordSignal signal sent := by
  refine ⟨fun r => ((AttemptRow.observes_recordSignal signal sent).spec r).spec, fun r => ?_⟩
  unfold AttemptRow.recordSignal
  cases signal <;> dsimp only <;> split <;> rfl

/-- An update of the row that `_require_attempt` returned. -/
theorem LeaseFrame.row {row : AttemptRow} (hrow : s.requireAttempt key = .ok row)
    (hspec : ∀ r, (f r).spec = r.spec) (h : ∀ m ∈ s.members, m.key = key → Kept row (f row)) :
    LeaseFrame s (s.updateAttempts [key] f) := by
  refine .update hspec fun m hm hkey r hr => ?_
  have hkey' : m.key = key := mem_singleton.mp hkey
  rw [hkey', requireAttempt_eq_ok hrow] at hr
  cases hr
  exact h m hm hkey'

theorem markRunningBeforeSpawn_frame {gpus : List String} {started : Int}
    (hsafe : LeavesMembers s (.markRunningBeforeSpawn key gpus started))
    (h : s.markRunningBeforeSpawn key gpus started = .ok s') : LeaseFrame s s' := by
  simp only [markRunningBeforeSpawn, bind_eq_ok, check_eq_ok, pure_eq_ok] at h
  obtain ⟨_, _, _, _, row, hrow, hpending, _, _, rfl⟩ := h
  refine .row hrow (fun _ => rfl) fun m hm hkey => ?_
  exact absurd hpending (hsafe m hm hkey row (requireAttempt_eq_ok hrow))

theorem attachProcess_frame {pid pgid : Nat} {receipt : Option Digest}
    (hsafe : LeavesMembers s (.attachProcess key pid pgid receipt now))
    (h : s.attachProcess key pid pgid receipt now = .ok s') : LeaseFrame s s' := by
  simp only [attachProcess, bind_eq_ok, require_eq_ok, exists_const, pure_eq_ok,
    validatedTime_eq_ok] at h
  obtain ⟨_, _, _, row, hrow, hrunning, _, _, rfl⟩ := h
  refine .row hrow (fun r => ((AttemptRow.observes_attach pid pgid receipt now).spec r).spec)
    fun m hm hkey => ?_
  obtain ⟨hprocess, hreceipt⟩ := hsafe m hm hkey row (requireAttempt_eq_ok hrow) hrunning
  have hsame : row.attach pid pgid receipt now = row := by
    unfold AttemptRow.attach
    rw [if_pos hprocess, if_neg]
    rintro ⟨hnone, hsome⟩
    rcases hreceipt with hstored | hmissing
    · rw [hnone] at hstored
      cases hstored
    · rw [hmissing] at hsome
      cases hsome
  rw [hsame]
  exact .refl row

theorem finishAttempt_frame {args : FinishArgs} (hsafe : LeavesMembers s (.finishAttempt key args))
    (h : s.finishAttempt key args = .ok s') : LeaseFrame s s' := by
  simp only [finishAttempt, bind_eq_ok, check_eq_ok, pure_eq_ok] at h
  obtain ⟨_, hchecks, _, _, row, hrow, _, _, _, _, rfl⟩ := h
  refine .row hrow (fun _ => rfl) fun m hm hkey => .inr ⟨?_, ?_⟩
  · exact hsafe m hm hkey row (requireAttempt_eq_ok hrow)
  · exact isActive_eq_false (status_of_checks hchecks)

theorem markStaleIdentity_frame {reason decision : String} {marked : Int}
    (hsafe : LeavesMembers s (.markStaleIdentity key reason decision marked))
    (h : s.markStaleIdentity key reason decision marked = .ok s') : LeaseFrame s s' := by
  simp only [markStaleIdentity, bind_eq_ok] at h
  obtain ⟨_, _, _, _, _, _, row, hrow, h⟩ := h
  split at h
  · simp only [bind_eq_ok, check_eq_ok, pure_eq_ok] at h
    rw [← h.2]
    exact .refl s
  · simp only [bind_eq_ok, check_eq_ok, pure_eq_ok] at h
    obtain ⟨hrunning, _, rfl⟩ := h
    refine .row hrow (fun _ => rfl) fun m hm hkey => .inr ⟨?_, rfl⟩
    exact isActive_eq_false ⟨hsafe m hm hkey row (requireAttempt_eq_ok hrow), hrunning⟩

/-- Adoption writes rows that it inserts, and no member is among them. -/
theorem adoptJobs_frame (hs : ∀ m ∈ s.members, (s.findAttempt m.key).isSome) {group : AuxGroupRow}
    {plan : PlanRow} {owner : Option String} {adoptions : List AuxiliaryCellAdoption}
    {adopted : Int} {jobs : List AuxJobRow}
    (h : s.adoptJobs group plan owner adoptions adopted jobs = .ok s') : LeaseFrame s s' := by
  induction jobs generalizing s with
  | nil =>
    simp only [adoptJobs, pure_eq_ok] at h
    subst h
    exact .refl s
  | cons job rest ih =>
    obtain ⟨adoption, mid, _, _, hmid, h⟩ := adoptJobs_cons h
    obtain ⟨hrow, rfl⟩ := materializeAttemptLocked_change hmid
    have hfresh : ∀ m ∈ s.members, m.key ≠ adoption.attempt.key := by
      intro m hm hkey
      obtain ⟨r, hr⟩ := Option.isSome_iff_exists.mp (hs m hm)
      obtain ⟨hmem, hr'⟩ := findAttempt_eq_some hr
      exact (hrow.fresh r hmem).1 (hr'.trans hkey)
    have hfirst := LeaseFrame.append s (AttemptRow.ofSpec adoption.attempt.val adopted)
    have hsecond : LeaseFrame (s.appendAttempt (AttemptRow.ofSpec adoption.attempt.val adopted))
        ((s.appendAttempt (AttemptRow.ofSpec adoption.attempt.val adopted)).updateAttempts
          [adoption.attempt.key] fun r => adoptRow r group owner job adopted) :=
      .update (fun _ => rfl) fun m hm hkey => by
        exact absurd (mem_singleton.mp hkey) (hfresh m hm)
    have hthird (t : Store) : LeaseFrame t (t.bindAdoptedCell job adoption.attempt.key) :=
      .ledger ⟨rfl, rfl, rfl, rfl⟩
    have hframe := (hfirst.trans hsecond).trans (hthird _)
    refine hframe.trans (ih ?_ h)
    rw [hframe.members]
    intro m hm
    obtain ⟨r, hr⟩ := Option.isSome_iff_exists.mp (hs m hm)
    obtain ⟨r', hr', _⟩ := hframe.rows m hm r hr
    rw [hr']
    rfl

theorem adoptControllerAuxiliaryJobs_frame (hs : ∀ m ∈ s.members, (s.findAttempt m.key).isSome)
    {node : String} {groupAttempt : Nat} {adoptions : List AuxiliaryCellAdoption} {adopted : Int}
    (h : s.adoptControllerAuxiliaryJobs node groupId groupAttempt adoptions adopted = .ok s') :
    LeaseFrame s s' := by
  obtain ⟨_, _, _, ⟨_, rfl⟩ | ⟨_, _, mid, _, hmid, rfl⟩⟩ := adoptControllerAuxiliaryJobs_eq_ok h
  · exact .refl s'
  · exact (adoptJobs_frame hs hmid).trans (.ledger ⟨rfl, rfl, rfl, rfl⟩)

/-! ## Every operation -/

theorem apply_groupInvariant (hs : GroupInvariant s) {op : StoreOp} (hsafe : LeavesMembers s op)
    (h : s.apply op = .ok s') : GroupInvariant s' := by
  have hchanges := apply_changes hs.wellFormed.attempts h
  have hwf : s'.WellFormed := hchanges.wellFormed hs.wellFormed
  cases op with
  | materializePhysicalAttemptGroup groupId members leader kind now =>
    rcases materializePhysicalAttemptGroup_eq_ok h with rfl | ⟨group, hinsert⟩
    · exact hs
    · exact hs.insert hinsert hwf
  | startPhysicalAttemptGroup => exact startPhysicalAttemptGroup_inStep hs h hwf
  | attachPhysicalAttemptGroupProcess => exact attachPhysicalAttemptGroupProcess_inStep hs h hwf
  | finishPhysicalAttemptGroup => exact finishPhysicalAttemptGroup_inStep hs h hwf
  | failPhysicalAttemptGroupSpawn => exact failPhysicalAttemptGroupSpawn_inStep hs h hwf
  | failPhysicalAttemptGroupInfrastructure =>
    exact failPhysicalAttemptGroupInfrastructure_inStep hs h hwf
  | markRunningBeforeSpawn => exact hs.frame (markRunningBeforeSpawn_frame hsafe h) hwf
  | attachProcess => exact hs.frame (attachProcess_frame hsafe h) hwf
  | finishAttempt => exact hs.frame (finishAttempt_frame hsafe h) hwf
  | markStaleIdentity => exact hs.frame (markStaleIdentity_frame hsafe h) hwf
  | recordHeartbeat key pid pgid logSize gpu observed sequence =>
    simp only [apply, recordHeartbeat, bind_eq_ok, check_eq_ok, pure_eq_ok] at h
    obtain ⟨_, _, _, _, row, _, _, _, _, _, rfl⟩ := h
    exact hs.frame ((keepsLease_heartbeat logSize observed sequence).frame s _) hwf
  | recordPhysicalAttemptGroupHeartbeat groupId pid pgid logSize gpu observed sequence =>
    simp only [apply, recordPhysicalAttemptGroupHeartbeat, bind_eq_ok, check_eq_ok, pure_eq_ok] at h
    obtain ⟨_, _, _, _, _, _, _, _, _, _, rfl⟩ := h
    exact hs.frame ((keepsLease_heartbeat logSize observed sequence).frame s _) hwf
  | recordRuntimeObservation key pid pgid logSize gpu observed =>
    simp only [apply, recordRuntimeObservation, bind_eq_ok, check_eq_ok, pure_eq_ok] at h
    obtain ⟨_, _, _, _, row, _, _, _, rfl⟩ := h
    exact hs.frame ((keepsLease_observeLog logSize observed).frame s _) hwf
  | recordPhysicalAttemptGroupRuntimeObservation groupId pid pgid logSize gpu observed =>
    simp only [apply, recordPhysicalAttemptGroupRuntimeObservation, bind_eq_ok, check_eq_ok,
      pure_eq_ok] at h
    obtain ⟨_, _, _, _, _, _, _, _, _, _, rfl⟩ := h
    exact hs.frame ((keepsLease_observeLog logSize observed).frame s _) hwf
  | requestAttemptTermination key reason requested =>
    simp only [apply, requestAttemptTermination, bind_eq_ok, check_eq_ok, pure_eq_ok] at h
    obtain ⟨_, _, _, _, row, _, _, _, _, rfl⟩ := h
    exact hs.frame ((keepsLease_requestTermination reason requested).frame s _) hwf
  | recordAttemptTerminationSignal key signal sent =>
    simp only [apply, recordAttemptTerminationSignal, bind_eq_ok, check_eq_ok, pure_eq_ok] at h
    obtain ⟨_, _, row, _, _, _, _, rfl⟩ := h
    exact hs.frame ((keepsLease_recordSignal signal sent).frame s _) hwf
  | adoptControllerAuxiliaryJobs =>
    exact hs.frame (adoptControllerAuxiliaryJobs_frame hs.rows h) hwf
  -- the others leave every row of a group as it is
  | _ =>
    exact hs.frame (hchanges.leaseFrame (by simp [StoreOp.kinds, ChangeKind.framed])) hwf

theorem step_groupInvariant (hs : GroupInvariant s) {op : StoreOp}
    (hsafe : (s.step op).1 = .ok () → LeavesMembers s op) : GroupInvariant (s.step op).2 := by
  cases happly : s.apply op with
  | error e =>
    unfold step
    rw [happly]
    exact hs
  | ok s' =>
    rw [step_of_ok happly] at hsafe ⊢
    exact apply_groupInvariant hs (hsafe rfl) happly

/-! ## One running row per cell -/

/-- The unique index `one_running_attempt_per_cell`. -/
def OneRunning (s : Store) : Prop :=
  ((s.attempts.filter (·.status = .running)).map (·.cellId)).Nodup

/-- An update that starts no row leaves fewer running cells. -/
theorem OneRunning.of_map (hs : OneRunning s) (hcell : ∀ r, (f r).cellId = r.cellId)
    (hrunning : ∀ r ∈ s.attempts, (f r).status = .running → r.status = .running) :
    (((s.attempts.map f).filter (·.status = .running)).map (·.cellId)).Nodup := by
  refine List.Nodup.sublist ?_ hs
  generalize s.attempts = rows at hrunning
  induction rows with
  | nil => exact List.Sublist.refl _
  | cons r rest ih =>
    have htail := ih fun r' hr' => hrunning r' (mem_cons_of_mem _ hr')
    rw [map_cons]
    by_cases hnew : (f r).status = .running
    · have hold := hrunning r mem_cons_self hnew
      rw [filter_cons_of_pos (by simpa using hnew),
        filter_cons_of_pos (by simpa using hold), map_cons, map_cons, hcell]
      exact htail.cons_cons _
    · rw [filter_cons_of_neg (by simpa using hnew)]
      refine htail.trans ?_
      exact ((sublist_cons_self r rest).filter _).map _

theorem OneRunning.append (hs : OneRunning s) {row : AttemptRow} (h : row.status ≠ .running) :
    OneRunning (s.appendAttempt row) := by
  unfold OneRunning
  rw [appendAttempt_attempts, filter_append,
    filter_cons_of_neg (by simpa using h), filter_nil, append_nil]
  exact hs

/-- Only a start makes another attempt run. -/
theorem Change.oneRunning {kind : ChangeKind} (hkind : kind ≠ .start) (h : Change kind s t)
    (hs : OneRunning s) : OneRunning t := by
  cases h with
  | rows keys f hspec hrow =>
    refine hs.of_map (f := fun row => if row.key ∈ keys then f row else row) ?_ ?_
    · intro r
      split
      · exact congrArg AttemptKey.cellId (AttemptRow.key_eq_of_spec (hspec r).spec)
      · rfl
    · intro r hr
      split
      · rename_i hkey
        have hchange := hrow r hr hkey
        intro hrunning
        cases kind with
        | observe => exact hchange.1.symm.trans hrunning
        | finish => exact absurd hrunning hchange.2.1.2
        | stale => rw [hchange.2.1] at hrunning; cases hrunning
        | adopt => rw [hchange.2] at hrunning; cases hrunning
        | start => exact absurd rfl hkind
        | materialize | legacy | enqueue | group | settings | auxStart | dispatch
        | envelope => exact hchange.elim
      · exact id
  | materialize row hrow => exact hs.append (by rw [hrow.pending]; simp)
  | legacy item now _ => exact hs.append (by simp [AttemptRow.ofLegacy])
  | groupStart => exact absurd rfl hkind
  | settings hledger _ => unfold OneRunning; rw [hledger.attempts]; exact hs
  | auxStart hledger _ _ => unfold OneRunning; rw [hledger.attempts]; exact hs
  | dispatch hledger _ _ => unfold OneRunning; rw [hledger.attempts]; exact hs
  | envelope hledger _ _ => unfold OneRunning; rw [hledger.attempts]; exact hs
  | enqueue | insertGroup | insertMember | groupFinish => exact hs

theorem step_oneRunning (hkeys : s.KeysNodup) (hs : OneRunning s) (op : StoreOp) :
    OneRunning (s.step op).2 := by
  unfold step
  cases happly : s.apply op with
  | error e => exact hs
  | ok s' =>
    have hother (hop : ChangeKind.start ∉ op.kinds) : OneRunning s' :=
      (apply_changes hkeys happly).invariant
        (fun kind hkind _ _ hstep => hstep.oneRunning fun hstart => hop (hstart ▸ hkind)) hs
    cases op with
    | markRunningBeforeSpawn key gpus started =>
      simp only [apply, markRunningBeforeSpawn, bind_eq_ok, check_eq_ok, pure_eq_ok,
        checkRunningIndex] at happly
      obtain ⟨_, _, _, _, row, _, _, hindex, rfl⟩ := happly
      exact hindex
    | startPhysicalAttemptGroup groupId gpus started =>
      simp only [apply, startPhysicalAttemptGroup, bind_eq_ok] at happly
      obtain ⟨_, _, _, _, _, _, happly⟩ := happly
      split at happly
      · cases happly
      · simp only [bind_eq_ok, check_eq_ok, pure_eq_ok, checkRunningIndex] at happly
        obtain ⟨_, _, _, _, _, hindex, rfl⟩ := happly
        exact hindex
    | _ => exact hother (by simp [StoreOp.kinds])

/-! ## Groups move as a whole -/

theorem GroupInvariant.kinds_eq (hs : GroupInvariant s) (groupId : String) :
    (s.groupAttempts groupId).map (·.1) = (s.membersOf groupId).map (·.logicalKind) := by
  have hrows : ∀ m ∈ s.membersOf groupId, (s.findAttempt m.key).isSome :=
    fun m hm => hs.rows m (mem_membersOf.mp hm).1
  unfold groupAttempts
  generalize s.membersOf groupId = members at hrows
  induction members with
  | nil => rfl
  | cons m rest ih =>
    obtain ⟨r, hr⟩ := Option.isSome_iff_exists.mp (hrows m mem_cons_self)
    rw [filterMap_cons_some (b := (m.logicalKind, r)) (by simp [hr]), map_cons,
      map_cons, ih fun m' hm' => hrows m' (mem_cons_of_mem _ hm')]

theorem GroupInvariant.kind (hs : GroupInvariant s) (hg : g ∈ s.groups) :
    ∃ kind, physicalAttemptGroupKind ((s.groupAttempts g.groupId).map (·.1)) = .ok kind := by
  rw [hs.kinds_eq]
  exact hs.registered g hg

/-- A registered group has members. -/
theorem GroupInvariant.exists_member (hs : GroupInvariant s) (hg : g ∈ s.groups) :
    ∃ row, row ∈ s.groupAttempts g.groupId := by
  obtain ⟨kind, hkind⟩ := hs.kind hg
  cases hrows : s.groupAttempts g.groupId with
  | nil =>
    rw [hrows] at hkind
    simp [physicalAttemptGroupKind] at hkind
  | cons row rest => exact ⟨row, mem_cons_self⟩

/-- The group is `PENDING` exactly if all its members are, `RUNNING` exactly if
all its members run under one assignment, process and receipt, and terminal
exactly if all its members are. -/
structure Lockstep (s : Store) (g : GroupRow) : Prop where
  pending : g.status = .pending ↔
    ∀ row ∈ s.groupAttempts g.groupId, row.2.status = .pending
  running : g.status = .running ↔ ∃ gpus pid pgid receipt,
    ∀ row ∈ s.groupAttempts g.groupId, row.2.lease = ⟨.running, gpus, pid, pgid, receipt⟩
  terminal : (g.status = .complete ∨ g.status = .failed) ↔
    ∀ row ∈ s.groupAttempts g.groupId, row.2.status.isActive = false

/-- The arguments of `finish_physical_attempt_group` that pass its checks on the
evidence. -/
structure TerminalsFit (rows : List (LogicalKind × AttemptRow))
    (terminals : List (String × TerminalEvidence)) (finished : Int) : Prop where
  known : ∀ cell ∈ terminals.map (·.1), cell ∈ rows.map (·.2.cellId)
  cover : ∀ cell ∈ rows.map (·.2.cellId), cell ∈ terminals.map (·.1)
  shared : ((rows.filterMap fun row => terminalFor terminals row.2.cellId).map
    (·.val.atomicPublicationSha256)).dedup.length = 1
  timed : ∀ t ∈ rows.filterMap fun row => terminalFor terminals row.2.cellId,
    t.val.startedNs.isSome ∧ t.val.finishedNs.isSome
  before : ∀ t ∈ rows.filterMap fun row => terminalFor terminals row.2.cellId,
    t.val.finishedNs.all (· ≤ finished)
  heartbeat : ∀ row ∈ rows, row.2.heartbeatAtNs.all (· ≤ finished)

/-- A `PENDING` group can be started, and a `RUNNING` one finished or failed: the
operations on the group accept every argument that is valid by itself. A start
also needs that no other attempt of a member's cell runs. -/
structure MovesWhole (s : Store) (g : GroupRow) : Prop where
  start : g.status = .pending →
    ∃ kind, physicalAttemptGroupKind ((s.groupAttempts g.groupId).map (·.1)) = .ok kind ∧
      ∀ gpus started, validatedGpuUuids gpus = .ok () → 0 < started →
        gpus.length = (if kind = .preflightExactTen then 2 else 1) →
        (∀ r ∈ s.attempts, r.status = .running →
          ∀ row ∈ s.groupAttempts g.groupId, row.2.cellId ≠ r.cellId) →
        ∃ s', s.startPhysicalAttemptGroup g.groupId gpus started = .ok s'
  finish : g.status = .running → ∀ terminals automatic finished, 0 < finished →
    TerminalsFit (s.groupAttempts g.groupId) terminals finished →
      ∃ s', s.finishPhysicalAttemptGroup g.groupId terminals automatic finished = .ok s'
  fail : g.status = .running → ∀ exceptionType automatic finished, 0 < finished →
    requireText "physical group spawn exception type" exceptionType = .ok () →
      ∃ s', s.failPhysicalAttemptGroupSpawn g.groupId exceptionType automatic finished = .ok s'

theorem GroupInvariant.lockstep (hs : GroupInvariant s) (hg : g ∈ s.groups) : Lockstep s g := by
  obtain ⟨row, hrow⟩ := hs.exists_member hg
  have hstep := hs.inStep g hg
  have hmember {row : LogicalKind × AttemptRow} (hrow : row ∈ s.groupAttempts g.groupId) :
      s.MemberRowOf g.groupId row.2 := memberRowOf_iff.mpr ⟨row.1, hrow⟩
  unfold InStep at hstep
  -- one member is enough to tell the three kinds of states apart
  cases hstatus : g.status with
  | pending =>
    rw [hstatus] at hstep
    have hpending : ∀ row ∈ s.groupAttempts g.groupId, row.2.status = .pending :=
      fun row hrow => congrArg LeaseColumns.status (hstep row.2 (hmember hrow))
    refine ⟨⟨fun _ => hpending, fun _ => hstatus⟩, ⟨fun h => ?_, ?_⟩, ⟨fun h => ?_, ?_⟩⟩
    · rw [hstatus] at h
      cases h
    · rintro ⟨gpus, pid, pgid, receipt, h⟩
      have hrunning : row.2.status = .running := congrArg LeaseColumns.status (h row hrow)
      rw [hpending row hrow] at hrunning
      cases hrunning
    · rw [hstatus] at h
      rcases h with h | h <;> cases h
    · intro h
      have hterminal := h row hrow
      rw [hpending row hrow] at hterminal
      cases hterminal
  | running =>
    rw [hstatus] at hstep
    obtain ⟨lease, hlease, hstep⟩ := hstep
    have hrunning : row.2.status = .running :=
      (congrArg LeaseColumns.status (hstep row.2 (hmember hrow))).trans hlease
    refine ⟨⟨fun h => ?_, fun h => ?_⟩, ⟨fun _ => ?_, fun _ => hstatus⟩, ⟨fun h => ?_, ?_⟩⟩
    · rw [hstatus] at h
      cases h
    · rw [h row hrow] at hrunning
      cases hrunning
    · refine ⟨lease.assignedGpuUuids, lease.pid, lease.pgid, lease.processStartReceiptSha256,
        fun row hrow => ?_⟩
      rw [hstep row.2 (hmember hrow), ← hlease]
    · rw [hstatus] at h
      rcases h with h | h <;> cases h
    · intro h
      have hterminal := h row hrow
      rw [hrunning] at hterminal
      cases hterminal
  | complete | failed =>
    rw [hstatus] at hstep
    have hterminal : ∀ row ∈ s.groupAttempts g.groupId, row.2.status.isActive = false :=
      fun row hrow => hstep row.2 (hmember hrow)
    refine ⟨⟨fun h => ?_, fun h => ?_⟩, ⟨fun h => ?_, ?_⟩, ⟨fun _ => hterminal, fun _ => ?_⟩⟩
    · rw [hstatus] at h
      cases h
    · have hactive := hterminal row hrow
      rw [h row hrow] at hactive
      cases hactive
    · rw [hstatus] at h
      cases h
    · rintro ⟨gpus, pid, pgid, receipt, h⟩
      have hrunning : row.2.status = .running := congrArg LeaseColumns.status (h row hrow)
      have hactive := hterminal row hrow
      rw [hrunning] at hactive
      cases hactive
    · simp [hstatus]

/-- The unique index accepts the start of a group none of whose cells runs. -/
theorem GroupInvariant.oneRunning_start (hs : GroupInvariant s) (hone : OneRunning s)
    (hg : g ∈ s.groups) (gpus : List String) (started : Int)
    (hfree : ∀ r ∈ s.attempts, r.status = .running →
      ∀ row ∈ s.groupAttempts g.groupId, row.2.cellId ≠ r.cellId) :
    OneRunning (s.updateAttempts ((s.groupAttempts g.groupId).map (·.2.key))
      fun r => r.start gpus started) := by
  set s' := s.updateAttempts ((s.groupAttempts g.groupId).map (·.2.key))
    fun r => r.start gpus started with hs'
  have hkeys : s'.KeysNodup := by
    unfold KeysNodup
    rw [hs', updateAttempts_attempts, map_map]
    have hmap : (AttemptRow.key ∘ fun row : AttemptRow =>
        if row.key ∈ (s.groupAttempts g.groupId).map (·.2.key) then row.start gpus started
        else row) = AttemptRow.key := by
      funext row
      simp only [Function.comp_apply]
      split <;> rfl
    rw [hmap]
    exact hs.wellFormed.attempts
  -- a running row was started with the group, or ran before
  have hcases : ∀ r' ∈ s'.attempts, r'.status = .running →
      (∃ row ∈ s.groupAttempts g.groupId, r'.key = row.2.key) ∨
        (r' ∈ s.attempts ∧ r'.status = .running) := by
    intro r' hr' hrunning
    obtain ⟨r, hr, rfl⟩ := mem_map.mp hr'
    by_cases hkey : r.key ∈ (s.groupAttempts g.groupId).map (·.2.key)
    · rw [if_pos hkey]
      obtain ⟨row, hrow, heq⟩ := mem_map.mp hkey
      exact .inl ⟨row, hrow, heq.symm⟩
    · rw [if_neg hkey] at hrunning ⊢
      exact .inr ⟨hr, hrunning⟩
  have hattempt : ∀ row ∈ s.groupAttempts g.groupId, row.2.key.attempt = g.leader.attempt := by
    intro row hrow
    obtain ⟨m, hm, hgroup, _, hfind⟩ := mem_groupAttempts.mp hrow
    rw [(findAttempt_eq_some hfind).2]
    exact hs.sameAttempt g hg m hm hgroup
  refine List.Nodup.map_on ?_ ((List.Nodup.of_map _ hkeys).filter _)
  intro a ha b hb hcell
  obtain ⟨ha, harunning⟩ := mem_filter.mp ha
  obtain ⟨hb, hbrunning⟩ := mem_filter.mp hb
  rcases hcases a ha (by simpa using harunning) with ⟨row, hrow, hakey⟩ | ⟨hamem, harun⟩
  · rcases hcases b hb (by simpa using hbrunning) with ⟨row', hrow', hbkey⟩ | ⟨hbmem, hbrun⟩
    · refine hkeys.eq_of_key ha hb ?_
      have hnumber : a.key.attempt = b.key.attempt := by
        rw [hakey, hbkey, hattempt row hrow, hattempt row' hrow']
      show (⟨a.cellId, a.attempt⟩ : AttemptKey) = ⟨b.cellId, b.attempt⟩
      rw [hcell, show a.attempt = b.attempt from hnumber]
    · exact absurd ((congrArg AttemptKey.cellId hakey).symm.trans hcell)
        (hfree b hbmem hbrun row hrow)
  · rcases hcases b hb (by simpa using hbrunning) with ⟨row', hrow', hbkey⟩ | ⟨hbmem, hbrun⟩
    · exact absurd ((congrArg AttemptKey.cellId hbkey).symm.trans hcell.symm)
        (hfree a hamem harun row' hrow')
    · exact inj_on_of_nodup_map hone (mem_filter.mpr ⟨hamem, by simpa using harun⟩)
        (mem_filter.mpr ⟨hbmem, by simpa using hbrun⟩) hcell

/-- No member stands in the way of the others. -/
theorem GroupInvariant.movesWhole (hs : GroupInvariant s) (hone : OneRunning s)
    (hg : g ∈ s.groups) : MovesWhole s g := by
  have hlockstep := hs.lockstep hg
  have hname := hs.named g hg
  have hfind := hs.wellFormed.findGroup hg
  obtain ⟨kind, hkind⟩ := hs.kind hg
  have hrunning (h : g.status = .running) :
      ∀ row ∈ s.groupAttempts g.groupId, row.2.status = .running := by
    obtain ⟨_, _, _, _, hrows⟩ := hlockstep.running.mp h
    exact fun row hrow => congrArg LeaseColumns.status (hrows row hrow)
  refine ⟨fun hpending => ⟨kind, hkind, ?_⟩, ?_, ?_⟩
  · intro gpus started hgpus htime hcount hfree
    refine exists_bind_ok hname (exists_bind_ok hgpus (exists_bind_ok (a := ())
      (validatedTime_eq_ok.mpr htime) ?_))
    rw [hfind]
    refine exists_bind_ok (a := ()) (require_eq_ok.mpr hpending) (exists_bind_ok hkind ?_)
    refine exists_bind_ok (a := ()) (require_eq_ok.mpr (hlockstep.pending.mp hpending)) ?_
    refine exists_bind_ok (a := ()) (require_eq_ok.mpr hcount) ?_
    refine exists_bind_ok (a := ()) (require_eq_ok.mpr ?_) ⟨_, rfl⟩
    exact hs.oneRunning_start hone hg gpus started hfree
  · intro h terminals automatic finished htime hfit
    refine exists_bind_ok hname (exists_bind_ok (a := ()) (validatedTime_eq_ok.mpr htime) ?_)
    rw [hfind]
    refine exists_bind_ok (a := ()) (require_eq_ok.mpr h) (exists_bind_ok hkind ?_)
    refine exists_bind_ok (a := ()) (require_eq_ok.mpr ⟨hfit.known, hfit.cover⟩) ?_
    refine exists_bind_ok (a := ()) (require_eq_ok.mpr (hrunning h)) ?_
    refine exists_bind_ok (a := ()) (require_eq_ok.mpr hfit.shared) ?_
    refine exists_bind_ok (a := ()) (require_eq_ok.mpr hfit.timed) ?_
    refine exists_bind_ok (a := ()) (require_eq_ok.mpr hfit.before) ?_
    exact exists_bind_ok (a := ()) (require_eq_ok.mpr hfit.heartbeat) ⟨_, rfl⟩
  · intro h exceptionType automatic finished htime htype
    refine exists_bind_ok hname (exists_bind_ok htype (exists_bind_ok (a := ())
      (validatedTime_eq_ok.mpr htime) ?_))
    unfold failGroup
    rw [hfind]
    refine exists_bind_ok (a := ()) (require_eq_ok.mpr h) (exists_bind_ok hkind ?_)
    exact exists_bind_ok (a := ()) (require_eq_ok.mpr (hrunning h)) ⟨_, rfl⟩

/-- In every run whose operations that return never move a member of a group on its
own, every group is in lockstep with its members and moves as a whole. -/
theorem group_lockstep (ops : List StoreOp)
    (hsafe : ∀ ev ∈ trace Store.step Store.empty ops,
      ev.output = .ok () → LeavesMembers ev.pre ev.input) :
    ∀ ev ∈ trace Store.step Store.empty ops, ∀ g ∈ ev.post.groups,
      Lockstep ev.post g ∧ MovesWhole ev.post g := by
  have hstep : ∀ (s : Store) (op : StoreOp), GroupInvariant s ∧ OneRunning s →
      ((s.step op).1 = .ok () → LeavesMembers s op) →
        GroupInvariant (s.step op).2 ∧ OneRunning (s.step op).2 :=
    fun s op hs hsafe => ⟨step_groupInvariant hs.1 hsafe,
      step_oneRunning hs.1.wellFormed.attempts hs.2 op⟩
  have hall := (trace_invariant hstep ⟨GroupInvariant.empty, List.nodup_nil⟩
    (forall_output hsafe)).1
  intro ev hev g hg
  obtain ⟨_, hpost, hone⟩ := hall ev hev
  exact ⟨hpost.lockstep hg, hpost.movesWhole hone hg⟩

/-- A member of a serving session. -/
def Sample.member (cell directory : String)
    (hattempt : requireAll (Scheduler.Sample.cellAttempt
      { Scheduler.Sample.command cell 1 directory with timingClass := .headline }
      directory).checks = .ok ())
    (hcommand : requireAll
      ({ Scheduler.Sample.command cell 1 directory with
        timingClass := .headline } : QueuedCommand).checks = .ok ()) : GroupMemberSpec where
  attempt := ⟨_, hattempt⟩
  command := ⟨_, hcommand⟩
  logicalKind := .serving
  key_eq := rfl
  digest_eq := rfl

/-- A serving session of two cells. -/
def Sample.session : List StoreOp :=
  Scheduler.Sample.plan Scheduler.Sample.oneGpu ++
  [.materializePhysicalAttemptGroup "group"
    [Sample.member "a" "/a" (by decide) (by decide), Sample.member "b" "/b" (by decide) (by decide)]
    "a" .tp1ServingSession 2]

/-- A session is started, attached and failed as a whole, and a failed member is
retired afterwards. -/
theorem group_lockstep_session :
    (final Store.step Store.empty (Sample.session ++
        [.startPhysicalAttemptGroup "group" ["g0"] 3,
         .attachPhysicalAttemptGroupProcess "group" 7 7 none 4,
         .failPhysicalAttemptGroupSpawn "group" "OSError" false 5,
         .markStaleIdentity ⟨"b", 1⟩ "drift" "RERUN" 6])).groups.map (·.status) = [.failed] ∧
      ∀ ev ∈ trace Store.step Store.empty (Sample.session ++
        [.startPhysicalAttemptGroup "group" ["g0"] 3,
         .attachPhysicalAttemptGroupProcess "group" 7 7 none 4,
         .failPhysicalAttemptGroupSpawn "group" "OSError" false 5,
         .markStaleIdentity ⟨"b", 1⟩ "drift" "RERUN" 6]), ∀ g ∈ ev.post.groups,
        Lockstep ev.post g ∧ MovesWhole ev.post g :=
  ⟨by decide +kernel, group_lockstep _ (by decide +kernel)⟩

/-- One member of a pending session is started on its own. -/
theorem group_lockstep_fails_after_start :
    ¬ ∀ ops, ∀ ev ∈ trace Store.step Store.empty ops, ∀ g ∈ ev.post.groups,
      Lockstep ev.post g := by
  intro h
  have hbad : (trace Store.step Store.empty (Sample.session ++
      [.markRunningBeforeSpawn ⟨"a", 1⟩ ["g0"] 3])).any (fun ev =>
        ev.post.groups.any fun g => decide (g.status = .pending ∧
          ∃ row ∈ ev.post.groupAttempts g.groupId, row.2.status ≠ .pending)) = true := by
    decide +kernel
  obtain ⟨ev, hev, hbad⟩ := List.any_eq_true.mp hbad
  obtain ⟨g, hg, hbad⟩ := List.any_eq_true.mp hbad
  obtain ⟨hpending, row, hrow, hmoved⟩ := of_decide_eq_true hbad
  exact hmoved ((h _ ev hev g hg).pending.mp hpending row hrow)

end Store

end Operator

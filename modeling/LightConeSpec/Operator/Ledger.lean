import LightConeSpec.Lib.Rows
import LightConeSpec.Operator.AuxTables

/-!
# What a transaction can do to the ledger

About forty operations write the store. Each of them is a sequence of a few
kinds of elementary changes: a row is observed, started, finished, marked
stale or adopted, a row is inserted, a command is queued, and so on. `Change`
lists them with what they require, `apply_changes` says which kinds an
operation can perform, and every invariant of the ledger is then proved once
per kind of change instead of once per operation.
-/

namespace Operator

open Python List

/-! ## Queries -/

/-- The columns of a row that are written when it is inserted. -/
def AttemptRow.spec (r : AttemptRow) : CellAttempt where
  cellId := r.cellId
  attempt := r.attempt
  stage := r.stage
  phase := r.phase
  block := r.blockId
  seed := r.seed
  scientificAxes := r.scientificAxes
  identity := r.identity
  commandSha256 := r.commandSha256
  outputDirectory := r.outputDirectory
  scientificCommandSha256 := r.scientificCommandSha256

variable {s s' : Store} {groupId node reason : String} {key : AttemptKey}
  {finished logSize now observed recorded : Int} {r : AttemptRow} {pgid pid : Nat}
  {automatic : Bool} {kind : ChangeKind} {f : AttemptRow → AttemptRow}
  {members : List GroupMemberSpec} {reopen : ArtifactBinding → Except Error Unit}
  {terminals : List (String × TerminalEvidence)}

theorem AttemptRow.key_eq_of_spec {r' : AttemptRow} (h : r'.spec = r.spec) : r'.key = r.key := by
  have hcell : r'.spec.cellId = r.spec.cellId := by rw [h]
  have hattempt : r'.spec.attempt = r.spec.attempt := by rw [h]
  simp only [AttemptRow.spec] at hcell hattempt
  simp [AttemptRow.key, hcell, hattempt]

/-- The columns that only an insertion writes are the same. -/
structure AttemptRow.SameSpec (r r' : AttemptRow) : Prop where
  spec : r'.spec = r.spec
  legacy : r'.isLegacyImport = r.isLegacyImport

@[simp] theorem validatedTime_eq_ok {t : Int} {u : Unit} : validatedTime t = .ok u ↔ 0 < t := by
  simp [validatedTime]

variable {t : Store} {gpu : Bool} {started : Int}

namespace Store

/-- The primary keys of the attempt table are distinct. -/
def KeysNodup (s : Store) : Prop := (s.attempts.map (·.key)).Nodup

theorem KeysNodup.eq_of_key (hs : s.KeysNodup) {r' : AttemptRow} (hr : r ∈ s.attempts)
    (hr' : r' ∈ s.attempts) (h : r.key = r'.key) : r = r' :=
  inj_on_of_nodup_map hs hr hr' h

theorem findAttempt_eq_some (h : s.findAttempt key = some r) : r ∈ s.attempts ∧ r.key = key := by
  refine ⟨mem_of_find?_eq_some h, ?_⟩
  simpa using find?_some h

theorem KeysNodup.findAttempt (hs : s.KeysNodup) (hr : r ∈ s.attempts) :
    s.findAttempt r.key = some r :=
  Rows.find?_of_nodup hs hr (by simp)

theorem requireAttempt_eq_ok (h : s.requireAttempt key = .ok r) : s.findAttempt key = some r := by
  simp only [requireAttempt, bind_eq_ok, check_eq_ok] at h
  obtain ⟨_, _, _, h⟩ := h
  cases hfind : s.findAttempt key with
  | none => simp [hfind] at h
  | some row => simpa [hfind] using h

theorem mem_membersOf {m : MemberRow} :
    m ∈ s.membersOf groupId ↔ m ∈ s.members ∧ m.groupId = groupId := by
  simp [membersOf]

theorem mem_groupAttempts {row : LogicalKind × AttemptRow} :
    row ∈ s.groupAttempts groupId ↔ ∃ m ∈ s.members, m.groupId = groupId ∧
      m.logicalKind = row.1 ∧ s.findAttempt m.key = some row.2 := by
  obtain ⟨kind, r⟩ := row
  simp only [groupAttempts, mem_filterMap, mem_membersOf, Option.map_eq_some_iff,
    Prod.mk.injEq]
  constructor
  · rintro ⟨m, ⟨hm, hgroup⟩, r', hr', hkind, rfl⟩
    exact ⟨m, hm, hgroup, hkind, hr'⟩
  · rintro ⟨m, hm, hgroup, hkind, hr⟩
    exact ⟨m, ⟨hm, hgroup⟩, r, hr, hkind, rfl⟩

theorem latestAttempt_eq_some {cellId : String} {latest : AttemptRow}
    (h : s.latestAttempt cellId = some latest) : latest ∈ s.attempts ∧ latest.cellId = cellId ∧
      ∀ r ∈ s.attempts, r.cellId = cellId → r.attempt ≤ latest.attempt := by
  have hmem := argmax_mem h
  simp only [mem_filter, decide_eq_true_eq] at hmem
  refine ⟨hmem.1, hmem.2, fun r hr hcell => ?_⟩
  have hr' : r ∈ s.attempts.filter fun row => decide (row.cellId = cellId) := by
    simp [hr, hcell]
  exact le_of_mem_argmax hr' h

theorem latestAttempt_eq_none {cellId : String} (h : s.latestAttempt cellId = none) :
    ∀ r ∈ s.attempts, r.cellId ≠ cellId := by
  intro r hr hcell
  have hnil := argmax_eq_none.mp h
  have hr' : r ∈ s.attempts.filter fun row => decide (row.cellId = cellId) := by
    simp [hr, hcell]
  rw [hnil] at hr'
  cases hr'

@[simp] theorem updateAttempts_attempts (s : Store) (keys : List AttemptKey)
    (f : AttemptRow → AttemptRow) : (s.updateAttempts keys f).attempts =
      s.attempts.map fun row => if row.key ∈ keys then f row else row := rfl
@[simp] theorem appendAttempt_attempts (s : Store) (row : AttemptRow) :
    (s.appendAttempt row).attempts = s.attempts ++ [row] := rfl

/-! ## Elementary changes -/

/-- Kinds of elementary changes. `settings` covers the tables that hold no
attempt: nodes, stage plan, auxiliary bookkeeping, launch key and events. -/
inductive ChangeKind
  | observe
  | start
  | finish
  | stale
  | adopt
  | materialize
  | legacy
  | enqueue
  | group
  | settings
  | auxStart
  | dispatch
  | envelope
deriving DecidableEq

/-- What an `UPDATE cell_attempts` of each kind does to one row. -/
def RowChange (r r' : AttemptRow) : ChangeKind → Prop
  | .observe => r'.status = r.status ∧ r'.assignedGpuUuids = r.assignedGpuUuids ∧
      r'.failureCode = r.failureCode ∧ r'.retryDecision = r.retryDecision ∧
      r'.gpuSeconds = r.gpuSeconds
  | .start => r.status = .pending ∧ r'.status = .running ∧
      r'.failureCode = r.failureCode ∧ r'.retryDecision = r.retryDecision ∧
      r'.gpuSeconds = r.gpuSeconds
  | .finish => (r.status = .pending ∨ r.status = .running) ∧
      (r'.status ≠ .pending ∧ r'.status ≠ .running) ∧
      (r'.status = .complete → r.status = .running) ∧ r'.assignedGpuUuids = r.assignedGpuUuids
  | .stale => r.status ≠ .running ∧ r'.status = .staleIdentity ∧
      r'.assignedGpuUuids = r.assignedGpuUuids ∧ r'.gpuSeconds = r.gpuSeconds
  | .adopt => r.status = .pending ∧ r'.status = .complete
  | _ => False

/-- What `_materialize_attempt_locked` requires of the row it inserts. -/
structure Materializes (rows : List AttemptRow) (row : AttemptRow) : Prop where
  pending : row.status = .pending
  uncharged : row.gpuSeconds = 0
  attempt_pos : 0 < row.attempt
  fresh : ∀ r ∈ rows, r.key ≠ row.key ∧ r.outputDirectory ≠ row.outputDirectory
  next : (row.attempt = 1 ∧ ∀ r ∈ rows, r.cellId ≠ row.cellId) ∨
    ∃ latest ∈ rows, latest.cellId = row.cellId ∧
      (∀ r ∈ rows, r.cellId = row.cellId → r.attempt ≤ latest.attempt) ∧
      row.attempt = latest.attempt + 1 ∧
      (latest.status = .failed ∨ latest.status = .blocked ∨ latest.status = .staleIdentity) ∧
      (latest.stage = row.stage ∧ latest.phase = row.phase ∧ latest.blockId = row.blockId ∧
        latest.seed = row.seed ∧ latest.scientificAxes = row.scientificAxes) ∧
      (latest.status = .failed ∨ latest.status = .blocked →
        latest.identity = row.identity ∧
          latest.scientificCommandSha256 = row.scientificCommandSha256)

/-- The tables of attempts, commands and physical groups are the same. -/
structure SameLedger (s s' : Store) : Prop where
  attempts : s'.attempts = s.attempts
  queue : s'.queue = s.queue
  groups : s'.groups = s.groups
  members : s'.members = s.members

/-- The values that only their own operations change. -/
structure SameControl (s s' : Store) : Prop where
  dispatchState : s'.dispatchState = s.dispatchState
  envelope : s'.envelope = s.envelope
  running : ∀ row' ∈ s'.auxGroups, row'.status = .running → ∃ row ∈ s.auxGroups,
    row.status = .running ∧ row.groupId = row'.groupId ∧ row.attempt = row'.attempt ∧
      row.assignedGpuUuids = row'.assignedGpuUuids

inductive Change : ChangeKind → Store → Store → Prop
  | rows {kind : ChangeKind} {s : Store} (keys : List AttemptKey) (f : AttemptRow → AttemptRow)
      (hspec : ∀ r, AttemptRow.SameSpec r (f r))
      (hrow : ∀ r ∈ s.attempts, r.key ∈ keys → RowChange r (f r) kind) :
      Change kind s (s.updateAttempts keys f)
  | materialize {s : Store} (row : AttemptRow) (hrow : Materializes s.attempts row) :
      Change .materialize s (s.appendAttempt row)
  | legacy {s : Store} (item : LegacyStaleAttempt) (now : Int)
      (fresh : ∀ r ∈ s.attempts, r.key ≠ (AttemptRow.ofLegacy item now).key) :
      Change .legacy s (s.appendAttempt (AttemptRow.ofLegacy item now))
  | enqueue {s : Store} (command : QueuedCommandSpec)
      (hrow : ∃ r ∈ s.attempts, r.key = command.key ∧ r.status = .pending)
      (fresh : ∀ q ∈ s.queue, q.key ≠ command.key) :
      Change .enqueue s (s.appendCommand command)
  | insertGroup {s : Store} (group : GroupRow) (hpending : group.status = .pending)
      (fresh : ∀ g ∈ s.groups, g.groupId ≠ group.groupId) :
      Change .group s (s.appendGroup group)
  | insertMember {s : Store} (member : MemberRow) (fresh : ∀ m ∈ s.members, m.key ≠ member.key)
      (hrow : ∃ r ∈ s.attempts, r.key = member.key ∧ r.status = .pending)
      (hgroup : ∃ g ∈ s.groups, g.groupId = member.groupId ∧ g.status = .pending) :
      Change .group s (s.appendMember member)
  | groupStart {s : Store} (groupId : String) (f : GroupRow → GroupRow)
      (hf : ∀ g, (f g).groupId = g.groupId ∧ (f g).leader = g.leader)
      (hpending : ∀ g, s.findGroup groupId = some g → g.status = .pending) :
      Change .start s (s.updateGroup groupId f)
  | groupFinish {s : Store} (groupId : String) (f : GroupRow → GroupRow)
      (hf : ∀ g, (f g).groupId = g.groupId ∧ (f g).leader = g.leader)
      (hstatus : ∀ g, (f g).status ≠ .pending ∧ (f g).status ≠ .running) :
      Change .finish s (s.updateGroup groupId f)
  | settings {s s' : Store} (hledger : SameLedger s s') (hcontrol : SameControl s s') :
      Change .settings s s'
  | auxStart {s s' : Store} (hledger : SameLedger s s')
      (hstate : s'.dispatchState = s.dispatchState) (henvelope : s'.envelope = s.envelope) :
      Change .auxStart s s'
  | dispatch {s s' : Store} (hledger : SameLedger s s') (henvelope : s'.envelope = s.envelope)
      (haux : s'.auxGroups = s.auxGroups) : Change .dispatch s s'
  | envelope {s s' : Store} (hledger : SameLedger s s')
      (hstate : s'.dispatchState = s.dispatchState) (haux : s'.auxGroups = s.auxGroups) :
      Change .envelope s s'

/-- A sequence of changes of the given kinds. -/
inductive Changes (kinds : List ChangeKind) : Store → Store → Prop
  | refl (s : Store) : Changes kinds s s
  | tail {s t u : Store} {kind : ChangeKind} (h : Changes kinds s t) (hkind : kind ∈ kinds)
      (hstep : Change kind t u) : Changes kinds s u

namespace Changes

theorem single {kinds : List ChangeKind} (hkind : kind ∈ kinds) (h : Change kind s t) :
    Changes kinds s t :=
  .tail (.refl s) hkind h

theorem one (h : Change kind s t) : Changes [kind] s t :=
  .single mem_cons_self h

theorem trans {kinds : List ChangeKind} {u : Store} (h : Changes kinds s t)
    (h' : Changes kinds t u) : Changes kinds s u := by
  induction h' with
  | refl => exact h
  | tail _ hkind hstep ih => exact .tail ih hkind hstep

theorem mono {kinds kinds' : List ChangeKind} (hsub : kinds ⊆ kinds') (h : Changes kinds s t) :
    Changes kinds' s t := by
  induction h with
  | refl => exact .refl s
  | tail _ hkind hstep ih => exact .tail ih (hsub hkind) hstep

/-- A property that every change of the given kinds keeps is kept by a
sequence of them. -/
theorem invariant {kinds : List ChangeKind} {P : Store → Prop}
    (hstep : ∀ kind ∈ kinds, ∀ s t, Change kind s t → P s → P t) (h : Changes kinds s t)
    (hs : P s) : P t := by
  induction h with
  | refl => exact hs
  | tail _ hkind hchange ih => exact hstep _ hkind _ _ hchange ih

/-- The same for a preorder on stores. -/
theorem relation {kinds : List ChangeKind} {R : Store → Store → Prop} (hrefl : ∀ s, R s s)
    (htrans : ∀ s t u, R s t → R t u → R s u)
    (hstep : ∀ kind ∈ kinds, ∀ s t, Change kind s t → R s t) (h : Changes kinds s t) : R s t := by
  induction h with
  | refl => exact hrefl _
  | tail _ hkind hchange ih => exact htrans _ _ _ ih (hstep _ hkind _ _ hchange)

end Changes

/-- An update writes no key. -/
theorem updateAttempts_keys (s : Store) (keys : List AttemptKey)
    (hspec : ∀ r, AttemptRow.SameSpec r (f r)) :
    (s.updateAttempts keys f).attempts.map (·.key) = s.attempts.map (·.key) := by
  rw [updateAttempts_attempts, map_map]
  apply map_congr_left
  intro r _
  by_cases hr : r.key ∈ keys
  · simp [hr, AttemptRow.key_eq_of_spec (hspec r).spec]
  · simp [hr]

/-- Primary keys stay distinct. -/
theorem Change.keysNodup (h : Change kind s t) (hs : s.KeysNodup) : t.KeysNodup := by
  cases h with
  | rows keys f hspec _ =>
    unfold KeysNodup
    rw [updateAttempts_keys s keys hspec]
    exact hs
  | materialize row hrow =>
    have hfresh : row.key ∉ s.attempts.map (·.key) := by
      intro hmem
      obtain ⟨r, hr, hkey⟩ := mem_map.mp hmem
      exact (hrow.fresh r hr).1 hkey
    simpa [KeysNodup, nodup_append] using ⟨hs, fun r hr hkey =>
      hfresh (mem_map.mpr ⟨r, hr, hkey⟩)⟩
  | legacy item now fresh =>
    simpa [KeysNodup, nodup_append] using ⟨hs, fun r hr hkey => fresh r hr hkey⟩
  | settings hledger _ => simpa [KeysNodup, hledger.attempts] using hs
  | auxStart hledger _ _ => simpa [KeysNodup, hledger.attempts] using hs
  | dispatch hledger _ _ => simpa [KeysNodup, hledger.attempts] using hs
  | envelope hledger _ _ => simpa [KeysNodup, hledger.attempts] using hs
  | enqueue | insertGroup | insertMember | groupStart | groupFinish => exact hs

theorem Changes.keysNodup {kinds : List ChangeKind} (h : Changes kinds s t) (hs : s.KeysNodup) :
    t.KeysNodup :=
  h.invariant (fun _ _ _ _ hstep => hstep.keysNodup) hs

/-! ## Operations as changes -/

theorem materializeAttemptLocked_change {spec : CellAttemptSpec}
    (h : s.materializeAttemptLocked spec now = .ok s') :
    Materializes s.attempts (AttemptRow.ofSpec spec.val now) ∧
      s' = s.appendAttempt (AttemptRow.ofSpec spec.val now) := by
  simp only [materializeAttemptLocked, insertAttempt, bind_eq_ok, check_eq_ok, pure_eq_ok] at h
  obtain ⟨_, _, hnext, hfresh, rfl⟩ := h
  refine ⟨⟨rfl, rfl, spec.attempt_pos, hfresh, ?_⟩, rfl⟩
  unfold checkPredecessor at hnext
  cases hlatest : s.latestAttempt spec.val.cellId with
  | none =>
    simp only [hlatest, checkFirstAttempt, bind_eq_ok, check_eq_ok] at hnext
    exact .inl ⟨hnext.1, latestAttempt_eq_none hlatest⟩
  | some latest =>
    simp only [hlatest, checkRetry, bind_eq_ok, check_eq_ok] at hnext
    obtain ⟨hattempt, hstatus, hstable, hidentity, _⟩ := hnext
    obtain ⟨hmem, hcell, hmax⟩ := latestAttempt_eq_some hlatest
    refine .inr ⟨latest, hmem, hcell, hmax, hattempt, hstatus, hstable, ?_⟩
    intro hfailed
    by_contra hne
    exact hidentity ⟨hfailed, not_and_or.mp hne⟩

theorem enqueueCommandLocked_change {command : QueuedCommandSpec}
    (h : s.enqueueCommandLocked command = .ok s') :
    (∃ r ∈ s.attempts, r.key = command.key ∧ r.status = .pending ∧
      r.commandSha256 = command.val.commandSha256) ∧
      (∀ q ∈ s.queue, q.key ≠ command.key) ∧ s' = s.appendCommand command := by
  simp only [enqueueCommandLocked, bind_eq_ok, check_eq_ok, pure_eq_ok] at h
  obtain ⟨row, hrow, hpending, hdigest, hfresh, rfl⟩ := h
  obtain ⟨hmem, hkey⟩ := findAttempt_eq_some (requireAttempt_eq_ok hrow)
  exact ⟨⟨row, hmem, hkey, hpending, hdigest⟩, hfresh, rfl⟩

theorem materializeMembers_changes (h : s.materializeMembers now members = .ok s') :
    Changes [.materialize] s s' ∧ s'.groups = s.groups ∧ s'.members = s.members ∧
      s'.attempts = s.attempts ++ members.map fun m => AttemptRow.ofSpec m.attempt.val now := by
  induction members generalizing s with
  | nil =>
    simp only [materializeMembers, pure_eq_ok] at h
    subst h
    exact ⟨.refl s, rfl, rfl, by simp⟩
  | cons member rest ih =>
    simp only [materializeMembers, bind_eq_ok] at h
    obtain ⟨mid, hmid, h⟩ := h
    obtain ⟨hrow, rfl⟩ := materializeAttemptLocked_change hmid
    obtain ⟨hchanges, hgroups, hmembers, hattempts⟩ := ih h
    refine ⟨(Changes.single (by simp) (.materialize _ hrow)).trans hchanges, hgroups,
      hmembers, ?_⟩
    rw [hattempts]
    simp

theorem insertMembers_changes {ordinal : Nat} (h : s.insertMembers groupId ordinal members = .ok s')
    (hrows : ∀ m ∈ members, ∃ r ∈ s.attempts, r.key = m.attempt.key ∧ r.status = .pending)
    (hgroup : ∃ g ∈ s.groups, g.groupId = groupId ∧ g.status = .pending) :
    Changes [.group, .enqueue] s s' := by
  induction members generalizing s ordinal with
  | nil =>
    simp only [insertMembers, pure_eq_ok] at h
    subst h
    exact .refl s
  | cons member rest ih =>
    simp only [insertMembers, bind_eq_ok, check_eq_ok] at h
    obtain ⟨hfresh, mid, hmid, h⟩ := h
    obtain ⟨⟨r, hr, hkey, hpending, _⟩, hqueue, rfl⟩ := enqueueCommandLocked_change hmid
    have hfirst : Changes [.group, .enqueue] s _ := Changes.single (by simp)
      (.insertMember ⟨groupId, member.attempt.key, member.logicalKind, ordinal⟩ hfresh
        (hrows member (by simp)) hgroup)
    have hsecond := hfirst.tail (by simp) (.enqueue member.command ⟨r, hr, hkey, hpending⟩ hqueue)
    exact hsecond.trans (ih h (fun m hm => hrows m (by simp [hm])) hgroup)

/-- A group is registered already, or its attempts are materialised before its
rows and commands are inserted. -/
theorem materializePhysicalAttemptGroup_parts {leader : String} {kind : PhysicalGroupKind}
    (h : s.materializePhysicalAttemptGroup groupId members leader kind now = .ok s') :
    s' = s ∨ ∃ mid, s.materializeMembers now members = .ok mid ∧
      Changes [.group, .enqueue] mid s' := by
  simp only [materializePhysicalAttemptGroup, bind_eq_ok] at h
  obtain ⟨_, _, _, _, _, _, _, _, h⟩ := h
  cases hfind : s.findGroup groupId with
  | some existing =>
    simp only [hfind, bind_eq_ok, pure_eq_ok] at h
    obtain ⟨_, _, rfl⟩ := h
    exact .inl rfl
  | none =>
    simp only [hfind, bind_eq_ok] at h
    obtain ⟨mid, hmid, h⟩ := h
    obtain ⟨_, hgroups, _, hattempts⟩ := materializeMembers_changes hmid
    have hnone : ∀ g ∈ mid.groups, g.groupId ≠ groupId := by
      rw [hgroups]
      intro g hg heq
      have := find?_eq_none.mp hfind g hg
      simp [heq] at this
    have hinsert := Change.insertGroup (s := mid)
      { groupId := groupId,
        leader := ⟨leader, (members.head?.map (·.attempt.val.attempt)).getD 0⟩ } rfl hnone
    have hrows : ∀ m ∈ members, ∃ r ∈ mid.attempts, r.key = m.attempt.key ∧
        r.status = .pending := by
      intro m hm
      refine ⟨AttemptRow.ofSpec m.attempt.val now, ?_, rfl, rfl⟩
      rw [hattempts]
      exact mem_append_right _ (mem_map.mpr ⟨m, hm, rfl⟩)
    have hlast := insertMembers_changes h hrows
      ⟨_, mem_append_right _ (mem_singleton.mpr rfl), rfl, rfl⟩
    exact .inr ⟨mid, hmid, (Changes.single (by simp) hinsert).trans hlast⟩

theorem materializePhysicalAttemptGroup_changes {leader : String} {kind : PhysicalGroupKind}
    (h : s.materializePhysicalAttemptGroup groupId members leader kind now = .ok s') :
    Changes [.materialize, .group, .enqueue] s s' := by
  rcases materializePhysicalAttemptGroup_parts h with rfl | ⟨mid, hmid, hlast⟩
  · exact .refl _
  · exact ((materializeMembers_changes hmid).1.mono (by simp)).trans (hlast.mono (by simp))

theorem importLegacyLoop_cons {item : LegacyStaleAttempt} {rest : List LegacyStaleAttempt}
    (h : s.importLegacyLoop now (item :: rest) = .ok s') :
    (s.planFor item.spec.val.stage item.spec.val.phase).isSome ∧
      (∀ r ∈ s.attempts, r.key ≠ (AttemptRow.ofLegacy item now).key) ∧
        (s.appendAttempt (.ofLegacy item now)).importLegacyLoop now rest = .ok s' := by
  simp only [importLegacyLoop, insertAttempt, bind_eq_ok, check_eq_ok, pure_eq_ok] at h
  obtain ⟨hplanned, _, ⟨hfresh, rfl⟩, hrest⟩ := h
  exact ⟨hplanned, fun r hr => (hfresh r hr).1, hrest⟩

theorem importLegacyLoop_changes {items : List LegacyStaleAttempt}
    (h : s.importLegacyLoop now items = .ok s') : Changes [.legacy] s s' := by
  induction items generalizing s with
  | nil =>
    cases h
    exact .refl _
  | cons item rest ih =>
    obtain ⟨-, hfresh, h⟩ := importLegacyLoop_cons h
    exact (Changes.one (.legacy item now hfresh)).trans (ih h)

/-! ### Updates of existing rows -/

/-- An update of the row that `_require_attempt` returned. -/
theorem Change.row (hs : s.KeysNodup) {row : AttemptRow} (hrow : s.requireAttempt key = .ok row)
    (hspec : ∀ r, AttemptRow.SameSpec r (f r)) (h : RowChange row (f row) kind) :
    Change kind s (s.updateAttempts [key] f) := by
  obtain ⟨hmem, hkey⟩ := findAttempt_eq_some (requireAttempt_eq_ok hrow)
  refine .rows [key] f hspec fun r hr hr' => ?_
  have heq : r = row := hs.eq_of_key hr hmem (by rw [hkey]; simpa using hr')
  rw [heq]
  exact h

/-- An update of rows that were fetched from the attempt table. -/
theorem Change.fetched (hs : s.KeysNodup) {rows : List AttemptRow}
    (hrows : ∀ row ∈ rows, row ∈ s.attempts) (hspec : ∀ r, AttemptRow.SameSpec r (f r))
    (h : ∀ row ∈ rows, RowChange row (f row) kind) :
    Change kind s (s.updateAttempts (rows.map (·.key)) f) := by
  refine .rows _ f hspec fun r hr hr' => ?_
  obtain ⟨row, hmem, hkey⟩ := mem_map.mp hr'
  rw [hs.eq_of_key hr (hrows row hmem) hkey.symm]
  exact h row hmem

/-- An update of the rows of a group. -/
theorem Change.groupRows (hs : s.KeysNodup) (hspec : ∀ r, AttemptRow.SameSpec r (f r))
    (h : ∀ row ∈ s.groupAttempts groupId, RowChange row.2 (f row.2) kind) :
    Change kind s (s.updateAttempts ((s.groupAttempts groupId).map (·.2.key)) f) := by
  have hmap : (s.groupAttempts groupId).map (·.2.key) =
      ((s.groupAttempts groupId).map (·.2)).map (·.key) := by simp
  rw [hmap]
  refine Change.fetched hs ?_ hspec ?_
  · intro row hrow
    obtain ⟨pair, hpair, rfl⟩ := mem_map.mp hrow
    obtain ⟨m, _, _, _, hfind⟩ := mem_groupAttempts.mp hpair
    exact (findAttempt_eq_some hfind).1
  · intro row hrow
    obtain ⟨pair, hpair, rfl⟩ := mem_map.mp hrow
    exact h pair hpair

end Store

namespace AttemptRow

theorem SameSpec.refl (r : AttemptRow) : r.SameSpec r := ⟨rfl, rfl⟩

theorem sameSpec_start (r : AttemptRow) (gpus : List String) (started : Int) :
    r.SameSpec (r.start gpus started) := ⟨rfl, rfl⟩

theorem sameSpec_finish (r : AttemptRow) (args : FinishArgs) : r.SameSpec (r.finish args) :=
  ⟨rfl, rfl⟩

theorem sameSpec_markStale (r : AttemptRow) (reason decision : String) (marked : Int) :
    r.SameSpec (r.markStale reason decision marked) := ⟨rfl, rfl⟩

theorem sameSpec_failInfrastructure (r : AttemptRow) (code decision reason : String)
    (evidence : EvidenceFiles) (time : GpuSeconds) (finished : Int) :
    r.SameSpec (r.failInfrastructure code decision reason evidence time finished) := ⟨rfl, rfl⟩

/-- The row functions of process metadata, heartbeats, observations and
termination bookkeeping change none of the columns a lease depends on. -/
structure Observes (f : AttemptRow → AttemptRow) : Prop where
  spec : ∀ r, AttemptRow.SameSpec r (f r)
  row : ∀ r, Store.RowChange r (f r) .observe

theorem observes_attach (pid pgid : Nat) (receipt : Option Digest) (now : Int) :
    Observes fun r => r.attach pid pgid receipt now := by
  constructor <;> intro r <;> unfold attach <;> split
  · split <;> exact ⟨rfl, rfl⟩
  · exact ⟨rfl, rfl⟩
  · split <;> simp [Store.RowChange]
  · simp [Store.RowChange]

theorem observes_observeLog (logSize observed : Int) :
    Observes fun r => r.observeLog logSize observed :=
  ⟨fun _ => ⟨rfl, rfl⟩, fun _ => ⟨rfl, rfl, rfl, rfl, rfl⟩⟩

theorem observes_heartbeat (logSize observed : Int) (sequence : Option Nat) :
    Observes fun r => r.heartbeat logSize observed sequence :=
  ⟨fun _ => ⟨rfl, rfl⟩, fun _ => ⟨rfl, rfl, rfl, rfl, rfl⟩⟩

theorem observes_requestTermination (reason : String) (requested : Int) :
    Observes fun r => r.requestTermination reason requested := by
  constructor <;> intro r <;> unfold requestTermination <;> split
  · exact ⟨rfl, rfl⟩
  · exact ⟨rfl, rfl⟩
  · simp [Store.RowChange]
  · simp [Store.RowChange]

theorem observes_recordSignal (signal : SignalName) (sent : Int) :
    Observes fun r => r.recordSignal signal sent := by
  refine ⟨fun r => ?_, fun r => ?_⟩
  · unfold recordSignal
    cases signal <;> dsimp only <;> split <;> exact ⟨rfl, rfl⟩
  · unfold recordSignal
    cases signal <;> dsimp only <;> split <;> exact ⟨rfl, rfl, rfl, rfl, rfl⟩

end AttemptRow

namespace Store

theorem leaseRows_subset {row : AttemptRow} (hrow : row ∈ s.attempts) (h : r ∈ s.leaseRows row) :
    r ∈ s.attempts := by
  unfold leaseRows at h
  split at h
  · rw [mem_singleton.mp h]
    exact hrow
  · split at h
    · rw [mem_singleton.mp h]
      exact hrow
    · obtain ⟨pair, hpair, rfl⟩ := mem_map.mp h
      obtain ⟨m, _, _, _, hfind⟩ := mem_groupAttempts.mp hpair
      exact (findAttempt_eq_some hfind).1

theorem startPhysicalAttemptGroup_eq_ok {gpus : List String}
    (h : s.startPhysicalAttemptGroup groupId gpus started = .ok s') :
    (∃ group, s.findGroup groupId = some group ∧ group.status = .pending) ∧
      (∀ row ∈ s.groupAttempts groupId, row.2.status = .pending) ∧
      s' = (s.updateAttempts ((s.groupAttempts groupId).map (·.2.key))
        fun r => r.start gpus started).updateGroup groupId
          fun g => { g with status := .running } := by
  simp only [startPhysicalAttemptGroup, bind_eq_ok] at h
  obtain ⟨_, _, _, _, _, _, h⟩ := h
  cases hfind : s.findGroup groupId with
  | none => simp [hfind] at h
  | some group =>
    simp only [hfind, bind_eq_ok, check_eq_ok, pure_eq_ok] at h
    obtain ⟨hstatus, _, _, hpending, _, _, _, rfl⟩ := h
    exact ⟨⟨group, rfl, hstatus⟩, hpending, rfl⟩

section

variable (hs : s.KeysNodup)

include hs

theorem attachProcess_change {receipt : Option Digest}
    (h : s.attachProcess key pid pgid receipt now = .ok s') : Change .observe s s' := by
  simp only [attachProcess, bind_eq_ok, require_eq_ok, exists_const, pure_eq_ok,
    validatedTime_eq_ok] at h
  obtain ⟨_, _, _, row, hrow, _, _, _, rfl⟩ := h
  have hf := AttemptRow.observes_attach pid pgid receipt now
  exact Change.row hs hrow hf.spec (hf.row row)

theorem attachPhysicalAttemptGroupProcess_change {receipt : Option Digest}
    (h : s.attachPhysicalAttemptGroupProcess groupId pid pgid receipt now = .ok s') :
    Change .observe s s' := by
  simp only [attachPhysicalAttemptGroupProcess, bind_eq_ok, require_eq_ok, exists_const, pure_eq_ok,
    validatedTime_eq_ok] at h
  obtain ⟨_, _, _, _, _, _, _, _, _, _, _, rfl⟩ := h
  have hf := AttemptRow.observes_attach pid pgid receipt now
  exact Change.groupRows hs hf.spec fun row _ => hf.row row.2

theorem recordHeartbeat_change {sequence : Option Nat}
    (h : s.recordHeartbeat key pid pgid logSize gpu observed sequence = .ok s') :
    Change .observe s s' := by
  simp only [recordHeartbeat, bind_eq_ok, require_eq_ok, exists_const, pure_eq_ok,
    validatedTime_eq_ok] at h
  obtain ⟨_, _, _, row, hrow, _, _, _, _, rfl⟩ := h
  have hf := AttemptRow.observes_heartbeat logSize observed sequence
  exact Change.row hs hrow hf.spec (hf.row row)

theorem recordPhysicalAttemptGroupHeartbeat_change {sequence : Option Nat}
    (h : s.recordPhysicalAttemptGroupHeartbeat groupId pid pgid logSize gpu observed sequence = .ok s') :
    Change .observe s s' := by
  simp only [recordPhysicalAttemptGroupHeartbeat, bind_eq_ok, require_eq_ok, exists_const,
    pure_eq_ok,
    validatedTime_eq_ok] at h
  obtain ⟨_, _, _, _, _, _, _, _, _, rfl⟩ := h
  have hf := AttemptRow.observes_heartbeat logSize observed sequence
  exact Change.groupRows hs hf.spec fun row _ => hf.row row.2

theorem recordRuntimeObservation_change
    (h : s.recordRuntimeObservation key pid pgid logSize gpu observed = .ok s') :
    Change .observe s s' := by
  simp only [recordRuntimeObservation, bind_eq_ok, require_eq_ok, exists_const, pure_eq_ok,
    validatedTime_eq_ok] at h
  obtain ⟨_, _, _, row, hrow, _, _, rfl⟩ := h
  have hf := AttemptRow.observes_observeLog logSize observed
  exact Change.row hs hrow hf.spec (hf.row row)

theorem recordPhysicalAttemptGroupRuntimeObservation_change
    (h : s.recordPhysicalAttemptGroupRuntimeObservation groupId pid pgid logSize gpu observed = .ok s') :
    Change .observe s s' := by
  simp only [recordPhysicalAttemptGroupRuntimeObservation, bind_eq_ok, require_eq_ok, exists_const,
    pure_eq_ok,
    validatedTime_eq_ok] at h
  obtain ⟨_, _, _, _, _, _, _, _, _, rfl⟩ := h
  have hf := AttemptRow.observes_observeLog logSize observed
  exact Change.groupRows hs hf.spec fun row _ => hf.row row.2

theorem requestAttemptTermination_change {requested : Int}
    (h : s.requestAttemptTermination key reason requested = .ok s') : Change .observe s s' := by
  simp only [requestAttemptTermination, bind_eq_ok, require_eq_ok, exists_const, pure_eq_ok,
    validatedTime_eq_ok] at h
  obtain ⟨_, _, _, row, hrow, _, _, _, rfl⟩ := h
  have hf := AttemptRow.observes_requestTermination reason requested
  have hmem := (findAttempt_eq_some (requireAttempt_eq_ok hrow)).1
  exact Change.fetched hs (fun r hr => leaseRows_subset hmem hr) hf.spec fun r _ => hf.row r

theorem recordAttemptTerminationSignal_change {signal : SignalName} {sent : Int}
    (h : s.recordAttemptTerminationSignal key signal sent = .ok s') : Change .observe s s' := by
  simp only [recordAttemptTerminationSignal, bind_eq_ok, require_eq_ok, exists_const, pure_eq_ok,
    validatedTime_eq_ok] at h
  obtain ⟨_, row, hrow, _, _, _, rfl⟩ := h
  have hf := AttemptRow.observes_recordSignal signal sent
  have hmem := (findAttempt_eq_some (requireAttempt_eq_ok hrow)).1
  exact Change.fetched hs (fun r hr => leaseRows_subset hmem hr) hf.spec fun r _ => hf.row r

/-! ### Starts and terminal transitions -/

theorem markRunningBeforeSpawn_change {gpus : List String}
    (h : s.markRunningBeforeSpawn key gpus started = .ok s') : Change .start s s' := by
  simp only [markRunningBeforeSpawn, bind_eq_ok, check_eq_ok, pure_eq_ok] at h
  obtain ⟨_, _, _, _, row, hrow, hpending, _, _, rfl⟩ := h
  exact Change.row hs hrow (fun _ => ⟨rfl, rfl⟩) ⟨hpending, rfl, rfl, rfl, rfl⟩

theorem startPhysicalAttemptGroup_changes {gpus : List String}
    (h : s.startPhysicalAttemptGroup groupId gpus started = .ok s') : Changes [.start] s s' := by
  obtain ⟨⟨group, hfind, hgroup⟩, hpending, rfl⟩ := startPhysicalAttemptGroup_eq_ok h
  have hrows : Change .start s _ := Change.groupRows hs (fun r => r.sameSpec_start gpus started)
    fun row hrow => ⟨hpending row hrow, rfl, rfl, rfl, rfl⟩
  refine (Changes.one hrows).tail (by simp)
    (.groupStart groupId _ (fun _ => ⟨rfl, rfl⟩) fun g hg => ?_)
  have hsame : some group = some g := hfind.symm.trans hg
  cases hsame
  exact hgroup

end

/-- The arguments of `finish_attempt` name a terminal status. -/
theorem status_of_checks {args : FinishArgs} (h : requireAll args.checks = .ok ()) :
    args.status ≠ .pending ∧ args.status ≠ .running := by
  have hcheck := requireAll_eq_ok.mp h (args.status != .pending && args.status != .running,
    valueError "finish status must be terminal") (by simp [FinishArgs.checks])
  simpa using hcheck

theorem finishAttempt_change (hs : s.KeysNodup) {args : FinishArgs}
    (h : s.finishAttempt key args = .ok s') : Change .finish s s' := by
  simp only [finishAttempt, bind_eq_ok, check_eq_ok, pure_eq_ok] at h
  obtain ⟨_, hchecks, _, _, row, hrow, hactive, hcomplete, _, _, rfl⟩ := h
  exact Change.row hs hrow (fun r => r.sameSpec_finish args)
    ⟨hactive, status_of_checks hchecks, hcomplete, rfl⟩

theorem TerminalStatus.attemptStatus_terminal (status : TerminalStatus) :
    status.attemptStatus ≠ .pending ∧ status.attemptStatus ≠ .running := by
  cases status <;> simp [TerminalStatus.attemptStatus]

theorem terminalFor_isSome {cell : String} (h : cell ∈ terminals.map (·.1)) :
    ∃ t, terminalFor terminals cell = some t := by
  obtain ⟨entry, hentry, hcell⟩ := mem_map.mp h
  cases hfind : terminals.find? fun entry => entry.1 = cell with
  | none =>
    have := find?_eq_none.mp hfind entry hentry
    simp [hcell] at this
  | some found => exact ⟨found.2, by simp [terminalFor, hfind]⟩

def finishMember (kind : PhysicalGroupKind) (automatic : Bool)
    (terminals : List (String × TerminalEvidence)) (leader : AttemptKey) (time : GpuSeconds)
    (finished : Int) (r : AttemptRow) : AttemptRow :=
  match terminalFor terminals r.cellId with
  | some t => r.finish (groupFinishArgs kind automatic t.val (ownerCharge leader time r) finished)
  | none => r

theorem sameSpec_finishMember (kind : PhysicalGroupKind) (automatic : Bool)
    (terminals : List (String × TerminalEvidence)) (leader : AttemptKey) (time : GpuSeconds)
    (finished : Int) (r : AttemptRow) :
    r.SameSpec (finishMember kind automatic terminals leader time finished r) := by
  unfold finishMember
  split
  · exact r.sameSpec_finish _
  · exact .refl r

/-- A successful `finish_physical_attempt_group`. -/
theorem finishPhysicalAttemptGroup_eq_ok
    (h : s.finishPhysicalAttemptGroup groupId terminals automatic finished = .ok s') :
    ∃ group kind, s.findGroup groupId = some group ∧ group.status = .running ∧
      physicalAttemptGroupKind ((s.groupAttempts groupId).map (·.1)) = .ok kind ∧
      (∀ row ∈ s.groupAttempts groupId, row.2.cellId ∈ terminals.map (·.1) ∧
        row.2.status = .running) ∧
      ∃ status shared, status ≠ GroupStatus.pending ∧ status ≠ GroupStatus.running ∧
        s' = (s.updateAttempts ((s.groupAttempts groupId).map (·.2.key))
          (finishMember kind automatic terminals group.leader
            (evidenceGpuSeconds (s.groupAttempts groupId) ((s.groupAttempts groupId).filterMap
              fun row => terminalFor terminals row.2.cellId)) finished)).updateGroup groupId
            fun g => { g with status := status, sharedEvidenceSha256 := shared } := by
  simp only [finishPhysicalAttemptGroup, bind_eq_ok] at h
  obtain ⟨_, _, _, _, h⟩ := h
  cases hfind : s.findGroup groupId with
  | none => simp [hfind] at h
  | some group =>
    simp only [hfind, bind_eq_ok, check_eq_ok, pure_eq_ok] at h
    obtain ⟨hstatus, kind, hkind, hcover, hrunning, _, _, _, _, rfl⟩ := h
    refine ⟨group, kind, rfl, hstatus, hkind, fun row hrow => ⟨?_, hrunning row hrow⟩, _, _,
      ?_, ?_, rfl⟩
    · exact hcover.2 _ (mem_map.mpr ⟨row, hrow, rfl⟩)
    · split <;> simp
    · split <;> simp

/-- All rows of a group finish and then the group does. -/
theorem Changes.finishGroup (hs : s.KeysNodup) {g : GroupRow → GroupRow}
    (hspec : ∀ r, AttemptRow.SameSpec r (f r))
    (h : ∀ row ∈ s.groupAttempts groupId, RowChange row.2 (f row.2) .finish)
    (hg : ∀ x, (g x).groupId = x.groupId ∧ (g x).leader = x.leader)
    (hstatus : ∀ x, (g x).status ≠ .pending ∧ (g x).status ≠ .running) : Changes [.finish] s
      ((s.updateAttempts ((s.groupAttempts groupId).map (·.2.key)) f).updateGroup groupId g) := by
  have hrows : Change .finish s _ := Change.groupRows hs hspec h
  exact (Changes.one hrows).tail (by simp) (.groupFinish groupId g hg hstatus)

theorem finishPhysicalAttemptGroup_changes (hs : s.KeysNodup)
    (h : s.finishPhysicalAttemptGroup groupId terminals automatic finished = .ok s') :
    Changes [.finish] s s' := by
  obtain ⟨group, kind, _, _, _, hrows, status, shared, hpending, hrunning, rfl⟩ :=
    finishPhysicalAttemptGroup_eq_ok h
  refine Changes.finishGroup hs
    (sameSpec_finishMember kind automatic terminals group.leader _ finished) ?_
    (fun _ => ⟨rfl, rfl⟩) fun _ => ⟨hpending, hrunning⟩
  intro row hrow
  obtain ⟨hcell, hstatus⟩ := hrows row hrow
  obtain ⟨t, ht⟩ := terminalFor_isSome hcell
  have hterminal := TerminalStatus.attemptStatus_terminal t.val.status
  simp only [finishMember, ht]
  exact ⟨.inr hstatus, hterminal, fun _ => hstatus, rfl⟩

/-- A successful failure of a whole group. -/
theorem failGroup_eq_ok {statusError rowsError : String}
    {charge : GroupRow → List (LogicalKind × AttemptRow) → Except Error GpuSeconds}
    {update : String → GpuSeconds → AttemptRow → AttemptRow}
    (h : s.failGroup groupId statusError rowsError automatic charge update = .ok s') :
    ∃ group kind time, s.findGroup groupId = some group ∧ group.status = .running ∧
      physicalAttemptGroupKind ((s.groupAttempts groupId).map (·.1)) = .ok kind ∧
      (∀ row ∈ s.groupAttempts groupId, row.2.status = .running) ∧
      charge group (s.groupAttempts groupId) = .ok time ∧
      s' = (s.updateAttempts ((s.groupAttempts groupId).map (·.2.key)) fun r =>
        update (groupFailureDecision kind automatic) (ownerCharge group.leader time r)
          r).updateGroup groupId fun g => { g with status := .failed } := by
  unfold failGroup at h
  cases hfind : s.findGroup groupId with
  | none => simp [hfind] at h
  | some group =>
    simp only [hfind, bind_eq_ok, check_eq_ok, pure_eq_ok] at h
    obtain ⟨hstatus, kind, hkind, hrunning, time, htime, rfl⟩ := h
    exact ⟨group, kind, time, rfl, hstatus, hkind, hrunning, htime, rfl⟩

theorem failGroup_changes (hs : s.KeysNodup) {statusError rowsError : String}
    {charge : GroupRow → List (LogicalKind × AttemptRow) → Except Error GpuSeconds}
    {update : String → GpuSeconds → AttemptRow → AttemptRow}
    (hspec : ∀ decision time r, AttemptRow.SameSpec r (update decision time r))
    (hrow : ∀ decision time r, r.status = .running → RowChange r (update decision time r) .finish)
    (h : s.failGroup groupId statusError rowsError automatic charge update = .ok s') :
    Changes [.finish] s s' := by
  obtain ⟨group, kind, time, _, _, _, hrunning, _, rfl⟩ := failGroup_eq_ok h
  exact Changes.finishGroup hs (fun r => hspec _ _ r)
    (fun row hmem => hrow _ _ _ (hrunning row hmem)) (fun _ => ⟨rfl, rfl⟩) fun _ => by simp

theorem rowChange_failInfrastructure {code decision : String} {evidence : EvidenceFiles}
    {time : GpuSeconds} (h : r.status = .running) :
    RowChange r (r.failInfrastructure code decision reason evidence time finished) .finish :=
  ⟨.inr h, by simp [AttemptRow.failInfrastructure], fun _ => h, rfl⟩

theorem failPhysicalAttemptGroupSpawn_changes (hs : s.KeysNodup) {exceptionType : String}
    (h : s.failPhysicalAttemptGroupSpawn groupId exceptionType automatic finished = .ok s') :
    Changes [.finish] s s' := by
  simp only [failPhysicalAttemptGroupSpawn, bind_eq_ok] at h
  obtain ⟨_, _, _, _, _, _, h⟩ := h
  refine failGroup_changes hs ?_ ?_ h
  · intro decision time r
    exact r.sameSpec_failInfrastructure ..
  · intro decision time r hr
    exact rowChange_failInfrastructure hr

theorem failPhysicalAttemptGroupInfrastructure_changes (hs : s.KeysNodup)
    {failureCode exclusionReason : String} {evidence : EvidenceFiles}
    (h : s.failPhysicalAttemptGroupInfrastructure groupId failureCode
      exclusionReason evidence automatic finished = .ok s') : Changes [.finish] s s' := by
  simp only [failPhysicalAttemptGroupInfrastructure, bind_eq_ok, check_eq_ok] at h
  obtain ⟨_, _, _, _, _, _, _, _, _, _, _, h⟩ := h
  refine failGroup_changes hs ?_ ?_ h
  · intro decision time r
    exact r.sameSpec_failInfrastructure ..
  · intro decision time r hr
    exact rowChange_failInfrastructure hr

theorem markStaleIdentity_changes (hs : s.KeysNodup) {decision : String} {marked : Int}
    (h : s.markStaleIdentity key reason decision marked = .ok s') : Changes [.stale] s s' := by
  simp only [markStaleIdentity, bind_eq_ok] at h
  obtain ⟨_, _, _, _, _, _, row, hrow, h⟩ := h
  split at h
  · simp only [bind_eq_ok, check_eq_ok, pure_eq_ok] at h
    rw [← h.2]
    exact .refl s
  · simp only [bind_eq_ok, check_eq_ok, pure_eq_ok] at h
    obtain ⟨hrunning, _, rfl⟩ := h
    have hstep : Change .stale s _ := Change.row hs hrow
      (fun r => r.sameSpec_markStale reason decision marked) ⟨hrunning, rfl, rfl, rfl⟩
    exact .one hstep

/-! ### Adoption -/

def adoptionJobs (s : Store) (groupId : String) (groupAttempt : Nat) : List AuxJobRow :=
  sortedBy (fun job => toLex (job.jobId, job.jobAttempt))
    (s.auxJobs.filter fun row => row.groupId = groupId ∧ row.groupAttempt = groupAttempt)

/-- What `adopt_controller_auxiliary_jobs` checks before it looks whether the
group is adopted already. -/
structure Adoptable (s : Store) (node groupId : String) (groupAttempt : Nat)
    (adoptions : List AuxiliaryCellAdoption) (controller : NodeRow) (group : AuxGroupRow) : Prop where
  nodeText : requireText "auxiliary adoption node" node = .ok ()
  groupText : requireText "auxiliary adoption group ID" groupId = .ok ()
  nonempty : adoptions ≠ []
  sorted : keysIncreasing (adoptions.map fun a => ⟨a.jobId, a.jobAttempt⟩)
  cells : (adoptions.map (·.attempt.val.cellId)).Nodup
  foundNode : s.requireControllerNode node = .ok controller
  materialized : controller.state = .materialized
  foundGroup : s.requireAuxGroup groupId groupAttempt = .ok group
  complete : group.node = node ∧ group.status = .complete
  published : group.publication.isSome = true ∧
    controller.auxiliarySources.lookup group.sourceKind = group.publication
  jobs : (s.adoptionJobs groupId groupAttempt).map (fun job => (job.jobId, job.jobAttempt)) =
    adoptions.map fun a => (a.jobId, a.jobAttempt)

/-- The adoption of an adopted group, which is checked and changes nothing. -/
structure AdoptedAs (s : Store) (groupId : String) (groupAttempt : Nat)
    (adoptions : List AuxiliaryCellAdoption) (group : AuxGroupRow) : Prop where
  adopted : group.adoptedAtNs.isSome = true
  mapping : (s.adoptionJobs groupId groupAttempt).map (fun job =>
      (job.adoptionKey, job.adoptedCell)) =
    adoptions.map fun a => (a.adoptionKey, some a.attempt.key)
  durable : ∀ a ∈ adoptions, s.requireAdoptedMatches a = .ok ()

/-- A successful `adopt_controller_auxiliary_jobs`. -/
theorem adoptControllerAuxiliaryJobs_eq_ok {groupAttempt : Nat}
    {adoptions : List AuxiliaryCellAdoption} {adopted : Int}
    (h : s.adoptControllerAuxiliaryJobs node groupId groupAttempt adoptions adopted = .ok s') :
    ∃ controller group, Adoptable s node groupId groupAttempt adoptions controller group ∧
      (AdoptedAs s groupId groupAttempt adoptions group ∧ s' = s ∨
        group.adoptedAtNs = none ∧ ∃ plan mid, s.planOfNode node = some plan ∧
        s.adoptJobs group plan ((s.adoptionJobs groupId groupAttempt).head?.map (·.jobId))
          adoptions adopted (s.adoptionJobs groupId groupAttempt) = .ok mid ∧
        s' = mid.updateAuxGroup groupId groupAttempt fun row =>
          { row with adoptedAtNs := some adopted }) := by
  simp only [adoptControllerAuxiliaryJobs, bind_eq_ok, check_eq_ok] at h
  obtain ⟨_, hnode, _, hgroupId, hne, hsorted, hcells, _, _, controller, hcontroller, hstate, group,
    hgroup, hcomplete, hpublished, hjobs, h⟩ := h
  refine ⟨controller, group, ⟨hnode, hgroupId, hne, hsorted, hcells, hcontroller, hstate, hgroup,
    hcomplete, hpublished, hjobs⟩, ?_⟩
  split at h
  · rename_i hadopted
    simp only [bind_eq_ok, check_eq_ok, pure_eq_ok] at h
    obtain ⟨hmapping, _, hdurable, rfl⟩ := h
    exact .inl ⟨⟨hadopted, hmapping, forEach_eq_ok.mp hdurable⟩, rfl⟩
  · rename_i hopen
    split at h
    · cases h
    · rename_i plan hplan
      simp only [bind_eq_ok, pure_eq_ok] at h
      obtain ⟨mid, hmid, rfl⟩ := h
      exact .inr ⟨by simpa using hopen, plan, mid, hplan, hmid, rfl⟩

/-- One turn of the adoption loop. -/
theorem adoptJobs_cons {group : AuxGroupRow} {plan : PlanRow} {owner : Option String}
    {adoptions : List AuxiliaryCellAdoption} {adopted : Int} {job : AuxJobRow}
    {rest : List AuxJobRow}
    (h : s.adoptJobs group plan owner adoptions adopted (job :: rest) = .ok s') :
    ∃ found mid, (adoptions.find? fun a => a.jobId = job.jobId ∧ a.jobAttempt = job.jobAttempt) =
        some found ∧
      (found.adoptionKey = job.adoptionKey ∧ found.attempt.val.stage = plan.stage ∧
        found.attempt.val.phase = plan.phase) ∧
      s.materializeAttemptLocked found.attempt adopted = .ok mid ∧
      ((mid.updateAttempts [found.attempt.key] fun r =>
          adoptRow r group owner job adopted).bindAdoptedCell job found.attempt.key).adoptJobs
        group plan owner adoptions adopted rest = .ok s' := by
  unfold adoptJobs at h
  split at h
  · cases h
  · rename_i found hfind
    simp only [bind_eq_ok, check_eq_ok] at h
    obtain ⟨⟨hkey, hstage, hphase, _⟩, mid, hmid, h⟩ := h
    exact ⟨found, mid, hfind, ⟨hkey, hstage, hphase⟩, hmid, h⟩

theorem adoptJobs_changes (hs : s.KeysNodup) {group : AuxGroupRow} {plan : PlanRow}
    {owner : Option String} {adoptions : List AuxiliaryCellAdoption} {adopted : Int}
    {jobs : List AuxJobRow} (h : s.adoptJobs group plan owner adoptions adopted jobs = .ok s') :
    Changes [.materialize, .adopt, .settings] s s' := by
  induction jobs generalizing s with
  | nil =>
    simp only [adoptJobs, pure_eq_ok] at h
    subst h
    exact .refl s
  | cons job rest ih =>
    obtain ⟨adoption, mid, _, _, hmid, h⟩ := adoptJobs_cons h
    obtain ⟨hrow, rfl⟩ := materializeAttemptLocked_change hmid
    -- the row that was just inserted is the only one with its key
    have hfirst : Changes [.materialize, .adopt, .settings] s _ :=
      Changes.single (by simp) (.materialize _ hrow)
    have hadopt : Change .adopt _ _ := .rows
      (s := s.appendAttempt (AttemptRow.ofSpec adoption.attempt.val adopted))
      [adoption.attempt.key] (fun r => adoptRow r group owner job adopted) (fun _ => ⟨rfl, rfl⟩) <| by
        intro r hr hkey
        rcases mem_append.mp hr with hr | hr
        · exact absurd (mem_singleton.mp hkey) (hrow.fresh r hr).1
        · rw [mem_singleton.mp hr]
          exact ⟨rfl, rfl⟩
    have hsecond := hfirst.tail (by simp) hadopt
    have hbind (t : Store) : Change .settings t (t.bindAdoptedCell job adoption.attempt.key) :=
      .settings ⟨rfl, rfl, rfl, rfl⟩
        ⟨rfl, rfl, fun row hrow hrunning => ⟨row, hrow, hrunning, rfl, rfl, rfl⟩⟩
    have hthird := hsecond.tail (by simp) (hbind _)
    exact hthird.trans (ih (hthird.keysNodup hs) h)

/-! ### Settings -/

/-- A change outside the attempt, queue and group tables that starts no
auxiliary group. -/
theorem Changes.settings (hledger : SameLedger s s') (hcontrol : SameControl s s') :
    Changes [.settings] s s' :=
  .one (.settings hledger hcontrol)

/-- The same for a change that leaves the auxiliary groups alone. -/
theorem Changes.tables (hledger : SameLedger s s') (hstate : s'.dispatchState = s.dispatchState)
    (henvelope : s'.envelope = s.envelope) (haux : s'.auxGroups = s.auxGroups) :
    Changes [.settings] s s' := by
  refine .settings hledger ⟨hstate, henvelope, ?_⟩
  intro row hrow hrunning
  rw [haux] at hrow
  exact ⟨row, hrow, hrunning, rfl, rfl, rfl⟩

theorem Changes.updateNode (s : Store) (node : String) (f : NodeRow → NodeRow) :
    Changes [.settings] s (s.updateNode node f) :=
  .tables ⟨rfl, rfl, rfl, rfl⟩ rfl rfl rfl

/-- An update of an auxiliary group that does not start it. -/
theorem Changes.updateAuxGroup (s : Store) (groupId : String) (attempt : Nat)
    {f : AuxGroupRow → AuxGroupRow}
    (hf : ∀ row, (f row).groupId = row.groupId ∧ (f row).attempt = row.attempt ∧
      (f row).assignedGpuUuids = row.assignedGpuUuids ∧
      ((f row).status = .running → row.status = .running)) :
    Changes [.settings] s (s.updateAuxGroup groupId attempt f) := by
  refine .settings ⟨rfl, rfl, rfl, rfl⟩ ⟨rfl, rfl, ?_⟩
  intro row' hrow' hrunning
  obtain ⟨row, hrow, rfl⟩ := mem_map.mp hrow'
  refine ⟨row, hrow, ?_⟩
  by_cases hkey : row.groupId = groupId ∧ row.attempt = attempt
  · obtain ⟨hid, hattempt, hgpus, hstatus⟩ := hf row
    rw [if_pos hkey] at hrunning ⊢
    exact ⟨hstatus hrunning, hid.symm, hattempt.symm, hgpus.symm⟩
  · rw [if_neg hkey] at hrunning ⊢
    exact ⟨hrunning, rfl, rfl, rfl⟩

theorem initializeStagePlan_changes {entries : List StagePlanEntry}
    (h : s.initializeStagePlan entries now = .ok s') : Changes [.settings] s s' := by
  simp only [initializeStagePlan, bind_eq_ok, check_eq_ok] at h
  obtain ⟨_, _, _, _, _, _, h⟩ := h
  split at h
  · simp only [bind_eq_ok, check_eq_ok, pure_eq_ok] at h
    rw [← h.2]
    exact .tables ⟨rfl, rfl, rfl, rfl⟩ rfl rfl rfl
  · simp only [bind_eq_ok, check_eq_ok, pure_eq_ok] at h
    rw [← h.2]
    exact .tables ⟨rfl, rfl, rfl, rfl⟩ rfl rfl rfl

theorem updateStageExpectation_changes {formula : String} {known : Nat}
    (h : s.updateStageExpectation node formula known = .ok s') : Changes [.settings] s s' := by
  simp only [updateStageExpectation, bind_eq_ok] at h
  obtain ⟨_, _, _, _, h⟩ := h
  split at h
  · cases h
  · simp only [bind_eq_ok, check_eq_ok, pure_eq_ok] at h
    rw [← h.2]
    exact .tables ⟨rfl, rfl, rfl, rfl⟩ rfl rfl rfl

theorem recordControllerMaterialization_changes {m nm : ArtifactBinding} {cells : List String}
    {sources : List (String × ArtifactBinding)}
    (h : s.recordControllerMaterialization reopen node m nm cells sources recorded = .ok s') :
    Changes [.settings] s s' := by
  simp only [recordControllerMaterialization, bind_eq_ok, check_eq_ok, pure_eq_ok] at h
  obtain ⟨_, _, _, _, _, _, _, _, _, _, _, _, row, _, _, _, _, rfl⟩ := h
  have hplan (plan : List PlanRow) : Changes [.settings] s { s with stagePlan := plan } :=
    .tables ⟨rfl, rfl, rfl, rfl⟩ rfl rfl rfl
  exact (hplan _).trans (Changes.updateNode _ node _)

theorem recordControllerExecutionPlan_changes {source : ArtifactBinding}
    {launch : Option ArtifactBinding}
    (h : s.recordControllerExecutionPlan reopen node source launch recorded = .ok s') :
    Changes [.settings] s s' := by
  simp only [recordControllerExecutionPlan, bind_eq_ok, check_eq_ok, pure_eq_ok] at h
  obtain ⟨_, _, _, _, _, _, _, _, row, _, _, rfl⟩ := h
  exact Changes.updateNode s node _

theorem recordControllerReduction_changes {decision completion : ArtifactBinding}
    (h : s.recordControllerReduction reopen node decision completion recorded = .ok s') :
    Changes [.settings] s s' := by
  simp only [recordControllerReduction, bind_eq_ok, check_eq_ok, pure_eq_ok] at h
  obtain ⟨_, _, _, _, _, _, _, _, _, row, _, _, _, rfl⟩ := h
  exact Changes.updateNode s node _

theorem markControllerBlocked_changes (h : s.markControllerBlocked node reason recorded = .ok s') :
    Changes [.settings] s s' := by
  simp only [markControllerBlocked, bind_eq_ok, check_eq_ok, pure_eq_ok] at h
  obtain ⟨_, _, _, _, _, _, row, _, _, rfl⟩ := h
  exact Changes.updateNode s node _

theorem resumeControllerNode_changes (h : s.resumeControllerNode node reason recorded = .ok s') :
    Changes [.settings] s s' := by
  simp only [resumeControllerNode, bind_eq_ok, check_eq_ok, pure_eq_ok] at h
  obtain ⟨_, _, _, _, _, _, row, _, _, rfl⟩ := h
  exact Changes.updateNode s node _

theorem registerControllerAuxiliaryGroup_changes {spec : AuxiliaryGroupSpec} {registered : Int}
    (h : s.registerControllerAuxiliaryGroup spec registered = .ok s') :
    Changes [.settings] s s' := by
  simp only [registerControllerAuxiliaryGroup, bind_eq_ok, check_eq_ok] at h
  obtain ⟨_, _, controller, _, _, _, h⟩ := h
  split at h
  · simp only [bind_eq_ok, pure_eq_ok] at h
    obtain ⟨_, _, rfl⟩ := h
    exact .refl s
  · simp only [bind_eq_ok, check_eq_ok, pure_eq_ok] at h
    obtain ⟨_, _, _, rfl⟩ := h
    refine .settings ⟨rfl, rfl, rfl, rfl⟩ ⟨rfl, rfl, ?_⟩
    intro row hrow hrunning
    rcases mem_append.mp hrow with hrow | hrow
    · exact ⟨row, hrow, hrunning, rfl, rfl, rfl⟩
    · -- the new group is PENDING
      rw [mem_singleton.mp hrow] at hrunning
      cases hrunning

theorem AuxUpdate.ledger {op : StoreOp} {row : AuxGroupRow} {f : AuxGroupRow → AuxGroupRow}
    (h : AuxUpdate s t op row f) : SameLedger s t := by
  rw [h.result]
  exact ⟨rfl, rfl, rfl, rfl⟩

/-- The updates of an auxiliary group, except its start. -/
theorem auxUpdate_changes {op : StoreOp} (hop : op.updatesAux = true)
    (hstart : ∀ spec started, op ≠ .startControllerAuxiliaryGroup spec started)
    (h : s.apply op = .ok s') : Changes [.settings] s s' := by
  obtain ⟨row, f, hupdate, -⟩ := apply_auxUpdate hop h
  obtain ⟨spec, started, rfl⟩ | hrunning := hupdate.running
  · exact absurd rfl (hstart spec started)
  have hgroup := Changes.updateAuxGroup s row.groupId row.attempt fun g =>
    ⟨(hupdate.keeps g).1, (hupdate.keeps g).2.1, (hupdate.keeps g).2.2.2.2, hrunning g⟩
  rw [hupdate.result]
  exact hgroup.trans (.tables ⟨rfl, rfl, rfl, rfl⟩ rfl rfl rfl)

theorem adoptControllerAuxiliaryJobs_changes (hs : s.KeysNodup) {groupAttempt : Nat}
    {adoptions : List AuxiliaryCellAdoption} {adopted : Int}
    (h : s.adoptControllerAuxiliaryJobs node groupId groupAttempt adoptions adopted = .ok s') :
    Changes [.materialize, .adopt, .settings] s s' := by
  obtain ⟨_, _, _, ⟨_, rfl⟩ | ⟨_, _, mid, _, hmid, rfl⟩⟩ := adoptControllerAuxiliaryJobs_eq_ok h
  · exact .refl s'
  · have hlast := Changes.updateAuxGroup mid groupId groupAttempt
      (f := fun row => { row with adoptedAtNs := some adopted }) fun _ => ⟨rfl, rfl, rfl, id⟩
    exact (adoptJobs_changes hs hmid).trans (hlast.mono (by simp))

/-! ### Control -/

/-- The groups that run after the start of an auxiliary group: those of before,
and the started one on its registered GPUs. -/
theorem startControllerAuxiliaryGroup_change {spec : AuxiliaryGroupSpec}
    (h : s.startControllerAuxiliaryGroup spec started = .ok s') :
    Change .auxStart s s' ∧ SameLedger s s' ∧ ∀ row' ∈ s'.auxGroups, row'.status = .running →
      (row' ∈ s.auxGroups) ∨ ∃ row ∈ s.auxGroups, row.groupId = spec.groupId ∧
        row.attempt = spec.attempt ∧ row'.groupId = row.groupId ∧ row'.attempt = row.attempt ∧
        row'.assignedGpuUuids = row.assignedGpuUuids := by
  simp only [startControllerAuxiliaryGroup, bind_eq_ok, check_eq_ok, pure_eq_ok] at h
  obtain ⟨_, _, _, _, _, rfl⟩ := h
  refine ⟨.auxStart ⟨rfl, rfl, rfl, rfl⟩ rfl rfl, ⟨rfl, rfl, rfl, rfl⟩, ?_⟩
  intro row' hrow' hrunning
  obtain ⟨row, hrow, rfl⟩ := mem_map.mp hrow'
  by_cases hkey : row.groupId = spec.groupId ∧ row.attempt = spec.attempt
  · rw [if_pos hkey]
    exact .inr ⟨row, hrow, hkey.1, hkey.2, rfl, rfl, rfl⟩
  · rw [if_neg hkey]
    exact .inl hrow

theorem setDispatchStop_change {stopped : Int} (h : s.setDispatchStop reason stopped = .ok s') :
    Change .dispatch s s' ∧ s'.dispatchState = .stop := by
  simp only [setDispatchStop, bind_eq_ok] at h
  obtain ⟨_, _, _, _, h⟩ := h
  split at h
  · rename_i hstop
    simp only [pure_eq_ok] at h
    subst h
    exact ⟨.dispatch ⟨rfl, rfl, rfl, rfl⟩ rfl rfl, hstop⟩
  · simp only [pure_eq_ok] at h
    subst h
    exact ⟨.dispatch ⟨rfl, rfl, rfl, rfl⟩ rfl rfl, rfl⟩

theorem clearDispatchStop_change {evidence : Option RecoveryEvidence} {cleared : Int}
    (h : s.clearDispatchStop reason evidence cleared = .ok s') :
    Change .dispatch s s' ∧ s'.dispatchState = .run := by
  simp only [clearDispatchStop, bind_eq_ok] at h
  obtain ⟨_, _, _, _, h⟩ := h
  split at h
  · simp only [bind_eq_ok, check_eq_ok, pure_eq_ok] at h
    obtain ⟨_, _, _, _, _, rfl⟩ := h
    exact ⟨.dispatch ⟨rfl, rfl, rfl, rfl⟩ rfl rfl, rfl⟩
  · cases h

theorem configureInterferenceEnvelope_changes {envelope : InterferenceEnvelope} {configured : Int}
    (h : s.configureInterferenceEnvelope envelope configured = .ok s') :
    Changes [.envelope] s s' := by
  simp only [configureInterferenceEnvelope, bind_eq_ok] at h
  obtain ⟨_, _, h⟩ := h
  split at h
  · simp only [pure_eq_ok] at h
    subst h
    exact .refl s
  · simp only [bind_eq_ok, check_eq_ok, pure_eq_ok] at h
    obtain ⟨_, rfl⟩ := h
    exact .one (.envelope ⟨rfl, rfl, rfl, rfl⟩ rfl rfl)

theorem recordLaunchCompatibilityKey_changes {value : String}
    (h : s.recordLaunchCompatibilityKey value = .ok s') : Changes [.settings] s s' := by
  simp only [recordLaunchCompatibilityKey, bind_eq_ok, pure_eq_ok] at h
  obtain ⟨_, _, rfl⟩ := h
  exact .tables ⟨rfl, rfl, rfl, rfl⟩ rfl rfl rfl

theorem recordWatchdogEvent_eq_ok {eventType : String} {key : Option AttemptKey} {occurred : Int}
    (h : s.recordWatchdogEvent eventType key occurred = .ok s') : s' = s := by
  simp only [recordWatchdogEvent, bind_eq_ok] at h
  obtain ⟨_, _, _, _, h⟩ := h
  split at h
  · simp only [pure_eq_ok] at h
    exact h.symm
  · simp only [bind_eq_ok, pure_eq_ok] at h
    obtain ⟨_, _, h⟩ := h
    exact h.symm

/-! ## Every operation -/

end Store

/-- The kinds of changes that an operation can perform. -/
def StoreOp.kinds : StoreOp → List Store.ChangeKind
  | .materializeAttempt .. => [.materialize]
  | .enqueueCommand .. => [.enqueue]
  | .materializePhysicalAttemptGroup .. => [.materialize, .group, .enqueue]
  | .importLegacyStaleAttempts .. => [.legacy]
  | .markRunningBeforeSpawn .. | .startPhysicalAttemptGroup .. => [.start]
  | .attachProcess .. | .attachPhysicalAttemptGroupProcess .. | .recordHeartbeat ..
  | .recordPhysicalAttemptGroupHeartbeat .. | .recordRuntimeObservation ..
  | .recordPhysicalAttemptGroupRuntimeObservation .. | .requestAttemptTermination ..
  | .recordAttemptTerminationSignal .. => [.observe]
  | .finishAttempt .. | .finishPhysicalAttemptGroup .. | .failPhysicalAttemptGroupSpawn ..
  | .failPhysicalAttemptGroupInfrastructure .. => [.finish]
  | .markStaleIdentity .. => [.stale]
  | .configureInterferenceEnvelope .. => [.envelope]
  | .setDispatchStop .. | .clearDispatchStop .. => [.dispatch]
  | .startControllerAuxiliaryGroup .. => [.auxStart]
  | .adoptControllerAuxiliaryJobs .. => [.materialize, .adopt, .settings]
  | .recordLaunchCompatibilityKey .. | .recordWatchdogEvent .. | .initializeStagePlan ..
  | .updateStageExpectation .. | .recordControllerMaterialization ..
  | .recordControllerExecutionPlan .. | .recordControllerReduction .. | .markControllerBlocked ..
  | .resumeControllerNode .. | .registerControllerAuxiliaryGroup ..
  | .attachStartedAuxiliaryGroup .. | .failControllerAuxiliarySpawn ..
  | .attachControllerAuxiliaryGroupProcess .. | .recordControllerAuxiliaryObservation ..
  | .requestControllerAuxiliaryTermination .. | .recordControllerAuxiliaryTerminationSignal ..
  | .finishControllerAuxiliaryGroup .. => [.settings]

namespace Store

/-- Every operation is a sequence of changes of its kinds. -/
theorem apply_changes (hs : s.KeysNodup) {op : StoreOp} (h : s.apply op = .ok s') :
    Changes op.kinds s s' := by
  cases op with
  | materializeAttempt spec now =>
    simp only [apply, materializeAttempt, bind_eq_ok] at h
    obtain ⟨_, _, h⟩ := h
    obtain ⟨hrow, rfl⟩ := materializeAttemptLocked_change h
    exact .one (.materialize _ hrow)
  | enqueueCommand command enqueued =>
    simp only [apply, enqueueCommand, bind_eq_ok] at h
    obtain ⟨_, _, h⟩ := h
    obtain ⟨⟨r, hr, hkey, hpending, _⟩, hfresh, rfl⟩ := enqueueCommandLocked_change h
    exact .one (.enqueue command ⟨r, hr, hkey, hpending⟩ hfresh)
  | materializePhysicalAttemptGroup => exact materializePhysicalAttemptGroup_changes h
  | importLegacyStaleAttempts items now =>
    simp only [apply, importLegacyStaleAttempts, bind_eq_ok, check_eq_ok] at h
    obtain ⟨_, _, _, _, h⟩ := h
    exact importLegacyLoop_changes h
  | markRunningBeforeSpawn => exact .one (markRunningBeforeSpawn_change hs h)
  | startPhysicalAttemptGroup => exact startPhysicalAttemptGroup_changes hs h
  | attachProcess => exact .one (attachProcess_change hs h)
  | attachPhysicalAttemptGroupProcess => exact .one (attachPhysicalAttemptGroupProcess_change hs h)
  | recordHeartbeat => exact .one (recordHeartbeat_change hs h)
  | recordPhysicalAttemptGroupHeartbeat =>
    exact .one (recordPhysicalAttemptGroupHeartbeat_change hs h)
  | recordRuntimeObservation => exact .one (recordRuntimeObservation_change hs h)
  | recordPhysicalAttemptGroupRuntimeObservation =>
    exact .one (recordPhysicalAttemptGroupRuntimeObservation_change hs h)
  | requestAttemptTermination => exact .one (requestAttemptTermination_change hs h)
  | recordAttemptTerminationSignal => exact .one (recordAttemptTerminationSignal_change hs h)
  | finishAttempt => exact .one (finishAttempt_change hs h)
  | finishPhysicalAttemptGroup => exact finishPhysicalAttemptGroup_changes hs h
  | failPhysicalAttemptGroupSpawn => exact failPhysicalAttemptGroupSpawn_changes hs h
  | failPhysicalAttemptGroupInfrastructure =>
    exact failPhysicalAttemptGroupInfrastructure_changes hs h
  | markStaleIdentity => exact markStaleIdentity_changes hs h
  | configureInterferenceEnvelope => exact configureInterferenceEnvelope_changes h
  | setDispatchStop => exact .one (setDispatchStop_change h).1
  | clearDispatchStop => exact .one (clearDispatchStop_change h).1
  | recordLaunchCompatibilityKey => exact recordLaunchCompatibilityKey_changes h
  | recordWatchdogEvent =>
    rw [recordWatchdogEvent_eq_ok h]
    exact .refl s
  | initializeStagePlan => exact initializeStagePlan_changes h
  | updateStageExpectation => exact updateStageExpectation_changes h
  | recordControllerMaterialization => exact recordControllerMaterialization_changes h
  | recordControllerExecutionPlan => exact recordControllerExecutionPlan_changes h
  | recordControllerReduction => exact recordControllerReduction_changes h
  | markControllerBlocked => exact markControllerBlocked_changes h
  | resumeControllerNode => exact resumeControllerNode_changes h
  | registerControllerAuxiliaryGroup => exact registerControllerAuxiliaryGroup_changes h
  | startControllerAuxiliaryGroup => exact .one (startControllerAuxiliaryGroup_change h).1
  | attachStartedAuxiliaryGroup | failControllerAuxiliarySpawn
  | attachControllerAuxiliaryGroupProcess | recordControllerAuxiliaryObservation
  | requestControllerAuxiliaryTermination | recordControllerAuxiliaryTerminationSignal
  | finishControllerAuxiliaryGroup => exact auxUpdate_changes rfl (by simp) h
  | adoptControllerAuxiliaryJobs => exact adoptControllerAuxiliaryJobs_changes hs h

/-- A call, failed or not, is a sequence of changes of its kinds. -/
theorem step_changes (hs : s.KeysNodup) (op : StoreOp) : Changes op.kinds s (s.step op).2 := by
  unfold step
  cases happly : s.apply op with
  | error e => exact .refl s
  | ok s' => exact apply_changes hs happly

end Store

end Operator

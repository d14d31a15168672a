import LightConeSpec.Adaptation.Governor
import LightConeSpec.Lib.Machine
import Mathlib.Logic.Relation

/-!
# Slabs and quotas

Every operation of the manager is a sequence of a few moves: a new state takes a
slab, fields that hold no slab change, a state is dropped with its slab, a slab
is given back or taken again. `*_performs` says which moves an operation makes
and that it makes none when it raises; the invariants are checked once per move.

Admission counts the resident states of a tenant, and so does nothing else: a
restore brings a state back without a look at the quota.
-/

namespace Adaptation

open Python Machine Method Dict List

namespace Manager

variable {T : Type}

/-! ## Keys and held slabs -/

/-- Every state is stored under its own key. -/
def Keyed (m : Manager T) : Prop :=
  ∀ key state, m.states.get? key = some state → state.key = key

variable {m t : Manager T}

/-- Distinct idle states, chosen from the values of the dictionary. -/
theorem Keyed.choose (hm : Keyed m) {states : List (CohortState T)}
    (hsub : states.Subperm (m.states.values.filter fun state =>
      decide (state.activeRequests = 0))) : (states.map (·.key)).Nodup ∧ ∀ state ∈ states,
      m.states.get? state.key = some state ∧ state.activeRequests = 0 := by
  have hkeys : m.states.values.map (·.key) = m.states.entries.map Prod.fst := by
    unfold Dict.values
    rw [map_map]
    apply map_congr_left
    intro entry hentry
    exact hm entry.1 entry.2 (mem_entries_iff.mp hentry)
  constructor
  · obtain ⟨states', hperm, hsublist⟩ := hsub
    have hnodup : (m.states.values.map (·.key)).Nodup := by
      rw [hkeys]
      exact m.states.nodup
    have hsublist' := (hsublist.trans filter_sublist).map (·.key)
    exact (hperm.map (·.key)).nodup_iff.mp (hnodup.sublist hsublist')
  · intro state hstate
    obtain ⟨hvalue, hactive⟩ := mem_filter.mp (hsub.subset hstate)
    obtain ⟨key, hget⟩ := mem_values_iff.mp hvalue
    have hkey := hm key state hget
    rw [hkey]
    exact ⟨hget, of_decide_eq_true hactive⟩

theorem Keyed.set (hm : Keyed m) {key : CohortStateKey} {state : CohortState T}
    (hkey : state.key = key) (slabs : Finset Nat) : Keyed ⟨slabs, m.states.set key state⟩ := by
  intro key' state' hget
  simp only [get?_set] at hget
  split at hget
  · rename_i heq
    cases hget
    rw [hkey, heq]
  · exact hm key' state' hget

theorem Keyed.erase (hm : Keyed m) (key : CohortStateKey) (slabs : Finset Nat) :
    Keyed ⟨slabs, m.states.erase key⟩ := by
  intro key' state' hget
  simp only [get?_erase] at hget
  split at hget
  · cases hget
  · exact hm key' state' hget

def heldSlabs (m : Manager T) : List Nat := m.states.values.filterMap (·.slabId)

/-- The held slabs split at a state. -/
theorem heldSlabs_split {key : CohortStateKey} {old : CohortState T}
    (hget : m.states.get? key = some old) (slabs : Finset Nat) : (m.heldSlabs : Multiset Nat) =
      (old.slabId.toList : Multiset Nat) + (⟨slabs, m.states.erase key⟩ : Manager T).heldSlabs := by
  have hperm := (values_perm hget).filterMap (·.slabId)
  rw [Multiset.coe_add]
  refine Multiset.coe_eq_coe.mpr (hperm.trans ?_)
  cases hslab : old.slabId with
  | none => simp [heldSlabs, hslab]
  | some slab => simp [heldSlabs, hslab]

/-- The held slabs after an assignment. -/
theorem heldSlabs_set (m : Manager T) (key : CohortStateKey) (new : CohortState T)
    (slabs slabs' : Finset Nat) :
    ((⟨slabs, m.states.set key new⟩ : Manager T).heldSlabs : Multiset Nat) =
      (new.slabId.toList : Multiset Nat) +
        (⟨slabs', m.states.erase key⟩ : Manager T).heldSlabs := by
  have hperm := (m.states.values_set_perm key new).filterMap (·.slabId)
  rw [Multiset.coe_add]
  refine Multiset.coe_eq_coe.mpr (hperm.trans ?_)
  cases hslab : new.slabId with
  | none => simp [heldSlabs, hslab]
  | some slab => simp [heldSlabs, hslab]

/-- A free slab that is taken. -/
theorem val_erase_add {slabs : Finset Nat} {slab : Nat} (h : slab ∈ slabs) (s : Multiset Nat) :
    (slabs.erase slab).val + (slab ::ₘ s) = slabs.val + s := by
  rw [Multiset.add_cons, ← Multiset.cons_add, Finset.erase_val, Multiset.cons_erase h]

/-- A held slab that is given back. -/
theorem val_insert_add {slabs : Finset Nat} {slab : Nat} (h : slab ∉ slabs) (s : Multiset Nat) :
    (insert slab slabs).val + s = slabs.val + (slab ::ₘ s) := by
  rw [Finset.insert_val_of_notMem h, Multiset.cons_add, Multiset.add_cons]

theorem performsAt_requireState {α : Type} {key : CohortStateKey}
    {f : CohortState T → Method (Manager T) α} {R : α → Manager T → Prop}
    (h : ∀ state, m.states.get? key = some state → PerformsAt (f state) m R) :
    PerformsAt (requireState key >>= f) m R := by
  cases hget : m.states.get? key with
  | none =>
    have hraise : requireState key m =
        (.error (keyError "cohort state does not exist for this tenant identity"), m) := by
      simp [requireState, hget]
    unfold PerformsAt
    rw [bind_apply_error hraise]
  | some state =>
    have hreturn : requireState key m = (.ok state, m) := by simp [requireState, hget]
    unfold PerformsAt
    rw [bind_apply_ok hreturn]
    exact h state hget

/-! ## Resident states of a tenant -/

/-- The resident states of a tenant: those that hold a slab. -/
def tenantSlabs (m : Manager T) (tenant : String) : Nat :=
  m.states.values.countP fun state => decide (state.key.tenantId = tenant) && state.slabId.isSome

/-- An assignment adds at most the new state, to its own tenant. -/
theorem tenantSlabs_set_le {key : CohortStateKey} {new : CohortState T} (slabs : Finset Nat)
    (hnew : new.key = key) (tenant : String) :
    (⟨slabs, m.states.set key new⟩ : Manager T).tenantSlabs tenant ≤
      m.tenantSlabs tenant + if key.tenantId = tenant then 1 else 0 := by
  have hcount := m.states.countP_values_set key new fun state =>
    decide (state.key.tenantId = tenant) && state.slabId.isSome
  have hle : (m.states.erase key).values.countP (fun state =>
      decide (state.key.tenantId = tenant) && state.slabId.isSome) ≤ m.tenantSlabs tenant := by
    unfold tenantSlabs
    cases hget : m.states.get? key with
    | none => rw [values_erase_of_none hget]
    | some old =>
      rw [countP_values hget]
      exact Nat.le_add_right _ _
  unfold tenantSlabs at hle ⊢
  simp only [hcount, hnew]
  by_cases htenant : key.tenantId = tenant
  · simp only [htenant, if_true]
    split <;> omega
  · simp only [htenant, decide_false, Bool.false_and, Bool.false_eq_true, if_false]
    exact hle

/-- An assignment over a state adds nothing if the new state holds no slab that
the old one did not hold. -/
theorem tenantSlabs_replace_le {key : CohortStateKey} {old new : CohortState T} (slabs : Finset Nat)
    (hget : m.states.get? key = some old) (hkey : new.key = old.key)
    (hslab : new.slabId.isSome = true → old.slabId.isSome = true) (tenant : String) :
    (⟨slabs, m.states.set key new⟩ : Manager T).tenantSlabs tenant ≤ m.tenantSlabs tenant := by
  unfold tenantSlabs
  simp only [countP_values_set, countP_values hget, hkey]
  by_cases htenant : old.key.tenantId = tenant
  · simp only [htenant, decide_true, Bool.true_and]
    cases hnew : new.slabId.isSome with
    | false => simp
    | true => simp [hslab hnew]
  · simp [htenant]

variable [TimeValue T]

/-! ## Moves -/

/-- One move of the manager, other than a restore. -/
inductive Move (cfg : ManagerConfig T) : Manager T → Manager T → Prop
  | admitCohort {m : Manager T} {key : CohortStateKey} {state : CohortState T} {slab quota : Nat}
      (hget : m.states.get? key = none) (hslab : slab ∈ m.freeSlabs)
      (hquota : cfg.tenantQuotas.get? key.tenantId = some quota)
      (hroom : m.tenantResidentCount key.tenantId < quota)
      (hsize : m.states.size < cfg.capacity + cfg.offloadedCapacity)
      (hkey : state.key = key) (hheld : state.slabId = some slab)
      (hresident : state.offloaded = false) (hactive : state.activeRequests = 0) :
      Move cfg m ⟨m.freeSlabs.erase slab, m.states.set key state⟩
  | touch {m : Manager T} {key : CohortStateKey} {old new : CohortState T}
      (hget : m.states.get? key = some old) (hkey : new.key = old.key)
      (hheld : new.slabId = old.slabId) (hoffloaded : new.offloaded = old.offloaded)
      (hactive : new.activeRequests ≠ 0 → old.activeRequests ≠ 0 ∨ old.slabId ≠ none) :
      Move cfg m { m with states := m.states.set key new }
  | reclaim {m : Manager T} {key : CohortStateKey} {old : CohortState T}
      (hget : m.states.get? key = some old) (hactive : old.activeRequests = 0) :
      Move cfg m ⟨old.slabId.elim m.freeSlabs fun slab => insert slab m.freeSlabs,
        m.states.erase key⟩
  | offload {m : Manager T} {key : CohortStateKey} {old new : CohortState T} {slab : Nat}
      (hget : m.states.get? key = some old) (hheld : old.slabId = some slab)
      (hresident : old.offloaded = false) (hactive : old.activeRequests = 0)
      (hroom : m.offloadedCount < cfg.offloadedCapacity) (hkey : new.key = old.key)
      (hfreed : new.slabId = none) (hoffloaded : new.offloaded = true)
      (hidle : new.activeRequests = 0) :
      Move cfg m ⟨insert slab m.freeSlabs, m.states.set key new⟩

inductive Restore (key : CohortStateKey) : Manager T → Manager T → Prop
  | restore {m : Manager T} {old new : CohortState T} {slab : Nat}
      (hget : m.states.get? key = some old) (hoffloaded : old.offloaded = true)
      (hfreed : old.slabId = none) (hslab : slab ∈ m.freeSlabs) (hkey : new.key = old.key)
      (hheld : new.slabId = some slab) (hresident : new.offloaded = false)
      (hactive : new.activeRequests = old.activeRequests) :
      Restore key m ⟨m.freeSlabs.erase slab, m.states.set key new⟩

/-- Moves, one after the other. -/
abbrev Moves (cfg : ManagerConfig T) := Relation.ReflTransGen (Move cfg)

/-! ## What each operation does -/

variable (cfg : ManagerConfig T)

theorem admitNew_performs (key : CohortStateKey) (now : T) (version : Nat)
    (hget : m.states.get? key = none) :
    PerformsAt (admitNew cfg key now version) m fun _ t => Moves cfg m t := by
  refine performsAt_read ?_
  split
  · exact performsAt_pure .refl
  · rename_i quota hquota
    split
    · exact performsAt_pure .refl
    · rename_i hroom
      split
      · exact performsAt_pure .refl
      · rename_i hsize
        split
        · exact performsAt_pure .refl
        · rename_i slab hslab
          refine performsAt_returns rfl (.single ?_)
          exact .admitCohort hget (minSlab_eq_some hslab) hquota (not_le.mp hroom)
            (not_le.mp (not_or.mp hsize).1) rfl rfl rfl rfl

theorem admit_performs (key : CohortStateKey) (now : T) (version : Int) (m : Manager T) :
    PerformsAt (admitCohort cfg key now version) m fun _ t => Moves cfg m t := by
  refine performsAt_check fun _ _ => performsAt_check fun _ _ =>
    performsAt_read ?_
  cases hget : m.states.get? key with
  | none => exact admitNew_performs cfg key now version.toNat hget
  | some existing =>
    dsimp only
    split
    · exact performsAt_pure .refl
    · exact performsAt_returns rfl (.single (.touch hget rfl rfl rfl .inl))

theorem acquire_performs (key : CohortStateKey) (now : T) (m : Manager T) :
    PerformsAt (acquire cfg key now) m fun _ t => Moves cfg m t := by
  refine performsAt_check fun _ _ => performsAt_requireState fun state hget => ?_
  split
  · exact performsAt_raise
  · rename_i hresident
    refine performsAt_returns rfl (.single (.touch hget rfl rfl rfl fun _ => .inr ?_))
    exact (not_or.mp hresident).2

theorem release_performs (key : CohortStateKey) (now : T) (m : Manager T) :
    PerformsAt (release cfg key now) m fun _ t => Moves cfg m t := by
  refine performsAt_check fun _ _ => performsAt_requireState fun state hget => ?_
  split
  · exact performsAt_raise
  · rename_i hactive
    exact performsAt_returns rfl (.single (.touch hget rfl rfl rfl fun _ => .inl hactive))

theorem publishVersion_performs (key : CohortStateKey) (sourceVersion newVersion : Int) (now : T)
    (m : Manager T) : PerformsAt (publishVersion cfg key sourceVersion newVersion now) m
      fun _ t => Moves cfg m t := by
  refine performsAt_check fun _ _ => performsAt_read ?_
  cases hget : m.states.get? key with
  | none => exact performsAt_raise
  | some state =>
    dsimp only
    split
    · exact performsAt_raise
    · split
      · exact performsAt_raise
      · exact performsAt_returns rfl (.single (.touch hget rfl rfl rfl .inl))

/-- A reclaim that passes its checks returns. -/
theorem reclaim_eq_ok {key : CohortStateKey} {now : T} {reasonCode : String} {state : CohortState T}
    (htime : requireTime "now" now = .ok ()) (hreason : isCanonicalText reasonCode = true)
    (hget : m.states.get? key = some state) (hactive : state.activeRequests = 0) :
    ∃ t, reclaim key now reasonCode m = (.ok ⟨key, state.slabId, reasonCode, now⟩, t) ∧
      Move cfg m t ∧ t.states = m.states.erase key := by
  have hstate : requireState key m = (.ok state, m) := by simp [requireState, hget]
  have htime' : (Method.check (requireTime "now" now) : Method (Manager T) Unit) m =
      (.ok (), m) := by
    rw [Method.check, htime]
  have hreason' : (Method.check (require (isCanonicalText reasonCode = true)
      (valueError "reclamation requires a canonical reason code")) :
      Method (Manager T) Unit) m = (.ok (), m) := by
    simp [Method.check, require, hreason]
  refine ⟨⟨state.slabId.elim m.freeSlabs fun slab => insert slab m.freeSlabs,
    m.states.erase key⟩, ?_, .reclaim hget hactive, rfl⟩
  unfold reclaim
  rw [bind_apply_ok htime', bind_apply_ok hreason', bind_apply_ok hstate]
  dsimp only
  rw [if_neg (by simp [hactive])]
  cases hslab : state.slabId with
  | none => rfl
  | some slab => rfl

theorem reclaim_performs (key : CohortStateKey) (now : T) (reasonCode : String) (m : Manager T) :
    PerformsAt (reclaim key now reasonCode) m fun _ t => Moves cfg m t := by
  refine performsAt_check fun _ _ => performsAt_check fun _ _ =>
    performsAt_requireState fun state hget => ?_
  split
  · exact performsAt_raise
  · rename_i hactive
    have hmove : Move cfg m _ := .reclaim hget (not_not.mp hactive)
    cases hslab : state.slabId with
    | none =>
      rw [hslab] at hmove
      exact performsAt_returns rfl (.single hmove)
    | some slab =>
      rw [hslab] at hmove
      exact performsAt_returns rfl (.single hmove)

/-- The reclaim of distinct idle states returns. -/
theorem collect_reclaim {now : T} {reasonCode : String} (htime : requireTime "now" now = .ok ())
    (hreason : isCanonicalText reasonCode = true) {states : List (CohortState T)}
    (hnodup : (states.map (·.key)).Nodup)
    (hidle : ∀ state ∈ states, m.states.get? state.key = some state ∧ state.activeRequests = 0) :
    ∃ receipts t, Method.collect (fun state : CohortState T => reclaim state.key now reasonCode)
      states m = (.ok receipts, t) ∧ Moves cfg m t := by
  induction states generalizing m with
  | nil => exact ⟨[], m, rfl, .refl⟩
  | cons state rest ih =>
    obtain ⟨hget, hactive⟩ := hidle state (by simp)
    obtain ⟨u, hcall, hmove, hstates⟩ := reclaim_eq_ok cfg htime hreason hget hactive
    have hfresh : state.key ∉ rest.map (·.key) := (nodup_cons.mp hnodup).1
    -- the other states are still there
    have hidle' : ∀ state' ∈ rest,
        u.states.get? state'.key = some state' ∧ state'.activeRequests = 0 := by
      intro state' hstate'
      obtain ⟨hget', hactive'⟩ := hidle state' (by simp [hstate'])
      refine ⟨?_, hactive'⟩
      rw [hstates, get?_erase, if_neg]
      · exact hget'
      · intro hkey
        exact hfresh (hkey ▸ mem_map_of_mem hstate')
    obtain ⟨receipts, t, hrest, hmoves⟩ := ih (nodup_cons.mp hnodup).2 hidle'
    refine ⟨⟨state.key, state.slabId, reasonCode, now⟩ :: receipts, t, ?_, .head hmove hmoves⟩
    unfold Method.collect
    rw [bind_apply_ok hcall, bind_apply_ok hrest]
    rfl

theorem reclaimExpired_performs (now : T) (hm : Keyed m) :
    PerformsAt (reclaimExpired cfg now) m fun _ t => Moves cfg m t := by
  refine performsAt_check fun _ htime => performsAt_read ?_
  have hidle : ((m.states.values.filter fun state => decide (state.activeRequests = 0) &&
      decide (state.lastUsedAt + cfg.ttlSeconds ≤ now))).Subperm
      (m.states.values.filter fun state => decide (state.activeRequests = 0)) := by
    refine List.Sublist.subperm (monotone_filter_right _ ?_)
    intro state hstate
    exact (Bool.and_eq_true_iff.mp hstate).1
  obtain ⟨hnodup, hstates⟩ := hm.choose ((sortedBy_perm
    (fun state : CohortState T => toLex (state.lastUsedAt, toLex (state.key.tenantId,
      toLex (state.key.cohortSha256, state.key.replicaId)))) _).subperm.trans hidle)
  have hreason : isCanonicalText "ttl_expired" = true := by decide
  obtain ⟨receipts, t, hcall, hmoves⟩ := collect_reclaim cfg htime hreason hnodup hstates
  exact performsAt_returns hcall hmoves

theorem reclaimLru_performs (count : Int) (now : T) (hm : Keyed m) :
    PerformsAt (reclaimLru count now) m fun _ t => Moves cfg m t := by
  refine performsAt_check fun _ _ => performsAt_check fun _ htime =>
    performsAt_read ?_
  obtain ⟨hnodup, hstates⟩ := hm.choose ((take_sublist count.toNat _).subperm.trans
    (sortedBy_perm (fun state : CohortState T => toLex (state.lastUsedAt, toLex (state.createdAt,
      toLex (state.key.tenantId, toLex (state.key.cohortSha256, state.key.replicaId))))) _).subperm)
  have hreason : isCanonicalText "lru_reclaimed" = true := by decide
  obtain ⟨receipts, t, hcall, hmoves⟩ := collect_reclaim cfg htime hreason hnodup hstates
  exact performsAt_returns hcall hmoves

theorem offloadCold_performs (key : CohortStateKey) (startedAt completedAt : T) (m : Manager T) :
    PerformsAt (offloadCold cfg key startedAt completedAt) m fun _ t => Moves cfg m t := by
  refine performsAt_check fun _ _ => performsAt_requireState fun state hget => ?_
  split
  · exact performsAt_raise
  · rename_i hactive
    split
    · rename_i slab hslab hresident
      refine performsAt_read ?_
      split
      · exact performsAt_raise
      · rename_i hroom
        refine performsAt_returns rfl (.single ?_)
        exact .offload hget hslab hresident (not_not.mp hactive) (not_le.mp hroom) rfl rfl rfl
          (not_not.mp hactive)
    · exact performsAt_raise

theorem restoreCold_performs (key : CohortStateKey) (startedAt completedAt : T) (m : Manager T) :
    PerformsAt (restoreCold cfg key startedAt completedAt) m fun _ t => Restore key m t := by
  refine performsAt_check fun _ _ => performsAt_requireState fun state hget => ?_
  split
  · exact performsAt_raise
  · rename_i hcold
    obtain ⟨hoffloaded, hfreed⟩ := not_or.mp hcold
    refine performsAt_read ?_
    split
    · exact performsAt_raise
    · rename_i slab hslab
      refine performsAt_returns rfl ?_
      exact .restore hget (by simpa using hoffloaded) (not_not.mp hfreed) (minSlab_eq_some hslab)
        rfl rfl rfl rfl

/-! ## Accounting -/

/-- Slab accounting: free and held slabs partition the range of slabs. -/
structure Accounting (cfg : ManagerConfig T) (m : Manager T) : Prop where
  keyed : Keyed m
  partition : m.freeSlabs.val + (m.heldSlabs : Multiset Nat) = Multiset.range cfg.capacity
  offloaded_iff : ∀ state ∈ m.states.values, state.offloaded = true ↔ state.slabId = none
  active_resident : ∀ state ∈ m.states.values, state.activeRequests ≠ 0 → state.slabId ≠ none
  offloaded_le : m.offloadedCount ≤ cfg.offloadedCapacity
  size_le : m.states.size ≤ cfg.capacity + cfg.offloadedCapacity

theorem Accounting.initial : Accounting cfg (initial cfg) where
  keyed := fun _ _ h => by cases h
  partition := by simp [Manager.initial, heldSlabs]
  offloaded_iff := fun _ h => by cases h
  active_resident := fun _ h => by cases h
  offloaded_le := Nat.zero_le _
  size_le := Nat.zero_le _

/-- A slab is free or held, never both. -/
theorem Accounting.disjoint {cfg : ManagerConfig T} (hm : Accounting cfg m) :
    ∀ slab ∈ m.heldSlabs, slab ∉ m.freeSlabs := by
  intro slab hheld hfree
  have hnodup : (m.freeSlabs.val + (m.heldSlabs : Multiset Nat)).Nodup := by
    rw [hm.partition]
    exact Multiset.nodup_range _
  have hdisjoint := (Multiset.nodup_add.mp hnodup).2.2
  exact Multiset.disjoint_left.mp hdisjoint hfree (Multiset.mem_coe.mpr hheld)

/-- The accounting after an assignment that moves slabs consistently. -/
theorem Accounting.move {cfg : ManagerConfig T} (hm : Accounting cfg m) (hmove : Move cfg m t) :
    Accounting cfg t := by
  have hpartition := hm.partition
  cases hmove with
  | @admitCohort key state slab quota hget hslab _ _ hsize hkey hheld hresident hactive =>
    have hrest : (m.heldSlabs : Multiset Nat) =
        (⟨m.freeSlabs, m.states.erase key⟩ : Manager T).heldSlabs := by
      simp [heldSlabs, values_erase_of_none hget]
    refine ⟨hm.keyed.set hkey _, ?_, ?_, ?_, ?_, ?_⟩
    · rw [heldSlabs_set m key state _ m.freeSlabs, hheld, ← hrest]
      exact (val_erase_add hslab _).trans hpartition
    · exact forall_values_set hm.offloaded_iff (by simp [hresident, hheld])
    · exact forall_values_set hm.active_resident (by simp [hheld])
    · have hcount := m.states.countP_values_set key state fun state => state.offloaded
      rw [values_erase_of_none hget] at hcount
      simpa [offloadedCount, hcount, hresident] using hm.offloaded_le
    · have hset := m.states.size_set key state
      rw [size_erase_of_none hget] at hset
      exact hset.le.trans hsize
  | @touch key old new hget hkey hheld hoffloaded hactive =>
    have hold : old ∈ m.states.values := mem_values_iff.mpr ⟨key, hget⟩
    refine ⟨hm.keyed.set (hkey.trans (hm.keyed key old hget)) _, ?_, ?_, ?_, ?_, ?_⟩
    · rw [heldSlabs_set m key new _ m.freeSlabs, hheld, ← heldSlabs_split hget]
      exact hpartition
    · refine forall_values_set hm.offloaded_iff ?_
      rw [hoffloaded, hheld]
      exact hm.offloaded_iff old hold
    · refine forall_values_set hm.active_resident fun hne => ?_
      rw [hheld]
      exact (hactive hne).elim (hm.active_resident old hold) id
    · have hcount := m.states.countP_values_set key new fun state => state.offloaded
      rw [hoffloaded, ← countP_values hget] at hcount
      simpa [offloadedCount, hcount] using hm.offloaded_le
    · have hset := m.states.size_set key new
      rw [← size_erase hget] at hset
      simpa [hset] using hm.size_le
  | @reclaim key old hget hactive =>
    refine ⟨hm.keyed.erase key _, ?_, ?_, ?_, ?_, ?_⟩
    · rw [heldSlabs_split hget m.freeSlabs] at hpartition
      cases hslab : old.slabId with
      | none => simpa [hslab] using hpartition
      | some slab =>
        have hfree : slab ∉ m.freeSlabs := by
          refine hm.disjoint slab (mem_filterMap.mpr ⟨old, ?_, hslab⟩)
          exact mem_values_iff.mpr ⟨key, hget⟩
        rw [hslab] at hpartition
        exact (val_insert_add hfree _).trans hpartition
    · exact forall_values_erase hm.offloaded_iff key
    · exact forall_values_erase hm.active_resident key
    · have hcount := countP_values hget fun state => state.offloaded
      have hle := hm.offloaded_le
      simp only [offloadedCount] at hle ⊢
      omega
    · have hsize := size_erase hget
      have hle := hm.size_le
      simp only at hle ⊢
      omega
  | @offload key old new slab hget hheld hresident _ hroom hkey hfreed hoffloaded hidle =>
    -- the slab is free again
    have hfree : slab ∉ m.freeSlabs := by
      refine hm.disjoint slab (mem_filterMap.mpr ⟨old, ?_, hheld⟩)
      exact mem_values_iff.mpr ⟨key, hget⟩
    refine ⟨hm.keyed.set (hkey.trans (hm.keyed key old hget)) _, ?_, ?_, ?_, ?_, ?_⟩
    · rw [heldSlabs_split hget m.freeSlabs, hheld] at hpartition
      rw [heldSlabs_set m key new _ m.freeSlabs, hfreed]
      rw [Option.toList_none, Multiset.coe_nil, Multiset.zero_add]
      exact (val_insert_add hfree _).trans hpartition
    · exact forall_values_set hm.offloaded_iff (by simp [hoffloaded, hfreed])
    · exact forall_values_set hm.active_resident (by simp [hidle])
    · have hcount := m.states.countP_values_set key new fun state => state.offloaded
      have hcount' := countP_values hget fun state => state.offloaded
      simp only [hoffloaded, hresident, if_true] at hcount hcount'
      simp only [offloadedCount] at hroom ⊢
      simp only [Bool.false_eq_true, if_false] at hcount'
      omega
    · have hset := m.states.size_set key new
      rw [← size_erase hget] at hset
      simpa [hset] using hm.size_le

theorem Accounting.restore {cfg : ManagerConfig T} {m : Manager T} (hm : Accounting cfg m)
    {key : CohortStateKey} {t : Manager T} (hmove : Restore key m t) : Accounting cfg t := by
  have hpartition := hm.partition
  cases hmove with
  | @restore old new slab hget hoffloaded hfreed hslab hkey hheld hresident hactive =>
    refine ⟨hm.keyed.set (hkey.trans (hm.keyed key old hget)) _, ?_, ?_, ?_, ?_, ?_⟩
    · rw [heldSlabs_split hget m.freeSlabs, hfreed] at hpartition
      rw [heldSlabs_set m key new _ m.freeSlabs, hheld]
      rw [Option.toList_none, Multiset.coe_nil, Multiset.zero_add] at hpartition
      exact (val_erase_add hslab _).trans hpartition
    · exact forall_values_set hm.offloaded_iff (by simp [hresident, hheld])
    · exact forall_values_set hm.active_resident (by simp [hheld])
    · have hcount := m.states.countP_values_set key new fun state => state.offloaded
      have hcount' := countP_values hget fun state => state.offloaded
      have hle := hm.offloaded_le
      simp only [hresident, Bool.false_eq_true, if_false] at hcount
      simp only [offloadedCount] at hle ⊢
      omega
    · have hset := m.states.size_set key new
      rw [← size_erase hget] at hset
      simpa [hset] using hm.size_le

/-- A sequence of moves keeps the accounting. -/
theorem Accounting.moves {cfg : ManagerConfig T} (hm : Accounting cfg m) (hmoves : Moves cfg m t) :
    Accounting cfg t := by
  induction hmoves with
  | refl => exact hm
  | tail _ hmove ih => exact ih.move hmove

/-! ## Every call -/

/-- What a call does: a sequence of moves, or one restore. -/
def CallMoves (cfg : ManagerConfig T) (m : Manager T) (call : ManagerCall T) (t : Manager T) :
    Prop :=
  match call with
  | .restoreCold key _ _ => Restore key m t
  | _ => Moves cfg m t

theorem method_performs (hm : Keyed m) (call : ManagerCall T) :
    PerformsAt (method cfg call) m fun _ t => CallMoves cfg m call t := by
  cases call with
  | admitCohort key now version => exact admit_performs cfg key now version m
  | acquire key now => exact acquire_performs cfg key now m
  | release key now => exact release_performs cfg key now m
  | publishVersion key source new now => exact publishVersion_performs cfg key source new now m
  | reclaim key now reasonCode => exact reclaim_performs cfg key now reasonCode m
  | reclaimExpired now => exact reclaimExpired_performs cfg now hm
  | reclaimLru count now => exact reclaimLru_performs cfg count now hm
  | offloadCold key started completed => exact offloadCold_performs cfg key started completed m
  | restoreCold key started completed => exact restoreCold_performs cfg key started completed m

/-- A call raises and changes nothing, or moves. -/
theorem step_cases (hm : Keyed m) (call : ManagerCall T) :
    ((step cfg m call).1 ≠ none ∧ (step cfg m call).2 = m) ∨
      ((step cfg m call).1 = none ∧ CallMoves cfg m call (step cfg m call).2) := by
  have hperforms := method_performs cfg hm call
  unfold step
  cases hcall : method cfg call m with
  | mk result t =>
    cases result with
    | error e => exact .inl ⟨by simp, hperforms.of_error hcall⟩
    | ok a => exact .inr ⟨rfl, hperforms.of_ok hcall⟩

theorem Accounting.step {cfg : ManagerConfig T} (hm : Accounting cfg m) (call : ManagerCall T) :
    Accounting cfg (step cfg m call).2 := by
  rcases step_cases cfg hm.keyed call with ⟨_, hsame⟩ | ⟨_, hmoves⟩
  · rw [hsame]
    exact hm
  · cases call with
    | restoreCold key started completed => exact hm.restore hmoves
    | admitCohort | acquire | release | publishVersion | reclaim | reclaimExpired | reclaimLru
    | offloadCold => exact hm.moves hmoves

/-- In every run of the manager slabs are accounted for, and a call that raises
leaves the manager as it was. -/
theorem slab_accounting (cfg : ManagerConfig T) (calls : List (ManagerCall T)) :
    ∀ ev ∈ trace (step cfg) (initial cfg) calls, Accounting cfg ev.pre ∧ Accounting cfg ev.post ∧
      (ev.output ≠ none → ev.post = ev.pre) := by
  have hstep : ∀ (m : Manager T) (call : ManagerCall T), Accounting cfg m → True →
      Accounting cfg (step cfg m call).2 := fun m call hm _ => hm.step call
  have hall : ∀ ev ∈ trace (step cfg) (initial cfg) calls,
      Accounting cfg ev.pre ∧ Accounting cfg ev.post :=
    (trace_invariant hstep (Accounting.initial cfg) fun _ _ => trivial).1
  intro ev hev
  obtain ⟨hpre, hpost⟩ := hall ev hev
  refine ⟨hpre, hpost, fun hraised => ?_⟩
  have hevent := eq_event_of_mem_trace hev
  rw [hevent] at hraised ⊢
  rcases step_cases cfg hpre.keyed ev.input with ⟨_, hsame⟩ | ⟨hreturned, _⟩
  · exact hsame
  · exact absurd hreturned hraised

/-- Two slabs, a host tier of one state, and one tenant with a quota of one. -/
def Sample.config : ManagerConfig Int where
  capacity := 2
  slabBytes := 1
  tenantQuotas := Dict.empty.set "t" 1
  ttlSeconds := 100
  offloadMode := .coldInactiveTimed
  offloadedCapacity := 1
  capacity_pos := by decide
  slabBytes_pos := Nat.one_pos
  ttl_finite := by decide
  quotas_ne := by decide
  quotas_valid := by decide
  disabled_empty := by decide
  cold_bounded := by decide

theorem Sample.zeros_sha256 :
    isSha256 "0000000000000000000000000000000000000000000000000000000000000000" = true := by
  decide

def Sample.key (replica : Nat) : CohortStateKey where
  tenantId := "t"
  cohortSha256 := "0000000000000000000000000000000000000000000000000000000000000000"
  replicaId := replica
  tenant_canonical := by decide
  cohort_sha256 := Sample.zeros_sha256

/-- A cohort is offloaded, and the host tier has no room for the second one. -/
theorem slab_accounting_offloaded :
    (final (step Sample.config) (initial Sample.config) [.admitCohort (Sample.key 0) 1 0,
        .offloadCold (Sample.key 0) 2 3, .admitCohort (Sample.key 1) 4 0,
        .offloadCold (Sample.key 1) 5 6]).freeSlabs = {1} ∧
      ∀ ev ∈ trace (step Sample.config) (initial Sample.config) [.admitCohort (Sample.key 0) 1 0,
        .offloadCold (Sample.key 0) 2 3, .admitCohort (Sample.key 1) 4 0,
        .offloadCold (Sample.key 1) 5 6],
        Accounting Sample.config ev.pre ∧ Accounting Sample.config ev.post ∧
          (ev.output ≠ none → ev.post = ev.pre) :=
  ⟨by decide +kernel, slab_accounting Sample.config _⟩

/-! ## Quotas -/

def quotaOf (cfg : ManagerConfig T) (tenant : String) : Nat :=
  (cfg.tenantQuotas.get? tenant).getD 0

/-- No tenant holds more slabs than its quota. -/
def QuotasKept (cfg : ManagerConfig T) (m : Manager T) : Prop :=
  ∀ tenant, m.tenantSlabs tenant ≤ quotaOf cfg tenant

/-- A restore of an offloaded state finds its tenant below its quota. -/
def RestoreFits (cfg : ManagerConfig T) (m : Manager T) : ManagerCall T → Prop
  | .restoreCold key _ _ => ∀ state ∈ m.states.get? key, state.offloaded = true →
      m.tenantSlabs key.tenantId < quotaOf cfg key.tenantId
  | _ => True

instance (cfg : ManagerConfig T) (m : Manager T) (call : ManagerCall T) :
    Decidable (RestoreFits cfg m call) := by
  unfold RestoreFits
  split <;> infer_instance

/-- Admission counts the states that hold a slab. -/
theorem Accounting.tenantResidentCount_eq {cfg : ManagerConfig T} (hm : Accounting cfg m)
    (tenant : String) : m.tenantResidentCount tenant = m.tenantSlabs tenant := by
  unfold tenantResidentCount tenantSlabs
  refine countP_congr fun state hstate => ?_
  have hiff := hm.offloaded_iff state hstate
  cases hslab : state.slabId with
  | none => simp [hiff.mpr hslab]
  | some slab =>
    have hresident : state.offloaded = false := by
      rw [Bool.eq_false_iff]
      intro hoffloaded
      rw [hiff.mp hoffloaded] at hslab
      cases hslab
    simp [hresident]

theorem QuotasKept.move {cfg : ManagerConfig T} (hacc : Accounting cfg m) (hm : QuotasKept cfg m)
    (hmove : Move cfg m t) : QuotasKept cfg t := by
  intro tenant
  cases hmove with
  | @admitCohort key state slab quota hget _ hquota hroom _ hkey hheld _ _ =>
    refine (tenantSlabs_set_le _ hkey tenant).trans ?_
    split
    · -- the tenant was below its quota
      rename_i htenant
      rw [hacc.tenantResidentCount_eq, htenant] at hroom
      unfold quotaOf
      rw [← htenant, hquota, htenant]
      exact hroom
    · exact hm tenant
  | touch hget hkey hheld _ _ =>
    refine (tenantSlabs_replace_le _ hget hkey ?_ tenant).trans (hm tenant)
    rw [hheld]
    exact id
  | @reclaim key old hget _ =>
    refine Nat.le_trans ?_ (hm tenant)
    unfold tenantSlabs
    rw [countP_values hget]
    exact Nat.le_add_right _ _
  | offload hget _ _ _ _ hkey hfreed _ _ =>
    refine (tenantSlabs_replace_le _ hget hkey ?_ tenant).trans (hm tenant)
    simp [hfreed]

/-- A restore adds one state to a tenant that is below its quota. -/
theorem QuotasKept.restore {cfg : ManagerConfig T} {m : Manager T} (hacc : Accounting cfg m)
    (hm : QuotasKept cfg m) {key : CohortStateKey} {started completed : T}
    (hfits : RestoreFits cfg m (.restoreCold key started completed)) {t : Manager T}
    (hmove : Restore key m t) : QuotasKept cfg t := by
  intro tenant
  cases hmove with
  | @restore old new slab hget hoffloaded _ _ hkey _ _ _ =>
    refine (tenantSlabs_set_le _ (hkey.trans (hacc.keyed key old hget)) tenant).trans ?_
    split
    · rename_i htenant
      have hroom := hfits old hget hoffloaded
      rw [htenant] at hroom
      exact hroom
    · exact hm tenant

theorem QuotasKept.moves {cfg : ManagerConfig T} (hacc : Accounting cfg m) (hm : QuotasKept cfg m)
    (hmoves : Moves cfg m t) : QuotasKept cfg t := by
  induction hmoves with
  | refl => exact hm
  | tail hmoves hmove ih => exact ih.move (hacc.moves hmoves) hmove

/-- In every run whose restores that return find their tenants below their quotas, no
tenant exceeds its quota. -/
theorem tenant_quota_kept (cfg : ManagerConfig T) (calls : List (ManagerCall T))
    (hfits : ∀ ev ∈ trace (step cfg) (initial cfg) calls,
      ev.output = none → RestoreFits cfg ev.pre ev.input) :
    ∀ ev ∈ trace (step cfg) (initial cfg) calls, QuotasKept cfg ev.post := by
  have hstep : ∀ (m : Manager T) (call : ManagerCall T), Accounting cfg m ∧ QuotasKept cfg m →
      ((step cfg m call).1 = none → RestoreFits cfg m call) →
      Accounting cfg (step cfg m call).2 ∧ QuotasKept cfg (step cfg m call).2 := by
    rintro m call ⟨hacc, hm⟩ hfits
    refine ⟨hacc.step call, ?_⟩
    rcases step_cases cfg hacc.keyed call with ⟨_, hsame⟩ | ⟨hok, hmoves⟩
    · rw [hsame]
      exact hm
    · cases call with
      | restoreCold key started completed => exact hm.restore hacc (hfits hok) hmoves
      | admitCohort | acquire | release | publishVersion | reclaim | reclaimExpired | reclaimLru
      | offloadCold => exact hm.moves hacc hmoves
  have hinit : QuotasKept cfg (initial cfg) := fun _ => Nat.zero_le _
  have hall := (trace_invariant hstep ⟨Accounting.initial cfg, hinit⟩
    (forall_output hfits)).1
  exact fun ev hev => (hall ev hev).2.2

/-- A cohort goes to the host tier and comes back. -/
theorem tenant_quota_kept_restored :
    (final (step Sample.config) (initial Sample.config) [.admitCohort (Sample.key 0) 1 0,
        .offloadCold (Sample.key 0) 2 3, .restoreCold (Sample.key 0) 4 5]).tenantSlabs "t" = 1 ∧
      ∀ ev ∈ trace (step Sample.config) (initial Sample.config) [.admitCohort (Sample.key 0) 1 0,
        .offloadCold (Sample.key 0) 2 3, .restoreCold (Sample.key 0) 4 5],
        QuotasKept Sample.config ev.post :=
  ⟨by decide +kernel, tenant_quota_kept Sample.config _ (by decide +kernel)⟩

/-- A cohort that is admitted while another is offloaded leaves no room for the
restore, which happens all the same. -/
theorem tenant_quota_fails_on_restore :
    ¬ ∀ (cfg : ManagerConfig Int) (calls : List (ManagerCall Int)),
      ∀ ev ∈ trace (step cfg) (initial cfg) calls, QuotasKept cfg ev.post := by
  intro h
  have hbad : (trace (step Sample.config) (initial Sample.config) [.admitCohort (Sample.key 0) 1 0,
      .offloadCold (Sample.key 0) 2 3, .admitCohort (Sample.key 1) 4 0,
      .restoreCold (Sample.key 0) 5 6]).any (fun ev =>
        decide (quotaOf Sample.config "t" < ev.post.tenantSlabs "t")) = true := by
    decide +kernel
  obtain ⟨ev, hev, hover⟩ := List.any_eq_true.mp hbad
  have hkept := h Sample.config _ ev hev "t"
  exact absurd (of_decide_eq_true hover) (not_lt.mpr hkept)

end Manager

end Adaptation

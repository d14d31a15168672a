import LightConeSpec.Lib.Dict
import LightConeSpec.Lib.Method
import Mathlib.Algebra.Ring.Int.Defs
import Mathlib.Data.Finset.Max
import Mathlib.Data.Prod.Lex

/-!
# The bounded cohort-state manager

`BoundedCohortStateManager` of `governor.py`: a fixed set of slabs, a dictionary
of cohort states, and the nine operations that move slabs between the two.

Each operation is a `Method`: it validates, then assigns in the order of the
source, and what it assigned stays if it raises later. Times are floats in the
source; here they come from any ordered type with a finiteness test and an
addition, of which nothing else is assumed.
-/

namespace Adaptation

open Python

/-! ## Values -/

/-- The clock values of the manager; `isFinite` is `math.isfinite`. -/
class TimeValue (T : Type) extends LinearOrder T, Add T, Zero T where
  isFinite : T → Bool

-- other orders keep their own zero
attribute [instance (50)] TimeValue.toZero

instance : TimeValue Int where
  isFinite := fun _ => true

/-- `len(value) == 64` lowercase hexadecimal digits. -/
def isSha256 (value : String) : Bool :=
  value.toList.length == 64 &&
    value.toList.all fun c => ('0' ≤ c && c ≤ '9') || ('a' ≤ c && c ≤ 'f')

structure CohortStateKey where
  tenantId : String
  cohortSha256 : String
  replicaId : Nat
  tenant_canonical : isCanonicalText tenantId = true
  cohort_sha256 : isSha256 cohortSha256 = true
deriving DecidableEq

structure CohortState (T : Type) where
  key : CohortStateKey
  slabId : Option Nat
  slabBytes : Nat
  version : Nat
  createdAt : T
  lastUsedAt : T
  activeRequests : Nat := 0
  offloaded : Bool := false

/-- `CohortOffloadMode`. -/
inductive OffloadMode
  | disabled
  | coldInactiveTimed
deriving DecidableEq

/-- The arguments of the constructor that passed its checks. -/
structure ManagerConfig (T : Type) [TimeValue T] where
  capacity : Nat
  slabBytes : Nat
  tenantQuotas : Dict String Nat
  ttlSeconds : T
  offloadMode : OffloadMode
  offloadedCapacity : Nat
  capacity_pos : 0 < capacity
  slabBytes_pos : 0 < slabBytes
  ttl_finite : TimeValue.isFinite ttlSeconds = true ∧ 0 < ttlSeconds
  quotas_ne : tenantQuotas.entries ≠ []
  quotas_valid : ∀ entry ∈ tenantQuotas.entries,
    isCanonicalText entry.1 = true ∧ 0 < entry.2 ∧ entry.2 ≤ capacity
  disabled_empty : offloadMode = .disabled → offloadedCapacity = 0
  cold_bounded : offloadMode = .coldInactiveTimed → offloadedCapacity ≠ 0

/-- The fields that the operations assign. -/
structure Manager (T : Type) where
  freeSlabs : Finset Nat
  states : Dict CohortStateKey (CohortState T)

structure CohortStateSnapshot (T : Type) where
  state : CohortState T
  expiresAt : T

/-- `CohortAdmissionReason`. -/
inductive AdmissionReason
  | admitted
  | alreadyResident
  | unknownTenant
  | tenantQuota
  | capacity
  | offloadedRestoreRequired
deriving DecidableEq

structure CohortAdmission (T : Type) where
  admitted : Bool
  reason : AdmissionReason
  state : Option (CohortStateSnapshot T)

structure CohortReclamationReceipt (T : Type) where
  key : CohortStateKey
  slabId : Option Nat
  reasonCode : String
  reclaimedAt : T

structure CohortTransferReceipt (T : Type) where
  key : CohortStateKey
  operation : String
  slabId : Nat
  bytesTransferred : Nat
  startedAt : T
  completedAt : T
  mode : OffloadMode

variable {T : Type} [TimeValue T]

def requireTime (name : String) (value : T) : Except Error Unit :=
  require (TimeValue.isFinite value = true ∧ 0 ≤ value)
    (valueError s!"{name} must be a finite non-negative time")

/-- `min(slabs)` of a set that may be empty. -/
def minSlab (slabs : Finset Nat) : Option Nat := slabs.min

theorem minSlab_eq_some {slabs : Finset Nat} {slab : Nat} (h : minSlab slabs = some slab) :
    slab ∈ slabs :=
  Finset.mem_of_min h

variable (cfg : ManagerConfig T) (key : CohortStateKey) (now : T)

namespace Manager

/-! ## Counts -/

def residentCount (m : Manager T) : Nat :=
  m.states.values.countP fun state => state.slabId.isSome

def offloadedCount (m : Manager T) : Nat :=
  m.states.values.countP fun state => state.offloaded

/-- `tenant_resident_count` of `admit`. -/
def tenantResidentCount (m : Manager T) (tenant : String) : Nat :=
  m.states.values.countP fun state => decide (state.key.tenantId = tenant) && !state.offloaded

/-- The manager after its constructor. -/
def initial : Manager T := ⟨Finset.range cfg.capacity, Dict.empty⟩

/-! ## Operations -/

def snapshot (state : CohortState T) : CohortStateSnapshot T :=
  ⟨state, state.lastUsedAt + cfg.ttlSeconds⟩

/-- An assignment to fields of the state of a key. -/
def put (state : CohortState T) : Method (Manager T) Unit :=
  Method.assign fun m => { m with states := m.states.set key state }

/-- `_free_slabs.add`. -/
def addSlab (slab : Nat) : Method (Manager T) Unit :=
  Method.assign fun m => { m with freeSlabs := insert slab m.freeSlabs }

/-- `_free_slabs.remove` of a slab that is free. -/
def removeSlab (slab : Nat) : Method (Manager T) Unit :=
  Method.assign fun m => { m with freeSlabs := m.freeSlabs.erase slab }

/-- The state of a key, or `KeyError`. -/
def requireState : Method (Manager T) (CohortState T) := do
  match ← Method.read (·.states.get? key) with
  | none => Method.raise (keyError "cohort state does not exist for this tenant identity")
  | some state => pure state

/-- The last part of `admit`: a new state on the lowest free slab. -/
def admitNew (version : Nat) : Method (Manager T) (CohortAdmission T) := do
  let m ← Method.read id
  match cfg.tenantQuotas.get? key.tenantId with
  | none => pure ⟨false, .unknownTenant, none⟩
  | some quota =>
    if quota ≤ m.tenantResidentCount key.tenantId then pure ⟨false, .tenantQuota, none⟩
    else if cfg.capacity + cfg.offloadedCapacity ≤ m.states.size ∨
        cfg.capacity ≤ m.residentCount then pure ⟨false, .capacity, none⟩
    else
      match minSlab m.freeSlabs with
      | none => pure ⟨false, .capacity, none⟩
      | some slab => do
        removeSlab slab
        let state : CohortState T :=
          { key := key, slabId := some slab, slabBytes := cfg.slabBytes, version := version,
            createdAt := now, lastUsedAt := now }
        put key state
        pure ⟨true, .admitted, some (snapshot cfg state)⟩

def admitCohort (version : Int) : Method (Manager T) (CohortAdmission T) := do
  Method.check (requireTime "now" now)
  Method.check (require (0 ≤ version) (valueError "version must be a non-negative integer"))
  match ← Method.read (·.states.get? key) with
  | some existing =>
    if existing.offloaded then
      pure ⟨false, .offloadedRestoreRequired, some (snapshot cfg existing)⟩
    else do
      let state := { existing with lastUsedAt := max existing.lastUsedAt now }
      put key state
      pure ⟨true, .alreadyResident, some (snapshot cfg state)⟩
  | none => admitNew cfg key now version.toNat

def acquire : Method (Manager T) (CohortStateSnapshot T) := do
  Method.check (requireTime "now" now)
  let state ← requireState key
  if state.offloaded = true ∨ state.slabId = none then
    Method.raise (runtimeError "cold cohort state must be restored before acquisition")
  else do
    let state := { state with
      activeRequests := state.activeRequests + 1
      lastUsedAt := max state.lastUsedAt now }
    put key state
    pure (snapshot cfg state)

def release (cfg : ManagerConfig T) (key : CohortStateKey) (now : T) :
    Method (Manager T) (CohortStateSnapshot T) := do
  Method.check (requireTime "now" now)
  let state ← requireState key
  if state.activeRequests = 0 then
    Method.raise (runtimeError "cohort state has no active request to release")
  else do
    let state := { state with
      activeRequests := state.activeRequests - 1
      lastUsedAt := max state.lastUsedAt now }
    put key state
    pure (snapshot cfg state)

def publishVersion (sourceVersion newVersion : Int) (now : T) :
    Method (Manager T) (CohortStateSnapshot T) := do
  Method.check (requireTime "now" now)
  match ← Method.read (·.states.get? key) with
  | none => Method.raise (runtimeError "only resident cohort state can publish")
  | some state =>
    if state.offloaded then Method.raise (runtimeError "only resident cohort state can publish")
    else if (state.version : Int) ≠ sourceVersion ∨ newVersion ≠ sourceVersion + 1 then
      Method.raise (valueError "cohort publication version conflict")
    else do
      let state := { state with
        version := newVersion.toNat
        lastUsedAt := max state.lastUsedAt now }
      put key state
      pure (snapshot cfg state)

def reclaim (reasonCode : String) : Method (Manager T) (CohortReclamationReceipt T) := do
  Method.check (requireTime "now" now)
  Method.check (require (isCanonicalText reasonCode = true)
    (valueError "reclamation requires a canonical reason code"))
  let state ← requireState key
  if state.activeRequests ≠ 0 then
    Method.raise (runtimeError "active cohort state cannot be reclaimed")
  else do
    match state.slabId with
    | some slab => addSlab slab
    | none => pure ()
    Method.assign fun m => { m with states := m.states.erase key }
    pure ⟨key, state.slabId, reasonCode, now⟩

def reclaimExpired : Method (Manager T) (List (CohortReclamationReceipt T)) := do
  Method.check (requireTime "now" now)
  let m ← Method.read id
  let expired := sortedBy
    (fun state : CohortState T => toLex (state.lastUsedAt, toLex (state.key.tenantId,
      toLex (state.key.cohortSha256, state.key.replicaId))))
    (m.states.values.filter fun state =>
      decide (state.activeRequests = 0) && decide (state.lastUsedAt + cfg.ttlSeconds ≤ now))
  Method.collect (fun state => reclaim state.key now "ttl_expired") expired

def reclaimLru (count : Int) (now : T) :
    Method (Manager T) (List (CohortReclamationReceipt T)) := do
  Method.check (require (1 ≤ count) (valueError "count must be a positive integer"))
  Method.check (requireTime "now" now)
  let m ← Method.read id
  let candidates := sortedBy
    (fun state : CohortState T => toLex (state.lastUsedAt, toLex (state.createdAt,
      toLex (state.key.tenantId, toLex (state.key.cohortSha256, state.key.replicaId)))))
    (m.states.values.filter fun state => decide (state.activeRequests = 0))
  Method.collect (fun state => reclaim state.key now "lru_reclaimed")
    (candidates.take count.toNat)

/-- The checks on the mode and the times that the two transfers share. -/
def requireTransfer (startedAt completedAt : T) (message : String) : Except Error Unit := do
  require (cfg.offloadMode = .coldInactiveTimed)
    (runtimeError "cold offload mode is not explicitly enabled")
  requireTime "started_at" startedAt
  requireTime "completed_at" completedAt
  require (startedAt ≤ completedAt) (valueError message)

def offloadCold (startedAt completedAt : T) : Method (Manager T) (CohortTransferReceipt T) := do
  Method.check (requireTransfer cfg startedAt completedAt "offload completion precedes its start")
  let state ← requireState key
  if state.activeRequests ≠ 0 then
    Method.raise (runtimeError "active cohort state cannot be offloaded")
  else
    match state.slabId, state.offloaded with
    | some slab, false => do
      let m ← Method.read id
      if cfg.offloadedCapacity ≤ m.offloadedCount then
        Method.raise (memoryError "bounded cold-host cohort tier is full")
      else do
        addSlab slab
        put key { state with
          slabId := none
          offloaded := true
          lastUsedAt := max state.lastUsedAt completedAt }
        pure ⟨key, "cold_offload", slab, state.slabBytes, startedAt, completedAt, cfg.offloadMode⟩
    | _, _ => Method.raise (runtimeError "cohort state is already offloaded")

def restoreCold (startedAt completedAt : T) : Method (Manager T) (CohortTransferReceipt T) := do
  Method.check (requireTransfer cfg startedAt completedAt "restore completion precedes its start")
  let state ← requireState key
  if state.offloaded = false ∨ state.slabId ≠ none then
    Method.raise (runtimeError "cohort state is already resident")
  else do
    let m ← Method.read id
    match minSlab m.freeSlabs with
    | none => Method.raise (memoryError "no fixed cohort slab is available for restore")
    | some slab => do
      removeSlab slab
      put key { state with
        slabId := some slab
        offloaded := false
        lastUsedAt := max state.lastUsedAt completedAt }
      pure ⟨key, "cold_restore", slab, state.slabBytes, startedAt, completedAt, cfg.offloadMode⟩

/-! ## Calls -/

end Manager

inductive ManagerCall (T : Type)
  | admitCohort (key : CohortStateKey) (now : T) (version : Int)
  | acquire (key : CohortStateKey) (now : T)
  | release (key : CohortStateKey) (now : T)
  | publishVersion (key : CohortStateKey) (sourceVersion newVersion : Int) (now : T)
  | reclaim (key : CohortStateKey) (now : T) (reasonCode : String)
  | reclaimExpired (now : T)
  | reclaimLru (count : Int) (now : T)
  | offloadCold (key : CohortStateKey) (startedAt completedAt : T)
  | restoreCold (key : CohortStateKey) (startedAt completedAt : T)

def ManagerCall.Reply : ManagerCall T → Type
  | .admitCohort .. => CohortAdmission T
  | .acquire .. | .release .. | .publishVersion .. => CohortStateSnapshot T
  | .reclaim .. => CohortReclamationReceipt T
  | .reclaimExpired .. | .reclaimLru .. => List (CohortReclamationReceipt T)
  | .offloadCold .. | .restoreCold .. => CohortTransferReceipt T

namespace Manager

def method : (call : ManagerCall T) → Method (Manager T) call.Reply
  | .admitCohort key now version => admitCohort cfg key now version
  | .acquire key now => acquire cfg key now
  | .release key now => release cfg key now
  | .publishVersion key sourceVersion newVersion now =>
    publishVersion cfg key sourceVersion newVersion now
  | .reclaim key now reasonCode => reclaim key now reasonCode
  | .reclaimExpired now => reclaimExpired cfg now
  | .reclaimLru count now => reclaimLru count now
  | .offloadCold key startedAt completedAt => offloadCold cfg key startedAt completedAt
  | .restoreCold key startedAt completedAt => restoreCold cfg key startedAt completedAt

/-- One call: the error if it raised, and the manager after it. -/
def step (m : Manager T) (call : ManagerCall T) : Option Error × Manager T :=
  match method cfg call m with
  | (.ok _, t) => (none, t)
  | (.error e, t) => (some e, t)

end Manager

end Adaptation

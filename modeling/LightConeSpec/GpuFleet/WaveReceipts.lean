import LightConeSpec.Lib.Log
import LightConeSpec.Pool.Receipts

/-!
# Receipts of one fleet wave

A frozen fleet plan gives each wave its assignments, grouped by the host that
runs them. `FleetWaveReceipt.aggregate` collects one receipt of every host; a
retry takes the previous fleet receipt and may only advance the hosts that
failed in it.

The records have the source's fields and constructor checks. The host's own
receipt is the `DispatchWaveExecutionReceipt` of its local dispatch.
-/

namespace GpuFleet

open Python Pool

variable {D : Type} [LinearOrder D]

/-! ## The frozen plan -/

/-- What aggregation reads of a `GpuFleetAssignment`; the last field is the digest
of the host's own assignment. -/
structure GpuFleetAssignment (D : Type) where
  hostId : String
  localWaveIndex : ℕ
  localWaveSha256 : D
  assignmentSha256 : D

/-- What aggregation reads of a `GpuFleetDispatchWave`. -/
structure GpuFleetDispatchWave (D : Type) where
  sha256 : D
  assignments : List (GpuFleetAssignment D)

/-- What aggregation reads of a `HostDispatchPlan`. -/
structure HostDispatchPlan (D : Type) where
  hostId : String
  dispatchPlanSha256 : D

/-- What aggregation reads of a `GpuFleetDispatchPlan`. Its constructor checks
that no host has two plans. -/
structure GpuFleetDispatchPlan (D : Type) where
  sha256 : D
  hostPlans : List (HostDispatchPlan D)
  waves : List (GpuFleetDispatchWave D)
  distinct : (hostPlans.map (·.hostId)).Nodup

/-! ## Host receipts -/

inductive HostWaveStatus
  | succeeded
  | failed
deriving DecidableEq

structure HostWaveReceipt (D : Type) where
  hostId : String
  fleetPlanSha256 : D
  fleetWaveSha256 : D
  hostDispatchPlanSha256 : D
  localWaveIndex : ℕ
  localWaveSha256 : D
  attempt : ℕ
  status : HostWaveStatus
  dispatchReceipt : Option (DispatchWaveExecutionReceipt D)
  failureSha256 : Option D
  priorHostReceiptSha256 : Option D
deriving DecidableEq

/-! ## Fleet receipts -/

structure FleetWaveReceipt (D : Type) where
  schemaVersion : ℕ
  fleetPlanSha256 : D
  fleetWaveIndex : ℕ
  fleetWaveSha256 : D
  attempt : ℕ
  hostReceipts : List (HostWaveReceipt D)
  priorFleetReceiptSha256 : Option D

/-- `content_sha256` of the receipts. -/
structure ReceiptSha (D : Type) where
  hostReceipt : HostWaveReceipt D → D
  fleetReceipt : FleetWaveReceipt D → D

namespace FleetWaveReceipt

variable (r : FleetWaveReceipt D)

def hostIds : List String := r.hostReceipts.map (·.hostId)

def postInit : Except Error Unit := do
  require (r.schemaVersion = 1)
    (valueError "only fleet-wave receipt schema version 1 is supported")
  require (1 ≤ r.attempt) (valueError "fleet receipt attempt must be positive")
  require (r.hostReceipts ≠ []) (valueError "fleet wave receipt needs host outcomes")
  require (r.hostIds.Pairwise (· ≤ ·) ∧ r.hostIds.Nodup)
    (valueError "fleet host receipts must be sorted and unique")
  require (∀ row ∈ r.hostReceipts, row.fleetPlanSha256 = r.fleetPlanSha256 ∧
      row.fleetWaveSha256 = r.fleetWaveSha256)
    (valueError "fleet receipt mixes plan/wave identities")
  if r.attempt = 1 then
    require (r.priorFleetReceiptSha256 = none)
      (valueError "first fleet attempt cannot bind a prior receipt")
  else
    require (r.priorFleetReceiptSha256 ≠ none)
      (valueError "retried fleet receipt must bind its prior receipt")

def succeeded : Bool := r.hostReceipts.all fun row => row.status = .succeeded

/-- The checks of one host receipt in `validate_for_plan`. -/
def validateHost (plan : GpuFleetDispatchPlan D) (wave : GpuFleetDispatchWave D)
    (receipt : HostWaveReceipt D) : Except Error Unit :=
  let assignments := wave.assignments.filter fun row => row.hostId = receipt.hostId
  match assignments, plan.hostPlans.find? fun row => row.hostId = receipt.hostId with
  | first :: _, some hostPlan => do
      require (receipt.hostDispatchPlanSha256 = hostPlan.dispatchPlanSha256 ∧
          receipt.localWaveIndex = first.localWaveIndex ∧
          receipt.localWaveSha256 = first.localWaveSha256)
        (valueError "host receipt differs from its fleet assignment")
      require (∀ dispatch ∈ receipt.dispatchReceipt,
          sortedSet (dispatch.assignmentReceipts.map (·.assignmentSha256))
            = sortedSet (assignments.map (·.assignmentSha256)))
        (valueError "host receipt has incomplete assignment coverage")
  | _, _ => .error (keyError receipt.hostId)

def validateForPlan (plan : GpuFleetDispatchPlan D) : Except Error Unit := do
  require (r.fleetPlanSha256 = plan.sha256)
    (valueError "fleet receipt belongs to another plan")
  match plan.waves[r.fleetWaveIndex]? with
  | none => .error (valueError "fleet receipt references an unknown wave")
  | some wave => do
      require (r.fleetWaveSha256 = wave.sha256)
        (valueError "fleet receipt wave identity mismatch")
      require (r.hostIds = sortedSet (wave.assignments.map (·.hostId)))
        (valueError "fleet receipt must cover every participating host")
      forEach (validateHost plan wave) r.hostReceipts

end FleetWaveReceipt

def checkHostRetry (sha : ReceiptSha D) (prior row : HostWaveReceipt D) : Except Error Unit :=
  if prior.status = .succeeded then
    require (row = prior) (valueError "successful host evidence must be preserved")
  else if row = prior then .ok ()
  else
    require (row.attempt = prior.attempt + 1 ∧
        row.priorHostReceiptSha256 = some (sha.hostReceipt prior) ∧
        row.hostDispatchPlanSha256 = prior.hostDispatchPlanSha256 ∧
        row.localWaveSha256 = prior.localWaveSha256)
      (valueError "failed host retry is not receipt-bound")

def checkRetry (sha : ReceiptSha D) (plan : GpuFleetDispatchPlan D) (fleetWaveIndex : ℕ)
    (rows : List (HostWaveReceipt D)) (prior : FleetWaveReceipt D) : Except Error Unit := do
  prior.validateForPlan plan
  require (prior.succeeded = false)
    (valueError "a successful fleet wave cannot be retried")
  require (prior.fleetWaveIndex = fleetWaveIndex)
    (valueError "fleet retry cannot move to another wave")
  require (sortedSet (rows.map (·.hostId)) = sortedSet prior.hostIds)
    (valueError "fleet retry cannot add, remove, or migrate hosts")
  forEach (fun row =>
    match prior.hostReceipts.find? fun old => old.hostId = row.hostId with
    | none => .error (keyError row.hostId)
    | some old => checkHostRetry sha old row) rows
  require (∃ row ∈ rows, row ∉ prior.hostReceipts)
    (valueError "fleet retry must advance at least one failed host")

def aggregate (sha : ReceiptSha D) (plan : GpuFleetDispatchPlan D) (fleetWaveIndex : ℕ)
    (hostReceipts : List (HostWaveReceipt D)) (prior : Option (FleetWaveReceipt D)) :
    Except Error (FleetWaveReceipt D) := do
  let rows := sortedBy (·.hostId) hostReceipts
  match prior with
  | none =>
    match plan.waves[fleetWaveIndex]? with
    | none => .error (indexError "tuple index out of range")
    | some wave => do
        let receipt ← validated FleetWaveReceipt.postInit {
          schemaVersion := 1
          fleetPlanSha256 := plan.sha256
          fleetWaveIndex := fleetWaveIndex
          fleetWaveSha256 := wave.sha256
          attempt := 1
          hostReceipts := rows
          priorFleetReceiptSha256 := none }
        require (∀ row ∈ rows, row.attempt = 1)
          (valueError "initial fleet receipt requires first host attempts")
        receipt.validateForPlan plan
        pure receipt
  | some prior =>
    checkRetry sha plan fleetWaveIndex rows prior
    match plan.waves[fleetWaveIndex]? with
    | none => .error (indexError "tuple index out of range")
    | some wave => do
        let receipt ← validated FleetWaveReceipt.postInit {
          schemaVersion := 1
          fleetPlanSha256 := plan.sha256
          fleetWaveIndex := fleetWaveIndex
          fleetWaveSha256 := wave.sha256
          attempt := prior.attempt + 1
          hostReceipts := rows
          priorFleetReceiptSha256 := some (sha.fleetReceipt prior) }
        receipt.validateForPlan plan
        pure receipt

/-! ## What an aggregation does -/

section

variable {sha : ReceiptSha D} {plan : GpuFleetDispatchPlan D}
  {prior receipt : FleetWaveReceipt D} {rows : List (HostWaveReceipt D)} {fleetWaveIndex : ℕ}

/-- What validation against a plan says: the hosts are those of the wave, and the
row of a host has the identities and assignments that the plan gives it. -/
structure ValidFor (plan : GpuFleetDispatchPlan D) (wave : GpuFleetDispatchWave D)
    (receipt : FleetWaveReceipt D) : Prop where
  found : plan.waves[receipt.fleetWaveIndex]? = some wave
  hosts : receipt.hostIds = sortedSet (wave.assignments.map (·.hostId))
  rows : ∀ row ∈ receipt.hostReceipts, FleetWaveReceipt.validateHost plan wave row = .ok ()

theorem validFor_of_validateForPlan (h : receipt.validateForPlan plan = .ok ()) :
    ∃ wave, ValidFor plan wave receipt := by
  unfold FleetWaveReceipt.validateForPlan at h
  simp only [bind_eq_ok, check_eq_ok] at h
  obtain ⟨-, h⟩ := h
  split at h
  · cases h
  · rename_i wave hwave
    simp only [bind_eq_ok, check_eq_ok, forEach_eq_ok] at h
    exact ⟨wave, hwave, h.2.1, h.2.2⟩

/-- The row of a host is unique. -/
theorem ValidFor.unique {wave : GpuFleetDispatchWave D} (h : ValidFor plan wave receipt)
    {a b : HostWaveReceipt D} (ha : a ∈ receipt.hostReceipts) (hb : b ∈ receipt.hostReceipts)
    (hab : a.hostId = b.hostId) : a = b := by
  have hnd : (receipt.hostReceipts.map (·.hostId)).Nodup := by
    have hset := nodup_sortedSet (wave.assignments.map (·.hostId))
    rw [← h.hosts] at hset
    exact hset
  exact List.inj_on_of_nodup_map hnd ha hb hab

/-- What a retry does to the row of one host. -/
inductive HostStep (sha : ReceiptSha D) (old : HostWaveReceipt D) : HostWaveReceipt D → Prop
  | carried : HostStep sha old old
  | retried {new : HostWaveReceipt D} (hfailed : old.status = .failed)
      (hattempt : new.attempt = old.attempt + 1)
      (hbinds : new.priorHostReceiptSha256 = some (sha.hostReceipt old)) : HostStep sha old new

theorem hostStep_of_checkHostRetry {old new : HostWaveReceipt D}
    (h : checkHostRetry sha old new = .ok ()) : HostStep sha old new := by
  unfold checkHostRetry at h
  split at h
  · obtain rfl := require_eq_ok.mp h
    exact .carried
  · rename_i hstatus
    split at h
    · rename_i heq
      rw [heq]
      exact .carried
    · obtain ⟨hattempt, hbinds, -, -⟩ := require_eq_ok.mp h
      refine .retried ?_ hattempt hbinds
      cases hs : old.status with
      | succeeded => exact absurd hs hstatus
      | failed => rfl

/-- A receipt aggregated after another one. -/
structure Follows (sha : ReceiptSha D) (plan : GpuFleetDispatchPlan D)
    (prior receipt : FleetWaveReceipt D) : Prop where
  unfinished : prior.succeeded = false
  index : receipt.fleetWaveIndex = prior.fleetWaveIndex
  attempt : receipt.attempt = prior.attempt + 1
  link : receipt.priorFleetReceiptSha256 = some (sha.fleetReceipt prior)
  steps : ∀ old ∈ prior.hostReceipts, ∀ new ∈ receipt.hostReceipts, new.hostId = old.hostId →
    HostStep sha old new

theorem aggregate_initial {hostReceipts : List (HostWaveReceipt D)}
    (h : aggregate sha plan fleetWaveIndex hostReceipts none = .ok receipt) :
    (∃ wave, ValidFor plan wave receipt) ∧ receipt.attempt = 1 ∧
      receipt.priorFleetReceiptSha256 = none ∧ ∀ row ∈ receipt.hostReceipts, row.attempt = 1 := by
  unfold aggregate at h
  dsimp only at h
  split at h
  · cases h
  · simp only [bind_eq_ok, validated_eq_ok, check_eq_ok, pure_eq_ok] at h
    obtain ⟨_, ⟨-, rfl⟩, hfirst, ⟨⟩, hvalid, rfl⟩ := h
    exact ⟨validFor_of_validateForPlan hvalid, rfl, rfl, hfirst⟩

theorem aggregate_retry {hostReceipts : List (HostWaveReceipt D)}
    (h : aggregate sha plan fleetWaveIndex hostReceipts (some prior) = .ok receipt) :
    (∃ wave, ValidFor plan wave receipt) ∧ Follows sha plan prior receipt := by
  unfold aggregate at h
  simp only [bind_eq_ok] at h
  obtain ⟨⟨⟩, hcheck, h⟩ := h
  split at h
  · cases h
  simp only [bind_eq_ok, validated_eq_ok, pure_eq_ok] at h
  obtain ⟨_, ⟨-, rfl⟩, ⟨⟩, hvalid, rfl⟩ := h
  simp only [checkRetry, bind_eq_ok, require_eq_ok, exists_const, forEach_eq_ok] at hcheck
  obtain ⟨⟨⟩, hprior, hunfinished, hindex, -, hrows, -⟩ := hcheck
  obtain ⟨wave, hpriorValid⟩ := validFor_of_validateForPlan hprior
  refine ⟨validFor_of_validateForPlan hvalid, hunfinished, hindex.symm, rfl, rfl, ?_⟩
  intro old hold new hnew hhost
  have hrow := hrows new hnew
  split at hrow
  · cases hrow
  · rename_i found hfind
    have hfound : found.hostId = new.hostId := by simpa using List.find?_some hfind
    obtain rfl := hpriorValid.unique (List.mem_of_find?_eq_some hfind) hold (hfound.trans hhost)
    exact hostStep_of_checkHostRetry hrow

end

end GpuFleet

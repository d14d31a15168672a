import Mathlib.Data.List.MinMax
import LightConeSpec.Lib.Dict
import LightConeSpec.Scheduling.WorkItems

/-!
# The pool scheduler

`GpuPoolScheduler._schedule_work_items` checks its input, places the items one after another in
the dispatch order, each on the gang with the least load so far, and packs the placements into
waves.

An affinity group is bound to the gang of its first member. `RejectsGroup` says that the scheduler
refuses a group because a later member does not admit that gang.
-/

namespace Scheduling

open Python Chunks
open Control (isSha256)

/-- Refused before dispatch. -/
def capabilityRejection (message : String) : Error := ⟨.capabilityRejectionError, message⟩

/-- `GpuPoolScheduler`, with what its constructor checks of the ports. -/
structure GpuPoolScheduler where
  registry : List ExperimentCell
  inventory : GpuInventory
  interferenceRules : List InterferenceRule
  portStart : ℕ
  portEnd : ℕ
  seed : ℕ
  portStart_le : 1024 ≤ portStart
  portRange : portStart ≤ portEnd
  portEnd_le : portEnd ≤ 65535

/-- The rejection reasons of a release: `release_dispatch_rejection_reason` and, for cells that a
reducer selected, `release_execution_capability_rejection_reason`. -/
structure Release where
  dispatchRejectionReason : ExperimentCell → Option String
  executionRejectionReason : ExperimentCell → Option String

def Release.dispatchable (release : Release) (cell : ExperimentCell) (reducerAuthorized : Bool) :
    Bool :=
  if reducerAuthorized then (release.executionRejectionReason cell).isNone
  else (release.dispatchRejectionReason cell).isNone

/-- The arguments of `_schedule_work_items`. -/
structure WorkRequest (Seconds : Type) where
  workItems : List (PoolWorkItem Seconds)
  receiptsSha256 : String
  completedCellIds : List String
  budgetSha256ByCell : Dict String String
  reducerAuthorizedCellIds : List String

/-! ## What the registry declares -/

def isIn (part text : String) : Bool := text.toList.tails.any part.toList.isPrefixOf

/-- `text.split(separator, maxsplit=1)[0]`. -/
def beforeFirst (separator : List Char) : List Char → List Char
  | [] => []
  | c :: rest =>
    if separator.isPrefixOf (c :: rest) then [] else c :: beforeFirst separator rest

def GangShape.new (tp dp : ℕ) : Except Error GangShape :=
  if htp : 1 ≤ tp then
    if hdp : 1 ≤ dp then .ok ⟨tp, dp, htp, hdp⟩
    else .error (valueError "data_parallel_size must be a positive integer")
  else .error (valueError "tensor_parallel_size must be a positive integer")

/-- The shape that a topology names for a number of devices. -/
def topologyGangShape (topology : String) (gpuCount : ℕ) : Except Error GangShape :=
  if topology = "two_replica_tp1_dp2" ∨ isIn "two_independent_tp1" topology then
    GangShape.new 1 gpuCount
  else if isIn "tp2" topology then GangShape.new 2 (gpuCount / 2)
  else GangShape.new gpuCount 1

def registryGangShape (cell : ExperimentCell) : Except Error GangShape := do
  let shape ← topologyGangShape cell.identity.topology.toLower cell.resources.gpuCount
  require (shape.gpuCount = cell.resources.gpuCount)
    (valueError "registry topology and resource GPU count disagree")
  pure shape

variable {Seconds : Type} (d : Digests Seconds) (release : Release) (scheduler : GpuPoolScheduler)

/-- The claim has the isolation class that `registry_pool_work_item` declares for the cell. -/
def checkIsolation (registered : ExperimentCell) (claim : PoolClaim Seconds) :
    Except Error Unit := do
  let identity := registered.identity
  let calibration :=
    identity.experiment = "preflight" ∧ identity.task = "simultaneous_single_gpu_interference"
  let mode := String.ofList (beforeFirst "_slot_".toList identity.variant.toList)
  require (calibration → mode ∈ ["isolated", "concurrent"])
    (valueError "calibration cell has an invalid registered mode")
  let exclusiveHost := registered.resources.workloadClass ∈ exclusiveHostClasses ∨
    calibration ∧ mode = "isolated"
  require (claim.exclusiveGpu = true ∧ (claim.exclusiveHost = true ↔ exclusiveHost) ∧
      claim.cpuCores = 1 ∧ claim.numaNodes = [] ∧ claim.ramBytes = 0 ∧
      claim.diskIoClass = "registered" ∧ claim.networkClass = "registered" ∧
      claim.interferenceClass = d.interferenceClass registered ∧
      claim.loadThermalPowerEnvelope = "registered")
    (valueError "pool claim changes its registered isolation class")

/-- The loop over the items that compares each with its registered cell. -/
def checkRegistered (item : PoolWorkItem Seconds) : Except Error Unit :=
  match scheduler.registry.find? fun cell => d.cellId cell.identity = d.itemId item with
  | none => .error (keyError (d.itemId item))
  | some registered => do
    require (d.cell item.cell = d.cell registered)
      (valueError "work item changes its registered cell declaration")
    let shape ← registryGangShape registered
    require (item.claim.gangShape = shape ∧
        item.claim.portCount = registered.resources.ports.length ∧
        item.claim.cacheRoot = registered.resources.cacheRoot ∧
        item.claim.evidenceRoot = registered.resources.evidenceRoot ∧
        item.claim.workloadClass = registered.resources.workloadClass)
      (valueError "pool claim changes a registered resource invariant")
    checkIsolation d registered item.claim

/-- The checks of `_schedule_work_items`, up to the dispatch order. -/
def checkWorkItems (request : WorkRequest Seconds) : Except Error Unit := do
  let items := request.workItems
  let itemIds := items.map d.itemId
  let registryIds := scheduler.registry.map fun cell => d.cellId cell.identity
  let completed := request.completedCellIds
  let budgets := request.budgetSha256ByCell.entries
  requireSha256 "receipts_sha256" request.receiptsSha256
  require itemIds.Nodup (valueError "work items contain duplicate cell identities")
  require (budgets ≠ [] → SameValues (budgets.map Prod.fst) itemIds)
    (valueError "dispatch budget bindings must cover every work item exactly")
  checkBudgets budgets
  require (∀ cellId ∈ request.reducerAuthorizedCellIds, cellId ∈ itemIds)
    (valueError "reducer-authorized cells differ from the work-item set")
  require (∀ item ∈ items, release.dispatchable item.cell
      (request.reducerAuthorizedCellIds.contains (d.itemId item)))
    (valueError "work items contain a blocked or non-executable method/capability")
  require (∀ itemId ∈ itemIds, itemId ∈ registryIds)
    (valueError "work item is not bound to this registry")
  require completed.Nodup (valueError "completed cell identities must be unique")
  require (∀ cellId ∈ completed, isSha256 cellId)
    (valueError "completed cell identities must be lower-case SHA-256")
  require (∀ cellId ∈ completed, cellId ∈ registryIds)
    (valueError "completed cells include an identity outside the registry")
  require (∀ cellId ∈ completed, cellId ∉ itemIds)
    (valueError "completed cells cannot remain in the work-item set")
  forEach (checkRegistered d scheduler) items

/-! ## The dispatch order -/

def pilotBlocks : List ℕ := [0, 1, 2, 3]

def dispatchOrderKey (item : PoolWorkItem Seconds) : ℕ ×ₗ ℕ ×ₗ String ×ₗ String ×ₗ String :=
  let identity := item.cell.identity
  let phase := if identity.block ∈ pilotBlocks then 0 else 1
  let pairedGroup := item.serialGroupKey.getD (d.pairedGroup identity scheduler.seed)
  toLex (phase, toLex (identity.block, toLex (pairedGroup,
    toLex (d.methodOrder pairedGroup identity.method identity.seed, d.itemId item))))

/-- The items in the order in which they are placed. -/
def ordered (items : List (PoolWorkItem Seconds)) : List (PoolWorkItem Seconds) :=
  sortedBy (dispatchOrderKey d scheduler) items

/-! ## Placing -/

/-- The gangs on which an item may run. -/
def candidates (item : PoolWorkItem Seconds) : List (List String) :=
  candidateGangs d.hardware scheduler.inventory item.claim.toPoolResourceClaim

def calibrationConcurrentSlot (item : PoolWorkItem Seconds) : Except Error (Option ℕ) :=
  let identity := item.cell.identity
  let tag := "concurrent_slot_".toList
  if identity.experiment ≠ "preflight" ∨ identity.task ≠ "simultaneous_single_gpu_interference" ∨
      identity.method ≠ "static" ∨ item.claim.workloadClass ≠ .correctness then .ok none
  else if !tag.isPrefixOf identity.variant.toList then .ok none
  else
    match identity.variant.toList.drop tag.length with
    | ['0'] => .ok (some 0)
    | ['1'] => .ok (some 1)
    | _ => .error (valueError "calibration concurrent slot is not registered")

/-- What the loop over the items keeps: `affinity_assignments`, `device_load_seconds` and
`placements`. -/
structure Placing (Seconds : Type) where
  bound : String → Option (List String)
  load : String → Seconds
  placements : List (GpuAssignment Seconds)

def gangLoadKey [LinearOrder Seconds] (load : String → Seconds) (rotation : ℕ)
    (gang : List String) : WithBot Seconds ×ₗ List ℤ ×ₗ List String :=
  let uuids := scheduler.inventory.uuids
  let rotated := gang.map fun uuid => ((uuids.idxOf uuid : ℤ) - rotation) % uuids.length
  toLex ((gang.map load).maximum, toLex (rotated, gang))

/-- No gang is admissible for all members of an affinity group, as the scheduler has it. -/
def affinityRejection : Error :=
  capabilityRejection "affinity group has no common capability/topology placement"

section

variable [LinearOrder Seconds]

/-- The candidates for an item, those of its group's gang once that is bound. -/
def gangsFor (s : Placing Seconds) (item : PoolWorkItem Seconds) :
    Except Error (List (List String)) :=
  match item.affinityKey.bind s.bound with
  | some bound => do
    let gangs := (candidates d scheduler item).filter (· = bound)
    require (gangs ≠ []) affinityRejection
    pure gangs
  | none => pure (candidates d scheduler item)

def selectGang (s : Placing Seconds) (item : PoolWorkItem Seconds) :
    Except Error (List String) := do
  let gangs ← gangsFor d scheduler s item
  require (gangs ≠ []) (capabilityRejection
    s!"cell {d.itemId item} has no ready capability/topology placement")
  match ← calibrationConcurrentSlot item with
  | some slot => do
    require (2 ≤ gangs.length)
      (capabilityRejection "two-way calibration has fewer than two compatible GPUs")
    let orderedGangs := sortedBy
      (fun gang : List String => gang.map (scheduler.inventory.uuids.idxOf ·)) gangs
    pure (orderedGangs.getD ((item.cell.identity.block + slot) % orderedGangs.length) [])
  | none =>
    let rotation := d.rotation scheduler.seed item.affinityKey (d.itemId item)
    pure ((gangs.argmin (gangLoadKey scheduler s.load rotation)).getD [])

def placeholderPorts (claim : PoolClaim Seconds) : List ℕ :=
  if claim.exactPorts ≠ [] then claim.exactPorts
  else List.range' scheduler.portStart claim.portCount

/-- An assignment on a gang, before the waves bind its ports. -/
def placeholder (item : PoolWorkItem Seconds) (gang : List String) : GpuAssignment Seconds where
  workItem := item
  gpuUuids := gang
  rankGroups := (List.range item.claim.gangShape.dataParallelSize).map
    (chunk item.claim.gangShape.tensorParallelSize gang)
  ports := placeholderPorts scheduler item.claim

variable [Add Seconds]

/-- The state with one more assignment. -/
def Placing.assign (s : Placing Seconds) (a : GpuAssignment Seconds) : Placing Seconds where
  bound := fun key =>
    if a.workItem.affinityKey = some key ∧ s.bound key = none then some a.gpuUuids else s.bound key
  load := fun uuid =>
    if uuid ∈ a.gpuUuids then s.load uuid + a.workItem.claim.estimatedDurationSeconds
    else s.load uuid
  placements := s.placements ++ [a]

/-- The body of the loop over the items. -/
def place (s : Placing Seconds) (item : PoolWorkItem Seconds) : Except Error (Placing Seconds) := do
  let selected ← selectGang d scheduler s item
  let assignment ← validated GpuAssignment.postInit (placeholder scheduler item selected)
  pure (s.assign assignment)

variable [Zero Seconds]

def Placing.start : Placing Seconds := ⟨fun _ => none, fun _ => 0, []⟩

/-- The loop over the items. -/
def placeAll (items : List (PoolWorkItem Seconds)) : Except Error (Placing Seconds) :=
  items.foldlM (place d scheduler) .start

end

/-! ## Waves -/

/-- The value of all, if they have one. -/
def common {β : Type} [DecidableEq β] (values : List β) : Option β :=
  if values.dedup.length = 1 then values.head? else none

def permits (assignments : List (GpuAssignment Seconds)) : Bool :=
  let claims := assignments.map (·.workItem.claim)
  let devices := (assignments.flatMap (·.gpuUuids)).filterMap scheduler.inventory.device?
  if assignments.length ≤ 1 then true
  else match common (claims.map (·.workloadClass)) with
    | none => false
    | some workloadClass =>
      if claims.any (·.exclusiveHost) then false
      else if workloadClass ∈ exclusiveHostClasses then false
      else match common (claims.map (·.interferenceClass)),
          common (claims.map (·.gangShape.signature)),
          common (claims.map (·.loadThermalPowerEnvelope)), common (claims.map d.contention),
          common (devices.map fun device => d.hardware device.hardware) with
        | some coRun, some shape, some load, some contention, some hardware =>
          scheduler.interferenceRules.any fun rule =>
            rule.status = "PASS" ∧ rule = ⟨hardware, workloadClass, coRun, assignments.length,
              shape, load, contention, rule.status⟩
        | _, _, _, _, _ => false

/-- The tests of `_wave_compatible` on its assignments; `seen` are those before. -/
def pairwiseApart (seen : List (GpuAssignment Seconds)) : List (GpuAssignment Seconds) → Bool
  | [] => true
  | a :: rest =>
    !seen.any a.sharesGpu && !seen.any a.sharesPort
      && !(seen.any a.sharesCache || seen.any a.sharesEvidence) && !seen.any a.sharesSerialGroup
      && pairwiseApart (seen ++ [a]) rest

def waveCompatible (assignments : List (GpuAssignment Seconds)) : Bool :=
  pairwiseApart [] assignments && permits d scheduler assignments

/-- The ports of one assignment in a wave where others are used. -/
def bindPorts (used : List ℕ) (claim : PoolClaim Seconds) : Option (List ℕ) :=
  if claim.exactPorts ≠ [] then
    if claim.exactPorts.any (fun port => port ∈ used || port < scheduler.portStart
      || scheduler.portEnd < port) then none else some claim.exactPorts
  else
    let free := (List.range' scheduler.portStart (scheduler.portEnd + 1 - scheduler.portStart)).filter
      (· ∉ used)
    if free.length < claim.portCount then none else some (free.take claim.portCount)

def bindWavePorts (used : List ℕ) :
    List (GpuAssignment Seconds) → Except Error (Option (List (GpuAssignment Seconds)))
  | [] => .ok (some [])
  | a :: rest =>
    match bindPorts scheduler used a.workItem.claim with
    | none => .ok none
    | some ports => do
      let bound ← validated GpuAssignment.postInit { a with ports := ports }
      let others ← bindWavePorts (used ++ ports) rest
      pure (others.map (bound :: ·))

/-- The loop over the waves for one placement: the waves with it in the first that takes it. -/
def joinWave (placement : GpuAssignment Seconds) : List (List (GpuAssignment Seconds)) →
    Except Error (Option (List (List (GpuAssignment Seconds))))
  | [] => .ok none
  | wave :: rest => do
    match ← bindWavePorts scheduler [] (wave ++ [placement]) with
    | some candidate =>
      if waveCompatible d scheduler candidate then pure (some (candidate :: rest))
      else Option.map (wave :: ·) <$> joinWave placement rest
    | none => Option.map (wave :: ·) <$> joinWave placement rest

def openWave (placement : GpuAssignment Seconds) : Except Error (List (GpuAssignment Seconds)) := do
  match ← bindWavePorts scheduler [] [placement] with
  | none => .error (capabilityRejection
      "scheduler port range cannot satisfy one atomic assignment")
  | some wave => do
    require (waveCompatible d scheduler wave)
      (capabilityRejection "single assignment violates its resource declaration")
    pure wave

/-- The body of the loop over the placements. -/
def packWave (waves : List (List (GpuAssignment Seconds))) (placement : GpuAssignment Seconds) :
    Except Error (List (List (GpuAssignment Seconds))) := do
  match ← joinWave d scheduler placement waves with
  | some joined => pure joined
  | none => do
    let wave ← openWave d scheduler placement
    pure (waves ++ [wave])

def freezeWaves (waves : List (List (GpuAssignment Seconds))) :
    Except Error (List (GpuDispatchWave Seconds)) :=
  collect (waves.zipIdx.map fun (wave, index) => validated (GpuDispatchWave.postInit d) {
    waveIndex := index
    assignments := wave
    interferenceEnvelopeSha256 := d.interferenceEnvelope scheduler.interferenceRules })

/-! ## Scheduling -/

section

variable [LinearOrder Seconds] [Add Seconds] [Zero Seconds]

def scheduleWorkItems (request : WorkRequest Seconds) :
    Except Error (GpuDispatchPlan Seconds) := do
  checkWorkItems d release scheduler request
  let placed ← placeAll d scheduler (ordered d scheduler request.workItems)
  let waves ← placed.placements.foldlM (packWave d scheduler) []
  let frozen ← freezeWaves d scheduler waves
  validated (GpuDispatchPlan.postInit d) {
    registrySha256 := d.registry scheduler.registry
    inventorySha256 := d.inventory scheduler.inventory
    receiptsSha256 := request.receiptsSha256
    interferenceEnvelopeSha256 := d.interferenceEnvelope scheduler.interferenceRules
    budgetSha256ByCell := sortedBudgets request.budgetSha256ByCell.entries
    seed := scheduler.seed
    waves := frozen
    completedCellIds := sortedBy id request.completedCellIds }

end

end Scheduling

import LightConeSpec.Control.ReservationBytes
import LightConeSpec.Scheduling.Gangs

/-!
# Work items, waves and plans

What a pool scheduler is given and what it returns. Durations are of any ordered type with an
addition, so that nothing depends on how floating-point numbers round.
-/

namespace Scheduling

open Python
open Control (isSha256)

def requireSha256 (name value : String) : Except Error Unit :=
  require (isSha256 value) (valueError s!"{name} must be a lower-case SHA-256")

attribute [ext] GangShape

instance : DecidableEq GangShape := fun _ _ => decidable_of_iff' _ GangShape.ext_iff

/-! ## Cells of the registry -/

inductive WorkloadClass
  | tuning
  | correctness
  | headline
  | profile
  | download
  | compile
deriving DecidableEq

def exclusiveHostClasses : List WorkloadClass := [.profile, .download, .compile]

/-- `CellIdentity`. The axes are its other fields: they only enter digests. -/
structure CellIdentity where
  experiment : String
  task : String
  method : String
  topology : String
  variant : String
  seed : ℕ
  block : ℕ
  axes : List (String × String)

/-- `ResourceClaim`, with the number of its devices. -/
structure ResourceClaim where
  gpuCount : ℕ
  ports : List ℕ
  cacheRoot : String
  evidenceRoot : String
  workloadClass : WorkloadClass

structure ExperimentCell where
  identity : CellIdentity
  resources : ResourceClaim
  status : String

/-! ## Work items -/

/-- `PoolResourceClaim` with all that scheduling reads of it. -/
structure PoolClaim (Seconds : Type) extends PoolResourceClaim where
  exclusiveGpu : Bool
  exclusiveHost : Bool
  cpuCores : ℕ
  numaNodes : List ℕ
  ramBytes : ℕ
  diskIoClass : String
  networkClass : String
  portCount : ℕ
  exactPorts : List ℕ
  cacheRoot : String
  evidenceRoot : String
  workloadClass : WorkloadClass
  interferenceClass : String
  loadThermalPowerEnvelope : String
  estimatedDurationSeconds : Seconds
  portCount_pos : 1 ≤ portCount
  exactPortsLength : exactPorts ≠ [] → exactPorts.length = portCount
  exactPortsNodup : exactPorts.Nodup
  exactPortsRange : ∀ port ∈ exactPorts, 1024 ≤ port ∧ port ≤ 65535

structure PoolWorkItem (Seconds : Type) where
  cell : ExperimentCell
  claim : PoolClaim Seconds
  affinityKey : Option String
  serialGroupKey : Option String

structure GpuAssignment (Seconds : Type) where
  workItem : PoolWorkItem Seconds
  gpuUuids : List String
  rankGroups : List (List String)
  ports : List ℕ

structure InterferenceRule where
  hardwareEnvelopeSha256 : String
  workloadClass : WorkloadClass
  coRunSignature : String
  simultaneousJobs : ℕ
  gangShape : String
  loadThermalPowerEnvelope : String
  contentionClass : String
  status : String
deriving DecidableEq

/-- The content digests that a scheduler takes, as functions of what they are taken of. -/
structure Digests (Seconds : Type) where
  cellId : CellIdentity → String
  cell : ExperimentCell → String
  registry : List ExperimentCell → String
  inventory : GpuInventory → String
  hardware : HardwareEnvelope → String
  interferenceEnvelope : List InterferenceRule → String
  interferenceClass : ExperimentCell → String
  contentionClass : ℕ → List ℕ → String → String → String
  pairedGroup : CellIdentity → ℕ → String
  methodOrder : String → String → ℕ → String
  rotation : ℕ → Option String → String → ℕ
  assignment : GpuAssignment Seconds → String

variable {Seconds : Type} (d : Digests Seconds)

def Digests.itemId (item : PoolWorkItem Seconds) : String := d.cellId item.cell.identity

def GangShape.signature (shape : GangShape) : String :=
  s!"tp{shape.tensorParallelSize}_dp{shape.dataParallelSize}"

/-- `PoolResourceClaim.contention_class`. -/
def Digests.contention (claim : PoolClaim Seconds) : String :=
  d.contentionClass claim.cpuCores claim.numaNodes claim.diskIoClass claim.networkClass

/-! ## Assignments -/

def GpuAssignment.postInit (a : GpuAssignment Seconds) : Except Error Unit := do
  let claim := a.workItem.claim
  require (a.gpuUuids.length = claim.gangShape.gpuCount ∧ a.gpuUuids.Nodup)
    (valueError "assignment must bind every gang rank to one unique GPU")
  require (a.rankGroups.flatten = a.gpuUuids)
    (valueError "rank groups must exactly partition ordered GPU UUIDs")
  require (a.rankGroups.length = claim.gangShape.dataParallelSize ∧
      ∀ group ∈ a.rankGroups, group.length = claim.gangShape.tensorParallelSize)
    (valueError "rank groups do not match the TP/DP gang shape")
  require (a.ports.length = claim.portCount ∧ a.ports.Nodup)
    (valueError "assignment ports must exactly satisfy port_count")
  require (∀ port ∈ a.ports, 1024 ≤ port ∧ port ≤ 65535)
    (valueError "assignment ports must be in [1024, 65535]")
  require (claim.exactGpuUuids ≠ [] → a.gpuUuids = claim.exactGpuUuids)
    (valueError "assignment differs from exact requested GPU UUIDs")
  require (claim.exactPorts ≠ [] → a.ports = claim.exactPorts)
    (valueError "assignment differs from exact requested ports")

namespace GpuAssignment

/-! ### What two assignments share -/

def sharesGpu (a b : GpuAssignment Seconds) : Bool := a.gpuUuids.any (· ∈ b.gpuUuids)

def sharesPort (a b : GpuAssignment Seconds) : Bool := a.ports.any (· ∈ b.ports)

def sharesCache (a b : GpuAssignment Seconds) : Bool :=
  a.workItem.claim.cacheRoot = b.workItem.claim.cacheRoot

def sharesEvidence (a b : GpuAssignment Seconds) : Bool :=
  a.workItem.claim.evidenceRoot = b.workItem.claim.evidenceRoot

def sharesSerialGroup (a b : GpuAssignment Seconds) : Bool :=
  a.workItem.serialGroupKey.isSome && a.workItem.serialGroupKey = b.workItem.serialGroupKey

end GpuAssignment

/-! ## Waves -/

structure GpuDispatchWave (Seconds : Type) where
  waveIndex : ℕ
  assignments : List (GpuAssignment Seconds)
  interferenceEnvelopeSha256 : String

/-- The loop of the constructor; `seen` are the assignments before. -/
def checkApart (seen : List (GpuAssignment Seconds)) :
    List (GpuAssignment Seconds) → Except Error Unit
  | [] => .ok ()
  | a :: rest => do
    require (seen.any a.sharesGpu = false) (valueError "dispatch wave overlaps a GPU")
    require (seen.any a.sharesPort = false) (valueError "dispatch wave overlaps a port")
    require (seen.any a.sharesCache = false) (valueError "dispatch wave overlaps a cache writer")
    require (seen.any a.sharesEvidence = false)
      (valueError "dispatch wave overlaps an evidence root")
    require (seen.any a.sharesSerialGroup = false)
      (valueError "serial scientific group cannot share a wave")
    checkApart (seen ++ [a]) rest

def GpuDispatchWave.postInit (wave : GpuDispatchWave Seconds) : Except Error Unit := do
  require (wave.assignments ≠ []) (valueError "a dispatch wave cannot be empty")
  require (wave.assignments.map d.assignment).Nodup
    (valueError "dispatch wave contains duplicate assignments")
  checkApart [] wave.assignments
  require (1 < wave.assignments.length →
      ∀ a ∈ wave.assignments, a.workItem.claim.exclusiveHost = false)
    (valueError "exclusive-host work cannot share a dispatch wave")

/-! ## Plans -/

structure GpuDispatchPlan (Seconds : Type) where
  registrySha256 : String
  inventorySha256 : String
  receiptsSha256 : String
  interferenceEnvelopeSha256 : String
  budgetSha256ByCell : List (String × String)
  seed : ℕ
  waves : List (GpuDispatchWave Seconds)
  completedCellIds : List String

abbrev SameValues (a b : List String) : Prop := (∀ x ∈ a, x ∈ b) ∧ ∀ x ∈ b, x ∈ a

def sortedBudgets (budgets : List (String × String)) : List (String × String) :=
  sortedBy (fun budget : String × String => toLex budget) budgets

/-- The budget bindings are digests of cells and of budgets. -/
def checkBudgets (budgets : List (String × String)) : Except Error Unit :=
  forEach (fun budget => do
    requireSha256 "dispatch budget cell ID" budget.1
    requireSha256 "dispatch ExperimentBudget SHA-256" budget.2) budgets

def GpuDispatchPlan.postInit (plan : GpuDispatchPlan Seconds) : Except Error Unit := do
  requireSha256 "receipts_sha256" plan.receiptsSha256
  require (plan.waves.map (·.waveIndex) = List.range plan.waves.length)
    (valueError "dispatch wave indexes must be contiguous")
  let assignments := plan.waves.flatMap (·.assignments)
  require (assignments.map d.assignment).Nodup
    (valueError "dispatch plan contains duplicate assignments")
  let cellIds := assignments.map fun a => d.itemId a.workItem
  require cellIds.Nodup (valueError "dispatch plan contains duplicate cells")
  let budgetCells := plan.budgetSha256ByCell.map Prod.fst
  require (sortedBudgets plan.budgetSha256ByCell = plan.budgetSha256ByCell ∧ budgetCells.Nodup)
    (valueError "dispatch budget bindings must be canonical and unique")
  require (plan.budgetSha256ByCell ≠ [] → SameValues budgetCells cellIds)
    (valueError "dispatch budget bindings must cover every scheduled cell exactly")
  checkBudgets plan.budgetSha256ByCell
  require plan.completedCellIds.Nodup (valueError "completed cell IDs must be unique")
  require (∀ cellId ∈ plan.completedCellIds, isSha256 cellId)
    (valueError "completed cell IDs must be lower-case SHA-256")
  require (sortedBy id plan.completedCellIds = plan.completedCellIds)
    (valueError "completed cell IDs must be canonically sorted")
  require (∀ cellId ∈ plan.completedCellIds, cellId ∉ cellIds)
    (valueError "completed cells cannot remain in dispatch waves")

end Scheduling

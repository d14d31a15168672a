import Mathlib.Data.List.Sublists
import Mathlib.Data.Prod.Lex
import Mathlib.Data.Rat.Defs
import Mathlib.Order.Disjoint
import Mathlib.Algebra.BigOperators.Fin
import LightConeSpec.Lib.Chunks
import LightConeSpec.Lib.Python

/-!
# The gangs of a pool scheduler

`GpuPoolScheduler._candidate_gangs` lists the gangs on which a work item may run: the
combinations of capable devices in the order of the inventory, each cut into consecutive
groups of one tensor-parallel size, one group for each data-parallel replica.

`Placement` says what a gang is for, without an order. `gangSearch_complete_iff` says when
the search finds a gang if there is a placement.
-/

namespace Scheduling

open Python Chunks List

/-! ## Inventories -/

inductive GpuAvailability
  | ready
  | draining
  | reserved
  | unavailable
deriving DecidableEq

/-- What `hardware_envelope_sha256` is the digest of. -/
structure HardwareEnvelope where
  hostId : String
  model : String
  memoryBytes : ℕ
  computeCapability : ℕ × ℕ
  interconnects : List String
  peerAccessClass : String
  clockPolicy : String
  powerLimitWatts : ℚ
  thermalLimitCelsius : ℚ
deriving DecidableEq

/-- `GpuDevice`. The hardware fields stand in its envelope. -/
structure GpuDevice where
  uuid : String
  hardware : HardwareEnvelope
  availability : GpuAvailability
  reservedProcesses : List String
  allowedTopologyGroups : List String

def GpuDevice.ready (device : GpuDevice) : Bool :=
  device.availability = .ready ∧ device.reservedProcesses = []

structure GpuTopologyGroup where
  groupId : String
  hostId : String
  gpuUuids : List String
  fabric : String

/-- `GpuInventory`, with what its constructor checks: one host, devices and groups sorted
and without duplicates, and groups of declared devices that allow them. -/
structure GpuInventory where
  devices : List GpuDevice
  topologyGroups : List GpuTopologyGroup
  nonempty : devices ≠ []
  oneHost : ∀ d ∈ devices, ∀ d' ∈ devices, d.hardware.hostId = d'.hardware.hostId
  sortedDevices : (devices.map (·.uuid)).Pairwise (· < ·)
  sortedGroups : (topologyGroups.map (·.groupId)).Pairwise (· < ·)
  groupMembers : ∀ group ∈ topologyGroups, ∀ uuid ∈ group.gpuUuids, ∃ d ∈ devices,
    d.uuid = uuid ∧ d.hardware.hostId = group.hostId ∧ group.groupId ∈ d.allowedTopologyGroups
  knownGroups : ∀ d ∈ devices, ∀ groupId ∈ d.allowedTopologyGroups,
    groupId ∈ topologyGroups.map (·.groupId)

namespace GpuInventory

variable (inventory : GpuInventory)

def uuids : List String := inventory.devices.map (·.uuid)

/-- `device_by_uuid.get(uuid)`. -/
def device? (uuid : String) : Option GpuDevice := inventory.devices.find? (·.uuid = uuid)

theorem nodup_uuids : inventory.uuids.Nodup := inventory.sortedDevices.imp fun h => h.ne

variable {inventory}

theorem device?_eq_some {uuid : String} {d : GpuDevice} :
    inventory.device? uuid = some d ↔ d ∈ inventory.devices ∧ d.uuid = uuid := by
  constructor
  · intro h
    exact ⟨mem_of_find?_eq_some h, by simpa using find?_some h⟩
  · rintro ⟨hd, rfl⟩
    cases hfind : inventory.device? d.uuid with
    | none =>
      have hmissing := find?_eq_none.mp hfind d hd
      simp at hmissing
    | some found =>
      have hmem : found ∈ inventory.devices := mem_of_find?_eq_some hfind
      have huuid : found.uuid = d.uuid := by simpa using find?_some hfind
      rw [inj_on_of_nodup_map inventory.nodup_uuids hmem hd huuid]

theorem mem_uuids {uuid : String} : uuid ∈ inventory.uuids ↔ ∃ d ∈ inventory.devices, d.uuid = uuid :=
  mem_map

end GpuInventory

/-! ## Claims -/

structure GangShape where
  tensorParallelSize : ℕ
  dataParallelSize : ℕ
  tensorParallel_pos : 1 ≤ tensorParallelSize
  dataParallel_pos : 1 ≤ dataParallelSize

def GangShape.gpuCount (shape : GangShape) : ℕ := shape.dataParallelSize * shape.tensorParallelSize

structure HomogeneousDeviceConstraint where
  model : Option String
  minimumMemoryBytes : ℕ
  minimumComputeCapability : ℕ × ℕ
  allowedPeerAccessClasses : List String

def HomogeneousDeviceConstraint.accepts (constraint : HomogeneousDeviceConstraint)
    (device : GpuDevice) : Bool :=
  device.ready
    && (constraint.model = none || constraint.model = some device.hardware.model)
    && constraint.minimumMemoryBytes ≤ device.hardware.memoryBytes
    && toLex constraint.minimumComputeCapability ≤ toLex device.hardware.computeCapability
    && (constraint.allowedPeerAccessClasses = []
      || device.hardware.peerAccessClass ∈ constraint.allowedPeerAccessClasses)

/-- What the gang search reads of a `PoolResourceClaim`, with what its constructor checks of
the exact devices. -/
structure PoolResourceClaim where
  gangShape : GangShape
  exactGpuUuids : List String
  homogeneous : HomogeneousDeviceConstraint
  allowedTopologyGroups : List String
  allowedFabrics : List String
  exactLength : exactGpuUuids ≠ [] → exactGpuUuids.length = gangShape.gpuCount
  exactNodup : exactGpuUuids.Nodup

/-! ## The search -/

def admissibleGroups (inventory : GpuInventory) (claim : PoolResourceClaim) :
    List GpuTopologyGroup :=
  inventory.topologyGroups.filter fun group =>
    (claim.allowedTopologyGroups = [] || group.groupId ∈ claim.allowedTopologyGroups)
      && (claim.allowedFabrics = [] || group.fabric ∈ claim.allowedFabrics)

def topologyAccepts (inventory : GpuInventory) (claim : PoolResourceClaim)
    (candidate : List String) : Bool :=
  let tp := claim.gangShape.tensorParallelSize
  if tp = 1 then true
  else
    let groups := admissibleGroups inventory claim
    if groups = [] then false
    else (List.range claim.gangShape.dataParallelSize).all fun replica =>
      groups.any fun group => (chunk tp candidate replica).all (· ∈ group.gpuUuids)

section

variable {D : Type} [DecidableEq D] (sha256 : HardwareEnvelope → D)

def acceptsCandidate (inventory : GpuInventory) (claim : PoolResourceClaim)
    (candidate : List String) : Bool :=
  let devices := candidate.filterMap inventory.device?
  devices.all claim.homogeneous.accepts
    && (devices.map (·.hardware.hostId)).dedup.length = 1
    && (devices.map fun device => sha256 device.hardware).dedup.length = 1
    && topologyAccepts inventory claim candidate

/-- The candidates before the tests: the exact devices, or the combinations of the capable
ones. -/
def rawCandidates (inventory : GpuInventory) (claim : PoolResourceClaim) : List (List String) :=
  if claim.exactGpuUuids ≠ [] then
    if claim.exactGpuUuids.all (· ∈ inventory.uuids) then [claim.exactGpuUuids] else []
  else
    let capable := (inventory.devices.filter claim.homogeneous.accepts).map (·.uuid)
    capable.sublistsLen claim.gangShape.gpuCount

def candidateGangs (inventory : GpuInventory) (claim : PoolResourceClaim) : List (List String) :=
  sortedBy id ((rawCandidates inventory claim).filter (acceptsCandidate sha256 inventory claim))

/-! ## What the search is for -/

/-- One device may be used for the claim. -/
def Usable (inventory : GpuInventory) (claim : PoolResourceClaim) (uuid : String)
    (device : GpuDevice) : Prop :=
  inventory.device? uuid = some device ∧ claim.homogeneous.accepts device = true ∧
    (claim.exactGpuUuids ≠ [] → uuid ∈ claim.exactGpuUuids)

/-- Disjoint sets of usable devices on one hardware envelope, one set for each replica, each
inside an admissible topology group when it has more than one device. -/
structure Placement (inventory : GpuInventory) (claim : PoolResourceClaim)
    (sets : Fin claim.gangShape.dataParallelSize → Finset String) : Prop where
  card : ∀ i, (sets i).card = claim.gangShape.tensorParallelSize
  disjoint : Pairwise fun i j => Disjoint (sets i) (sets j)
  usable : ∀ i, ∀ uuid ∈ sets i, ∃ device, Usable inventory claim uuid device
  oneEnvelope : ∀ i j, ∀ uuid ∈ sets i, ∀ uuid' ∈ sets j, ∀ device device',
    Usable inventory claim uuid device → Usable inventory claim uuid' device' →
      sha256 device.hardware = sha256 device'.hardware
  grouped : 1 < claim.gangShape.tensorParallelSize → ∀ i, ∃ group ∈ admissibleGroups inventory claim,
    ∀ uuid ∈ sets i, uuid ∈ group.gpuUuids

/-- The order in which the search lists devices: that of the exact devices, or that of the
inventory. -/
def listing (inventory : GpuInventory) (claim : PoolResourceClaim) : List String :=
  if claim.exactGpuUuids ≠ [] then claim.exactGpuUuids else inventory.uuids

/-- The sets do not interleave: the devices of one are all listed before those of the next. -/
def InListingOrder (inventory : GpuInventory) (claim : PoolResourceClaim)
    (sets : Fin claim.gangShape.dataParallelSize → Finset String) : Prop :=
  ∀ i j, i < j → ∀ a ∈ sets i, ∀ b ∈ sets j, Before (listing inventory claim) a b

/-- The search finds a gang exactly when there is a placement. -/
def GangSearchComplete (inventory : GpuInventory) (claim : PoolResourceClaim) : Prop :=
  candidateGangs sha256 inventory claim ≠ [] ↔ ∃ sets, Placement sha256 inventory claim sets

end

/-! ## Candidates -/

section

variable {D : Type} [DecidableEq D] {sha256 : HardwareEnvelope → D} {inventory : GpuInventory}
  {claim : PoolResourceClaim} {candidate : List String}

theorem nodup_listing : (listing inventory claim).Nodup := by
  unfold listing
  split
  · exact claim.exactNodup
  · exact inventory.nodup_uuids

/-- A raw candidate is a selection from the listing, all of devices. -/
theorem mem_rawCandidates_iff : candidate ∈ rawCandidates inventory claim ↔
    candidate.Sublist (listing inventory claim) ∧ candidate.length = claim.gangShape.gpuCount ∧
      (∀ uuid ∈ candidate, uuid ∈ inventory.uuids) ∧
      (claim.exactGpuUuids = [] → ∀ uuid ∈ candidate, ∃ d ∈ inventory.devices,
        d.uuid = uuid ∧ claim.homogeneous.accepts d = true) := by
  unfold rawCandidates listing
  by_cases hexact : claim.exactGpuUuids = []
  · simp only [hexact, ne_eq, not_true_eq_false, if_false, mem_sublistsLen, forall_const]
    have hcapable : (inventory.devices.filter claim.homogeneous.accepts).map (·.uuid) =
        inventory.uuids.filter fun uuid =>
          ((inventory.device? uuid).map claim.homogeneous.accepts).getD false := by
      rw [GpuInventory.uuids, filter_map]
      congr 1
      apply filter_congr
      intro d hd
      have hdevice : inventory.device? d.uuid = some d :=
        GpuInventory.device?_eq_some.mpr ⟨hd, rfl⟩
      simp [hdevice]
    constructor
    · rintro ⟨hsub, hlen⟩
      refine ⟨?_, hlen, ?_, ?_⟩
      · rw [hcapable] at hsub
        exact hsub.trans filter_sublist
      · intro uuid huuid
        rcases mem_map.mp (hsub.subset huuid) with ⟨d, hd, rfl⟩
        exact GpuInventory.mem_uuids.mpr ⟨d, (mem_filter.mp hd).1, rfl⟩
      · intro uuid huuid
        rcases mem_map.mp (hsub.subset huuid) with ⟨d, hd, rfl⟩
        exact ⟨d, (mem_filter.mp hd).1, rfl, (mem_filter.mp hd).2⟩
    · rintro ⟨hsub, hlen, -, haccepts⟩
      refine ⟨?_, hlen⟩
      -- a selection whose elements all pass the filter is a selection of the filtered list
      have hall : ∀ uuid ∈ candidate,
          ((inventory.device? uuid).map claim.homogeneous.accepts).getD false = true := by
        intro uuid huuid
        rcases haccepts uuid huuid with ⟨d, hd, rfl, hd'⟩
        have hdevice : inventory.device? d.uuid = some d :=
          GpuInventory.device?_eq_some.mpr ⟨hd, rfl⟩
        simp [hdevice, hd']
      rw [hcapable, ← filter_eq_self.mpr hall]
      exact hsub.filter _
  · simp only [hexact, ne_eq, not_false_eq_true, if_true, false_implies, and_true]
    have hlength := claim.exactLength hexact
    constructor
    · intro h
      split at h
      · rename_i hall
        rw [mem_singleton] at h
        subst h
        exact ⟨List.Sublist.refl _, hlength, by simpa using hall⟩
      · cases h
    · rintro ⟨hsub, hlen, hall⟩
      have heq : candidate = claim.exactGpuUuids := hsub.eq_of_length (hlen.trans hlength.symm)
      subst heq
      rw [if_pos (by simpa using hall)]
      exact mem_singleton.mpr rfl

theorem topologyAccepts_iff : topologyAccepts inventory claim candidate = true ↔
    (claim.gangShape.tensorParallelSize ≠ 1 → ∀ i < claim.gangShape.dataParallelSize,
      ∃ group ∈ admissibleGroups inventory claim,
        ∀ uuid ∈ chunk claim.gangShape.tensorParallelSize candidate i, uuid ∈ group.gpuUuids) := by
  unfold topologyAccepts
  by_cases htp : claim.gangShape.tensorParallelSize = 1
  · simp [htp]
  · by_cases hgroups : admissibleGroups inventory claim = []
    · -- without a group the first replica has none, and there is a first replica
      have hfirst : 0 < claim.gangShape.dataParallelSize := claim.gangShape.dataParallel_pos
      simp only [htp, hgroups, if_false, if_true, Bool.false_eq_true, false_iff]
      intro h
      rcases h htp 0 hfirst with ⟨group, hgroup, -⟩
      cases hgroup
    · simp [htp, hgroups]

/-- The devices of the members of a candidate. -/
theorem mem_devices_iff {d : GpuDevice} : d ∈ candidate.filterMap inventory.device? ↔
    ∃ uuid ∈ candidate, inventory.device? uuid = some d :=
  mem_filterMap

/-- What the tests on a raw candidate say. -/
theorem acceptsCandidate_iff (hraw : candidate ∈ rawCandidates inventory claim) :
    acceptsCandidate sha256 inventory claim candidate = true ↔
      (∀ uuid ∈ candidate, ∀ d, inventory.device? uuid = some d →
        claim.homogeneous.accepts d = true) ∧
      (∀ uuid ∈ candidate, ∀ uuid' ∈ candidate, ∀ d d', inventory.device? uuid = some d →
        inventory.device? uuid' = some d' → sha256 d.hardware = sha256 d'.hardware) ∧
      topologyAccepts inventory claim candidate = true := by
  rcases mem_rawCandidates_iff.mp hraw with ⟨-, hlen, hmem, -⟩
  -- the candidate has a member, and so a device
  have hpos : 0 < candidate.length := by
    rw [hlen]
    exact Nat.mul_pos claim.gangShape.dataParallel_pos claim.gangShape.tensorParallel_pos
  rcases exists_mem_of_length_pos hpos with ⟨first, hfirst⟩
  rcases GpuInventory.mem_uuids.mp (hmem first hfirst) with ⟨d₀, hd₀, hfirst₀⟩
  have hdevice₀ : inventory.device? first = some d₀ :=
    GpuInventory.device?_eq_some.mpr ⟨hd₀, hfirst₀⟩
  have hd₀mem : d₀ ∈ candidate.filterMap inventory.device? :=
    mem_devices_iff.mpr ⟨first, hfirst, hdevice₀⟩
  have hone : ∀ {β : Type} [DecidableEq β] (f : GpuDevice → β),
      ((candidate.filterMap inventory.device?).map f).dedup.length = 1 ↔
        ∀ d ∈ candidate.filterMap inventory.device?,
          ∀ d' ∈ candidate.filterMap inventory.device?, f d = f d' := by
    intro β _ f
    have hlower : 1 ≤ ((candidate.filterMap inventory.device?).map f).dedup.length := by
      apply length_pos_of_mem (a := f d₀)
      exact mem_dedup.mpr (mem_map_of_mem hd₀mem)
    have hupper := @length_dedup_le_one_iff _ _ ((candidate.filterMap inventory.device?).map f)
    simp only [forall_mem_map] at hupper
    rw [← hupper]
    omega
  have hhost : ((candidate.filterMap inventory.device?).map (·.hardware.hostId)).dedup.length = 1 := by
    rw [hone]
    intro d hd d' hd'
    rcases mem_devices_iff.mp hd with ⟨_, -, hd⟩
    rcases mem_devices_iff.mp hd' with ⟨_, -, hd'⟩
    exact inventory.oneHost d (GpuInventory.device?_eq_some.mp hd).1 d'
      (GpuInventory.device?_eq_some.mp hd').1
  unfold acceptsCandidate
  simp only [Bool.and_eq_true, decide_eq_true_eq, all_eq_true, hhost, hone, and_true]
  rw [and_assoc]
  refine and_congr ?_ (and_congr ?_ Iff.rfl)
  · constructor
    · intro h uuid huuid d hd
      exact h d (mem_devices_iff.mpr ⟨uuid, huuid, hd⟩)
    · intro h d hd
      rcases mem_devices_iff.mp hd with ⟨uuid, huuid, hd⟩
      exact h uuid huuid d hd
  · constructor
    · intro h uuid huuid uuid' huuid' d d' hd hd'
      exact h d (mem_devices_iff.mpr ⟨uuid, huuid, hd⟩) d' (mem_devices_iff.mpr ⟨uuid', huuid', hd'⟩)
    · intro h d hd d' hd'
      rcases mem_devices_iff.mp hd with ⟨uuid, huuid, hd⟩
      rcases mem_devices_iff.mp hd' with ⟨uuid', huuid', hd'⟩
      exact h uuid huuid uuid' huuid' d d' hd hd'

/-- A gang that is found. -/
theorem mem_candidateGangs_iff : candidate ∈ candidateGangs sha256 inventory claim ↔
    candidate ∈ rawCandidates inventory claim ∧
      acceptsCandidate sha256 inventory claim candidate = true := by
  unfold candidateGangs
  rw [mem_sortedBy, mem_filter]

/-! ## Gangs and placements -/

/-- A gang is a placement whose sets are in the order of the listing. -/
theorem exists_placement_of_mem (h : candidate ∈ candidateGangs sha256 inventory claim) :
    ∃ sets, Placement sha256 inventory claim sets ∧ InListingOrder inventory claim sets := by
  rcases mem_candidateGangs_iff.mp h with ⟨hraw, haccepts⟩
  rcases mem_rawCandidates_iff.mp hraw with ⟨hsub, hlen, hmem, -⟩
  rcases (acceptsCandidate_iff hraw).mp haccepts with ⟨hhomogeneous, henvelope, htopology⟩
  have hnd : candidate.Nodup := hsub.nodup nodup_listing
  have hin : ∀ {i : ℕ} {uuid : String},
      uuid ∈ (chunk claim.gangShape.tensorParallelSize candidate i).toFinset → uuid ∈ candidate :=
    fun huuid => (chunk_sublist _ _ _).subset (mem_toFinset.mp huuid)
  have horder : candidate.Pairwise (Before (listing inventory claim)) :=
    (pairwise_before nodup_listing).sublist hsub
  refine ⟨fun i => (chunk claim.gangShape.tensorParallelSize candidate i).toFinset, ?_, ?_⟩
  · constructor
    · intro i
      rw [toFinset_card_of_nodup (hnd.sublist (chunk_sublist _ _ _))]
      exact length_chunk hlen i.isLt
    · intro i j hij
      rw [Finset.disjoint_left]
      intro uuid hi hj
      rw [mem_toFinset] at hi hj
      rcases lt_or_gt_of_ne hij with hlt | hlt
      · exact mem_chunk_pairwise hnd hlt hi hj rfl
      · exact mem_chunk_pairwise hnd hlt hj hi rfl
    · intro i uuid huuid
      rcases GpuInventory.mem_uuids.mp (hmem uuid (hin huuid)) with ⟨d, hd, hdu⟩
      have hdevice : inventory.device? uuid = some d := GpuInventory.device?_eq_some.mpr ⟨hd, hdu⟩
      refine ⟨d, hdevice, hhomogeneous uuid (hin huuid) d hdevice, ?_⟩
      intro hexact
      have hlist := hsub.subset (hin huuid)
      rwa [listing, if_pos hexact] at hlist
    · intro i j uuid huuid uuid' huuid' d d' hd hd'
      exact henvelope uuid (hin huuid) uuid' (hin huuid') d d' hd.1 hd'.1
    · intro htp i
      rcases topologyAccepts_iff.mp htopology (by omega) i i.isLt with ⟨group, hgroup, hall⟩
      exact ⟨group, hgroup, fun uuid huuid => hall uuid (mem_toFinset.mp huuid)⟩
  · intro i j hij a ha b hb
    exact mem_chunk_pairwise horder hij (mem_toFinset.mp ha) (mem_toFinset.mp hb)

omit [DecidableEq D] in
/-- The devices of a placement are listed. -/
theorem Placement.mem_listing {sets : Fin claim.gangShape.dataParallelSize → Finset String}
    (h : Placement sha256 inventory claim sets) (i : Fin claim.gangShape.dataParallelSize)
    (uuid : String) (huuid : uuid ∈ sets i) : uuid ∈ listing inventory claim := by
  rcases h.usable i uuid huuid with ⟨d, hdevice, -, hexact⟩
  unfold listing
  split
  · rename_i hne
    exact hexact hne
  · rcases GpuInventory.device?_eq_some.mp hdevice with ⟨hd, hdu⟩
    exact GpuInventory.mem_uuids.mpr ⟨d, hd, hdu⟩

/-- A placement whose sets are in the order of the listing is found. -/
theorem candidateGangs_ne_nil_of_placement
    {sets : Fin claim.gangShape.dataParallelSize → Finset String}
    (h : Placement sha256 inventory claim sets) (horder : InListingOrder inventory claim sets) :
    candidateGangs sha256 inventory claim ≠ [] := by
  rcases exists_chunks nodup_listing h.mem_listing h.card horder with ⟨chosen, hsub, hlen, hchunks⟩
  -- every member of the selection is in one of the sets
  have hcover : ∀ uuid ∈ chosen, ∃ i, uuid ∈ sets i := by
    intro uuid huuid
    rcases getElem_of_mem huuid with ⟨m, hm, rfl⟩
    have htp := claim.gangShape.tensorParallel_pos
    have hblock : m / claim.gangShape.tensorParallelSize < claim.gangShape.dataParallelSize := by
      rw [Nat.div_lt_iff_lt_mul htp, ← hlen]
      exact hm
    refine ⟨⟨_, hblock⟩, ?_⟩
    rw [← hchunks ⟨_, hblock⟩, mem_toFinset]
    show chosen[m] ∈ (chosen.drop (m / claim.gangShape.tensorParallelSize *
      claim.gangShape.tensorParallelSize)).take claim.gangShape.tensorParallelSize
    have hdiv := Nat.div_add_mod' m claim.gangShape.tensorParallelSize
    have hmod := Nat.mod_lt m htp
    rw [mem_take_iff_getElem]
    refine ⟨m % claim.gangShape.tensorParallelSize, ?_, ?_⟩
    · rw [length_drop]
      omega
    · rw [getElem_drop]
      simp only [hdiv]
  have hdevices : ∀ uuid ∈ chosen, ∃ i, uuid ∈ sets i ∧ ∃ d, Usable inventory claim uuid d := by
    intro uuid huuid
    rcases hcover uuid huuid with ⟨i, hi⟩
    exact ⟨i, hi, h.usable i uuid hi⟩
  have hraw : chosen ∈ rawCandidates inventory claim := by
    refine mem_rawCandidates_iff.mpr ⟨hsub, hlen, ?_, ?_⟩
    · intro uuid huuid
      rcases hdevices uuid huuid with ⟨_, -, d, hdevice, -⟩
      rcases GpuInventory.device?_eq_some.mp hdevice with ⟨hd, hdu⟩
      exact GpuInventory.mem_uuids.mpr ⟨d, hd, hdu⟩
    · intro _ uuid huuid
      rcases hdevices uuid huuid with ⟨_, -, d, hdevice, haccepts, -⟩
      rcases GpuInventory.device?_eq_some.mp hdevice with ⟨hd, hdu⟩
      exact ⟨d, hd, hdu, haccepts⟩
  have hfound : chosen ∈ candidateGangs sha256 inventory claim := by
    refine mem_candidateGangs_iff.mpr ⟨hraw, (acceptsCandidate_iff hraw).mpr ⟨?_, ?_, ?_⟩⟩
    · intro uuid huuid d hd
      rcases hdevices uuid huuid with ⟨_, -, d', hdevice, haccepts, -⟩
      rw [hdevice] at hd
      cases hd
      exact haccepts
    · intro uuid huuid uuid' huuid' d d' hd hd'
      rcases hdevices uuid huuid with ⟨i, hi, e, he⟩
      rcases hdevices uuid' huuid' with ⟨j, hj, e', he'⟩
      have hde : e = d := Option.some.inj (he.1.symm.trans hd)
      have hde' : e' = d' := Option.some.inj (he'.1.symm.trans hd')
      subst hde hde'
      exact h.oneEnvelope i j uuid hi uuid' hj e e' he he'
    · refine topologyAccepts_iff.mpr ?_
      intro htp i hi
      have hpos := claim.gangShape.tensorParallel_pos
      rcases h.grouped (by omega) ⟨i, hi⟩ with ⟨group, hgroup, hall⟩
      refine ⟨group, hgroup, ?_⟩
      intro uuid huuid
      apply hall
      rw [← hchunks ⟨i, hi⟩]
      exact mem_toFinset.mpr huuid
  exact ne_nil_of_mem hfound

theorem candidateGangs_ne_nil_iff : candidateGangs sha256 inventory claim ≠ [] ↔
    ∃ sets, Placement sha256 inventory claim sets ∧ InListingOrder inventory claim sets := by
  constructor
  · intro h
    rcases exists_mem_of_ne_nil _ h with ⟨candidate, hcandidate⟩
    exact exists_placement_of_mem hcandidate
  · rintro ⟨sets, hplacement, horder⟩
    exact candidateGangs_ne_nil_of_placement hplacement horder

/-- The search is complete exactly when some placement is in the order of the listing, if
there is a placement at all. -/
theorem gangSearch_complete_iff (sha256 : HardwareEnvelope → D) (inventory : GpuInventory)
    (claim : PoolResourceClaim) : GangSearchComplete sha256 inventory claim ↔
      ((∃ sets, Placement sha256 inventory claim sets) →
        ∃ sets, Placement sha256 inventory claim sets ∧ InListingOrder inventory claim sets) := by
  unfold GangSearchComplete
  rw [candidateGangs_ne_nil_iff]
  constructor
  · intro h hplacement
    exact h.mpr hplacement
  · intro h
    constructor
    · rintro ⟨sets, hplacement, -⟩
      exact ⟨sets, hplacement⟩
    · exact h

end

/-! ## Interleaved groups -/

section Interleaved

/-- Four equal devices of one host. -/
def interleavedDevice (uuid groupId : String) : GpuDevice where
  uuid := uuid
  hardware := ⟨"host", "gpu", 1, (9, 0), ["nvlink"], "nvlink", "fixed", 1, 1⟩
  availability := .ready
  reservedProcesses := []
  allowedTopologyGroups := [groupId]

/-- Two groups whose devices alternate in the order of the names. -/
def interleavedInventory : GpuInventory where
  devices := [interleavedDevice "gpu0" "even", interleavedDevice "gpu1" "odd",
    interleavedDevice "gpu2" "even", interleavedDevice "gpu3" "odd"]
  topologyGroups := [⟨"even", "host", ["gpu0", "gpu2"], "nvlink"⟩,
    ⟨"odd", "host", ["gpu1", "gpu3"], "nvlink"⟩]
  nonempty := by decide
  oneHost := by decide
  sortedDevices := by decide
  sortedGroups := by decide
  groupMembers := by decide
  knownGroups := by decide

theorem pair_pos : 1 ≤ 2 := by
  decide

/-- Two replicas of two devices each. -/
def interleavedClaim : PoolResourceClaim where
  gangShape := ⟨2, 2, pair_pos, pair_pos⟩
  exactGpuUuids := []
  homogeneous := ⟨none, 1, (0, 0), []⟩
  allowedTopologyGroups := []
  allowedFabrics := []
  exactLength := by decide
  exactNodup := nodup_nil

/-- The devices of each group. -/
def interleavedSets : Fin 2 → Finset String := ![{"gpu0", "gpu2"}, {"gpu1", "gpu3"}]

/-- Each group holds a replica, and no gang is found. -/
theorem gangSearch_incomplete :
    ¬ GangSearchComplete id interleavedInventory interleavedClaim := by
  have hnone : candidateGangs id interleavedInventory interleavedClaim = [] := by decide
  intro h
  refine h.mpr ⟨interleavedSets, ?_⟩ hnone
  have hhardware : ∀ uuid d, Usable interleavedInventory interleavedClaim uuid d →
      d.hardware = (interleavedDevice "" "").hardware := by
    intro uuid d hd
    have hall : ∀ d ∈ interleavedInventory.devices,
        d.hardware = (interleavedDevice "" "").hardware := by decide
    exact hall d (GpuInventory.device?_eq_some.mp hd.1).1
  constructor
  · decide
  · intro i j hij
    have hall : ∀ i j : Fin 2, i ≠ j → Disjoint (interleavedSets i) (interleavedSets j) := by decide
    exact hall i j hij
  · intro i uuid huuid
    have hcases : ∀ i : Fin 2, ∀ uuid ∈ interleavedSets i,
        uuid ∈ interleavedInventory.uuids := by decide
    rcases GpuInventory.mem_uuids.mp (hcases i uuid huuid) with ⟨d, hd, rfl⟩
    have haccepts : ∀ d ∈ interleavedInventory.devices,
        interleavedClaim.homogeneous.accepts d = true := by decide
    exact ⟨d, GpuInventory.device?_eq_some.mpr ⟨hd, rfl⟩, haccepts d hd, absurd rfl⟩
  · intro i j uuid _ uuid' _ d d' hd hd'
    exact (hhardware uuid d hd).trans (hhardware uuid' d' hd').symm
  · decide

end Interleaved

end Scheduling

import LightConeSpec.Scheduling.Affinity

/-!
# What a plan guarantees

Binding and packing change nothing of a placement but its ports. So the waves of a plan hold the
gangs that the loop over the items selected, each item in one wave, and what is tested of a wave
when a placement joins it holds of the wave in the plan.
-/

namespace Scheduling

open Python Chunks List

/-! ## A sound plan -/

section

variable {Seconds : Type} (d : Digests Seconds) (scheduler : GpuPoolScheduler)

/-- The gang has the claimed size and shape, of devices that are ready, accepted and on one hardware
envelope, and each rank group of more than one device lies inside an admissible topology group. -/
structure SoundGang (a : GpuAssignment Seconds) : Prop where
  size : a.gpuUuids.length = a.workItem.claim.gangShape.gpuCount
  distinct : a.gpuUuids.Nodup
  accepted : ∀ uuid ∈ a.gpuUuids, ∃ device, scheduler.inventory.device? uuid = some device ∧
    device.ready = true ∧ a.workItem.claim.homogeneous.accepts device = true
  oneEnvelope : ∀ uuid ∈ a.gpuUuids, ∀ uuid' ∈ a.gpuUuids, ∀ device device',
    scheduler.inventory.device? uuid = some device →
      scheduler.inventory.device? uuid' = some device' →
        d.hardware device.hardware = d.hardware device'.hardware
  partition : a.rankGroups.flatten = a.gpuUuids
  shape : a.rankGroups.length = a.workItem.claim.gangShape.dataParallelSize ∧
    ∀ ranks ∈ a.rankGroups, ranks.length = a.workItem.claim.gangShape.tensorParallelSize
  grouped : ∀ ranks ∈ a.rankGroups, 1 < ranks.length →
    ∃ group ∈ admissibleGroups scheduler.inventory a.workItem.claim.toPoolResourceClaim,
      ∀ uuid ∈ ranks, uuid ∈ group.gpuUuids

/-- Two assignments of one wave share nothing. -/
structure Apart (a b : GpuAssignment Seconds) : Prop where
  gpus : a.gpuUuids.Disjoint b.gpuUuids
  ports : a.ports.Disjoint b.ports
  cacheRoot : a.workItem.claim.cacheRoot ≠ b.workItem.claim.cacheRoot
  evidenceRoot : a.workItem.claim.evidenceRoot ≠ b.workItem.claim.evidenceRoot
  serialGroup : ∀ key, a.workItem.serialGroupKey = some key → b.workItem.serialGroupKey ≠ some key

/-- The rule passes, and its key is that of all assignments of a wave, with their number. -/
structure Authorises (rule : InterferenceRule) (assignments : List (GpuAssignment Seconds)) :
    Prop where
  status : rule.status = "PASS"
  simultaneousJobs : rule.simultaneousJobs = assignments.length
  claims : ∀ a ∈ assignments, a.workItem.claim.workloadClass = rule.workloadClass ∧
    a.workItem.claim.interferenceClass = rule.coRunSignature ∧
    a.workItem.claim.gangShape.signature = rule.gangShape ∧
    a.workItem.claim.loadThermalPowerEnvelope = rule.loadThermalPowerEnvelope ∧
    d.contention a.workItem.claim = rule.contentionClass
  hardware : ∀ a ∈ assignments, ∀ uuid ∈ a.gpuUuids, ∀ device,
    scheduler.inventory.device? uuid = some device →
      d.hardware device.hardware = rule.hardwareEnvelopeSha256

/-- The ports are as many as claimed, different, and in the range of the scheduler. -/
structure SoundPorts (a : GpuAssignment Seconds) : Prop where
  distinct : a.ports.length = a.workItem.claim.portCount ∧ a.ports.Nodup
  inRange : ∀ port ∈ a.ports, scheduler.portStart ≤ port ∧ port ≤ scheduler.portEnd

structure SoundPlan (items : List (PoolWorkItem Seconds)) (plan : GpuDispatchPlan Seconds) :
    Prop where
  placedOnce : ((plan.waves.flatMap (·.assignments)).map (·.workItem)).Perm items
  gangs : ∀ wave ∈ plan.waves, ∀ a ∈ wave.assignments, SoundGang d scheduler a
  apart : ∀ wave ∈ plan.waves, wave.assignments.Pairwise Apart
  ports : ∀ wave ∈ plan.waves, ∀ a ∈ wave.assignments, SoundPorts scheduler a
  authorised : ∀ wave ∈ plan.waves, 1 < wave.assignments.length →
    ∃ rule ∈ scheduler.interferenceRules, Authorises d scheduler rule wave.assignments
  affinity : ∀ a ∈ plan.waves.flatMap (·.assignments), ∀ b ∈ plan.waves.flatMap (·.assignments),
    ∀ key, a.workItem.affinityKey = some key → b.workItem.affinityKey = some key →
      a.gpuUuids = b.gpuUuids

end

section

variable {Seconds : Type} {d : Digests Seconds} {scheduler : GpuPoolScheduler}

/-! ## One wave -/

theorem disjoint_of_any_mem {β : Type} [DecidableEq β] {l l' : List β}
    (h : l.any (· ∈ l') = false) : l'.Disjoint l := by
  intro x hx' hx
  rw [any_eq_false] at h
  exact h x hx (decide_eq_true hx')

variable {waves : List (List (GpuAssignment Seconds))} {assignments : List (GpuAssignment Seconds)}

theorem pairwise_of_pairwiseApart {seen : List (GpuAssignment Seconds)}
    (h : pairwiseApart seen assignments = true) : assignments.Pairwise Apart ∧
      ∀ a ∈ seen, ∀ b ∈ assignments, Apart a b := by
  induction assignments generalizing seen with
  | nil => exact ⟨.nil, fun _ _ _ hb => absurd hb not_mem_nil⟩
  | cons b rest ih =>
    unfold pairwiseApart at h
    simp only [Bool.and_eq_true, Bool.not_eq_true', Bool.or_eq_false_iff, any_eq_false,
      Bool.not_eq_true] at h
    rcases h with ⟨⟨⟨⟨hgpu, hport⟩, hcache, hevidence⟩, hserial⟩, hrest⟩
    rcases ih hrest with ⟨hpairwise, hseen⟩
    refine ⟨pairwise_cons.mpr ⟨fun c hc => hseen b (by simp) c hc, hpairwise⟩, ?_⟩
    intro a ha c hc
    rcases mem_cons.mp hc with rfl | hc
    · refine ⟨disjoint_of_any_mem (hgpu a ha), disjoint_of_any_mem (hport a ha),
        fun heq => ?_, fun heq => ?_, fun key hkey hkey' => ?_⟩
      · exact absurd heq.symm (of_decide_eq_false (hcache a ha))
      · exact absurd heq.symm (of_decide_eq_false (hevidence a ha))
      · have hshares := hserial a ha
        simp [GpuAssignment.sharesSerialGroup, hkey, hkey'] at hshares
    · exact hseen a (mem_append_left _ ha) c hc

theorem common_eq_some {β : Type} [DecidableEq β] {values : List β} {value : β}
    (h : common values = some value) : ∀ x ∈ values, x = value := by
  unfold common at h
  split at h
  · rename_i hone
    rcases length_eq_one_iff.mp hone with ⟨y, hy⟩
    have hall : ∀ x ∈ values, x = y := by
      intro x hx
      exact mem_singleton.mp (hy ▸ mem_dedup.mpr hx)
    intro x hx
    rw [hall x hx, hall value (mem_of_mem_head? h)]
  · cases h

/-- More than one assignment has a rule. -/
theorem exists_rule_of_permits (h : permits d scheduler assignments = true)
    (hmany : 1 < assignments.length) :
    ∃ rule ∈ scheduler.interferenceRules, Authorises d scheduler rule assignments := by
  unfold permits at h
  dsimp only at h
  rw [if_neg (by omega)] at h
  split at h
  · cases h
  · rename_i workloadClass hclass
    split at h
    · cases h
    · split at h
      · cases h
      · split at h
        · rename_i coRun shape load contention hardware hcoRun hshape hload hcontention hhardware
          rcases any_eq_true.mp h with ⟨rule, hrule, hkey⟩
          rw [decide_eq_true_eq] at hkey
          rcases hkey with ⟨hstatus, hkey⟩
          cases rule
          cases hkey
          refine ⟨_, hrule, hstatus, rfl, fun a ha => ?_, fun a ha uuid huuid device hdevice => ?_⟩
          · have hclaim : a.workItem.claim ∈ assignments.map (·.workItem.claim) :=
              mem_map_of_mem ha
            exact ⟨common_eq_some hclass _ (mem_map_of_mem hclaim),
              common_eq_some hcoRun _ (mem_map_of_mem hclaim),
              common_eq_some hshape _ (mem_map.mpr ⟨_, hclaim, rfl⟩),
              common_eq_some hload _ (mem_map_of_mem hclaim),
              common_eq_some hcontention _ (mem_map_of_mem hclaim)⟩
          · refine common_eq_some hhardware _ (mem_map.mpr ⟨device, ?_, rfl⟩)
            exact mem_filterMap.mpr ⟨uuid, mem_flatMap.mpr ⟨a, ha, huuid⟩, hdevice⟩
        · cases h

/-- A placeholder has a sound gang. -/
theorem soundGang_placeholder {item : PoolWorkItem Seconds} {gang : List String}
    (h : gang ∈ candidates d scheduler item) : SoundGang d scheduler (placeholder scheduler item gang) := by
  rcases placeholder_gang h with ⟨hlength, hnodup, -⟩
  rcases mem_candidateGangs_iff.mp h with ⟨hraw, haccepts⟩
  rcases (acceptsCandidate_iff hraw).mp haccepts with ⟨haccepted, henvelope, htopology⟩
  have hmem := (mem_rawCandidates_iff.mp hraw).2.2.1
  refine ⟨hlength, hnodup, fun uuid huuid => ?_, henvelope, ?_, ⟨by simp [placeholder], ?_⟩, ?_⟩
  · rcases GpuInventory.mem_uuids.mp (hmem uuid huuid) with ⟨device, hdevice, huuid'⟩
    have hfound := GpuInventory.device?_eq_some.mpr ⟨hdevice, huuid'⟩
    have hok := haccepted uuid huuid device hfound
    refine ⟨device, hfound, ?_, hok⟩
    unfold HomogeneousDeviceConstraint.accepts at hok
    simp only [Bool.and_eq_true] at hok
    exact hok.1.1.1.1
  · exact (flatten_chunks _ _ gang).trans (take_of_length_le hlength.le)
  · intro ranks hranks
    rcases mem_map.mp hranks with ⟨replica, hreplica, rfl⟩
    exact length_chunk hlength (mem_range.mp hreplica)
  · intro ranks hranks hmany
    rcases mem_map.mp hranks with ⟨replica, hreplica, rfl⟩
    rw [length_chunk hlength (mem_range.mp hreplica)] at hmany
    exact topologyAccepts_iff.mp htopology hmany.ne' replica (mem_range.mp hreplica)

/-! ## Packing -/

def portless (a : GpuAssignment Seconds) : GpuAssignment Seconds := { a with ports := [] }

/-- Ports that are bound are in the range, and nothing else changes. -/
theorem bindWavePorts_eq_some {used : List ℕ} {bound : List (GpuAssignment Seconds)}
    (h : bindWavePorts scheduler used assignments = .ok (some bound)) :
    bound.map portless = assignments.map portless ∧ ∀ a ∈ bound, SoundPorts scheduler a := by
  induction assignments generalizing used bound with
  | nil =>
    cases h
    exact ⟨rfl, fun _ ha => absurd ha not_mem_nil⟩
  | cons a rest ih =>
    unfold bindWavePorts at h
    cases hports : bindPorts scheduler used a.workItem.claim with
    | none =>
      rw [hports] at h
      cases h
    | some ports =>
      rw [hports] at h
      simp only [bind_eq_ok, validated_eq_ok, pure_eq_ok] at h
      rcases h with ⟨_, ⟨-, rfl⟩, others, hothers, hbound⟩
      rcases Option.map_eq_some_iff.mp hbound with ⟨others, rfl, rfl⟩
      rcases ih hothers with ⟨hsame, hsound⟩
      rcases bindPorts_spec hports with ⟨hdistinct, hrange, -⟩
      refine ⟨congrArg (portless a :: ·) hsame, fun b hb => ?_⟩
      rcases mem_cons.mp hb with rfl | hb
      · exact ⟨hdistinct, fun port hport => ⟨(hrange port hport).1, (hrange port hport).2.1⟩⟩
      · exact hsound b hb

/-- The wave that a placement joins. -/
theorem joinWave_eq_some {placement : GpuAssignment Seconds}
    {joined : List (List (GpuAssignment Seconds))}
    (h : joinWave d scheduler placement waves = .ok (some joined)) :
    ∃ before wave after candidate, waves = before ++ wave :: after ∧
      joined = before ++ candidate :: after ∧
      bindWavePorts scheduler [] (wave ++ [placement]) = .ok (some candidate) := by
  induction waves generalizing joined with
  | nil => cases h
  | cons wave rest ih =>
    have hskip (hrest : (Option.map (wave :: ·) <$> joinWave d scheduler placement rest)
        = .ok (some joined)) :
        ∃ before wave' after candidate, wave :: rest = before ++ wave' :: after ∧
          joined = before ++ candidate :: after ∧
          bindWavePorts scheduler [] (wave' ++ [placement]) = .ok (some candidate) := by
      rcases map_eq_ok.mp hrest with ⟨outcome, houtcome, hjoined⟩
      rcases Option.map_eq_some_iff.mp hjoined with ⟨others, rfl, rfl⟩
      rcases ih houtcome with ⟨before, wave', after, candidate, rfl, rfl, hbind⟩
      exact ⟨wave :: before, wave', after, candidate, rfl, rfl, hbind⟩
    unfold joinWave at h
    rcases bind_eq_ok.mp h with ⟨outcome, houtcome, h⟩
    cases outcome with
    | none => exact hskip h
    | some candidate =>
      by_cases hcompatible : waveCompatible d scheduler candidate = true
      · simp only [hcompatible, if_true, pure_eq_ok, Option.some.injEq] at h
        exact ⟨[], wave, rest, candidate, rfl, h.symm, houtcome⟩
      · simp only [hcompatible] at h
        exact hskip h

/-- Packing adds the placement and keeps the ports in the range. -/
theorem packWave_placed {placement : GpuAssignment Seconds}
    {packed : List (List (GpuAssignment Seconds))}
    (h : packWave d scheduler waves placement = .ok packed) :
    (packed.flatten.map portless).Perm (waves.flatten.map portless ++ [portless placement]) ∧
      ((∀ a ∈ waves.flatten, SoundPorts scheduler a) → ∀ a ∈ packed.flatten, SoundPorts scheduler a) := by
  unfold packWave at h
  rcases bind_eq_ok.mp h with ⟨outcome, houtcome, h⟩
  cases outcome with
  | some joined =>
    cases h
    rcases joinWave_eq_some houtcome with ⟨before, wave, after, candidate, rfl, rfl, hbind⟩
    rcases bindWavePorts_eq_some hbind with ⟨hsame, hsound⟩
    simp only [flatten_append, flatten_cons, map_append, hsame, append_assoc,
      map_cons, map_nil, mem_append]
    refine ⟨(perm_append_comm.append_left _).append_left _, fun hwaves a ha => ?_⟩
    rcases ha with ha | ha | ha
    · exact hwaves a (.inl ha)
    · exact hsound a ha
    · exact hwaves a (.inr (.inr ha))
  | none =>
    rcases bind_eq_ok.mp h with ⟨wave, hwave, h⟩
    cases h
    have hbind : bindWavePorts scheduler [] [placement] = .ok (some wave) := by
      unfold openWave at hwave
      rcases bind_eq_ok.mp hwave with ⟨outcome, houtcome, hwave⟩
      cases outcome with
      | none => cases hwave
      | some candidate =>
        rcases bind_eq_ok.mp hwave with ⟨_, -, hwave⟩
        cases hwave
        exact houtcome
    rcases bindWavePorts_eq_some hbind with ⟨hsame, hsound⟩
    simp only [flatten_append, map_append, flatten_cons, flatten_nil, hsame,
      append_nil, map_cons, map_nil, mem_append]
    exact ⟨.refl _, fun hwaves a ha => ha.elim (hwaves a) (hsound a)⟩

/-- All placements are packed. -/
theorem packAll_placed {placements : List (GpuAssignment Seconds)}
    {packed : List (List (GpuAssignment Seconds))}
    (h : placements.foldlM (packWave d scheduler) waves = .ok packed) :
    (packed.flatten.map portless).Perm (waves.flatten.map portless ++ placements.map portless) ∧
      ((∀ a ∈ waves.flatten, SoundPorts scheduler a) → ∀ a ∈ packed.flatten, SoundPorts scheduler a) := by
  induction placements generalizing waves with
  | nil =>
    cases h
    rw [map_nil, append_nil]
    exact ⟨.refl _, id⟩
  | cons placement rest ih =>
    rw [foldlM_cons, bind_eq_ok] at h
    rcases h with ⟨mid, hmid, hrest⟩
    rcases packWave_placed hmid with ⟨hstep, hkeeps⟩
    rcases ih hrest with ⟨hperm, hkeeps'⟩
    refine ⟨hperm.trans ?_, hkeeps' ∘ hkeeps⟩
    rw [map_cons, append_cons]
    exact hstep.append_right _

/-- The records of the waves have their assignments. -/
theorem assignments_of_freezeWaves {frozen : List (GpuDispatchWave Seconds)}
    (h : freezeWaves d scheduler waves = .ok frozen) : frozen.map (·.assignments) = waves := by
  unfold freezeWaves at h
  rw [collect_eq_ok] at h
  have hfst := zipIdx_map_fst 0 waves
  generalize waves.zipIdx = pairs at h hfst
  rw [← hfst]
  clear hfst
  induction pairs generalizing frozen with
  | nil =>
    rw [map_nil, eq_comm, map_eq_nil_iff] at h
    rw [h]
    rfl
  | cons pair rest ih =>
    cases frozen with
    | nil => cases h
    | cons wave frozen =>
      rw [map_cons, map_cons] at h
      rcases List.cons.inj h with ⟨hwave, hrest⟩
      rcases validated_eq_ok.mp hwave with ⟨-, rfl⟩
      rw [map_cons, map_cons, ih hrest]

/-! ## Placing -/

variable [LinearOrder Seconds] [Add Seconds] [Zero Seconds] {items : List (PoolWorkItem Seconds)}
  {s : Placing Seconds}

/-- There is one placement for each item. -/
theorem workItem_placements (h : placeAll d scheduler items = .ok s) :
    s.placements.map (·.workItem) = items := by
  induction items using List.reverseRecOn generalizing s with
  | nil =>
    cases h
    rfl
  | append_singleton items item ih =>
    rcases foldlM_snoc_eq_ok.mp h with ⟨u, hu, hplace⟩
    rcases place_eq_ok.mp hplace with ⟨gang, -, -, rfl⟩
    show (u.placements ++ [placeholder scheduler item gang]).map (·.workItem) = items ++ [item]
    rw [map_append, ih hu]
    rfl

/-- A placement has a sound gang, and it is the one that its group is bound to. -/
structure Placed (d : Digests Seconds) (scheduler : GpuPoolScheduler) (s : Placing Seconds)
    (a : GpuAssignment Seconds) : Prop where
  gang : SoundGang d scheduler a
  bound : ∀ key, a.workItem.affinityKey = some key → s.bound key = some a.gpuUuids

theorem placed_placements (h : placeAll d scheduler items = .ok s) :
    ∀ a ∈ s.placements, Placed d scheduler s a := by
  refine foldlM_keeps (P := fun u => ∀ a ∈ u.placements, Placed d scheduler u a) h
    (fun _ ha => absurd ha not_mem_nil) ?_
  intro item _ u v hu hplace a ha
  rcases place_eq_ok.mp hplace with ⟨gang, hgang, -, rfl⟩
  rcases mem_append.mp ha with ha | ha
  · exact ⟨(hu a ha).gang, fun key hkey => (bound_of_place hplace).mpr (.inl ((hu a ha).bound key hkey))⟩
  · rw [mem_singleton.mp ha]
    rcases selectGang_eq_ok hgang with ⟨hcandidate, hsame⟩
    refine ⟨soundGang_placeholder hcandidate, fun key hkey => (bound_of_place hplace).mpr ?_⟩
    -- a group that is bound keeps its gang, another one is bound to this gang
    cases hbound : u.bound key with
    | none => exact .inr ⟨rfl, hkey, hgang⟩
    | some bound =>
      have hgangs := hsame bound (by rw [show item.affinityKey = some key from hkey]; exact hbound)
      exact .inl (hgangs ▸ rfl)

/-! ## Plans -/

/-- A scheduler that returns a plan returns a sound one. -/
theorem sound_of_scheduleWorkItems (d : Digests Seconds) (release : Release)
    (scheduler : GpuPoolScheduler) (request : WorkRequest Seconds) (plan : GpuDispatchPlan Seconds)
    (h : scheduleWorkItems d release scheduler request = .ok plan) :
    SoundPlan d scheduler request.workItems plan := by
  unfold scheduleWorkItems at h
  simp only [bind_eq_ok, validated_eq_ok] at h
  rcases h with ⟨_, -, placed, hplaced, waves, hwaves, frozen, hfrozen, -, rfl⟩
  have hframes := assignments_of_freezeWaves hfrozen
  have hflat : frozen.flatMap (·.assignments) = waves.flatten := by
    rw [← hframes, List.flatMap_def]
  have hmem : ∀ wave ∈ frozen, wave.assignments ∈ waves := by
    intro wave hwave
    rw [← hframes]
    exact List.mem_map_of_mem hwave
  rcases packAll_placed hwaves with ⟨hperm, hports⟩
  rw [List.flatten_nil, List.map_nil, List.nil_append] at hperm
  have hvalid := valid_placements hplaced
  have hpacked : Packed d scheduler waves :=
    foldlM_keeps hwaves (fun _ hwave => absurd hwave List.not_mem_nil) fun placement hplacement u v hu =>
      (packWave_packed (hvalid placement hplacement) hu).1 v
  -- an assignment of a wave is a placement with other ports
  have hsource : ∀ a ∈ waves.flatten, Placed d scheduler placed a := by
    intro a ha
    rcases List.mem_map.mp (hperm.mem_iff.mp (List.mem_map_of_mem ha)) with ⟨p, hp, hsame⟩
    have hp := placed_placements hplaced p hp
    have hplacedPort : Placed d scheduler placed (portless a) := by
      rw [← hsame]
      exact ⟨⟨hp.gang.size, hp.gang.distinct, hp.gang.accepted, hp.gang.oneEnvelope,
        hp.gang.partition, hp.gang.shape, hp.gang.grouped⟩, hp.bound⟩
    have hgang := hplacedPort.gang
    exact ⟨⟨hgang.size, hgang.distinct, hgang.accepted, hgang.oneEnvelope, hgang.partition,
      hgang.shape, hgang.grouped⟩, hplacedPort.bound⟩
  constructor
  · show ((frozen.flatMap (·.assignments)).map (·.workItem)).Perm request.workItems
    have hitems := hperm.map (·.workItem)
    rw [List.map_map, List.map_map] at hitems
    rw [hflat]
    refine hitems.trans ?_
    rw [show placed.placements.map ((·.workItem) ∘ portless) = _ from workItem_placements hplaced]
    exact sortedBy_perm _ _
  · intro wave hwave a ha
    exact (hsource a (List.mem_flatten.mpr ⟨_, hmem wave hwave, ha⟩)).gang
  · intro wave hwave
    have hcompatible := (hpacked _ (hmem wave hwave)).1
    unfold waveCompatible at hcompatible
    rw [Bool.and_eq_true] at hcompatible
    exact (pairwise_of_pairwiseApart hcompatible.1).1
  · intro wave hwave a ha
    exact hports (fun _ ha => absurd ha List.not_mem_nil) a
      (List.mem_flatten.mpr ⟨_, hmem wave hwave, ha⟩)
  · intro wave hwave hmany
    have hcompatible := (hpacked _ (hmem wave hwave)).1
    unfold waveCompatible at hcompatible
    rw [Bool.and_eq_true] at hcompatible
    exact exists_rule_of_permits hcompatible.2 hmany
  · show ∀ a ∈ frozen.flatMap (·.assignments), ∀ b ∈ frozen.flatMap (·.assignments), _
    rw [hflat]
    intro a ha b hb key hkey hkey'
    have hbound := (hsource a ha).bound key hkey
    exact Option.some.inj (hbound.symm.trans ((hsource b hb).bound key hkey'))

end

/-- An item that shares a host with one other. -/
def otherItem : PoolWorkItem ℕ := { pairItem "other" 2 [] no_exact nodup_nil with affinityKey := none }

/-- Two devices, and a rule for two jobs. -/
def pairedScheduler : GpuPoolScheduler :=
  { wideScheduler with
    registry := [pairCell "free" 0, pairCell "bound" 1, pairCell "other" 2]
    interferenceRules :=
      [⟨digit 'a', .headline, "interference", 2, "tp1_dp1", "registered", "contention", "PASS"⟩] }

/-- The group has one device in two waves, and the other item joins the first of them. -/
theorem sound_plan_paired : ∃ plan,
    scheduleWorkItems pairDigests pairRelease pairedScheduler
        (pairRequest [freeItem, laterItem, otherItem]) = .ok plan ∧
      (plan.waves.map fun wave => wave.assignments.map fun a => (a.workItem.cell.identity.variant,
          a.gpuUuids)) = [[("free", ["gpu0"]), ("other", ["gpu1"])], [("bound", ["gpu0"])]] ∧
        SoundPlan pairDigests pairedScheduler [freeItem, laterItem, otherItem] plan := by
  have hreturns : ((scheduleWorkItems pairDigests pairRelease pairedScheduler
      (pairRequest [freeItem, laterItem, otherItem])).toOption.map fun plan =>
        plan.waves.map fun wave => wave.assignments.map fun a =>
          (a.workItem.cell.identity.variant, a.gpuUuids)) =
      some [[("free", ["gpu0"]), ("other", ["gpu1"])], [("bound", ["gpu0"])]] := by decide +kernel
  cases h : scheduleWorkItems pairDigests pairRelease pairedScheduler
      (pairRequest [freeItem, laterItem, otherItem]) with
  | error e =>
    rw [h] at hreturns
    cases hreturns
  | ok plan =>
    rw [h] at hreturns
    exact ⟨plan, rfl, Option.some.inj hreturns, sound_of_scheduleWorkItems _ _ _ _ plan h⟩

end Scheduling

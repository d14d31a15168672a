import LightConeSpec.Lib.Loops
import LightConeSpec.Scheduling.Scheduler

/-!
# Ports and waves

An assignment stays one when a wave binds its ports, every wave that is packed is compatible, and
so no check on ports fails after the items are placed.
-/

namespace Scheduling

open Python List

/-! ## Exceptions -/

/-- The texts of the checks on ports. -/
def portMessages : List String :=
  ["assignment ports must exactly satisfy port_count", "assignment ports must be in [1024, 65535]",
    "assignment differs from exact requested ports", "dispatch wave overlaps a port"]

/-- Not the exception of a check on ports. -/
def NotOfPorts (e : Error) : Prop := ∀ message ∈ portMessages, e ≠ valueError message

instance (e : Error) : Decidable (NotOfPorts e) := inferInstanceAs (Decidable (∀ _ ∈ _, _))

theorem notOfPorts_rejection (message : String) : NotOfPorts (capabilityRejection message) := by
  intro other _ h
  cases h

/-! ## Ports of one assignment -/

section

variable {Seconds : Type} {d : Digests Seconds} {scheduler : GpuPoolScheduler}

/-- Ports that are bound are as many as claimed, in the range, free, and the exact ones if there
are such. -/
theorem bindPorts_spec {used ports : List ℕ} {claim : PoolClaim Seconds}
    (h : bindPorts scheduler used claim = some ports) :
    (ports.length = claim.portCount ∧ ports.Nodup) ∧
      (∀ port ∈ ports, scheduler.portStart ≤ port ∧ port ≤ scheduler.portEnd ∧ port ∉ used) ∧
      (claim.exactPorts ≠ [] → ports = claim.exactPorts) := by
  unfold bindPorts at h
  split at h
  · rename_i hexact
    split at h
    · cases h
    · rename_i hfree
      cases h
      refine ⟨⟨claim.exactPortsLength hexact, claim.exactPortsNodup⟩, fun port hport => ?_,
        fun _ => rfl⟩
      simp only [any_eq_true, Bool.or_eq_true, decide_eq_true_eq, not_exists, not_and,
        not_or] at hfree
      have hfacts := hfree port hport
      exact ⟨by omega, by omega, hfacts.1.1⟩
  · rename_i hexact
    dsimp only at h
    split at h
    · cases h
    · rename_i henough
      cases h
      refine ⟨⟨by rw [length_take]; omega, ?_⟩, fun port hport => ?_, fun h => absurd h hexact⟩
      · exact (List.Nodup.filter _ nodup_range').sublist (take_sublist _ _)
      · have hport := mem_filter.mp (mem_of_mem_take hport)
        rw [mem_range'_1, decide_eq_true_eq] at hport
        have hrange := scheduler.portRange
        exact ⟨by omega, by omega, hport.2⟩

/-- With the ports of a wave an assignment is still one. -/
theorem rebound {a : GpuAssignment Seconds} (h : a.postInit = .ok ()) {used ports : List ℕ}
    (hports : bindPorts scheduler used a.workItem.claim = some ports) :
    { a with ports := ports }.postInit = .ok () := by
  rcases bindPorts_spec hports with ⟨hcount, hrange, hexact⟩
  have hstart := scheduler.portStart_le
  have hend := scheduler.portEnd_le
  unfold GpuAssignment.postInit at h ⊢
  simp only [bind_eq_ok, require_eq_ok] at h ⊢
  rcases h with ⟨_, hgpus, _, hflat, _, hgroups, _, -, _, -, _, huuids, -⟩
  refine ⟨(), hgpus, (), hflat, (), hgroups, (), hcount, (), fun port hport => ?_, (), huuids,
    hexact⟩
  have hin := hrange port hport
  omega

/-! ## Waves -/

/-- All of them are assignments. -/
def Valid (assignments : List (GpuAssignment Seconds)) : Prop :=
  ∀ a ∈ assignments, a.postInit = .ok ()

variable (scheduler) in
/-- Binding the ports of assignments raises nothing, and gives assignments. -/
theorem bindWavePorts_valid {assignments : List (GpuAssignment Seconds)} (h : Valid assignments)
    (used : List ℕ) : ∃ outcome, bindWavePorts scheduler used assignments = .ok outcome ∧
      ∀ bound ∈ outcome, Valid bound := by
  induction assignments generalizing used with
  | nil =>
    refine ⟨_, rfl, fun bound hbound => ?_⟩
    cases hbound
    exact fun _ ha => absurd ha not_mem_nil
  | cons a rest ih =>
    unfold bindWavePorts
    cases hports : bindPorts scheduler used a.workItem.claim with
    | none => exact ⟨none, rfl, nofun⟩
    | some ports =>
      have ha := rebound (h a mem_cons_self) hports
      rcases ih (fun b hb => h b (mem_cons_of_mem _ hb)) (used ++ ports)
        with ⟨outcome, houtcome, hvalid⟩
      refine ⟨outcome.map ({ a with ports := ports } :: ·), ?_, fun bound hbound => ?_⟩
      · exact bind_eq_ok.mpr ⟨_, validated_eq_ok.mpr ⟨ha, rfl⟩,
          bind_eq_ok.mpr ⟨outcome, houtcome, rfl⟩⟩
      · rcases Option.map_eq_some_iff.mp hbound with ⟨others, hothers, rfl⟩
        intro b hb
        rcases mem_cons.mp hb with rfl | hb
        · exact ha
        · exact hvalid others hothers b hb

/-- Every wave is compatible and of assignments. -/
def Packed (d : Digests Seconds) (scheduler : GpuPoolScheduler)
    (waves : List (List (GpuAssignment Seconds))) : Prop :=
  ∀ wave ∈ waves, waveCompatible d scheduler wave = true ∧ Valid wave

theorem Packed.cons {wave : List (GpuAssignment Seconds)} {waves : List (List (GpuAssignment Seconds))}
    (hwave : waveCompatible d scheduler wave = true ∧ Valid wave) (h : Packed d scheduler waves) :
    Packed d scheduler (wave :: waves) := by
  intro other hother
  rcases mem_cons.mp hother with rfl | hother
  · exact hwave
  · exact h other hother

variable {placement : GpuAssignment Seconds} {waves : List (List (GpuAssignment Seconds))}

/-- A placement joins a wave, or none; nothing is raised. -/
theorem joinWave_packed (hplacement : placement.postInit = .ok ()) (h : Packed d scheduler waves) :
    ∃ outcome, joinWave d scheduler placement waves = .ok outcome ∧
      ∀ joined ∈ outcome, Packed d scheduler joined := by
  induction waves with
  | nil => exact ⟨none, rfl, nofun⟩
  | cons wave rest ih =>
    have hwave := h wave mem_cons_self
    have hrest : Packed d scheduler rest := fun other hother => h other (mem_cons_of_mem _ hother)
    rcases ih hrest with ⟨outcome, houtcome, hpacked⟩
    -- the wave does not take it: what the other waves give, behind the wave
    have hskip : ∃ skipped, (Option.map (wave :: ·) <$> joinWave d scheduler placement rest)
        = .ok skipped ∧ ∀ joined ∈ skipped, Packed d scheduler joined := by
      refine ⟨outcome.map (wave :: ·), map_eq_ok.mpr ⟨outcome, houtcome, rfl⟩, ?_⟩
      intro joined hjoined
      rcases Option.map_eq_some_iff.mp hjoined with ⟨others, hothers, rfl⟩
      exact (hpacked others hothers).cons hwave
    have hvalid : Valid (wave ++ [placement]) := by
      intro a ha
      rcases mem_append.mp ha with ha | ha
      · exact hwave.2 a ha
      · rw [mem_singleton.mp ha]
        exact hplacement
    rcases bindWavePorts_valid scheduler hvalid [] with ⟨bound, hbound, hboundValid⟩
    unfold joinWave
    rw [hbound]
    cases bound with
    | none => exact hskip
    | some candidate =>
      show ∃ outcome, (if waveCompatible d scheduler candidate then pure (some (candidate :: rest))
        else Option.map (wave :: ·) <$> joinWave d scheduler placement rest) = .ok outcome ∧ _
      by_cases hcompatible : waveCompatible d scheduler candidate = true
      · rw [if_pos hcompatible]
        refine ⟨_, rfl, fun joined hjoined => ?_⟩
        cases hjoined
        exact hrest.cons ⟨hcompatible, hboundValid candidate rfl⟩
      · rw [if_neg hcompatible]
        exact hskip

variable (d scheduler) in
/-- A wave of its own is compatible; only a rejection is raised. -/
theorem openWave_packed (h : placement.postInit = .ok ()) :
    (∀ wave, openWave d scheduler placement = .ok wave →
      waveCompatible d scheduler wave = true ∧ Valid wave) ∧
      RaisesOnly NotOfPorts (openWave d scheduler placement) := by
  have hvalid : Valid [placement] := by
    intro a ha
    rw [mem_singleton.mp ha]
    exact h
  rcases bindWavePorts_valid scheduler hvalid [] with ⟨bound, hbound, hboundValid⟩
  unfold openWave
  constructor
  · intro wave hwave
    rcases bind_eq_ok.mp hwave with ⟨outcome, houtcome, hwave⟩
    cases hbound.symm.trans houtcome
    cases bound with
    | none => cases hwave
    | some candidate =>
      rcases bind_eq_ok.mp hwave with ⟨_, hcompatible, hwave⟩
      cases hwave
      exact ⟨require_eq_ok.mp hcompatible, hboundValid _ rfl⟩
  · rw [hbound]
    refine raisesOnly_bind raisesOnly_ok fun outcome _ => ?_
    cases outcome with
    | none => exact raisesOnly_error.mpr (notOfPorts_rejection _)
    | some candidate =>
      exact raisesOnly_check (fun _ => raisesOnly_pure) (notOfPorts_rejection _)

/-- Packing a placement raises at most a rejection, and keeps the waves packed. -/
theorem packWave_packed (hplacement : placement.postInit = .ok ()) (h : Packed d scheduler waves) :
    (∀ packed, packWave d scheduler waves placement = .ok packed → Packed d scheduler packed) ∧
      RaisesOnly NotOfPorts (packWave d scheduler waves placement) := by
  rcases joinWave_packed hplacement h with ⟨outcome, houtcome, hpacked⟩
  rcases openWave_packed d scheduler hplacement with ⟨hopen, hraises⟩
  unfold packWave
  constructor
  · intro packed hpack
    rcases bind_eq_ok.mp hpack with ⟨joined, hjoined, hpack⟩
    cases houtcome.symm.trans hjoined
    cases outcome with
    | some joined =>
      cases hpack
      exact hpacked _ rfl
    | none =>
      rcases bind_eq_ok.mp hpack with ⟨wave, hwave, hpack⟩
      cases hpack
      intro other hother
      rcases mem_append.mp hother with hother | hother
      · exact h other hother
      · rw [mem_singleton.mp hother]
        exact hopen wave hwave
  · rw [houtcome]
    refine raisesOnly_bind raisesOnly_ok fun joined _ => ?_
    cases joined with
    | some joined => exact raisesOnly_pure
    | none => exact raisesOnly_bind hraises fun _ _ => raisesOnly_pure

/-- The checks of a wave's constructor are among those of a compatible wave. -/
theorem checkApart_of_pairwiseApart {seen assignments : List (GpuAssignment Seconds)}
    (h : pairwiseApart seen assignments = true) : checkApart seen assignments = .ok () := by
  induction assignments generalizing seen with
  | nil => rfl
  | cons a rest ih =>
    unfold pairwiseApart at h
    simp only [Bool.and_eq_true, Bool.not_eq_true', Bool.or_eq_false_iff] at h
    rcases h with ⟨⟨⟨⟨hgpu, hport⟩, hcache, hevidence⟩, hserial⟩, hrest⟩
    unfold checkApart
    simp only [bind_eq_ok, require_eq_ok]
    exact ⟨(), hgpu, (), hport, (), hcache, (), hevidence, (), hserial, ih hrest⟩

theorem freezeWaves_raises (h : Packed d scheduler waves) :
    RaisesOnly NotOfPorts (freezeWaves d scheduler waves) := by
  refine raisesOnly_collect fun outcome houtcome => ?_
  rcases mem_map.mp houtcome with ⟨⟨wave, index⟩, hmem, rfl⟩
  have hwave := (h wave (fst_mem_of_mem_zipIdx hmem)).1
  unfold waveCompatible at hwave
  rw [Bool.and_eq_true] at hwave
  refine raisesOnly_validated ?_
  unfold GpuDispatchWave.postInit
  refine raisesOnly_check fun _ => ?_
  refine raisesOnly_check fun _ => ?_
  refine raisesOnly_bind ?_ fun _ _ => raisesOnly_require (by decide)
  rw [checkApart_of_pairwiseApart hwave.1]
  exact raisesOnly_ok

/-! ## What is checked before and after -/

theorem checkBudgets_raises (budgets : List (String × String)) :
    RaisesOnly NotOfPorts (checkBudgets budgets) := by
  refine raisesOnly_forEach fun budget _ => ?_
  exact raisesOnly_check fun _ => raisesOnly_require (by decide)

theorem planPostInit_raises (plan : GpuDispatchPlan Seconds) :
    RaisesOnly NotOfPorts (plan.postInit d) := by
  unfold GpuDispatchPlan.postInit
  repeat refine raisesOnly_check fun _ => ?_
  refine raisesOnly_bind (checkBudgets_raises _) fun _ _ => ?_
  repeat refine raisesOnly_check fun _ => ?_
  exact raisesOnly_require (by decide)

theorem registryGangShape_raises (cell : ExperimentCell) :
    RaisesOnly NotOfPorts (registryGangShape cell) := by
  have hnew : ∀ tp dp, RaisesOnly NotOfPorts (GangShape.new tp dp) := by
    intro tp dp
    unfold GangShape.new
    split
    · split
      · exact raisesOnly_ok
      · exact raisesOnly_error.mpr (by decide)
    · exact raisesOnly_error.mpr (by decide)
  unfold registryGangShape
  refine raisesOnly_bind ?_ fun shape _ =>
    raisesOnly_check fun _ => raisesOnly_pure
  unfold topologyGangShape
  split
  · exact hnew _ _
  · split
    · exact hnew _ _
    · exact hnew _ _

theorem checkRegistered_raises (item : PoolWorkItem Seconds) :
    RaisesOnly NotOfPorts (checkRegistered d scheduler item) := by
  unfold checkRegistered
  split
  · refine raisesOnly_error.mpr fun message _ h => ?_
    cases h
  · refine raisesOnly_check fun _ => ?_
    refine raisesOnly_bind (registryGangShape_raises _) fun shape _ => ?_
    refine raisesOnly_check fun _ => ?_
    unfold checkIsolation
    exact raisesOnly_check fun _ => raisesOnly_require (by decide)

theorem checkWorkItems_raises (release : Release) (request : WorkRequest Seconds) :
    RaisesOnly NotOfPorts (checkWorkItems d release scheduler request) := by
  unfold checkWorkItems
  repeat refine raisesOnly_check fun _ => ?_
  refine raisesOnly_bind (checkBudgets_raises _) fun _ _ => ?_
  repeat refine raisesOnly_check fun _ => ?_
  exact raisesOnly_forEach fun item _ => checkRegistered_raises item

end

end Scheduling

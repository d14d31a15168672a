import Mathlib.Data.List.GetD
import LightConeSpec.Scheduling.Waves

/-!
# Affinity groups and ports

The first member of an affinity group takes the gang with the least load, whatever the later
members admit, and the group is refused where one of them does not admit that gang. Placeholder
ports start at the first port of the range, whatever its end.

`placement_complete_iff` says when a scheduler refuses a group only for want of a gang that all
members admit and never fails on ports in another way.
-/

namespace Scheduling

open Python Chunks List

/-! ## A complete placement -/

section

variable {Seconds : Type} [LinearOrder Seconds] [Add Seconds] [Zero Seconds] (d : Digests Seconds)
  (release : Release) (scheduler : GpuPoolScheduler) (request : WorkRequest Seconds)

/-- The loop over the items comes to an item, with the state that the items before it left. -/
structure Reaches (before : List (PoolWorkItem Seconds)) (item : PoolWorkItem Seconds)
    (s : Placing Seconds) : Prop where
  admitted : checkWorkItems d release scheduler request = .ok ()
  inOrder : ∃ after, ordered d scheduler request.workItems = before ++ item :: after
  placed : placeAll d scheduler before = .ok s

/-- The scheduler raises, for a member of the group, that the group has no common placement. -/
def RejectsGroup (key : String) : Prop :=
  scheduleWorkItems d release scheduler request = .error affinityRejection ∧
    ∃ before item s, Reaches d release scheduler request before item s ∧
      item.affinityKey = some key ∧ selectGang d scheduler s item = .error affinityRejection

/-- One gang is admissible for every member of the group. -/
def HasCommonGang (key : String) : Prop :=
  ∃ gang, ∀ item ∈ request.workItems, item.affinityKey = some key →
    gang ∈ candidates d scheduler item

/-- A group is refused only when no gang is admissible for every member, and nothing but a
rejection is raised because of ports. -/
structure CompletePlacement : Prop where
  affinity : ∀ key, RejectsGroup d release scheduler request key →
    ¬ HasCommonGang d scheduler request key
  ports : ∀ e, scheduleWorkItems d release scheduler request = .error e → NotOfPorts e

/-- Where the first member of a group with a common gang is placed, the members that the loop
comes to admit the gang it takes, and placeholder ports end below the last of all ports. -/
structure PlacesGroups : Prop where
  affinity : ∀ before first s, Reaches d release scheduler request before first s →
    ∀ key, first.affinityKey = some key → s.bound key = none →
      HasCommonGang d scheduler request key →
        ∀ gang, selectGang d scheduler s first = .ok gang →
          ∀ before' item s', Reaches d release scheduler request before' item s' →
            item.affinityKey = some key → gang ∈ candidates d scheduler item
  ports : ∀ before item s, Reaches d release scheduler request before item s →
    ∀ gang, selectGang d scheduler s item = .ok gang → item.claim.exactPorts = [] →
      scheduler.portStart + item.claim.portCount ≤ 65536

end

variable {e : Error}

section

variable {Seconds : Type} {d : Digests Seconds} {scheduler : GpuPoolScheduler}
  {s : Placing Seconds} {item : PoolWorkItem Seconds} {gang : List String}

/-! ## Placeholders -/

/-- What a placeholder satisfies but for its ports. -/
theorem placeholder_gang (h : gang ∈ candidates d scheduler item) :
    gang.length = item.claim.gangShape.gpuCount ∧ gang.Nodup ∧
      (item.claim.exactGpuUuids ≠ [] → gang = item.claim.exactGpuUuids) := by
  rcases mem_rawCandidates_iff.mp (mem_candidateGangs_iff.mp h).1 with ⟨hsub, hlength, -, -⟩
  refine ⟨hlength, hsub.nodup nodup_listing, fun hexact => ?_⟩
  unfold listing at hsub
  rw [if_pos hexact] at hsub
  exact hsub.eq_of_length (hlength.trans (item.claim.exactLength hexact).symm)

theorem flatten_chunks (k n : ℕ) (l : List String) :
    ((List.range n).map (chunk k l)).flatten = l.take (n * k) := by
  induction n with
  | zero => rw [Nat.zero_mul, take_zero]; rfl
  | succ n ih =>
    rw [range_succ, map_append, flatten_append, ih, Nat.add_mul, Nat.one_mul,
      take_add]
    simp [chunk]

variable (scheduler) in
/-- The ports of a placeholder. -/
theorem placeholderPorts_spec (claim : PoolClaim Seconds) :
    (placeholderPorts scheduler claim).length = claim.portCount ∧
      (placeholderPorts scheduler claim).Nodup ∧
      (claim.exactPorts ≠ [] → placeholderPorts scheduler claim = claim.exactPorts) ∧
      ((∀ port ∈ placeholderPorts scheduler claim, 1024 ≤ port ∧ port ≤ 65535) ↔
        (claim.exactPorts = [] → scheduler.portStart + claim.portCount ≤ 65536)) := by
  unfold placeholderPorts
  by_cases hexact : claim.exactPorts = []
  · have hpos := claim.portCount_pos
    have hstart := scheduler.portStart_le
    simp only [hexact, ne_eq, not_true_eq_false, if_false, length_range', false_implies,
      mem_range'_1, true_and, forall_const]
    refine ⟨nodup_range', fun h => ?_, fun h port hport => by omega⟩
    have hlast := h (scheduler.portStart + claim.portCount - 1) (by omega)
    omega
  · simp only [hexact, ne_eq, not_false_eq_true, if_true, forall_const, false_implies, iff_true,
      true_and]
    exact ⟨claim.exactPortsLength hexact, claim.exactPortsNodup, claim.exactPortsRange⟩

/-- A placeholder is an assignment exactly when its ports are ports. -/
theorem placeholder_postInit (h : gang ∈ candidates d scheduler item) :
    (placeholder scheduler item gang).postInit = .ok () ↔
      (item.claim.exactPorts = [] → scheduler.portStart + item.claim.portCount ≤ 65536) := by
  rcases placeholder_gang h with ⟨hlength, hnodup, hexact⟩
  rcases placeholderPorts_spec scheduler item.claim with ⟨hcount, hports, hsame, hrange⟩
  unfold GpuAssignment.postInit placeholder
  simp only [bind_eq_ok, require_eq_ok]
  constructor
  · rintro ⟨_, -, _, -, _, -, _, -, _, hin, -⟩
    exact hrange.mp hin
  · intro hfits
    refine ⟨(), ⟨hlength, hnodup⟩, (), ?_, (), ⟨by simp, ?_⟩, (), ⟨hcount, hports⟩, (),
      hrange.mpr hfits, (), hexact, hsame⟩
    · rw [flatten_chunks]
      exact take_of_length_le hlength.le
    · intro group hgroup
      rcases mem_map.mp hgroup with ⟨replica, hreplica, rfl⟩
      exact length_chunk hlength (mem_range.mp hreplica)

/-- Its only failure is that of the last check on ports. -/
theorem placeholder_postInit_eq_error (h : gang ∈ candidates d scheduler item)
    (hexact : item.claim.exactPorts = [])
    (hover : 65536 < scheduler.portStart + item.claim.portCount) :
    (placeholder scheduler item gang).postInit
      = .error (valueError "assignment ports must be in [1024, 65535]") := by
  rcases placeholder_gang h with ⟨hlength, hnodup, -⟩
  rcases placeholderPorts_spec scheduler item.claim with ⟨hcount, hports, -, hrange⟩
  unfold GpuAssignment.postInit placeholder
  simp only [bind_eq_error, require_eq_ok]
  refine .inr ⟨(), ⟨hlength, hnodup⟩, .inr ⟨(), ?_, .inr ⟨(), ⟨by simp, ?_⟩, .inr ⟨(),
    ⟨hcount, hports⟩, .inl (require_eq_error.mpr ⟨fun hin => ?_, rfl⟩)⟩⟩⟩⟩
  · rw [flatten_chunks]
    exact take_of_length_le hlength.le
  · intro group hgroup
    rcases mem_map.mp hgroup with ⟨replica, hreplica, rfl⟩
    exact length_chunk hlength (mem_range.mp hreplica)
  · have hfits := hrange.mp hin hexact
    omega

/-! ## The gang of an item -/

theorem gangsFor_eq_ok {gangs : List (List String)} (h : gangsFor d scheduler s item = .ok gangs) :
    ∀ gang ∈ gangs, gang ∈ candidates d scheduler item ∧
      ∀ bound, item.affinityKey.bind s.bound = some bound → gang = bound := by
  intro gang hgang
  unfold gangsFor at h
  cases hbound : item.affinityKey.bind s.bound with
  | none =>
    rw [hbound] at h
    cases h
    exact ⟨hgang, nofun⟩
  | some bound =>
    rw [hbound] at h
    simp only [bind_eq_ok, require_eq_ok, pure_eq_ok] at h
    rcases h with ⟨_, -, rfl⟩
    rw [mem_filter, decide_eq_true_eq] at hgang
    exact ⟨hgang.1, fun _ h => hgang.2.trans (Option.some.inj h)⟩

theorem gangsFor_eq_error : gangsFor d scheduler s item = .error e ↔ e = affinityRejection ∧
      ∃ bound, item.affinityKey.bind s.bound = some bound ∧ bound ∉ candidates d scheduler item := by
  unfold gangsFor
  cases hbound : item.affinityKey.bind s.bound with
  | none =>
    constructor
    · exact fun h => absurd h pure_ne_error
    · rintro ⟨-, bound, h, -⟩
      cases h
  | some bound =>
    simp only [bind_eq_error, require_eq_error, pure_ne_error, and_false, exists_false, or_false,
      not_not, filter_eq_nil_iff, decide_eq_true_eq, Option.some.injEq]
    constructor
    · rintro ⟨hnone, rfl⟩
      exact ⟨rfl, bound, rfl, fun hmem => hnone bound hmem rfl⟩
    · rintro ⟨rfl, _, rfl, hnot⟩
      exact ⟨fun gang hgang heq => hnot (heq ▸ hgang), rfl⟩

theorem calibrationConcurrentSlot_raises (h : calibrationConcurrentSlot item = .error e) :
    e = valueError "calibration concurrent slot is not registered" := by
  unfold calibrationConcurrentSlot at h
  dsimp only at h
  split at h
  · cases h
  · split at h
    · cases h
    · split at h
      · cases h
      · cases h
      · exact (Except.error.inj h).symm

variable [LinearOrder Seconds]

/-- A bound group keeps its gang; the gang is one of the candidates. -/
theorem selectGang_eq_ok (h : selectGang d scheduler s item = .ok gang) :
    gang ∈ candidates d scheduler item ∧
      ∀ bound, item.affinityKey.bind s.bound = some bound → gang = bound := by
  unfold selectGang at h
  simp only [bind_eq_ok, require_eq_ok] at h
  rcases h with ⟨gangs, hgangs, _, hne, slot, -, hslot⟩
  refine gangsFor_eq_ok hgangs gang ?_
  cases slot with
  | none =>
    rw [pure_eq_ok] at hslot
    cases hmin : gangs.argmin (gangLoadKey scheduler s.load
        (d.rotation scheduler.seed item.affinityKey (d.itemId item))) with
    | none => exact absurd (argmin_eq_none.mp hmin) hne
    | some least =>
      rw [hmin, Option.getD_some] at hslot
      rw [← hslot]
      exact argmin_mem hmin
  | some slot =>
    simp only [bind_eq_ok, require_eq_ok, pure_eq_ok] at hslot
    rcases hslot with ⟨_, htwo, rfl⟩
    generalize hkey : sortedBy
      (fun gang : List String => gang.map (scheduler.inventory.uuids.idxOf ·)) gangs = sorted
    have hmem : ∀ g ∈ sorted, g ∈ gangs := by
      intro g hg
      rw [← hkey] at hg
      exact mem_sortedBy.mp hg
    have hlength : sorted.length = gangs.length := by
      rw [← hkey]
      exact (sortedBy_perm _ _).length_eq
    have hlt : (item.cell.identity.block + slot) % sorted.length < sorted.length :=
      Nat.mod_lt _ (by omega)
    rw [getD_eq_getElem _ _ hlt]
    exact hmem _ (getElem_mem hlt)

/-- A group is refused exactly when its gang is bound and the item does not admit it. -/
theorem selectGang_eq_affinityRejection : selectGang d scheduler s item = .error affinityRejection ↔
      ∃ bound, item.affinityKey.bind s.bound = some bound ∧ bound ∉ candidates d scheduler item := by
  unfold selectGang
  rw [bind_eq_error, gangsFor_eq_error]
  constructor
  · rintro (⟨-, h⟩ | ⟨gangs, -, h⟩)
    · exact h
    · -- the other exceptions have other texts
      simp only [bind_eq_error, require_eq_error] at h
      rcases h with ⟨-, h⟩ | ⟨_, -, h | ⟨slot, -, h⟩⟩
      · have hfirst := congrArg (fun e : Error => e.message.toList.head?) h
        simp only [capabilityRejection, affinityRejection, String.toList_append, head?_append] at hfirst
        cases hfirst
      · cases calibrationConcurrentSlot_raises h
      · cases slot with
        | none => exact absurd h pure_ne_error
        | some slot =>
          simp only [bind_eq_error, require_eq_error, pure_ne_error, and_false, exists_false,
            or_false] at h
          exact absurd h.2 (by decide)
  · exact fun h => .inl ⟨rfl, h⟩

/-- No exception of a selection is about ports. -/
theorem selectGang_raises : RaisesOnly NotOfPorts (selectGang d scheduler s item) := by
  unfold selectGang
  refine raisesOnly_bind ?_ fun gangs _ => ?_
  · intro e he
    rw [(gangsFor_eq_error.mp he).1]
    exact notOfPorts_rejection _
  · refine raisesOnly_check (fun _ => ?_) (notOfPorts_rejection _)
    refine raisesOnly_bind ?_ fun slot _ => ?_
    · intro e he
      rw [calibrationConcurrentSlot_raises he]
      decide
    · cases slot with
      | none => exact raisesOnly_pure
      | some slot => exact raisesOnly_check (fun _ => raisesOnly_pure) (notOfPorts_rejection _)

/-! ## The loop over the items -/

variable [Add Seconds] {t : Placing Seconds}

/-- One pass of the loop. -/
theorem place_eq_ok : place d scheduler s item = .ok t ↔
    ∃ gang, selectGang d scheduler s item = .ok gang ∧
      (placeholder scheduler item gang).postInit = .ok () ∧
      s.assign (placeholder scheduler item gang) = t := by
  unfold place
  simp only [bind_eq_ok, validated_eq_ok, pure_eq_ok]
  constructor
  · rintro ⟨gang, hgang, _, ⟨hvalid, rfl⟩, ht⟩
    exact ⟨gang, hgang, hvalid, ht⟩
  · rintro ⟨gang, hgang, hvalid, ht⟩
    exact ⟨gang, hgang, _, ⟨hvalid, rfl⟩, ht⟩

theorem place_eq_error : place d scheduler s item = .error e ↔
    selectGang d scheduler s item = .error e ∨ ∃ gang, selectGang d scheduler s item = .ok gang ∧
      (placeholder scheduler item gang).postInit = .error e := by
  unfold place validated
  simp only [bind_eq_error, pure_ne_error, and_false, exists_false, or_false]

/-- A pass binds the group of its item when it is not bound, and nothing else. -/
theorem bound_of_place (h : place d scheduler s item = .ok t) {key : String} :
    t.bound key = some gang ↔ s.bound key = some gang ∨
      s.bound key = none ∧ item.affinityKey = some key ∧ selectGang d scheduler s item = .ok gang := by
  rcases place_eq_ok.mp h with ⟨selected, hselected, -, rfl⟩
  show (if item.affinityKey = some key ∧ s.bound key = none then some selected else s.bound key)
    = some gang ↔ _
  rw [hselected, Except.ok.injEq]
  by_cases hfirst : item.affinityKey = some key ∧ s.bound key = none
  · rw [if_pos hfirst, hfirst.2]
    simp [hfirst.1]
  · rw [if_neg hfirst]
    constructor
    · exact .inl
    · rintro (h | ⟨hnone, hkey, -⟩)
      · exact h
      · exact absurd ⟨hkey, hnone⟩ hfirst

variable [Zero Seconds] {before : List (PoolWorkItem Seconds)} {key : String}

/-- A group that is bound was bound by its first member. -/
theorem first_of_bound (h : placeAll d scheduler before = .ok s) (hbound : s.bound key = some gang) :
    ∃ earlier first rest u, before = earlier ++ first :: rest ∧
      placeAll d scheduler earlier = .ok u ∧ first.affinityKey = some key ∧ u.bound key = none ∧
      selectGang d scheduler u first = .ok gang := by
  induction before using List.reverseRecOn generalizing s with
  | nil =>
    cases h
    cases hbound
  | append_singleton items item ih =>
    rcases foldlM_snoc_eq_ok.mp h with ⟨u, hu, hplace⟩
    rcases (bound_of_place hplace).mp hbound with hearlier | ⟨hnone, hkey, hselect⟩
    · rcases ih hu hearlier with ⟨earlier, first, rest, v, rfl, hv, hfirst⟩
      exact ⟨earlier, first, rest ++ [item], v, by simp, hv, hfirst⟩
    · exact ⟨items, item, [], u, rfl, hu, hkey, hnone, hselect⟩

/-- A group that is bound stays bound to its gang. -/
theorem bound_stays {rest : List (PoolWorkItem Seconds)} (h : placeAll d scheduler before = .ok s)
    (hbound : s.bound key = some gang) (hrest : placeAll d scheduler (before ++ rest) = .ok t) :
    t.bound key = some gang := by
  rcases foldlM_append_eq_ok.mp hrest with ⟨u, hu, hrest⟩
  cases h.symm.trans hu
  refine foldlM_keeps (P := fun u => u.bound key = some gang) hrest hbound ?_
  intro item _ u v hu hplace
  exact (bound_of_place hplace).mpr (.inl hu)

/-- After a member, its group is bound. -/
theorem bound_of_member {items : List (PoolWorkItem Seconds)}
    (h : placeAll d scheduler items = .ok s) (hmem : item ∈ items)
    (hkey : item.affinityKey = some key) : s.bound key ≠ none := by
  rcases append_of_mem hmem with ⟨earlier, rest, rfl⟩
  rw [append_cons] at h
  rcases foldlM_append_eq_ok.mp h with ⟨u, hu, hrest⟩
  rcases foldlM_snoc_eq_ok.mp hu with ⟨v, hv, hplace⟩
  have hbound : ∃ gang, u.bound key = some gang := by
    cases hv : v.bound key with
    | some gang => exact ⟨gang, (bound_of_place hplace).mpr (.inl hv)⟩
    | none =>
      rcases place_eq_ok.mp hplace with ⟨gang, hgang, -⟩
      exact ⟨gang, (bound_of_place hplace).mpr (.inr ⟨hv, hkey, hgang⟩)⟩
  rcases hbound with ⟨gang, hbound⟩
  have hstays := bound_stays hu hbound (foldlM_append_eq_ok.mpr ⟨u, hu, hrest⟩)
  rw [hstays]
  nofun

/-! ## Runs -/

variable {release : Release} {request : WorkRequest Seconds}

/-- What the loop raises, the scheduler raises. -/
theorem Reaches.raises (h : Reaches d release scheduler request before item s)
    (he : place d scheduler s item = .error e) :
    scheduleWorkItems d release scheduler request = .error e := by
  rcases h.inOrder with ⟨after, horder⟩
  unfold scheduleWorkItems
  rw [bind_eq_error]
  refine .inr ⟨(), h.admitted, bind_eq_error.mpr (.inl ?_)⟩
  exact foldlM_eq_error.mpr ⟨before, item, after, s, horder, h.placed, he⟩

/-- The first member of a group and a member that the loop comes to: it is not before the first
one, and after it the group is bound to the gang of the first. -/
theorem bound_of_reaches {first : PoolWorkItem Seconds} {before' : List (PoolWorkItem Seconds)}
    (hfirst : Reaches d release scheduler request before first s)
    (hkey : first.affinityKey = some key) (hnone : s.bound key = none)
    (hselect : selectGang d scheduler s first = .ok gang)
    (h : Reaches d release scheduler request before' item t) (hitem : item.affinityKey = some key) :
    item = first ∨ t.bound key = some gang := by
  rcases hfirst.inOrder with ⟨after, horder⟩
  rcases h.inOrder with ⟨after', horder'⟩
  rcases append_eq_append_iff.mp (horder.symm.trans horder') with ⟨mid, hbefore, hafter⟩
      | ⟨mid, hbefore, hafter⟩
  · cases mid with
    | nil => exact .inl (List.cons.inj hafter).1.symm
    | cons other mid =>
      -- the first member comes before
      cases (List.cons.inj hafter).1
      refine .inr ?_
      have hplaced := h.placed
      rw [hbefore, append_cons] at hplaced
      rcases foldlM_append_eq_ok.mp hplaced with ⟨u, hu, -⟩
      rcases foldlM_snoc_eq_ok.mp hu with ⟨v, hv, hplace⟩
      cases hfirst.placed.symm.trans hv
      exact bound_stays hu ((bound_of_place hplace).mpr (.inr ⟨hnone, hkey, hselect⟩)) hplaced
  · cases mid with
    | nil => exact .inl (List.cons.inj hafter).1
    | cons other mid =>
      -- a member before the first one would have bound the group
      cases (List.cons.inj hafter).1
      have hmem : item ∈ before := by
        rw [hbefore]
        exact mem_append_right _ mem_cons_self
      exact absurd hnone (bound_of_member hfirst.placed hmem hitem)

/-- A member that the loop comes to, of a group that is bound, comes after a first member. -/
theorem Reaches.first (h : Reaches d release scheduler request before item s)
    (hbound : s.bound key = some gang) :
    ∃ earlier first u, Reaches d release scheduler request earlier first u ∧
      first.affinityKey = some key ∧ u.bound key = none ∧
      selectGang d scheduler u first = .ok gang := by
  rcases first_of_bound h.placed hbound with ⟨earlier, first, rest, u, rfl, hu, hfacts⟩
  rcases h.inOrder with ⟨after, horder⟩
  refine ⟨earlier, first, u, ⟨h.admitted, ⟨rest ++ item :: after, ?_⟩, hu⟩, hfacts⟩
  rw [horder, append_assoc, cons_append]

/-- The placements are assignments. -/
theorem valid_placements (h : placeAll d scheduler before = .ok s) : Valid s.placements := by
  refine foldlM_keeps (P := fun u => Valid u.placements) h (fun _ ha => absurd ha not_mem_nil) ?_
  intro item _ u v hu hplace
  rcases place_eq_ok.mp hplace with ⟨gang, -, hvalid, rfl⟩
  intro a ha
  rcases mem_append.mp ha with ha | ha
  · exact hu a ha
  · rw [mem_singleton.mp ha]
    exact hvalid

/-- After the items are placed, nothing but a rejection is raised because of ports. -/
theorem afterPlacing_raises (h : placeAll d scheduler before = .ok s)
    {plan : List (GpuDispatchWave Seconds) → GpuDispatchPlan Seconds} :
    RaisesOnly NotOfPorts (do
      let waves ← s.placements.foldlM (packWave d scheduler) []
      let frozen ← freezeWaves d scheduler waves
      validated (GpuDispatchPlan.postInit d) (plan frozen)) := by
  have hvalid := valid_placements h
  have hstart : Packed d scheduler [] := fun _ hwave => absurd hwave not_mem_nil
  have hkeeps : ∀ placement ∈ s.placements, ∀ u v, Packed d scheduler u →
      packWave d scheduler u placement = .ok v → Packed d scheduler v :=
    fun placement hplacement u v hu => (packWave_packed (hvalid placement hplacement) hu).1 v
  refine raisesOnly_bind (raisesOnly_foldlM hstart hkeeps ?_) fun waves hwaves => ?_
  · exact fun placement hplacement u hu => (packWave_packed (hvalid placement hplacement) hu).2
  · refine raisesOnly_bind (freezeWaves_raises (foldlM_keeps hwaves hstart hkeeps)) fun _ _ => ?_
    exact raisesOnly_validated (planPostInit_raises _)

/-- Placement is complete when first members take gangs that the later members admit and
placeholder ports fit, and only then. -/
theorem placement_complete_iff (d : Digests Seconds) (release : Release)
    (scheduler : GpuPoolScheduler) (request : WorkRequest Seconds) :
    CompletePlacement d release scheduler request ↔ PlacesGroups d release scheduler request := by
  constructor
  · intro h
    constructor
    · intro before first s hfirst key hkey hnone hcommon gang hselect before' item s' hitem hkey'
      by_contra hnot
      rcases bound_of_reaches hfirst hkey hnone hselect hitem hkey' with rfl | hbound
      · exact hnot (selectGang_eq_ok hselect).1
      · have hrefused : selectGang d scheduler s' item = .error affinityRejection := by
          rw [selectGang_eq_affinityRejection]
          refine ⟨gang, ?_, hnot⟩
          rw [hkey', Option.bind_some, hbound]
        have hraised := hitem.raises (place_eq_error.mpr (.inl hrefused))
        exact h.affinity key ⟨hraised, before', item, s', hitem, hkey', hrefused⟩ hcommon
    · intro before item s hitem gang hselect hexact
      by_contra hover
      have hfails := placeholder_postInit_eq_error (selectGang_eq_ok hselect).1 hexact
        (Nat.lt_of_not_le hover)
      have hraised := hitem.raises (place_eq_error.mpr (.inr ⟨gang, hselect, hfails⟩))
      exact h.ports _ hraised "assignment ports must be in [1024, 65535]" (by decide) rfl
  · intro h
    constructor
    · rintro key ⟨-, before, item, s, hitem, hkey, hrefused⟩ hcommon
      rcases selectGang_eq_affinityRejection.mp hrefused with ⟨gang, hbound, hnot⟩
      rw [hkey, Option.bind_some] at hbound
      rcases hitem.first hbound with ⟨earlier, first, u, hfirst, hkey', hnone, hselect⟩
      exact hnot (h.affinity earlier first u hfirst key hkey' hnone hcommon gang hselect before item s
        hitem hkey)
    · intro e he
      unfold scheduleWorkItems at he
      rcases bind_eq_error.mp he with he | ⟨_, hadmitted, he⟩
      · exact checkWorkItems_raises release request e he
      · rcases bind_eq_error.mp he with he | ⟨placed, hplaced, he⟩
        · rcases foldlM_eq_error.mp he with ⟨before, item, after, s, horder, hplaced, he⟩
          have hitem : Reaches d release scheduler request before item s :=
            ⟨hadmitted, ⟨after, horder⟩, hplaced⟩
          rcases place_eq_error.mp he with he | ⟨gang, hselect, he⟩
          · exact selectGang_raises e he
          · -- the placeholder is an assignment
            have hvalid := (placeholder_postInit (selectGang_eq_ok hselect).1).mpr
              (h.ports before item s hitem gang hselect)
            rw [hvalid] at he
            cases he
        · exact afterPlacing_raises hplaced e he

end

/-! ## A group that is refused with a common gang, and ports past the last -/

section Pair

/-- Two equal devices of one host. -/
def pairDevice (uuid : String) : GpuDevice where
  uuid := uuid
  hardware := ⟨"host", "gpu", 1, (9, 0), ["nvlink"], "nvlink", "fixed", 1, 1⟩
  availability := .ready
  reservedProcesses := []
  allowedTopologyGroups := []

def pairInventory : GpuInventory where
  devices := [pairDevice "gpu0", pairDevice "gpu1"]
  topologyGroups := []
  nonempty := by decide
  oneHost := by decide
  sortedDevices := by decide
  sortedGroups := by decide
  groupMembers := by decide
  knownGroups := by decide

/-- A cell on one device with two ports and directories of its own. -/
def pairCell (variant : String) (block : ℕ) : ExperimentCell where
  identity := ⟨"e1", "task", "static", "tp1_dp1", variant, 0, block, []⟩
  resources := ⟨1, [20000, 20001], "/cache/" ++ variant, "/evidence/" ++ variant, .headline⟩
  status := "UNMEASURED"

/-- A member of the group, with the devices that it names. -/
def pairItem (variant : String) (block : ℕ) (exact : List String)
    (hlength : exact ≠ [] → exact.length = 1) (hnodup : exact.Nodup) : PoolWorkItem ℕ where
  cell := pairCell variant block
  claim := {
    gangShape := ⟨1, 1, by decide, by decide⟩
    exactGpuUuids := exact
    homogeneous := ⟨none, 1, (0, 0), []⟩
    allowedTopologyGroups := []
    allowedFabrics := []
    exactLength := hlength
    exactNodup := hnodup
    exclusiveGpu := true
    exclusiveHost := false
    cpuCores := 1
    numaNodes := []
    ramBytes := 0
    diskIoClass := "registered"
    networkClass := "registered"
    portCount := 2
    exactPorts := []
    cacheRoot := "/cache/" ++ variant
    evidenceRoot := "/evidence/" ++ variant
    workloadClass := .headline
    interferenceClass := "interference"
    loadThermalPowerEnvelope := "registered"
    estimatedDurationSeconds := 1
    portCount_pos := pair_pos
    exactPortsLength := by decide
    exactPortsNodup := by decide
    exactPortsRange := by decide }
  affinityKey := some "group"
  serialGroupKey := none

theorem no_exact : ([] : List String) ≠ [] → ([] : List String).length = 1 := by
  decide

/-- Any device. -/
def freeItem : PoolWorkItem ℕ := pairItem "free" 0 [] no_exact nodup_nil

/-- The second device. -/
def boundItem : PoolWorkItem ℕ := pairItem "bound" 1 ["gpu1"] (by decide) (by decide)

/-- A second member that takes any device. -/
def laterItem : PoolWorkItem ℕ := pairItem "bound" 1 [] no_exact nodup_nil

def pairScheduler (portStart : ℕ) (h : 1024 ≤ portStart ∧ portStart ≤ 65535) :
    GpuPoolScheduler where
  registry := [pairCell "free" 0, pairCell "bound" 1]
  inventory := pairInventory
  interferenceRules := []
  portStart := portStart
  portEnd := 65535
  seed := 0
  portStart_le := h.1
  portRange := h.2
  portEnd_le := by decide

def digit (c : Char) : String := String.ofList (List.replicate 64 c)

def pairRequest (items : List (PoolWorkItem ℕ)) : WorkRequest ℕ where
  workItems := items
  receiptsSha256 := digit '0'
  completedCellIds := []
  budgetSha256ByCell := .empty
  reducerAuthorizedCellIds := []

def pairDigests : Digests ℕ where
  cellId := fun identity => digit (Nat.digitChar identity.block)
  cell := (·.identity.variant)
  registry := fun _ => ""
  inventory := fun _ => ""
  hardware := fun _ => digit 'a'
  interferenceEnvelope := fun _ => ""
  interferenceClass := fun _ => "interference"
  contentionClass := fun _ _ _ _ => "contention"
  pairedGroup := fun _ _ => ""
  methodOrder := fun _ _ _ => ""
  rotation := fun _ _ _ => 0
  assignment := (·.workItem.cell.identity.variant)

def pairRelease : Release := ⟨fun _ => none, fun _ => none⟩

abbrev wideScheduler := pairScheduler 65000 (by decide)

abbrev lastPortScheduler := pairScheduler 65535 (by decide)

/-- The first member takes the device that the second does not name, and placeholder ports run
past the last port. -/
theorem pair_not_complete :
    ¬ CompletePlacement pairDigests pairRelease wideScheduler (pairRequest [freeItem, boundItem]) ∧
      ¬ CompletePlacement pairDigests pairRelease lastPortScheduler (pairRequest [freeItem]) := by
  constructor
  · intro h
    have hselect : selectGang pairDigests wideScheduler .start freeItem = .ok ["gpu0"] := by
      decide +kernel
    have hvalid : (placeholder wideScheduler freeItem ["gpu0"]).postInit = .ok () := by
      decide +kernel
    have hplace := place_eq_ok.mpr ⟨_, hselect, hvalid, rfl⟩
    have hitem : Reaches pairDigests pairRelease wideScheduler (pairRequest [freeItem, boundItem])
        [freeItem] boundItem (Placing.start.assign (placeholder wideScheduler freeItem ["gpu0"])) :=
      ⟨by decide +kernel, ⟨[], by rfl⟩, bind_eq_ok.mpr ⟨_, hplace, rfl⟩⟩
    have hrefused : selectGang pairDigests wideScheduler
        (Placing.start.assign (placeholder wideScheduler freeItem ["gpu0"])) boundItem
        = .error affinityRejection :=
      selectGang_eq_affinityRejection.mpr ⟨["gpu0"], rfl, by decide⟩
    refine h.affinity "group" ⟨hitem.raises (place_eq_error.mpr (.inl hrefused)), _, _, _, hitem, rfl,
      hrefused⟩ ⟨["gpu1"], ?_⟩
    intro item hmem _
    rcases List.mem_pair.mp hmem with rfl | rfl
    · decide
    · decide
  · intro h
    have hitem : Reaches pairDigests pairRelease lastPortScheduler (pairRequest [freeItem])
        [] freeItem .start := ⟨by decide +kernel, ⟨[], by rfl⟩, rfl⟩
    have hselect : selectGang pairDigests lastPortScheduler .start freeItem = .ok ["gpu0"] := by
      decide +kernel
    have hfails := placeholder_postInit_eq_error (selectGang_eq_ok hselect).1 rfl (by decide)
    have hraised := hitem.raises (place_eq_error.mpr (.inr ⟨_, hselect, hfails⟩))
    exact h.ports _ hraised "assignment ports must be in [1024, 65535]" (by decide) rfl

end Pair
end Scheduling

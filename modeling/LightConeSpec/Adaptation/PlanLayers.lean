import LightConeSpec.Adaptation.Parameters

/-!
# Which parameters a plan trains

The entries and the frozen names of a plan are its input, and the entries of a plan without native
heads lie in the last drafter layers. Parameters that are borrowed from the target model change
which layers are the last ones: the layers are counted over all names, while only owned ones are
trained. `sound_plan_iff` says exactly when more borrowed parameters change nothing but the frozen
names.

All builders select with `selects`: native heads that are trained as a whole, and the parameters
of the selected layers.
-/

namespace Adaptation

open Python List

/-! ## The builders as one -/

/-- The builders, with the arguments that only one of them has. -/
inductive PlanBuilder
  | dflash
  | nativeLayer (backend : Backend)
  | dspark (heads : HeadNames)

namespace PlanBuilder

variable (b : PlanBuilder)

def build (mode : Parameterization) (scope : String) (rank : Option ℕ)
    (replicated : List String) (items : List Parameter) : Except Error TrainablePlan :=
  match b with
  | .dflash => buildDFlash mode scope rank replicated items
  | .nativeLayer backend => buildNativeLayer backend mode scope rank replicated items
  | .dspark heads => buildDSpark mode scope rank heads replicated items

/-- The native heads that a hybrid plan trains. -/
def trainedHeads (scope : String) : List String :=
  match b with
  | .dspark heads => if dsparkHybridScopes.contains scope then heads.toList else []
  | _ => []

def layerScope (scope : String) : String :=
  match b with
  | .dspark _ => layerScopeOf scope
  | _ => scope

def backend : Backend :=
  match b with
  | .dflash => .dflash
  | .nativeLayer backend => backend
  | .dspark _ => .dspark

def allReplicated (replicated : List String) : List String :=
  match b with
  | .dspark heads => replicated ++ heads.toList
  | _ => replicated

/-- What a builder checks before it selects. -/
def Admits (scope : String) (items : List Parameter) : Prop :=
  match b with
  | .dflash => scope ∈ layerScopes
  | .nativeLayer backend => backend ∈ [.eagle, .eagle3, .nextn] ∧ scope ∈ layerScopes
  | .dspark heads => scope ∈ layerScopes ++ dsparkHybridScopes ∧
      (dsparkHybridScopes.contains scope = true → layerScopeOf scope ≠ "all") ∧
      (heads.toList.Nodup ∧ ∀ name ∈ heads.toList, name ∈ items.map (·.name)) ∧
      ∀ p ∈ items, p.name = heads.acceptance → p.shape.length ≤ 1 ∧ numel p.shape = 1

/-- What it checks of the names it selected. -/
def KeepsHeads (scope : String) (selected : List String) : Prop :=
  match b with
  | .dspark heads =>
    (dsparkHybridScopes.contains scope = true → ∀ name ∈ heads.toList, name ∈ selected) ∧
      (dsparkHybridScopes.contains scope = false → ∀ name ∈ heads.toList, name ∉ selected)
  | _ => True

end PlanBuilder

/-- How a parameter is trained: a native head as a whole, the others by their layers. -/
def selects (heads : List String) (mode : Parameterization) (layers : List ℕ) (p : Parameter) :
    Option Parameterization :=
  if p.name ∈ heads then some .full else layerParameterization mode layers p

variable {b : PlanBuilder} {mode : Parameterization} {scope : String} {rank : Option ℕ}
  {replicated : List String} {items extended : List Parameter} {plan : TrainablePlan}

/-- What a builder that returns has done. -/
theorem build_eq_ok : b.build mode scope rank replicated items = .ok plan ↔
      b.Admits scope items ∧ (items.map (·.name)).Nodup ∧ ∃ layers entries,
        selectedLayers items (b.layerScope scope) = .ok layers ∧
        selectEntries (selects (b.trainedHeads scope) mode layers) (b.allReplicated replicated) items
          = .ok entries ∧ b.KeepsHeads scope (entries.map (·.name)) ∧
        planOf b.backend mode scope rank entries
          (frozenNamesOf (selects (b.trainedHeads scope) mode layers) items) = .ok plan := by
  have hlayers : ∀ layers, selects [] mode layers = layerParameterization mode layers := by
    intro layers
    funext p
    exact if_neg not_mem_nil
  cases b with
  | dflash =>
    simp only [PlanBuilder.build, buildDFlash, buildLayers, normaliseItems, bind_eq_ok,
      require_eq_ok, PlanBuilder.Admits, PlanBuilder.trainedHeads, PlanBuilder.KeepsHeads,
      PlanBuilder.layerScope, PlanBuilder.allReplicated, PlanBuilder.backend, hlayers]
    constructor
    · rintro ⟨_, hscope, _, hnodup, layers, hselected, entries, hentries, hplan⟩
      exact ⟨hscope, hnodup, layers, entries, hselected, hentries, trivial, hplan⟩
    · rintro ⟨hscope, hnodup, layers, entries, hselected, hentries, -, hplan⟩
      exact ⟨(), hscope, (), hnodup, layers, hselected, entries, hentries, hplan⟩
  | nativeLayer backend =>
    simp only [PlanBuilder.build, buildNativeLayer, buildLayers, normaliseItems, bind_eq_ok,
      require_eq_ok, PlanBuilder.Admits, PlanBuilder.trainedHeads, PlanBuilder.KeepsHeads,
      PlanBuilder.layerScope, PlanBuilder.allReplicated, PlanBuilder.backend, hlayers]
    constructor
    · rintro ⟨_, hbackend, _, hscope, _, hnodup, layers, hselected, entries, hentries, hplan⟩
      exact ⟨⟨hbackend, hscope⟩, hnodup, layers, entries, hselected, hentries, trivial, hplan⟩
    · rintro ⟨⟨hbackend, hscope⟩, hnodup, layers, entries, hselected, hentries, -, hplan⟩
      exact ⟨(), hbackend, (), hscope, (), hnodup, layers, hselected, entries, hentries, hplan⟩
  | dspark heads =>
    have hheads : ∀ layers, dsparkParameterization mode layers (dsparkHybridScopes.contains scope)
        heads = selects (PlanBuilder.trainedHeads (.dspark heads) scope) mode layers := by
      intro layers
      funext p
      unfold dsparkParameterization selects PlanBuilder.trainedHeads
      cases dsparkHybridScopes.contains scope with
      | false => simp
      | true => simp
    simp only [PlanBuilder.build, buildDSpark, normaliseItems, bind_eq_ok, require_eq_ok, hheads,
      PlanBuilder.Admits, PlanBuilder.KeepsHeads, PlanBuilder.layerScope,
      PlanBuilder.allReplicated, PlanBuilder.backend]
    constructor
    · rintro ⟨_, hscope, _, hall, _, hnodup, _, hresolve, _, hscalar, layers, hselected, entries,
        hentries, _, hkept, _, hfrozen, hplan⟩
      exact ⟨⟨hscope, hall, hresolve, hscalar⟩, hnodup, layers, entries, hselected, hentries,
        ⟨hkept, hfrozen⟩, hplan⟩
    · rintro ⟨⟨hscope, hall, hresolve, hscalar⟩, hnodup, layers, entries, hselected, hentries,
        ⟨hkept, hfrozen⟩, hplan⟩
      exact ⟨(), hscope, (), hall, (), hnodup, (), hresolve, (), hscalar, layers, hselected,
        entries, hentries, (), hkept, (), hfrozen, hplan⟩

/-! ## Entries and frozen names -/

section

variable {how : Parameter → Option Parameterization} {entries : List ParameterEntry}

/-- The entries have the names of the parameters that are selected. -/
theorem names_selectEntries (h : selectEntries how replicated items = .ok entries) :
    entries.map (·.name) = (items.filter fun p => (how p).isSome).map (·.name) := by
  unfold selectEntries at h
  rw [collect_eq_ok] at h
  induction items generalizing entries with
  | nil =>
    cases entries with
    | nil => rfl
    | cons e rest => cases h
  | cons p rest ih =>
    cases hp : how p with
    | none =>
      rw [filterMap_cons_none (by rw [hp]; rfl)] at h
      rw [filter_cons_of_neg (by rw [hp]; decide)]
      exact ih h
    | some form =>
      rw [filterMap_cons_some (b := entryOf replicated p form) (by rw [hp]; rfl)] at h
      rw [filter_cons_of_pos (by rw [hp]; rfl)]
      cases entries with
      | nil => cases h
      | cons e entries =>
        rcases List.cons.inj h with ⟨he, hrest⟩
        rcases validated_eq_ok.mp he with ⟨-, rfl⟩
        rw [map_cons, map_cons, ih hrest]

/-- The frozen names are those of the others. -/
theorem perm_frozen (how : Parameter → Option Parameterization) (items : List Parameter) :
    ((items.filter fun p => (how p).isSome).map (·.name) ++
      sortedBy id (frozenNamesOf how items)).Perm (items.map (·.name)) := by
  refine ((sortedBy_perm id _).append_left _).trans ?_
  unfold frozenNamesOf
  rw [← map_append]
  refine List.Perm.map _ ?_
  have hsplit := filter_append_perm (fun p => (how p).isSome) items
  refine List.Perm.trans (List.Perm.of_eq ?_) hsplit
  congr 1
  refine filter_congr fun p _ => ?_
  cases how p with
  | none => rfl
  | some form => rfl

end

/-! ## Layers -/

/-- Every index can be read, and with an index all smaller ones occur. -/
structure Contiguous (items : List Parameter) : Prop where
  digits : ∀ p ∈ items, ∀ digits ∈ layerDigits p.name, digits.length ≤ 4300
  below : ∀ p ∈ items, ∀ i ∈ layerIndex p.name, ∀ j < i, ∃ q ∈ items, layerIndex q.name = some j

/-- How many layers a scope selects; nothing for all. -/
def scopeSize (scope : String) : Option ℕ := (scopeCount scope).toOption

theorem mem_orderedLayers {i : ℕ} :
    i ∈ orderedLayers items ↔ ∃ p ∈ items, layerIndex p.name = some i := by
  unfold orderedLayers
  rw [mem_sortedSet, mem_filterMap]

theorem mem_scopes {layerScope : String} (h : layerScope ∈ layerScopes) :
    layerScope = "all" ∧ scopeSize layerScope = none ∨
      ∃ k, layerScope ≠ "all" ∧ scopeCount layerScope = .ok k ∧ scopeSize layerScope = some k := by
  unfold layerScopes at h
  simp only [mem_cons, not_mem_nil, or_false] at h
  rcases h with rfl | rfl | rfl | rfl
  · exact .inr ⟨1, by decide, rfl, rfl⟩
  · exact .inr ⟨3, by decide, rfl, rfl⟩
  · exact .inr ⟨5, by decide, rfl, rfl⟩
  · exact .inl ⟨rfl, rfl⟩

/-- Every builder hands a registered scope to `_selected_layers`. -/
theorem layerScope_mem (h : b.Admits scope items) : b.layerScope scope ∈ layerScopes := by
  cases b with
  | dflash => exact h
  | nativeLayer backend => exact h.2
  | dspark heads =>
    have hall : ∀ scope ∈ layerScopes ++ dsparkHybridScopes, layerScopeOf scope ∈ layerScopes := by
      decide +kernel
    exact hall scope h.1

theorem digits_iff {u : Unit} : forEach (fun p => readLayerIndex p.name) items = .ok u ↔
      ∀ p ∈ items, ∀ digits ∈ layerDigits p.name, digits.length ≤ 4300 := by
  rw [forEach_eq_ok]
  simp only [readLayerIndex, require_eq_ok]

/-- Indices without a gap are a range. -/
theorem range_iff (hne : orderedLayers items ≠ []) :
    orderedLayers items = List.range ((orderedLayers items).getLast?.getD 0 + 1) ↔
      ∀ p ∈ items, ∀ i ∈ layerIndex p.name, ∀ j < i, ∃ q ∈ items, layerIndex q.name = some j := by
  constructor
  · intro h p hp i hi j hj
    have hmem : i ∈ orderedLayers items := mem_orderedLayers.mpr ⟨p, hp, hi⟩
    rw [h, mem_range] at hmem
    refine mem_orderedLayers.mp ?_
    rw [h, mem_range]
    omega
  · intro h
    have hsorted : (orderedLayers items).Pairwise (· < ·) :=
      sortedSet_eq_self_iff.mp (sortedSet_idem _)
    have hrange : sortedSet (List.range ((orderedLayers items).getLast?.getD 0 + 1))
        = List.range ((orderedLayers items).getLast?.getD 0 + 1) :=
      sortedSet_eq_self_iff.mpr pairwise_lt_range
    have hlast : ∀ i ∈ orderedLayers items, i ≤ (orderedLayers items).getLast?.getD 0 := by
      intro i hi
      rw [getLast?_eq_getLast_of_ne_nil hne, Option.getD_some]
      rw [← dropLast_append_getLast hne] at hsorted hi
      rcases mem_append.mp hi with hi | hi
      · exact le_of_lt ((pairwise_append.mp hsorted).2.2 i hi _ (mem_singleton_self _))
      · exact le_of_eq (mem_singleton.mp hi)
    have hsame : orderedLayers items = sortedSet (orderedLayers items) := (sortedSet_idem _).symm
    rw [← hrange, hsame]
    refine sortedSet_congr fun i => ?_
    rw [mem_range, ← hsame]
    constructor
    · intro hi
      have hle := hlast i hi
      omega
    · intro hi
      have hmem : (orderedLayers items).getLast?.getD 0 ∈ orderedLayers items := by
        rw [getLast?_eq_getLast_of_ne_nil hne, Option.getD_some]
        exact getLast_mem hne
      rcases Nat.lt_or_eq_of_le (Nat.le_of_lt_succ hi) with hlt | heq
      · rcases mem_orderedLayers.mp hmem with ⟨p, hp, hindex⟩
        exact mem_orderedLayers.mpr (h p hp _ hindex i hlt)
      · rw [heq]
        exact hmem

variable {layers : List ℕ}

/-- Which layers are selected: all that there are, or the last ones. -/
theorem selectedLayers_eq_ok {layerScope : String} (hscope : layerScope ∈ layerScopes) :
    selectedLayers items layerScope = .ok layers ↔ Contiguous items ∧ orderedLayers items ≠ [] ∧
        (∀ k ∈ scopeSize layerScope, k ≤ (orderedLayers items).length) ∧
        layers = (orderedLayers items).drop
          ((orderedLayers items).length - (scopeSize layerScope).getD (orderedLayers items).length) := by
  unfold selectedLayers
  simp only [bind_eq_ok, require_eq_ok, digits_iff]
  rcases mem_scopes hscope with ⟨rfl, hsize⟩ | ⟨k, hall, hcount, hsize⟩
  · simp only [hsize, if_true, pure_eq_ok, Option.getD_none, Nat.sub_self, drop_zero]
    constructor
    · rintro ⟨_, hdigits, _, hne, _, hrange, rfl⟩
      exact ⟨⟨hdigits, (range_iff hne).mp hrange⟩, hne, fun _ h => (by cases h), rfl⟩
    · rintro ⟨hcontiguous, hne, -, rfl⟩
      exact ⟨(), hcontiguous.digits, (), hne, (), (range_iff hne).mpr hcontiguous.below, rfl⟩
  · simp only [hsize, hcount, if_neg hall, bind_eq_ok, require_eq_ok, pure_eq_ok, Option.getD_some]
    constructor
    · rintro ⟨_, hdigits, _, hne, _, hrange, _, ⟨⟩, _, hle, rfl⟩
      exact ⟨⟨hdigits, (range_iff hne).mp hrange⟩, hne, fun _ h => Option.some.inj h ▸ hle, rfl⟩
    · rintro ⟨hcontiguous, hne, hle, rfl⟩
      exact ⟨(), hcontiguous.digits, (), hne, (), (range_iff hne).mpr hcontiguous.below, k, rfl, (),
        hle k rfl, rfl⟩

/-- The number of layers is above every index. -/
theorem orderedLayers_eq_range (h : Contiguous items) (hne : orderedLayers items ≠ []) :
    orderedLayers items = List.range (orderedLayers items).length := by
  have hrange := (range_iff hne).mpr h.below
  have hlength := congrArg List.length hrange
  rw [length_range] at hlength
  rw [hlength]
  exact hrange

/-- A selected layer is one of the last ones. -/
theorem mem_selected {layerScope : String} {i : ℕ} (hscope : layerScope ∈ layerScopes)
    (h : selectedLayers items layerScope = .ok layers) :
    i ∈ layers ↔ i < (orderedLayers items).length ∧
      ∀ k ∈ scopeSize layerScope, (orderedLayers items).length ≤ i + k := by
  rcases (selectedLayers_eq_ok hscope).mp h with ⟨hcontiguous, hne, hsize, rfl⟩
  have hrange := orderedLayers_eq_range hcontiguous hne
  generalize hcount : (orderedLayers items).length = n at hsize hrange ⊢
  rw [hrange, range_eq_range', drop_range', mem_range'_1]
  cases hk : scopeSize layerScope with
  | none => simp
  | some k =>
    have hle := hsize k hk
    simp only [Option.getD_some, Option.mem_def, Option.some.injEq, forall_eq']
    omega

/-! ## What is trained -/

/-- A parameter is trained when its layer is selected. -/
structure Trainable (mode : Parameterization) (p : Parameter) : Prop where
  owned : isOwned p.name = true
  floating : p.isFloatingPoint = true
  linear : mode = .lora → p.shape.length = 2 ∧ isLoraLinear p.name = true

variable {p : Parameter}

theorem layerParameterization_eq_some {form : Parameterization} :
    layerParameterization mode layers p = some form ↔
      form = mode ∧ Trainable mode p ∧ ∃ i, layerIndex p.name = some i ∧ i ∈ layers := by
  have hany : ((layerIndex p.name).any fun index => layers.contains index) = true ↔
      ∃ i, layerIndex p.name = some i ∧ i ∈ layers := by
    cases layerIndex p.name with
    | none => simp
    | some i => simp
  unfold layerParameterization
  cases mode with
  | full =>
    dsimp only
    rw [Option.ite_none_right_eq_some, Bool.and_eq_true, Bool.and_eq_true, hany, Option.some.injEq]
    constructor
    · rintro ⟨⟨⟨howned, hfloating⟩, hlayer⟩, rfl⟩
      exact ⟨rfl, ⟨howned, hfloating, nofun⟩, hlayer⟩
    · rintro ⟨rfl, ⟨howned, hfloating, -⟩, hlayer⟩
      exact ⟨⟨⟨howned, hfloating⟩, hlayer⟩, rfl⟩
  | lora =>
    dsimp only
    rw [Option.ite_none_right_eq_some, Bool.and_eq_true, Bool.and_eq_true, Bool.and_eq_true,
      Bool.and_eq_true, hany, beq_iff_eq, Option.some.injEq]
    constructor
    · rintro ⟨⟨⟨⟨⟨howned, hfloating⟩, hlayer⟩, hshape⟩, hlinear⟩, rfl⟩
      exact ⟨rfl, ⟨howned, hfloating, fun _ => ⟨hshape, hlinear⟩⟩, hlayer⟩
    · rintro ⟨rfl, ⟨howned, hfloating, hlinear⟩, hlayer⟩
      exact ⟨⟨⟨⟨⟨howned, hfloating⟩, hlayer⟩, (hlinear rfl).1⟩, (hlinear rfl).2⟩, rfl⟩

theorem selects_of_mem {heads : List String} (h : p.name ∈ heads) :
    selects heads mode layers p = some .full :=
  if_pos h

theorem selects_of_not_mem {heads : List String} (h : p.name ∉ heads) :
    selects heads mode layers p = layerParameterization mode layers p :=
  if_neg h

/-- A parameter with the name of an entry is selected. -/
theorem selected_of_entry {how : Parameter → Option Parameterization} {entries : List ParameterEntry}
    (h : selectEntries how replicated items = .ok entries) {name : String} :
    name ∈ entries.map (·.name) ↔ ∃ p ∈ items, (how p).isSome = true ∧ p.name = name := by
  rw [names_selectEntries h, mem_map]
  constructor
  · rintro ⟨p, hp, rfl⟩
    exact ⟨p, (mem_filter.mp hp).1, (mem_filter.mp hp).2, rfl⟩
  · rintro ⟨p, hp, hsome, rfl⟩
    exact ⟨p, mem_filter.mpr ⟨hp, hsome⟩, rfl⟩

/-! ## More borrowed parameters -/

/-- An input with more parameters, all of them borrowed. -/
structure Extends (items extended : List Parameter) : Prop where
  sublist : items.Sublist extended
  nodup : (extended.map (·.name)).Nodup
  borrowed : ∀ p ∈ extended, p ∉ items → isOwned p.name = false

theorem Extends.eq_of_name (h : Extends items extended) {q : Parameter} (hp : p ∈ extended)
    (hq : q ∈ extended) (hname : p.name = q.name) : p = q :=
  inj_on_of_nodup_map h.nodup hp hq hname

/-- The layers of the larger input have no gap, and what is trained in the last layers of the input
lies in the last layers of the larger one. -/
structure KeepsLayers (heads : List String) (mode : Parameterization) (layerScope : String)
    (items extended : List Parameter) : Prop where
  contiguous : Contiguous extended
  last : ∀ p ∈ items, p.name ∉ heads → Trainable mode p → ∀ i ∈ layerIndex p.name,
    ∀ k ∈ scopeSize layerScope, (orderedLayers items).length ≤ i + k →
      (orderedLayers extended).length ≤ i + k

theorem length_orderedLayers_le (h : items.Sublist extended) :
    (orderedLayers items).length ≤ (orderedLayers extended).length := by
  have hsubset : orderedLayers items ⊆ orderedLayers extended := by
    intro i hi
    rcases mem_orderedLayers.mp hi with ⟨p, hp, hindex⟩
    exact mem_orderedLayers.mpr ⟨p, h.subset hp, hindex⟩
  have hnodup : (orderedLayers items).Nodup := nodup_sortedSet _
  exact (subperm_of_subset hnodup hsubset).length_le

/-- An index that occurs is below the number of layers. -/
theorem index_lt {layerScope : String} (hscope : layerScope ∈ layerScopes)
    (h : selectedLayers items layerScope = .ok layers) (hp : p ∈ items) {i : ℕ}
    (hi : layerIndex p.name = some i) : i < (orderedLayers items).length := by
  rcases (selectedLayers_eq_ok hscope).mp h with ⟨hcontiguous, hne, -⟩
  have hmem : i ∈ orderedLayers items := mem_orderedLayers.mpr ⟨p, hp, hi⟩
  rw [orderedLayers_eq_range hcontiguous hne, mem_range] at hmem
  exact hmem

/-- With the same selection on the input, and none outside, the same is collected. -/
theorem filterMap_extends {α β : Type} {f g : α → Option β} {l l' : List α} (h : l.Sublist l')
    (hnodup : l'.Nodup) (hin : ∀ a ∈ l, g a = f a) (hout : ∀ a ∈ l', a ∉ l → g a = none) :
    l'.filterMap g = l.filterMap f := by
  induction h with
  | slnil => rfl
  | cons a h ih =>
    rcases nodup_cons.mp hnodup with ⟨ha, hnodup⟩
    have hnone : g a = none := hout a mem_cons_self fun hmem => ha (h.subset hmem)
    rw [filterMap_cons_none hnone]
    exact ih hnodup hin fun x hx => hout x (mem_cons_of_mem _ hx)
  | cons_cons a h ih =>
    rcases nodup_cons.mp hnodup with ⟨ha, hnodup⟩
    have hrest := ih hnodup (fun x hx => hin x (mem_cons_of_mem _ hx)) fun x hx hnot => by
      refine hout x (mem_cons_of_mem _ hx) fun hmem => ?_
      rcases mem_cons.mp hmem with rfl | hmem
      · exact ha hx
      · exact hnot hmem
    rw [filterMap_cons, filterMap_cons, hin a mem_cons_self, hrest]

/-! ## The plan of the larger input -/

section

variable {heads : List String} {layerScope : String} {layers layers' : List ℕ}
  {entries : List ParameterEntry}

/-- The selection of the larger input is that of the input. -/
theorem selects_extends (hext : Extends items extended) (hscope : layerScope ∈ layerScopes)
    (hheads : ∀ name ∈ heads, name ∈ items.map (·.name))
    (hselected : selectedLayers items layerScope = .ok layers)
    (hselected' : selectedLayers extended layerScope = .ok layers')
    (hkeeps : KeepsLayers heads mode layerScope items extended) :
    (∀ p ∈ items, selects heads mode layers' p = selects heads mode layers p) ∧
      ∀ p ∈ extended, p ∉ items → selects heads mode layers' p = none := by
  have hlength := length_orderedLayers_le hext.sublist
  constructor
  · intro p hp
    by_cases hhead : p.name ∈ heads
    · rw [selects_of_mem hhead, selects_of_mem hhead]
    · rw [selects_of_not_mem hhead, selects_of_not_mem hhead]
      refine Option.ext fun form => ?_
      rw [layerParameterization_eq_some, layerParameterization_eq_some]
      refine and_congr_right fun _ => and_congr_right fun htrain => ?_
      refine exists_congr fun i => and_congr_right fun hi => ?_
      have hlt := index_lt hscope hselected hp hi
      rw [mem_selected hscope hselected, mem_selected hscope hselected']
      constructor
      · rintro ⟨-, hlast⟩
        exact ⟨hlt, fun k hk => le_trans hlength (hlast k hk)⟩
      · rintro ⟨-, hlast⟩
        exact ⟨lt_of_lt_of_le hlt hlength,
          fun k hk => hkeeps.last p hp hhead htrain i hi k hk (hlast k hk)⟩
  · intro p hp hnot
    have hhead : p.name ∉ heads := by
      intro hhead
      rcases mem_map.mp (hheads p.name hhead) with ⟨q, hq, hname⟩
      exact hnot (hext.eq_of_name hp (hext.sublist.subset hq) hname.symm ▸ hq)
    rw [selects_of_not_mem hhead, Option.eq_none_iff_forall_ne_some]
    intro form hform
    rcases layerParameterization_eq_some.mp hform with ⟨-, htrain, -⟩
    have howned := htrain.owned
    rw [hext.borrowed p hp hnot] at howned
    cases howned

/-- The layers of the larger input can be selected when they have no gap. -/
theorem selectedLayers_extends (hext : Extends items extended) (hscope : layerScope ∈ layerScopes)
    (hselected : selectedLayers items layerScope = .ok layers) (hcontiguous : Contiguous extended) :
    ∃ layers', selectedLayers extended layerScope = .ok layers' := by
  rcases (selectedLayers_eq_ok hscope).mp hselected with ⟨-, hne, hsize, -⟩
  have hlength := length_orderedLayers_le hext.sublist
  refine ⟨_, (selectedLayers_eq_ok hscope).mpr ⟨hcontiguous, ?_, ?_, rfl⟩⟩
  · intro hnil
    rw [hnil, length_nil, Nat.le_zero, length_eq_zero_iff] at hlength
    exact hne hlength
  · exact fun k hk => le_trans (hsize k hk) hlength

end

/-! ## A sound plan -/

def drafterLayers (items : List Parameter) : List ℕ :=
  orderedLayers (items.filter fun p => isOwned p.name)

/-- The name has the index of a drafter layer, and fewer drafter layers than the scope selects lie
above it. -/
def InLastLayers (items : List Parameter) (layerScope name : String) : Prop :=
  ∃ i, layerIndex name = some i ∧ i ∈ drafterLayers items ∧
    ∀ k ∈ scopeSize layerScope, ((drafterLayers items).filter (i < ·)).length < k

/-- The entries and the frozen names of a plan are the input, nothing borrowed is trained, entries
lie in the last layers, and an input with more borrowed parameters gives the same plan but for its
frozen names. -/
structure SoundPlan (b : PlanBuilder) (mode : Parameterization) (scope : String) (rank : Option ℕ)
    (replicated : List String) (items extended : List Parameter) (plan : TrainablePlan) : Prop where
  disjoint : ∀ name ∈ plan.entryNames, name ∉ plan.frozenNames
  covers : (plan.entryNames ++ plan.frozenNames).Perm (items.map (·.name))
  owned : ∀ e ∈ plan.entries, isOwned e.name = true
  lastLayers : b.trainedHeads scope = [] →
    ∀ e ∈ plan.entries, InLastLayers items (b.layerScope scope) e.name
  unchanged : ∃ frozen, b.build mode scope rank replicated extended
    = .ok { plan with frozenNames := frozen }

theorem planOf_eq_ok {backend : Backend} {entries : List ParameterEntry} {frozen : List String} :
    planOf backend mode scope rank entries frozen = .ok plan ↔
      plan.postInit = .ok () ∧ plan = {
        backend := backend, mode := mode, scope := scope, rank := rank
        loraAlpha := if mode = .lora then rank else none
        entries := entries, frozenNames := sortedBy id frozen } := by
  unfold planOf
  rw [validated_eq_ok]
  constructor
  · rintro ⟨hvalid, rfl⟩
    exact ⟨hvalid, rfl⟩
  · rintro ⟨hvalid, rfl⟩
    exact ⟨hvalid, rfl⟩

/-- Only the disjointness depends on the frozen names. -/
theorem postInit_frozen (h : plan.postInit = .ok ()) {frozen : List String}
    (hfrozen : ∀ name ∈ plan.entryNames, name ∉ frozen) :
    { plan with frozenNames := frozen }.postInit = .ok () := by
  unfold TrainablePlan.postInit at h ⊢
  simp only [bind_eq_ok, require_eq_ok] at h ⊢
  rcases h with ⟨_, hfull, _, hlora, _, hne, _, hnodup, -⟩
  exact ⟨(), hfull, (), hlora, (), hne, (), hnodup, hfrozen⟩

/-- The names that a hybrid plan trains as native heads are names of the input. -/
theorem trainedHeads_mem (h : b.Admits scope items) :
    ∀ name ∈ b.trainedHeads scope, name ∈ items.map (·.name) := by
  intro name hname
  cases b with
  | dflash => cases hname
  | nativeLayer backend => cases hname
  | dspark heads =>
    unfold PlanBuilder.trainedHeads at hname
    dsimp only at hname
    split at hname
    · exact h.2.2.1.2 name hname
    · cases hname

theorem Extends.admits (hext : Extends items extended) (h : b.Admits scope items) :
    b.Admits scope extended := by
  cases b with
  | dflash => exact h
  | nativeLayer backend => exact h
  | dspark heads =>
    rcases h with ⟨hscope, hall, ⟨hnodup, hresolve⟩, hscalar⟩
    have hsubset : ∀ name ∈ heads.toList, name ∈ extended.map (·.name) := fun name hname =>
      (hext.sublist.map _).subset (hresolve name hname)
    refine ⟨hscope, hall, ⟨hnodup, hsubset⟩, fun p hp hname => ?_⟩
    have hacceptance : heads.acceptance ∈ heads.toList := by simp [HeadNames.toList]
    rcases mem_map.mp (hresolve heads.acceptance hacceptance) with ⟨q, hq, hsame⟩
    have heq := hext.eq_of_name hp (hext.sublist.subset hq) (hname.trans hsame.symm)
    exact hscalar p (heq ▸ hq) hname

section

variable {heads : List String} {layerScope : String} {layers layers' : List ℕ}
  {entries : List ParameterEntry}

/-- What is trained is owned when the native heads are. -/
theorem owned_of_entry (hheads : ∀ name ∈ heads, isOwned name = true)
    (hentries : selectEntries (selects heads mode layers) replicated items = .ok entries)
    {e : ParameterEntry} (he : e ∈ entries) : isOwned e.name = true := by
  have hmem : e.name ∈ entries.map (·.name) := mem_map_of_mem he
  rcases (selected_of_entry hentries).mp hmem with ⟨p, -, hsome, hname⟩
  rw [← hname]
  by_cases hhead : p.name ∈ heads
  · exact hheads p.name hhead
  · rw [selects_of_not_mem hhead] at hsome
    rcases Option.isSome_iff_exists.mp hsome with ⟨form, hform⟩
    exact (layerParameterization_eq_some.mp hform).2.1.owned

/-- Between an index and the number of layers there is no room for many drafter layers. -/
theorem drafterLayers_above {i k : ℕ} (hcontiguous : Contiguous items)
    (hne : orderedLayers items ≠ []) (hlt : i < (orderedLayers items).length)
    (hlast : (orderedLayers items).length ≤ i + k) :
    ((drafterLayers items).filter (i < ·)).length < k := by
  have hrange := orderedLayers_eq_range hcontiguous hne
  generalize (orderedLayers items).length = n at hlt hlast hrange
  have hnodup : ((drafterLayers items).filter (i < ·)).Nodup := (nodup_sortedSet _).filter _
  have hsubset : (drafterLayers items).filter (i < ·) ⊆ List.range' (i + 1) (n - 1 - i) := by
    intro j hj
    rcases mem_filter.mp hj with ⟨hmem, habove⟩
    rcases mem_orderedLayers.mp hmem with ⟨p, hp, hindex⟩
    have hall : j ∈ orderedLayers items :=
      mem_orderedLayers.mpr ⟨p, (mem_filter.mp hp).1, hindex⟩
    rw [hrange, mem_range] at hall
    have hij := of_decide_eq_true habove
    rw [mem_range'_1]
    omega
  have hle := (subperm_of_subset hnodup hsubset).length_le
  rw [length_range'] at hle
  omega

/-- What is trained by its layer lies in the last drafter layers. -/
theorem inLastLayers_of_entry (hscope : layerScope ∈ layerScopes)
    (hselected : selectedLayers items layerScope = .ok layers)
    (hentries : selectEntries (selects [] mode layers) replicated items = .ok entries)
    {e : ParameterEntry} (he : e ∈ entries) : InLastLayers items layerScope e.name := by
  have hmem : e.name ∈ entries.map (·.name) := mem_map_of_mem he
  rcases (selected_of_entry hentries).mp hmem with ⟨p, hp, hsome, hname⟩
  rw [selects_of_not_mem not_mem_nil] at hsome
  rcases Option.isSome_iff_exists.mp hsome with ⟨form, hform⟩
  rcases layerParameterization_eq_some.mp hform with ⟨-, htrain, i, hi, hlayer⟩
  rcases (mem_selected hscope hselected).mp hlayer with ⟨hlt, hlast⟩
  rcases (selectedLayers_eq_ok hscope).mp hselected with ⟨hcontiguous, hne, -⟩
  rw [← hname]
  refine ⟨i, hi, ?_, fun k hk => drafterLayers_above hcontiguous hne hlt (hlast k hk)⟩
  exact mem_orderedLayers.mpr ⟨p, mem_filter.mpr ⟨hp, htrain.owned⟩, hi⟩

/-- The larger input has the entries of the input. -/
theorem selectEntries_extends (hext : Extends items extended)
    (hsame : ∀ p ∈ items, selects heads mode layers' p = selects heads mode layers p)
    (hnone : ∀ p ∈ extended, p ∉ items → selects heads mode layers' p = none) :
    selectEntries (selects heads mode layers') replicated extended
      = selectEntries (selects heads mode layers) replicated items := by
  unfold selectEntries
  congr 1
  refine filterMap_extends hext.sublist (List.Nodup.of_map _ hext.nodup) ?_ ?_
  · intro p hp
    rw [hsame p hp]
  · intro p hp hnot
    rw [hnone p hp hnot, Option.map_none]

end

/-- Where the layers are kept, the larger input gives the same plan but for its frozen names. -/
theorem build_extends (h : b.build mode scope rank replicated items = .ok plan)
    (hext : Extends items extended)
    (hkeeps : KeepsLayers (b.trainedHeads scope) mode (b.layerScope scope) items extended) :
    ∃ frozen, b.build mode scope rank replicated extended
      = .ok { plan with frozenNames := frozen } := by
  rcases build_eq_ok.mp h with ⟨hadmits, -, layers, entries, hselected, hentries, hheads, hplan⟩
  rcases planOf_eq_ok.mp hplan with ⟨hvalid, hrecord⟩
  have hscope := layerScope_mem hadmits
  rcases selectedLayers_extends hext hscope hselected hkeeps.contiguous with ⟨layers', hselected'⟩
  rcases selects_extends hext hscope (trainedHeads_mem hadmits) hselected hselected' hkeeps
    with ⟨hsame, hnone⟩
  have hentries' : selectEntries (selects (b.trainedHeads scope) mode layers')
      (b.allReplicated replicated) extended = .ok entries :=
    (selectEntries_extends hext hsame hnone).trans hentries
  refine ⟨_, build_eq_ok.mpr ⟨hext.admits hadmits, hext.nodup, layers', entries, hselected',
    hentries', hheads, planOf_eq_ok.mpr ⟨postInit_frozen hvalid ?_, by rw [hrecord]⟩⟩⟩
  -- the names of the larger input are distinct, so that entries are not frozen in it
  have hdistinct := (perm_frozen (selects (b.trainedHeads scope) mode layers') extended).nodup_iff.mpr
    hext.nodup
  rw [← names_selectEntries hentries'] at hdistinct
  intro name hname hfrozen
  have hmem : name ∈ entries.map (·.name) := by rw [hrecord] at hname; exact hname
  exact (nodup_append.mp hdistinct).2.2 name hmem name hfrozen rfl

/-- A plan is sound when its native heads are owned and the larger input keeps its layers, and only
then. -/
theorem sound_plan_iff (h : b.build mode scope rank replicated items = .ok plan)
    (hext : Extends items extended) :
    SoundPlan b mode scope rank replicated items extended plan ↔
      (∀ name ∈ b.trainedHeads scope, isOwned name = true) ∧
        KeepsLayers (b.trainedHeads scope) mode (b.layerScope scope) items extended := by
  rcases build_eq_ok.mp h with ⟨hadmits, hnodup, layers, entries, hselected, hentries, hheads, hplan⟩
  rcases planOf_eq_ok.mp hplan with ⟨hvalid, hrecord⟩
  have hscope := layerScope_mem hadmits
  have hresolve := trainedHeads_mem hadmits
  have hnames : plan.entryNames = entries.map (·.name) := by rw [hrecord]; rfl
  constructor
  · intro hsound
    refine ⟨fun name hname => ?_, ?_⟩
    · -- a trained head has an entry in the plan, and its owner is checked
      rcases List.mem_map.mp (hresolve name hname) with ⟨p, hp, rfl⟩
      have hmem : p.name ∈ plan.entryNames := by
        rw [hnames, selected_of_entry hentries]
        exact ⟨p, hp, by rw [selects_of_mem hname]; rfl, rfl⟩
      rcases List.mem_map.mp hmem with ⟨e, he, hsame⟩
      rw [← hsame]
      exact hsound.owned e he
    · -- a layer of the plan stays selected when the target grows
      rcases hsound.unchanged with ⟨frozen, hbuild⟩
      rcases build_eq_ok.mp hbuild with ⟨-, -, layers', entries', hselected', hentries', -, hplan'⟩
      rcases planOf_eq_ok.mp hplan' with ⟨-, hrecord'⟩
      have hsame : plan.entries = entries' := congrArg TrainablePlan.entries hrecord'
      refine ⟨((selectedLayers_eq_ok hscope).mp hselected').1, ?_⟩
      intro p hp hhead htrain i hi k hk hlast
      have hlayer : i ∈ layers := by
        rw [mem_selected hscope hselected]
        refine ⟨index_lt hscope hselected hp hi, fun k' hk' => ?_⟩
        rw [Option.mem_unique hk' hk]
        exact hlast
      have hform : selects (b.trainedHeads scope) mode layers p = some mode := by
        rw [selects_of_not_mem hhead, layerParameterization_eq_some]
        exact ⟨rfl, htrain, i, hi, hlayer⟩
      have hmem : p.name ∈ entries'.map (·.name) := by
        rw [← hsame]
        show p.name ∈ plan.entryNames
        rw [hnames, selected_of_entry hentries]
        exact ⟨p, hp, by rw [hform]; rfl, rfl⟩
      rcases (selected_of_entry hentries').mp hmem with ⟨q, hq, hsome, hname⟩
      rw [hext.eq_of_name hq (hext.sublist.subset hp) hname, selects_of_not_mem hhead] at hsome
      rcases Option.isSome_iff_exists.mp hsome with ⟨form, hform'⟩
      rcases layerParameterization_eq_some.mp hform' with ⟨-, -, i', hi', hlayer'⟩
      rw [Option.mem_def.mp hi] at hi'
      cases hi'
      exact ((mem_selected hscope hselected').mp hlayer').2 k hk
  · rintro ⟨howned, hkeeps⟩
    have hperm : (plan.entryNames ++ plan.frozenNames).Perm (items.map (·.name)) := by
      rw [hnames, names_selectEntries hentries, hrecord]
      exact perm_frozen _ _
    refine ⟨?_, hperm, ?_, ?_, ?_⟩
    · intro name hname hfrozen
      have hdistinct := hperm.nodup_iff.mpr hnodup
      exact (List.nodup_append.mp hdistinct).2.2 name hname name hfrozen rfl
    · intro e he
      rw [hrecord] at he
      exact owned_of_entry howned hentries he
    · intro hnone e he
      rw [hrecord] at he
      rw [hnone] at hentries
      exact inLastLayers_of_entry hscope hselected hentries he
    · exact build_extends h hext hkeeps

/-! ## A drafter of three layers -/

/-- A matrix of the drafter or of the target model. -/
def matrix (name : String) : Parameter := ⟨name, [2, 2], "torch.float32", true⟩

def threeLayers : List Parameter :=
  [matrix "layers.0.q_proj.weight", matrix "layers.1.q_proj.weight", matrix "layers.2.q_proj.weight"]

def lastLayerPlan : TrainablePlan where
  backend := .dflash
  mode := .full
  scope := "last1"
  rank := none
  loraAlpha := none
  entries := [⟨"layers.2.q_proj.weight", [2, 2], "torch.float32", .full, .sharded⟩]
  frozenNames := ["layers.0.q_proj.weight", "layers.1.q_proj.weight"]

/-- A borrowed embedding leaves the plan as it is. -/
theorem sound_plan_lm_head :
    SoundPlan .dflash .full "last1" none [] threeLayers (threeLayers ++ [matrix "lm_head.weight"])
      lastLayerPlan := by
  have hextended : orderedLayers (threeLayers ++ [matrix "lm_head.weight"])
      = orderedLayers threeLayers := by decide +kernel
  refine (sound_plan_iff (by decide +kernel) ⟨by decide +kernel, by decide +kernel,
    by decide +kernel⟩).mpr ⟨nofun, ⟨?_, ?_⟩, ?_⟩
  · exact (digits_iff (u := ())).mp (by decide +kernel)
  · exact (range_iff (by decide +kernel)).mp (by decide +kernel)
  · intro p _ _ _ i _ k _ hlast
    rw [hextended]
    exact hlast

/-- A borrowed layer with a larger index takes the place of the last drafter layer. -/
theorem not_sound_plan_target_layer :
    PlanBuilder.build .dflash .full "last1" none [] threeLayers = .ok lastLayerPlan ∧
      Extends threeLayers (threeLayers ++ [matrix "target_model.layers.3.q_proj.weight"]) ∧
      ¬ SoundPlan .dflash .full "last1" none [] threeLayers
        (threeLayers ++ [matrix "target_model.layers.3.q_proj.weight"]) lastLayerPlan := by
  refine ⟨by decide +kernel, ⟨by decide +kernel, by decide +kernel, by decide +kernel⟩, ?_⟩
  intro hsound
  rcases hsound.unchanged with ⟨frozen, hbuild⟩
  have hempty : PlanBuilder.build .dflash .full "last1" none []
      (threeLayers ++ [matrix "target_model.layers.3.q_proj.weight"])
        = .error (valueError "trainable plan must not be empty") := by decide +kernel
  rw [hempty] at hbuild
  cases hbuild

end Adaptation

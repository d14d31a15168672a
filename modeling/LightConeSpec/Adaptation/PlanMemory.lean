import Mathlib.Algebra.Order.BigOperators.GroupWithZero.List
import Mathlib.Algebra.Order.Ring.Nat
import LightConeSpec.Adaptation.Parameters
import LightConeSpec.Adaptation.Proposals

/-!
# Predicted and allocated memory

`predict_memory` against what `GPUOptimizer` allocates for tensors of the shapes in
`state_layout`. Masters and first moments are predicted exactly. For Muon a parameter that is no
matrix has one second moment of four bytes for each element, and eight are predicted, so the
prediction is exact when Muon trains matrices only.

Both sides are sums over the shapes of the entries, `TrainablePlan.shapesOf`; what is proved of an
entry is added up.
-/

namespace Adaptation

open Python Torch List

/-- What is allocated for a tensor has its shape, an empty tensor has no elements, and there are
finite tensors of every shape. -/
class LawfulTensors (S T : Type) [PyFloat S] [Torch S T] : Prop where
  shape_float32 : ∀ t : T, shape (float32 t) = shape t
  shape_zerosLike : ∀ t : T, shape (zerosLike t) = shape t
  shape_empty : ∀ device, shape (empty device : T) = [0]
  exists_finite : ∀ dims, ∃ t : T, shape t = dims ∧ isfinite (float32 t) = true

/-- A plan that its constructor and those of its entries accept. -/
structure CheckedPlan where
  plan : TrainablePlan
  entries : ∀ e ∈ plan.entries, e.postInit = .ok ()
  valid : plan.postInit = .ok ()

def elements {S T : Type} [PyFloat S] [Torch S T] (tensors : List T) : ℕ :=
  (tensors.map fun t => numel (shape t)).sum

/-- The prediction for a plan is that of an optimizer that was made for its state layout. -/
structure PredictsExactly {S T : Type} [PyFloat S] [Torch S T] (layout : List StateRow) (count : ℕ)
    (prediction : PlanMemoryPrediction) (o : GPUOptimizer S T) : Prop where
  count : count = ((layout.flatMap (·.stateShapes)).map numel).sum
  masters : prediction.masters = 4 * elements o.master
  first : prediction.optimizerFirst = 4 * elements o.firstMoments
  second : prediction.optimizerSecond = 4 * elements o.secondMoments

/-- A plan has a layout, a count and a prediction, and they are those of every optimizer made for
tensors of the shapes of the layout. -/
def MemoryExact {S : Type} (T : Type) [PyFloat S] [Torch S T] (plan : TrainablePlan)
    (config : OptimizerConfig S) : Prop :=
  ∃ layout count prediction, plan.stateLayout = .ok layout ∧
    plan.trainableParameterCount = .ok count ∧ plan.predictMemory config.name = .ok prediction ∧
    ∀ (tensors : List T) (version : ℤ) (o : GPUOptimizer S T),
      tensors.map shape = layout.flatMap (·.stateShapes) →
      GPUOptimizer.new tensors config version = .ok o →
      PredictsExactly layout count prediction o

variable {optimizer : OptimizerName} {shapes : List (List ℕ)}

namespace TrainablePlan

variable (plan : TrainablePlan)

/-- What is trained by two factors is a matrix, and the plan has their rank. -/
def Ranked : Prop :=
  ∀ e ∈ plan.entries, e.parameterization = .lora → plan.rank ≠ none ∧ e.shape.length = 2

/-- `_dtype_bytes` knows the types of the entries. -/
def Supported : Prop :=
  ∀ e ∈ plan.entries,
    e.dtype ∈ ["torch.float16", "torch.bfloat16", "torch.float32", "torch.float64"]

def OnlyMatrices : Prop :=
  ∀ e ∈ plan.entries, e.parameterization = .full → e.shape.length = 2

def shapesOf (e : ParameterEntry) : List (List ℕ) :=
  match e.parameterization, plan.rank, e.shape with
  | .lora, some rank, rows :: columns :: _ => [[rank, columns], [rows, rank]]
  | .lora, _, _ => []
  | .full, _, _ => [e.shape]

/-- The row of an entry with these shapes. -/
def rowOf (e : ParameterEntry) : StateRow :=
  ⟨e.name, e.parameterization, e.ownership, plan.shapesOf e⟩

/-! ## One entry -/

variable {plan} {e : ParameterEntry}

theorem countOf_returns : (∃ n, plan.countOf e = .ok n) ↔
      (e.parameterization = .lora → plan.rank ≠ none ∧ e.shape.length = 2) := by
  unfold countOf
  cases e.parameterization with
  | full => simp
  | lora =>
    cases plan.rank with
    | none => simp
    | some rank =>
      rcases e.shape with _ | ⟨rows, _ | ⟨columns, _ | ⟨other, rest⟩⟩⟩ <;> simp

section

variable (h : e.parameterization = .lora → plan.rank ≠ none ∧ e.shape.length = 2)

include h

theorem exists_factors (hform : e.parameterization = .lora) :
    ∃ rank rows columns, plan.rank = some rank ∧ e.shape = [rows, columns] := by
  rcases h hform with ⟨hrank, hshape⟩
  rcases Option.ne_none_iff_exists'.mp hrank with ⟨rank, hrank⟩
  rcases length_eq_two.mp hshape with ⟨rows, columns, hdims⟩
  exact ⟨rank, rows, columns, hrank, hdims⟩

theorem countOf_ranked : plan.countOf e = .ok ((plan.shapesOf e).map numel).sum := by
  unfold countOf shapesOf
  cases hform : e.parameterization with
  | full => simp
  | lora =>
    rcases exists_factors h hform with ⟨rank, rows, columns, hrank, hdims⟩
    rw [hrank, hdims]
    simp [numel, Nat.mul_add, Nat.mul_comm, Nat.add_comm]

theorem stateRow_ranked : plan.stateRow e = .ok (plan.rowOf e) := by
  unfold stateRow rowOf shapesOf
  cases hform : e.parameterization with
  | full => rfl
  | lora =>
    rcases exists_factors h hform with ⟨rank, rows, columns, hrank, hdims⟩
    rw [hrank, hdims]
    rfl

theorem shapesOf_ne_nil : plan.shapesOf e ≠ [] := by
  unfold shapesOf
  cases hform : e.parameterization with
  | full => exact cons_ne_nil _ _
  | lora =>
    rcases exists_factors h hform with ⟨rank, rows, columns, hrank, hdims⟩
    rw [hrank, hdims]
    exact cons_ne_nil _ _

end

/-- The factors are matrices: only what is trained as a whole can be no matrix. -/
theorem sum_notMatrices (plan : TrainablePlan) (e : ParameterEntry) :
    ((plan.shapesOf e).map fun dims => if dims.length ≠ 2 then numel dims else 0).sum
      = if e.parameterization = .full ∧ e.shape.length ≠ 2 then numel e.shape else 0 := by
  unfold shapesOf
  cases e.parameterization with
  | full => simp
  | lora =>
    cases plan.rank with
    | none => simp
    | some rank =>
      rcases e.shape with _ | ⟨rows, _ | ⟨columns, rest⟩⟩ <;> simp

/-! ## A plan -/

theorem entries_ne_nil (p : CheckedPlan) : p.plan.entries ≠ [] := by
  have h := p.valid
  unfold postInit at h
  simp only [bind_eq_ok, require_eq_ok] at h
  rcases h with ⟨_, -, _, -, _, hne, -⟩
  exact hne

theorem ranked_of_count {n : ℕ} (h : plan.trainableParameterCount = .ok n) : plan.Ranked := by
  intro e he
  rcases map_eq_ok.mp h with ⟨counts, hcounts, -⟩
  rw [collect_eq_ok] at hcounts
  have hmem : plan.countOf e ∈ counts.map Except.ok := hcounts ▸ mem_map_of_mem he
  rcases mem_map.mp hmem with ⟨count, -, hcount⟩
  exact countOf_returns.mp ⟨count, hcount.symm⟩

theorem trainableParameterCount_ranked (h : plan.Ranked) : plan.trainableParameterCount
      = .ok (plan.entries.map fun e => ((plan.shapesOf e).map numel).sum).sum := by
  refine map_eq_ok.mpr ⟨plan.entries.map fun e => ((plan.shapesOf e).map numel).sum, ?_, rfl⟩
  rw [collect_eq_ok, map_map]
  exact map_congr_left fun e he => countOf_ranked (h e he)

theorem stateLayout_ranked (h : plan.Ranked) :
    plan.stateLayout = .ok (plan.entries.map plan.rowOf) := by
  unfold stateLayout
  rw [collect_eq_ok, map_map]
  exact map_congr_left fun e he => stateRow_ranked (h e he)

theorem dtypeBytes_returns {dtype : String} : (∃ n, dtypeBytes dtype = .ok n) ↔
      dtype ∈ ["torch.float16", "torch.bfloat16", "torch.float32", "torch.float64"] := by
  unfold dtypeBytes
  simp only [mem_cons, not_mem_nil, or_false]
  split
  · rename_i h
    exact iff_of_true ⟨2, rfl⟩ (by tauto)
  split
  · rename_i h
    exact iff_of_true ⟨4, rfl⟩ (by tauto)
  split
  · rename_i h
    exact iff_of_true ⟨8, rfl⟩ (by tauto)
  · refine iff_of_false ?_ (by tauto)
    rintro ⟨n, h⟩
    cases h

def predictedSecond (plan : TrainablePlan) (optimizer : OptimizerName) (trainable : ℕ) : ℕ :=
  if optimizer = .muon then
    ((plan.entries.filter fun e => e.parameterization = .full ∧ e.shape.length ≠ 2).map
      fun e => 8 * numel e.shape).sum
  else if optimizer ∈ [.adam, .adamw, .chronobelief] then 4 * trainable
  else 0

/-- What a prediction says of the masters and the moments. -/
theorem predictMemory_eq_ok {prediction : PlanMemoryPrediction}
    (h : plan.predictMemory optimizer = .ok prediction) :
    ∃ trainable, plan.trainableParameterCount = .ok trainable ∧ plan.Supported ∧
      prediction.masters = 4 * trainable ∧ prediction.optimizerFirst = 4 * trainable ∧
      prediction.optimizerSecond = plan.predictedSecond optimizer trainable := by
  unfold predictMemory at h
  simp only [bind_eq_ok, require_eq_ok, map_eq_ok, pure_eq_ok] at h
  rcases h with ⟨_, -, trainable, hcount, _, ⟨sizes, hsizes, -⟩, rfl⟩
  refine ⟨trainable, hcount, fun e he => ?_, rfl, rfl, rfl⟩
  rw [collect_eq_ok] at hsizes
  have hmem : (numel e.shape * ·) <$> dtypeBytes e.dtype ∈ sizes.map Except.ok :=
    hsizes ▸ mem_map_of_mem he
  rcases mem_map.mp hmem with ⟨size, -, hsize⟩
  rcases map_eq_ok.mp hsize.symm with ⟨bytes, hbytes, -⟩
  exact dtypeBytes_returns.mp ⟨bytes, hbytes⟩

theorem predictMemory_returns (hname : optimizer ∈ trainablePlanOptimizers) (hranked : plan.Ranked)
    (hsupported : plan.Supported) :
    ∃ prediction, plan.predictMemory optimizer = .ok prediction := by
  have hsizes : ∃ sizes, collect (plan.entries.map fun e =>
      (numel e.shape * ·) <$> dtypeBytes e.dtype) = .ok sizes := by
    have hbytes : ∀ e ∈ plan.entries, (numel e.shape * ·) <$> dtypeBytes e.dtype
        = .ok (numel e.shape * (dtypeBytes e.dtype).toOption.getD 0) := by
      intro e he
      rcases dtypeBytes_returns.mpr (hsupported e he) with ⟨n, hn⟩
      rw [hn]
      rfl
    refine ⟨plan.entries.map fun e => numel e.shape * (dtypeBytes e.dtype).toOption.getD 0, ?_⟩
    rw [collect_eq_ok, map_map]
    exact map_congr_left hbytes
  rcases hsizes with ⟨sizes, hsizes⟩
  unfold predictMemory
  rw [require_of hname, trainableParameterCount_ranked hranked, hsizes]
  exact ⟨_, rfl⟩

/-- All shapes of the state of a plan. -/
theorem stateShapes_rowOf (plan : TrainablePlan) :
    (plan.entries.map plan.rowOf).flatMap (·.stateShapes) = plan.entries.flatMap plan.shapesOf :=
  flatMap_map _ _ _

theorem sum_stateShapes (plan : TrainablePlan) (weight : List ℕ → ℕ) :
    ((plan.entries.flatMap plan.shapesOf).map weight).sum
      = (plan.entries.map fun e => ((plan.shapesOf e).map weight).sum).sum := by
  induction plan.entries with
  | nil => rfl
  | cons e rest ih =>
    rw [flatMap_cons, map_append, sum_append, ih]
    rfl

/-- The elements of what is trained as a whole and is no matrix. -/
theorem sum_wholes (plan : TrainablePlan) (factor : ℕ) :
    ((plan.entries.filter fun e => e.parameterization = .full ∧ e.shape.length ≠ 2).map
        fun e => factor * numel e.shape).sum
      = factor * ((plan.entries.flatMap plan.shapesOf).map fun dims =>
          if dims.length ≠ 2 then numel dims else 0).sum := by
  rw [sum_stateShapes]
  induction plan.entries with
  | nil => rfl
  | cons e rest ih =>
    rw [map_cons, sum_cons, Nat.mul_add, ← ih, sum_notMatrices, filter_cons]
    split
    · rename_i h
      rw [if_pos (of_decide_eq_true h), map_cons, sum_cons]
    · rename_i h
      rw [if_neg (of_decide_eq_false (eq_false_of_ne_true h)), Nat.mul_zero, Nat.zero_add]

theorem numel_pos {e : ParameterEntry} (h : e.postInit = .ok ()) : 0 < numel e.shape := by
  have hdims : ∀ dimension ∈ e.shape, 0 < dimension := (require_eq_ok.mp h).2.2
  exact prod_pos (R := ℕ) hdims

/-- Muon keeps second moments for a plan unless it trains matrices only. -/
theorem sum_wholes_eq_zero_iff (p : CheckedPlan) :
    ((p.plan.entries.flatMap p.plan.shapesOf).map fun dims =>
        if dims.length ≠ 2 then numel dims else 0).sum = 0 ↔ p.plan.OnlyMatrices := by
  have hsum := sum_wholes p.plan 1
  simp only [Nat.one_mul] at hsum
  rw [← hsum, List.sum_eq_zero_iff_forall_eq_nat]
  unfold OnlyMatrices
  constructor
  · intro h e he hfull
    by_contra hshape
    have hzero := h _ (mem_map_of_mem (mem_filter.mpr
      ⟨he, decide_eq_true ⟨hfull, hshape⟩⟩))
    have hpos := numel_pos (p.entries e he)
    omega
  · intro h n hn
    rcases mem_map.mp hn with ⟨e, he, rfl⟩
    rcases mem_filter.mp he with ⟨he, hboth⟩
    rcases of_decide_eq_true hboth with ⟨hfull, hshape⟩
    exact absurd (h e he hfull) hshape

end TrainablePlan

/-! ## What an optimizer allocates -/

section

variable {S T : Type} [PyFloat S] [Torch S T]

theorem elements_of_shapes {tensors : List T} (h : tensors.map shape = shapes) :
    elements tensors = (shapes.map numel).sum := by
  unfold elements
  rw [← h, map_map]
  rfl

variable [LawfulTensors S T]

/-- A moment that has the shape of its master under a condition on the shape, and is empty
otherwise. -/
theorem elements_moments (tensors : List T) (keeps : List ℕ → Prop) [DecidablePred keeps] :
    elements (tensors.map fun t => if keeps (shape t) then zerosLike t else empty (device t))
      = ((tensors.map shape).map fun dims => if keeps dims then numel dims else 0).sum := by
  unfold elements
  rw [map_map, map_map]
  congr 1
  refine map_congr_left fun t _ => ?_
  show numel (shape (if keeps (shape t) then zerosLike t else empty (device t))) = _
  split
  · rename_i h
    rw [LawfulTensors.shape_zerosLike]
    exact (if_pos h).symm
  · rename_i h
    rw [LawfulTensors.shape_empty]
    exact (if_neg h).symm

/-- The elements that an optimizer allocates, by the shapes of its parameters. -/
theorem new_allocates {tensors : List T} {config : OptimizerConfig S} {version : ℤ}
    {o : GPUOptimizer S T} (hname : config.name ∈ trainablePlanOptimizers)
    (hshapes : tensors.map shape = shapes) (h : GPUOptimizer.new tensors config version = .ok o) :
    elements o.master = (shapes.map numel).sum ∧
      elements o.firstMoments = (shapes.map numel).sum ∧
      elements o.secondMoments = (shapes.map fun dims =>
        if config.name ∈ [.adam, .adamw, .chronobelief] ∨ (config.name = .muon ∧ dims.length ≠ 2)
        then numel dims else 0).sum := by
  unfold GPUOptimizer.new at h
  simp only [bind_eq_ok, require_eq_ok, pure_eq_ok] at h
  rcases h with ⟨_, -, _, -, _, -, _, -, _, -, rfl⟩
  have hmaster : (tensors.map (float32 : T → T)).map shape = shapes := by
    rw [map_map, ← hshapes]
    exact map_congr_left fun t _ => LawfulTensors.shape_float32 t
  have hfirst : config.name ∈ [.adam, .adamw, .chronobelief, .sgdm, .nag, .muon, .lion] := by
    simp only [trainablePlanOptimizers, mem_cons, not_mem_nil, or_false] at hname ⊢
    tauto
  have hmoments := elements_moments (tensors.map (float32 : T → T)) fun _ => True
  simp only [if_true] at hmoments
  refine ⟨elements_of_shapes hmaster, ?_, ?_⟩
  · simp only [hfirst, if_true]
    rw [hmoments, hmaster]
  · rw [← hmaster]
    exact elements_moments (tensors.map (float32 : T → T)) fun dims =>
      config.name ∈ [.adam, .adamw, .chronobelief] ∨ (config.name = .muon ∧ dims.length ≠ 2)

/-- An optimizer can be made for tensors of any shapes. -/
theorem exists_new (T : Type) [Torch S T] [LawfulTensors S T] {config : OptimizerConfig S}
    (hname : config.name ∈ trainablePlanOptimizers) (hshapes : shapes ≠ []) :
    ∃ (tensors : List T) (o : GPUOptimizer S T), tensors.map shape = shapes ∧
      GPUOptimizer.new tensors config 0 = .ok o := by
  have htensors : ∀ shapes : List (List ℕ), ∃ tensors : List T, tensors.map shape = shapes ∧
      ∀ t ∈ tensors, isfinite (float32 t) = true := by
    intro shapes
    induction shapes with
    | nil => exact ⟨[], rfl, nofun⟩
    | cons dims rest ih =>
      rcases ih with ⟨tensors, hshapes, hfinite⟩
      rcases LawfulTensors.exists_finite (S := S) (T := T) dims with ⟨t, hshape, ht⟩
      refine ⟨t :: tensors, ?_, forall_mem_cons.mpr ⟨ht, hfinite⟩⟩
      rw [map_cons, hshape, hshapes]
  rcases htensors shapes with ⟨tensors, hdims, hfinite⟩
  have hne : tensors.map (float32 : T → T) ≠ [] := by
    intro hnil
    rw [map_eq_nil_iff] at hnil
    subst hnil
    exact hshapes hdims.symm
  have hnone : config.name ≠ .none := by
    intro hnone
    rw [hnone] at hname
    exact absurd hname (by decide)
  have hnew : ∃ o : GPUOptimizer S T, GPUOptimizer.new tensors config 0 = .ok o := by
    refine exists_bind_ok (require_of hnone _) ?_
    refine exists_bind_ok (require_of (le_refl 0) _) ?_
    refine exists_bind_ok (require_of (.inr rfl) _) ?_
    refine exists_bind_ok (require_of hne _) ?_
    refine exists_bind_ok (require_of (forall_mem_map.mpr hfinite) _) ?_
    exact ⟨_, rfl⟩
  rcases hnew with ⟨o, hnew⟩
  exact ⟨tensors, o, hdims, hnew⟩

/-! ## The prediction -/

/-- Muon keeps second moments for what is no matrix. -/
theorem sum_secondMoments_muon (shapes : List (List ℕ)) :
    (shapes.map fun dims =>
      if OptimizerName.muon ∈ [.adam, .adamw, .chronobelief] ∨
          (OptimizerName.muon = .muon ∧ dims.length ≠ 2) then numel dims else 0).sum
      = (shapes.map fun dims => if dims.length ≠ 2 then numel dims else 0).sum := by
  have hother : OptimizerName.muon ∉ [.adam, .adamw, .chronobelief] := by decide
  simp only [hother, false_or, true_and]

/-- The others keep them for all parameters or for none. -/
theorem sum_secondMoments (h : optimizer ≠ .muon) (shapes : List (List ℕ)) : (shapes.map fun dims =>
      if optimizer ∈ [.adam, .adamw, .chronobelief] ∨ (optimizer = .muon ∧ dims.length ≠ 2)
        then numel dims else 0).sum
      = if optimizer ∈ [.adam, .adamw, .chronobelief] then (shapes.map numel).sum else 0 := by
  simp only [h, false_and, or_false]
  split
  · rfl
  · simp

/-- The prediction is exact exactly when what is trained by factors is a ranked matrix, the types
are known, and Muon trains matrices only. -/
theorem predict_memory_exact_iff (p : CheckedPlan) (config : OptimizerConfig S)
    (hname : config.name ∈ trainablePlanOptimizers) :
    MemoryExact T p.plan config ↔ p.plan.Ranked ∧ p.plan.Supported ∧
      (config.name = .muon → p.plan.OnlyMatrices) := by
  have hwholes := TrainablePlan.sum_wholes p.plan
  constructor
  · rintro ⟨layout, count, prediction, hlayout, hcount, hprediction, hexact⟩
    have hranked := TrainablePlan.ranked_of_count hcount
    rcases TrainablePlan.predictMemory_eq_ok hprediction with
      ⟨trainable, -, hsupported, -, -, hsecond⟩
    refine ⟨hranked, hsupported, fun hmuon => ?_⟩
    rw [TrainablePlan.stateLayout_ranked hranked] at hlayout
    cases hlayout
    rw [TrainablePlan.stateShapes_rowOf] at hexact
    have hne : p.plan.entries.flatMap p.plan.shapesOf ≠ [] := by
      rcases List.exists_mem_of_ne_nil _ (TrainablePlan.entries_ne_nil p) with ⟨e, he⟩
      rcases List.exists_mem_of_ne_nil _ (TrainablePlan.shapesOf_ne_nil (hranked e he)) with
        ⟨dims, hdims⟩
      exact List.ne_nil_of_mem (List.mem_flatMap.mpr ⟨e, he, hdims⟩)
    rcases exists_new T hname hne with ⟨tensors, o, hdims, hnew⟩
    have hpredicted := (hexact tensors 0 o hdims hnew).second
    rw [hsecond, (new_allocates hname hdims hnew).2.2, hmuon] at hpredicted
    unfold TrainablePlan.predictedSecond at hpredicted
    rw [if_pos rfl, hwholes 8, sum_secondMoments_muon] at hpredicted
    exact (TrainablePlan.sum_wholes_eq_zero_iff p).mp (by omega)
  · rintro ⟨hranked, hsupported, hmatrices⟩
    rcases TrainablePlan.predictMemory_returns hname hranked hsupported with
      ⟨prediction, hprediction⟩
    have hcount := TrainablePlan.trainableParameterCount_ranked hranked
    have hsum := TrainablePlan.sum_stateShapes p.plan numel
    rcases TrainablePlan.predictMemory_eq_ok hprediction with
      ⟨trainable, htrainable, -, hmasters, hfirst, hsecond⟩
    rw [hcount] at htrainable
    cases htrainable
    refine ⟨_, _, prediction, TrainablePlan.stateLayout_ranked hranked, hcount, hprediction, ?_⟩
    rw [TrainablePlan.stateShapes_rowOf]
    intro tensors version o hdims hnew
    rcases new_allocates hname hdims hnew with ⟨hmaster', hfirst', hsecond'⟩
    refine ⟨?_, ?_, ?_, ?_⟩
    · rw [TrainablePlan.stateShapes_rowOf, hsum]
    · rw [hmasters, hmaster', hsum]
    · rw [hfirst, hfirst', hsum]
    · rw [hsecond, hsecond']
      unfold TrainablePlan.predictedSecond
      by_cases hmuon : config.name = .muon
      · rw [if_pos hmuon, hwholes 8, hmuon, sum_secondMoments_muon,
          (TrainablePlan.sum_wholes_eq_zero_iff p).mpr (hmatrices hmuon)]
      · rw [if_neg hmuon, sum_secondMoments hmuon, hsum]
        split
        · rfl
        · rfl

end

/-! ## Tensors with equal entries -/

/-- A tensor all entries of which are equal. -/
structure Filled where
  dims : List ℕ
  value : ℚ

def Filled.map (f : ℚ → ℚ) (t : Filled) : Filled := ⟨t.dims, f t.value⟩

def Filled.map₂ (f : ℚ → ℚ → ℚ) (a b : Filled) : Filled := ⟨a.dims, f a.value b.value⟩

def Filled.matmul (a b : Filled) : Filled :=
  ⟨[a.dims.getD 0 0, b.dims.getD 1 0], a.dims.getD 1 0 * (a.value * b.value)⟩

instance : Torch ℚ Filled where
  add := Filled.map₂ (· + ·)
  sub := Filled.map₂ (· - ·)
  mul := Filled.map₂ (· * ·)
  div := Filled.map₂ (· / ·)
  smul s := Filled.map (s * ·)
  shape := Filled.dims
  device _ := .cpu
  isfinite _ := true
  float32 := id
  bfloat16 := id
  zerosLike := Filled.map fun _ => 0
  empty _ := ⟨[0], 0⟩
  addScalar t s := t.map (· + s)
  divScalar t s := t.map (· / s)
  scalarDiv s t := t.map (s / ·)
  square := Filled.map fun x => x * x
  sqrt := Filled.map PyFloat.sqrt
  sign := Filled.map fun x => if x = 0 then 0 else if 0 < x then 1 else -1
  sum t := ⟨[], numel t.dims * t.value⟩
  norm t := ⟨[], PyFloat.sqrt (numel t.dims * (t.value * t.value))⟩
  stack tensors := ⟨tensors.length :: (tensors.head?.elim [] Filled.dims),
    tensors.head?.elim 0 Filled.value⟩
  clampMax t s := t.map (min s)
  clampMin t s := t.map (max s)
  transpose t := ⟨t.dims.reverse, t.value⟩
  matmul := Filled.matmul
  addmm input a b beta alpha := Filled.map₂ (· + ·) (input.map (beta * ·))
    ((a.matmul b).map (alpha * ·))

instance : LawfulTensors ℚ Filled where
  shape_float32 _ := rfl
  shape_zerosLike _ := rfl
  shape_empty _ := rfl
  exists_finite dims := ⟨⟨dims, 0⟩, rfl, rfl⟩

def wholePlan (dims : List ℕ) : TrainablePlan where
  backend := .dflash
  mode := .full
  scope := "last1"
  rank := none
  loraAlpha := none
  entries := [⟨"layers.0.weight", dims, "torch.float32", .full, .sharded⟩]
  frozenNames := []

theorem no_horizon : ∀ a : ℕ, none = some a → 2 ≤ a := by
  rintro _ ⟨⟩

def configOf (name : OptimizerName) : OptimizerConfig ℚ where
  name := name
  learningRate := 1
  weightDecay := 0
  beta1 := 1 / 4
  beta2 := 1 / 4
  epsilon := 1 / 4
  gradClip := none
  momentum := some (1 / 2)
  muonNsSteps := some 5
  muonAuxiliaryLearningRate := some 1
  muonAuxiliaryWeightDecay := some 0
  schedule := .constant
  scheduleTotalPublishedUpdates := none
  horizon := no_horizon

def matrixPlan : CheckedPlan where
  plan := wholePlan [2, 2]
  entries := by decide
  valid := by decide

/-- A matrix that Muon trains. -/
theorem predict_memory_exact_matrix : MemoryExact Filled (wholePlan [2, 2]) (configOf .muon) := by
  have hranked : (wholePlan [2, 2]).Ranked := by
    intro e he hlora
    rw [List.mem_singleton.mp he] at hlora
    cases hlora
  have hsupported : (wholePlan [2, 2]).Supported := by
    intro e he
    rw [List.mem_singleton.mp he]
    decide
  have hmatrices : (wholePlan [2, 2]).OnlyMatrices := by
    intro e he _
    rw [List.mem_singleton.mp he]
    rfl
  exact (predict_memory_exact_iff matrixPlan (configOf .muon) (by decide)).mpr
    ⟨hranked, hsupported, fun _ => hmatrices⟩

/-- A vector of three elements that Muon trains: 24 bytes are predicted for its second moment, and
12 are allocated. -/
theorem predict_memory_not_exact_vector :
    (wholePlan [3]).postInit = .ok () ∧ ¬ MemoryExact Filled (wholePlan [3]) (configOf .muon) := by
  refine ⟨by decide, ?_⟩
  rintro ⟨layout, count, prediction, hlayout, -, hprediction, hexact⟩
  cases hlayout
  cases hprediction
  have h := (hexact [⟨[3], 0⟩] 0 _ rfl rfl).second
  cases h

end Adaptation

import Mathlib.Analysis.InnerProductSpace.Convex
import Mathlib.Analysis.InnerProductSpace.PiL2
import LightConeSpec.Lib.BallProjection
import LightConeSpec.Lib.Python
import LightConeSpec.Lib.Tensors

/-!
# Projected gradient steps

The functions of `onlinespec` on tuples of tensors, with exact real numbers for float32.
A tensor is a shape, a device, a type and its entries; whether all entries are finite is a
flag, and the entries of a tensor that has infinite ones mean nothing.

The entries of a tuple make one vector (`vec`). On vectors `project_l2_ball` is the radial
projection of the library (`projectL2Ball_spec`).
-/

namespace OnlineSpec

open Python Tensors List

/-! ## Tensors -/

structure Tensor where
  shape : List ℕ
  device : Device
  dtype : Dtype
  /-- `torch.isfinite(t).all()`. -/
  isfinite : Bool
  entries : Fin shape.prod → ℝ

/-- A float argument, `none` when it is not finite. -/
abbrev FloatArgument := Option ℝ

namespace Tensor

def entry (t : Tensor) (i : ℕ) : ℝ := if h : i < t.shape.prod then t.entries ⟨i, h⟩ else 0

/-- `t.to(torch.float32)`; detached and cloned tensors are the same value. -/
def float32 (t : Tensor) : Tensor := { t with dtype := .float32 }

def zerosLike (t : Tensor) : Tensor := { t with isfinite := true, entries := fun _ => 0 }

/-- An operation on the entries of two float32 tensors of one shape. -/
def map₂ (f : ℝ → ℝ → ℝ) (a b : Tensor) : Tensor where
  shape := a.shape
  device := a.device
  dtype := a.dtype
  isfinite := a.isfinite && b.isfinite
  entries i := f (a.entries i) (b.entry i)

def scaleBy (scale : ℝ) (t : Tensor) : Tensor := { t with entries := fun i => t.entries i * scale }

def squareSum (t : Tensor) : ℝ := ∑ i, t.entries i ^ 2

end Tensor

abbrev Parameters := List Tensor

def SameShapes (a b : Parameters) : Prop := a.map (·.shape) = b.map (·.shape)

/-! ## Checks -/

def asParameters (values : Parameters) (name : String) : Except Error Unit := do
  require (values ≠ []) (valueError s!"{name} cannot be empty")
  require (∀ value ∈ values, value.dtype.isFloatingPoint)
    (valueError s!"{name} must contain floating tensors")
  require (∀ value ∈ values, value.isfinite) (valueError s!"{name} must contain finite tensors")

def validateState (reference values : Parameters) (name : String) : Except Error Unit := do
  asParameters values name
  require (values.map (fun t => (t.shape, t.device, t.dtype)) =
      reference.map fun t => (t.shape, t.device, t.dtype))
    (valueError s!"{name} does not match the learner state")

def validateGradients (parameters gradients : Parameters) : Except Error Parameters := do
  require (gradients.map (fun t => (t.shape, t.device)) =
        parameters.map (fun t => (t.shape, t.device))
      ∧ ∀ gradient ∈ gradients, gradient.dtype.isFloatingPoint)
    (valueError "gradient layout does not match the online learner")
  require (∀ gradient ∈ gradients, gradient.isfinite)
    (valueError "online gradients must be finite")
  pure (gradients.map (·.float32))

/-- `torch.stack(terms)` of one number for each tensor, which wants them on one device. -/
def stackable (tensors : Parameters) : Except Error Unit :=
  require (∀ a ∈ tensors, ∀ b ∈ tensors, a.device = b.device)
    (runtimeError "Expected all tensors to be on the same device")

noncomputable section

/-- `not math.isfinite(value) or value <= 0` raises. -/
def positiveFinite (value : FloatArgument) (message : String) : Except Error ℝ :=
  match value with
  | none => .error (valueError message)
  | some value => do
    require (0 < value) (valueError message)
    pure value

/-! ## Gradient steps -/

/-- The bound of `clamp_min`. -/
def clampMin : ℝ := 1 / 10 ^ 12

def clipGlobalNorm (gradients : Parameters) (limit : FloatArgument) : Except Error Parameters := do
  let limit ← positiveFinite limit "grad_clip must be positive and finite"
  stackable gradients
  let norm := √(gradients.map (·.squareSum)).sum
  let scale := min (limit / max norm clampMin) 1
  pure (gradients.map (·.scaleBy scale))

/-- The distance that `project_l2_ball` computes. -/
def l2Distance (values centre : Parameters) : ℝ :=
  √(List.zipWith (fun value base => (value.map₂ (· - ·) base).squareSum) values centre).sum

def moveTowards (scale : ℝ) (value base : Tensor) : Tensor :=
  base.float32.map₂ (· + ·) ((value.float32.map₂ (· - ·) base.float32).scaleBy scale)

/-- Project a parameter tuple onto a Euclidean ball around its initial state. -/
def projectL2Ball (values origin : Parameters) (radius : Option FloatArgument) :
    Except Error Parameters := do
  asParameters values "projection parameters"
  asParameters origin "projection origin"
  require (values.map (fun t => (t.shape, t.device)) = origin.map fun t => (t.shape, t.device))
    (valueError "projection origin does not match the parameter layout")
  match radius with
  | none => pure values
  | some radius => do
    let radius ← positiveFinite radius "projection radius must be positive and finite"
    stackable values
    let distance := l2Distance values origin
    let scale := min (radius / max distance clampMin) 1
    pure (List.zipWith (moveTowards scale) values origin)

/-- `parameter - learning_rate * gradient` for each float32 tensor. -/
def descend (learningRate : ℝ) (parameters gradients : Parameters) : Parameters :=
  List.zipWith (Tensor.map₂ fun p g => p - learningRate * g) parameters gradients

/-- One projected online-gradient-descent transition. -/
def ogdUpdate (parameters gradients : Parameters) (learningRate : FloatArgument)
    (origin : Option Parameters) (projectionRadius : Option FloatArgument)
    (gradClip : FloatArgument) : Except Error Parameters := do
  asParameters parameters "parameters"
  let learningRate ← positiveFinite learningRate "learning_rate must be positive and finite"
  let gradients ← validateGradients parameters gradients
  let grads ← clipGlobalNorm gradients gradClip
  require (¬ (projectionRadius ≠ none ∧ origin = none))
    (valueError "projected OGD requires an explicit fixed origin")
  projectL2Ball (descend learningRate (parameters.map (·.float32)) grads)
    (origin.getD parameters) projectionRadius

end

/-! ## Tuples as vectors -/

/-- The positions of the entries of a tuple laid out as the origin. -/
abbrev Position (origin : Parameters) := Σ k : Fin origin.length, Fin (origin.get k).shape.prod

/-- The entries of a tuple. -/
noncomputable def vec (origin values : Parameters) : EuclideanSpace ℝ (Position origin) :=
  WithLp.toLp 2 fun p => (values[(p.1 : ℕ)]?.map fun t => t.entry p.2).getD 0

/-- What `values` lose to a fixed tuple along the gradients. -/
noncomputable def lost (origin grads values fixed : Parameters) : ℝ :=
  inner ℝ (vec origin grads) (vec origin values - vec origin fixed)

namespace SameShapes

variable {a b : Parameters}

theorem length (h : SameShapes a b) : a.length = b.length := by
  have hlength := congrArg List.length h
  rwa [length_map, length_map] at hlength

/-- The tensors at one place have one shape. -/
theorem getElem? (h : SameShapes a b) {k : ℕ} {t : Tensor} (hb : b[k]? = some t) :
    ∃ s, a[k]? = some s ∧ s.shape = t.shape := by
  have hk : (a.map (·.shape))[k]? = (b.map (·.shape))[k]? := congrArg (·[k]?) h
  rw [getElem?_map, getElem?_map, hb, Option.map_some, Option.map_eq_some_iff] at hk
  exact hk

end SameShapes

variable {a b : Tensor}

section

variable {origin values centre : Parameters}

theorem vec_apply {k : Fin origin.length} {i : Fin (origin.get k).shape.prod} {t : Tensor}
    (ht : values[(k : ℕ)]? = some t) : vec origin values ⟨k, i⟩ = t.entry i := by
  simp [vec, ht]

theorem Tensor.entry_map₂ {f : ℝ → ℝ → ℝ} {i : ℕ} (hi : i < a.shape.prod) :
    (a.map₂ f b).entry i = f (a.entry i) (b.entry i) := by
  simp [Tensor.entry, Tensor.map₂, hi]

theorem Tensor.entry_scaleBy {s : ℝ} {i : ℕ} (hi : i < a.shape.prod) :
    (a.scaleBy s).entry i = a.entry i * s := by
  simp [Tensor.entry, Tensor.scaleBy, hi]

theorem Tensor.squareSum_eq (t : Tensor) : t.squareSum = ∑ i : Fin t.shape.prod, t.entry i ^ 2 := by
  simp [Tensor.squareSum, Tensor.entry]

/-- An operation on the tensors of two tuples is one on the entries. -/
theorem vec_zipWith {g : Tensor → Tensor → Tensor} {f : ℝ → ℝ → ℝ} (hv : SameShapes values origin)
    (hc : SameShapes centre origin) (hg : ∀ a b : Tensor, a.shape = b.shape → ∀ i < a.shape.prod,
      (g a b).entry i = f (a.entry i) (b.entry i)) (p : Position origin) :
    vec origin (List.zipWith g values centre) p = f (vec origin values p) (vec origin centre p) := by
  rcases p with ⟨k, i⟩
  have hk : origin[(k : ℕ)]? = some (origin.get k) := getElem?_eq_getElem k.isLt
  rcases hv.getElem? hk with ⟨a, ha, hashape⟩
  rcases hc.getElem? hk with ⟨b, hb, hbshape⟩
  have hz : (List.zipWith g values centre)[(k : ℕ)]? = some (g a b) := by
    rw [getElem?_zipWith, ha, hb]
  rw [vec_apply hz, vec_apply ha, vec_apply hb]
  apply hg a b (hashape.trans hbshape.symm)
  rw [hashape]
  exact i.isLt

/-- The same for an operation on the tensors of one tuple. -/
theorem vec_map {g : Tensor → Tensor} {f : ℝ → ℝ} (hv : SameShapes values origin)
    (hg : ∀ a : Tensor, ∀ i < a.shape.prod, (g a).entry i = f (a.entry i)) (p : Position origin) :
    vec origin (values.map g) p = f (vec origin values p) := by
  rw [← zipWith_self (f := fun a _ => g a)]
  exact @vec_zipWith origin values values (fun a _ => g a) (fun x _ => f x) hv hv
    (fun a _ _ i hi => hg a i hi) p

theorem vec_scaleBy {s : ℝ} (hv : SameShapes values origin) :
    vec origin (values.map (·.scaleBy s)) = s • vec origin values := by
  ext p
  rw [PiLp.smul_apply, smul_eq_mul, mul_comm]
  exact vec_map hv (f := (· * s)) (fun _ _ hi => Tensor.entry_scaleBy hi) p

theorem sameShapes_map {g : Tensor → Tensor} (hg : ∀ a, (g a).shape = a.shape)
    (hv : SameShapes values origin) : SameShapes (values.map g) origin := by
  unfold SameShapes at hv ⊢
  rw [map_map, ← hv]
  exact map_congr_left fun a _ => hg a

theorem sameShapes_zipWith {g : Tensor → Tensor → Tensor} (hv : SameShapes values origin)
    (hc : SameShapes centre origin) (hg : ∀ a b : Tensor, a.shape = b.shape → (g a b).shape = b.shape) :
    SameShapes (List.zipWith g values centre) origin := by
  apply ext_getElem?
  intro k
  rw [getElem?_map, getElem?_map, getElem?_zipWith]
  rcases Nat.lt_or_ge k origin.length with hk | hk
  · have hk' : origin[k]? = some (origin.get ⟨k, hk⟩) := getElem?_eq_getElem hk
    rcases hv.getElem? hk' with ⟨a, ha, hashape⟩
    rcases hc.getElem? hk' with ⟨b, hb, hbshape⟩
    rw [ha, hb, hk']
    exact congrArg some ((hg a b (hashape.trans hbshape.symm)).trans hbshape)
  · rw [getElem?_eq_none (hv.length ▸ hk), getElem?_eq_none hk]

/-- The norm of the code is that of the vector. -/
theorem norm_vec (hv : SameShapes values origin) :
    √(values.map (·.squareSum)).sum = ‖vec origin values‖ := by
  have hlist : values.map (·.squareSum) = List.ofFn fun k : Fin origin.length =>
      ∑ i : Fin (origin.get k).shape.prod, vec origin values ⟨k, i⟩ ^ 2 := by
    apply ext_getElem?
    intro k
    rw [getElem?_map, List.getElem?_ofFn]
    rcases Nat.lt_or_ge k origin.length with hk | hk
    · have hk' : origin[k]? = some (origin.get ⟨k, hk⟩) := getElem?_eq_getElem hk
      rcases hv.getElem? hk' with ⟨a, ha, hashape⟩
      rw [ha, dif_pos hk, Option.map_some, Option.some_inj, Tensor.squareSum_eq]
      refine Fintype.sum_equiv (finCongr (congrArg List.prod hashape)) _ _ ?_
      intro i
      rw [vec_apply ha]
      rfl
    · rw [getElem?_eq_none (hv.length ▸ hk), dif_neg (not_lt.mpr hk)]
      rfl
  rw [hlist, sum_ofFn, EuclideanSpace.norm_eq, Fintype.sum_sigma]
  simp only [Real.norm_eq_abs, sq_abs]

/-- The distance of the code is that of the vectors. -/
theorem l2Distance_eq (hv : SameShapes values origin) (hc : SameShapes centre origin) :
    l2Distance values centre = ‖vec origin values - vec origin centre‖ := by
  have hshapes : SameShapes (List.zipWith (Tensor.map₂ (· - ·)) values centre) origin :=
    sameShapes_zipWith hv hc fun _ _ hshape => hshape
  have hnorm := norm_vec hshapes
  rw [map_zipWith] at hnorm
  rw [l2Distance, hnorm]
  congr 1
  ext p
  exact vec_zipWith hv hc (fun _ _ _ _ hi => Tensor.entry_map₂ hi) p

/-! ## The projection -/

open BallProjection

theorem asParameters_eq_ok {name : String} : asParameters values name = .ok () ↔
    values ≠ [] ∧ (∀ value ∈ values, value.dtype.isFloatingPoint = true) ∧
      ∀ value ∈ values, value.isfinite = true := by
  unfold asParameters
  simp only [bind_eq_ok, require_eq_ok, exists_const]

theorem positiveFinite_eq_ok {value : FloatArgument} {message : String} {r : ℝ} :
    positiveFinite value message = .ok r ↔ value = some r ∧ 0 < r := by
  unfold positiveFinite
  cases value with
  | none => simp
  | some value =>
    simp only [bind_eq_ok, check_eq_ok, pure_eq_ok, Option.some_inj]
    constructor
    · rintro ⟨hpos, rfl⟩
      exact ⟨rfl, hpos⟩
    · rintro ⟨rfl, hpos⟩
      exact ⟨hpos, rfl⟩

def layout (values : Parameters) : List (List ℕ × Device) := values.map fun t => (t.shape, t.device)

theorem sameShapes_of_layout (h : layout values = layout origin) : SameShapes values origin := by
  have hshapes := congrArg (List.map Prod.fst) h
  simpa [layout, SameShapes, Function.comp_def] using hshapes

theorem devices_of_layout (h : layout values = layout origin) :
    values.map (·.device) = origin.map (·.device) := by
  have hdevices := congrArg (List.map Prod.snd) h
  simpa [layout, Function.comp_def] using hdevices

theorem stackable_eq_ok : stackable values = .ok () ↔
    ∀ d ∈ values.map (·.device), ∀ d' ∈ values.map (·.device), d = d' := by
  unfold stackable
  rw [require_eq_ok, forall_mem_map]
  simp only [forall_mem_map]

structure Projects (values origin : Parameters) (r : ℝ) (result : Parameters) : Prop where
  radius_pos : 0 < r
  values_ok : asParameters values "projection parameters" = .ok ()
  origin_ok : asParameters origin "projection origin" = .ok ()
  layout_eq : layout values = layout origin
  stackable : stackable values = .ok ()
  result_eq : result =
    List.zipWith (moveTowards (factor clampMin r (l2Distance values origin))) values origin

variable {r : ℝ} {result : Parameters}

theorem projectL2Ball_eq_ok :
    projectL2Ball values origin (some (some r)) = .ok result ↔ Projects values origin r result := by
  unfold projectL2Ball
  simp only [bind_eq_ok, check_eq_ok, positiveFinite_eq_ok, Option.some_inj, pure_eq_ok]
  constructor
  · rintro ⟨⟨⟩, hvalues, ⟨⟩, horigin, hlayout, _, ⟨rfl, hpos⟩, ⟨⟩, hstack, rfl⟩
    exact ⟨hpos, hvalues, horigin, hlayout, hstack, rfl⟩
  · rintro ⟨hpos, hvalues, horigin, hlayout, hstack, rfl⟩
    exact ⟨(), hvalues, (), horigin, hlayout, r, ⟨rfl, hpos⟩, (), hstack, rfl⟩

theorem clampMin_pos : 0 < clampMin := by
  unfold clampMin
  positivity

theorem entry_moveTowards {s : ℝ} (hshape : a.shape = b.shape) {i : ℕ} (hi : i < a.shape.prod) :
    (moveTowards s a b).entry i = b.entry i + (a.entry i - b.entry i) * s := by
  have ha : i < a.float32.shape.prod := hi
  have hb : i < b.float32.shape.prod := hshape ▸ hi
  have hdiff : i < (a.float32.map₂ (· - ·) b.float32).shape.prod := hi
  rw [moveTowards, Tensor.entry_map₂ hb, Tensor.entry_scaleBy hdiff, Tensor.entry_map₂ ha]
  rfl

section

variable (h : Projects values origin r result)

include h

theorem Projects.sameShapes : SameShapes result origin := by
  rw [h.result_eq]
  exact sameShapes_zipWith (sameShapes_of_layout h.layout_eq) rfl fun _ _ _ => rfl

/-- On vectors the result is the radial projection. -/
theorem Projects.vec_eq :
    vec origin result = project clampMin r (vec origin origin) (vec origin values) := by
  have hshapes := sameShapes_of_layout h.layout_eq
  ext p
  have hentry := @vec_zipWith origin values origin
    (moveTowards (factor clampMin r (l2Distance values origin)))
    (fun v c => c + (v - c) * factor clampMin r (l2Distance values origin)) hshapes rfl
    (fun a b hshape i hi => entry_moveTowards hshape hi) p
  rw [h.result_eq, hentry, l2Distance_eq hshapes rfl]
  simp only [project, PiLp.add_apply, PiLp.smul_apply, PiLp.sub_apply, smul_eq_mul]
  ring

theorem Projects.norm_le : ‖vec origin result - vec origin origin‖ ≤ r := by
  rw [h.vec_eq]
  exact norm_project_sub_le clampMin_pos h.radius_pos

/-- The result lies in the ball. -/
theorem Projects.l2Distance_le : l2Distance result origin ≤ r := by
  rw [l2Distance_eq h.sameShapes rfl]
  exact h.norm_le

/-- It is the point of the ball nearest to the values, and the only one. -/
theorem Projects.nearest (hr : clampMin ≤ r)
    {other : Parameters} (hshapes : SameShapes other origin) (hother : l2Distance other origin ≤ r) :
    l2Distance values result ≤ l2Distance values other ∧
      (l2Distance values other ≤ l2Distance values result →
        vec origin other = vec origin result) := by
  have hvalues := sameShapes_of_layout h.layout_eq
  rw [l2Distance_eq hshapes rfl] at hother
  rw [l2Distance_eq hvalues h.sameShapes, l2Distance_eq hvalues hshapes, h.vec_eq]
  constructor
  · exact project_nearest clampMin_pos hr hother
  · intro hnear
    exact project_unique clampMin_pos hr hother hnear

end

theorem Tensor.ext_entry (hshape : a.shape = b.shape) (hdevice : a.device = b.device)
    (hdtype : a.dtype = b.dtype) (hfinite : a.isfinite = b.isfinite)
    (hentry : ∀ i < b.shape.prod, a.entry i = b.entry i) : a = b := by
  cases a with
  | mk shape device dtype isfinite entries =>
    cases b with
    | mk shape' device' dtype' isfinite' entries' =>
      cases hshape
      cases hdevice
      cases hdtype
      cases hfinite
      congr 1
      funext i
      have hi := hentry i i.isLt
      rwa [Tensor.entry, Tensor.entry, dif_pos i.isLt, dif_pos i.isLt] at hi

/-- A tensor that was moved stays when it is moved by the whole difference. -/
theorem moveTowards_one {s : ℝ} : moveTowards 1 (moveTowards s a b) b = moveTowards s a b := by
  refine Tensor.ext_entry ?_ ?_ ?_ ?_ ?_
  · rfl
  · rfl
  · rfl
  · show (b.isfinite && ((b.isfinite && (a.isfinite && b.isfinite)) && b.isfinite)) =
      (b.isfinite && (a.isfinite && b.isfinite))
    cases a.isfinite <;> cases b.isfinite <;> rfl
  · intro i hi
    have hshape : (moveTowards s a b).shape = b.shape := rfl
    rw [entry_moveTowards hshape hi, mul_one, add_sub_cancel]

theorem mem_zipWith {g : Tensor → Tensor → Tensor} {t : Tensor}
    (h : t ∈ List.zipWith g values centre) : ∃ a ∈ values, ∃ b ∈ centre, g a b = t := by
  rw [← map_uncurry_zip_eq_zipWith] at h
  rcases mem_map.mp h with ⟨⟨a, b⟩, hab, ht⟩
  exact ⟨a, (of_mem_zip hab).1, b, (of_mem_zip hab).2, ht⟩

/-- Projecting twice is projecting once. -/
theorem Projects.again (h : Projects values origin r result) (hr : clampMin ≤ r) :
    Projects result origin r result := by
  have hlength := (sameShapes_of_layout h.layout_eq).length
  rcases asParameters_eq_ok.mp h.values_ok with ⟨hnonempty, -, hvfinite⟩
  rcases asParameters_eq_ok.mp h.origin_ok with ⟨-, -, hofinite⟩
  have hlayout : layout result = layout origin := by
    rw [h.result_eq]
    apply ext_getElem
    · simp [layout, hlength]
    · intro k hk hk'
      simp [layout, moveTowards, Tensor.map₂, Tensor.float32]
  refine ⟨h.radius_pos, asParameters_eq_ok.mpr ⟨?_, ?_, ?_⟩, h.origin_ok, hlayout, ?_, ?_⟩
  · intro hnil
    have hzero := h.sameShapes.length
    rw [hnil, length_nil, ← hlength] at hzero
    exact hnonempty (length_eq_zero_iff.mp hzero.symm)
  · intro t ht
    rw [h.result_eq] at ht
    rcases mem_zipWith ht with ⟨a, -, b, -, rfl⟩
    rfl
  · intro t ht
    rw [h.result_eq] at ht
    rcases mem_zipWith ht with ⟨a, ha, b, hb, rfl⟩
    simp [moveTowards, Tensor.map₂, Tensor.float32, Tensor.scaleBy, hvfinite a ha, hofinite b hb]
  · rw [stackable_eq_ok, devices_of_layout hlayout, ← devices_of_layout h.layout_eq]
    exact stackable_eq_ok.mp h.stackable
  · rw [factor_of_le clampMin_pos hr h.l2Distance_le]
    apply ext_getElem
    · simp [h.sameShapes.length]
    · intro k hk hk'
      rw [getElem_zipWith]
      simp only [h.result_eq, getElem_zipWith]
      exact moveTowards_one.symm

/-- A projected gradient step lies in the ball. -/
theorem ogdUpdate_projects {parameters gradients : Parameters} {learningRate gradClip : FloatArgument}
    (h : ogdUpdate parameters gradients learningRate (some origin) (some (some r)) gradClip =
      .ok result) : ∃ values, Projects values origin r result := by
  unfold ogdUpdate at h
  simp only [bind_eq_ok] at h
  rcases h with ⟨_, -, lr, -, grads, -, clipped, -, _, -, h⟩
  exact ⟨_, projectL2Ball_eq_ok.mp h⟩

end

end OnlineSpec

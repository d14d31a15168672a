import Mathlib.Algebra.GroupWithZero.Nat
import LightConeSpec.Adaptation.Optimizer

/-!
# Trainable plans

A plan says which parameters of a drafter are trained, each as a whole or by two factors of a
rank, and which are frozen. It predicts the bytes of what an optimizer allocates for it. Three
builders select the parameters of a plan by their names: dotted paths with the index of a layer in
them, and components that mark what is borrowed from the target model.

Of a tensor a builder reads the shape, the type and whether that is a floating one.
-/

namespace Adaptation

open Python

/-! ## Names -/

/-- The zeros of the decimal digits; the other nine follow each. -/
def decimalZeros : List ℕ :=
  [0x30, 0x660, 0x6F0, 0x7C0, 0x966, 0x9E6, 0xA66, 0xAE6, 0xB66, 0xBE6, 0xC66, 0xCE6, 0xD66, 0xDE6,
    0xE50, 0xED0, 0xF20, 0x1040, 0x1090, 0x17E0, 0x1810, 0x1946, 0x19D0, 0x1A80, 0x1A90, 0x1B50,
    0x1BB0, 0x1C40, 0x1C50, 0xA620, 0xA8D0, 0xA900, 0xA9D0, 0xA9F0, 0xAA50, 0xABF0, 0xFF10, 0x104A0,
    0x10D30, 0x11066, 0x110F0, 0x11136, 0x111D0, 0x112F0, 0x11450, 0x114D0, 0x11650, 0x116C0,
    0x11730, 0x118E0, 0x11950, 0x11C50, 0x11D50, 0x11DA0, 0x11F50, 0x16A60, 0x16AC0, 0x16B50,
    0x1D7CE, 0x1D7D8, 0x1D7E2, 0x1D7EC, 0x1D7F6, 0x1E140, 0x1E2F0, 0x1E4F0, 0x1E950, 0x1FBF0]

/-- The value of a character that `\d` matches. -/
def decimalDigit (c : Char) : Option ℕ :=
  (decimalZeros.find? fun start => start ≤ c.toNat && c.toNat < start + 10).map (c.toNat - ·)

/-- `\d+`. -/
def isDecimal (text : List Char) : Bool := text != [] && text.all fun c => (decimalDigit c).isSome

/-- `int(text)` of such a text. -/
def decimalValue (text : List Char) : ℕ :=
  text.foldl (fun n c => 10 * n + (decimalDigit c).getD 0) 0

def components (name : String) : List (List Char) := name.toList.splitOn '.'

/-- What a pattern may match between dots: `$` matches before a newline at the end, too. -/
def matchedComponents (name : String) : List (List Char) :=
  let text := name.toList
  (if text.getLast? = some '\n' then text.dropLast else text).splitOn '.'

def borrowedComponents : List String :=
  ["embed_tokens", "lm_head", "target_model", "target_embedding"]

def isOwned (name : String) : Bool :=
  (components name).all fun component => !borrowedComponents.contains (String.ofList component)

def loraLinear : List String :=
  ["fc", "q_proj", "k_proj", "v_proj", "qkv_proj", "o_proj", "gate_proj", "gate_up_proj", "up_proj",
    "down_proj"]

/-- `_LORA_LINEAR.search(name)`. -/
def isLoraLinear (name : String) : Bool :=
  (matchedComponents name).any fun component => loraLinear.contains (String.ofList component)

/-- The digits of the first index that follows a component `layers`. -/
def digitsAfterLayers : List (List Char) → Option (List Char)
  | component :: index :: rest =>
    if component = "layers".toList ∧ isDecimal index then some index
    else digitsAfterLayers (index :: rest)
  | _ => none

/-- `_LAYER_INDEX.search(name)`: the digits of the index. -/
def layerDigits (name : String) : Option (List Char) := digitsAfterLayers (matchedComponents name)

/-- `int(match.group(1))`. -/
def layerIndex (name : String) : Option ℕ := (layerDigits name).map decimalValue

/-! ## Entries and plans -/

/-- A named parameter of the model. -/
structure Parameter where
  name : String
  shape : List ℕ
  dtype : String
  isFloatingPoint : Bool
deriving DecidableEq

inductive Parameterization
  | full
  | lora
deriving DecidableEq

inductive Ownership
  | sharded
  | replicated
deriving DecidableEq

inductive Backend
  | dflash
  | dspark
  | eagle
  | eagle3
  | nextn
deriving DecidableEq

structure ParameterEntry where
  name : String
  shape : List ℕ
  dtype : String
  parameterization : Parameterization
  ownership : Ownership
deriving DecidableEq

def ParameterEntry.postInit (e : ParameterEntry) : Except Error Unit :=
  require (e.name ≠ "" ∧ e.shape ≠ [] ∧ ∀ dimension ∈ e.shape, 1 ≤ dimension)
    (valueError "parameter entries require a name and positive shape")

def loraRanks : List ℕ := [1, 2, 4, 8, 16, 32, 64]

structure TrainablePlan where
  backend : Backend
  mode : Parameterization
  scope : String
  rank : Option ℕ
  loraAlpha : Option ℕ
  entries : List ParameterEntry
  frozenNames : List String
deriving DecidableEq

namespace TrainablePlan

variable (plan : TrainablePlan)

def entryNames : List String := plan.entries.map (·.name)

def postInit : Except Error Unit := do
  require (plan.mode = .full → plan.rank = none ∧ plan.loraAlpha = none)
    (valueError "Full plans require rank and alpha to be null")
  require (plan.mode = .lora → (∃ rank ∈ plan.rank, rank ∈ loraRanks) ∧ plan.loraAlpha = plan.rank)
    (valueError "LoRA requires a registered rank and alpha/r=1")
  require (plan.entries ≠ []) (valueError "trainable plan must not be empty")
  require plan.entryNames.Nodup (valueError "trainable plan contains duplicate parameters")
  require (∀ name ∈ plan.entryNames, name ∉ plan.frozenNames)
    (valueError "a parameter cannot be both trainable and frozen")

end TrainablePlan

/-! ## Memory -/

def dtypeBytes (dtype : String) : Except Error ℕ :=
  if dtype = "torch.float16" ∨ dtype = "torch.bfloat16" then .ok 2
  else if dtype = "torch.float32" then .ok 4
  else if dtype = "torch.float64" then .ok 8
  else .error (valueError s!"unsupported trainable dtype {dtype}")

def numel (shape : List ℕ) : ℕ := shape.prod

/-- A row of `state_layout`. -/
structure StateRow where
  name : String
  parameterization : Parameterization
  ownership : Ownership
  stateShapes : List (List ℕ)

/-- `PlanMemoryPrediction`, in bytes. -/
structure PlanMemoryPrediction where
  activeMerged : ℕ
  masters : ℕ
  gradients : ℕ
  optimizerFirst : ℕ
  optimizerSecond : ℕ
  candidate : ℕ
  staging : ℕ
  mergeScratch : ℕ

def trainablePlanOptimizers : List OptimizerName :=
  [.adam, .adamw, .chronobelief, .lion, .muon, .nag, .sgdm]

namespace TrainablePlan

variable (plan : TrainablePlan)

/-- What one entry adds to `trainable_parameter_count`. -/
def countOf (e : ParameterEntry) : Except Error ℕ :=
  match e.parameterization with
  | .full => .ok (numel e.shape)
  | .lora =>
    match plan.rank, e.shape with
    | some rank, [rows, columns] => .ok (rank * (rows + columns))
    | _, _ => .error ⟨.assertionError, "LoRA layout is not a ranked matrix"⟩

def trainableParameterCount : Except Error ℕ :=
  List.sum <$> collect (plan.entries.map plan.countOf)

/-- The row of one entry in `state_layout`. -/
def stateRow (e : ParameterEntry) : Except Error StateRow := do
  let shapes ← match e.parameterization with
    | .full => Except.ok [e.shape]
    | .lora =>
      match plan.rank, e.shape with
      | none, _ => .error ⟨.assertionError, ""⟩
      | some rank, rows :: columns :: _ => .ok [[rank, columns], [rows, rank]]
      | some _, _ => .error (indexError "tuple index out of range")
  pure ⟨e.name, e.parameterization, e.ownership, shapes⟩

def stateLayout : Except Error (List StateRow) := collect (plan.entries.map plan.stateRow)

def predictMemory (optimizer : OptimizerName) : Except Error PlanMemoryPrediction := do
  require (optimizer ∈ trainablePlanOptimizers)
    (valueError "optimizer has no implemented state layout")
  let trainable ← plan.trainableParameterCount
  let second :=
    if optimizer = .muon then
      ((plan.entries.filter fun e => e.parameterization = .full ∧ e.shape.length ≠ 2).map
        fun e => 8 * numel e.shape).sum
    else if optimizer ∈ [.adam, .adamw, .chronobelief] then 4 * trainable
    else 0
  let active ← List.sum <$> collect (plan.entries.map fun e =>
    (numel e.shape * ·) <$> dtypeBytes e.dtype)
  pure {
    activeMerged := active
    masters := 4 * trainable
    gradients := 4 * trainable
    optimizerFirst := 4 * trainable
    optimizerSecond := second
    candidate := 4 * trainable + 4 * trainable + second
    staging := active
    mergeScratch := ((plan.entries.filter fun e => e.parameterization = .lora).map
      fun e => 3 * 4 * numel e.shape).sum }

end TrainablePlan

/-! ## Builders -/

def layerScopes : List String := ["last1", "last3", "last5", "all"]

def dsparkHybridScopes : List String :=
  ["last1_native_heads", "last3_native_heads", "last5_native_heads"]

def normaliseItems (items : List Parameter) : Except Error Unit :=
  require (items.map (·.name)).Nodup
    (valueError "named parameter input contains duplicate names")

/-- `int(scope.removeprefix("last"))` of a registered scope. -/
def scopeCount (scope : String) : Except Error ℕ :=
  if scope = "last1" then .ok 1
  else if scope = "last3" then .ok 3
  else if scope = "last5" then .ok 5
  else .error (valueError s!"unknown layer scope {scope}")

/-- The index of a layer in a name; `int` reads 4300 digits at most. -/
def readLayerIndex (name : String) : Except Error Unit :=
  require (∀ digits ∈ layerDigits name, digits.length ≤ 4300)
    (valueError "Exceeds the limit (4300 digits) for integer string conversion")

/-- `sorted(indices)`. -/
def orderedLayers (items : List Parameter) : List ℕ :=
  sortedSet (items.filterMap fun p => layerIndex p.name)

def selectedLayers (items : List Parameter) (scope : String) : Except Error (List ℕ) := do
  forEach (fun p => readLayerIndex p.name) items
  let ordered := orderedLayers items
  require (ordered ≠ []) (valueError "backend selector found no drafter layers")
  require (ordered = List.range (ordered.getLast?.getD 0 + 1))
    (valueError "drafter layer indices must be contiguous from zero")
  if scope = "all" then pure ordered
  else do
    let count ← scopeCount scope
    require (count ≤ ordered.length) (valueError s!"scope {scope} exceeds the backend layer count")
    pure (ordered.drop (ordered.length - count))

/-- How a parameter of the selected layers is trained, if it is. -/
def layerParameterization (mode : Parameterization) (layers : List ℕ) (p : Parameter) :
    Option Parameterization :=
  let eligible := isOwned p.name && p.isFloatingPoint &&
    (layerIndex p.name).any fun index => layers.contains index
  match mode with
  | .full => if eligible then some .full else none
  | .lora =>
    if eligible && p.shape.length == 2 && isLoraLinear p.name then some .lora else none

def entryOf (replicated : List String) (p : Parameter) (parameterization : Parameterization) :
    Except Error ParameterEntry :=
  validated ParameterEntry.postInit {
    name := p.name
    shape := p.shape
    dtype := p.dtype
    parameterization := parameterization
    ownership := if p.name ∈ replicated then .replicated else .sharded }

/-- The entries of the parameters that are trained, in their order. -/
def selectEntries (how : Parameter → Option Parameterization) (replicated : List String)
    (items : List Parameter) : Except Error (List ParameterEntry) :=
  collect (items.filterMap fun p => (how p).map (entryOf replicated p))

def frozenNamesOf (how : Parameter → Option Parameterization) (items : List Parameter) :
    List String :=
  (items.filter fun p => (how p).isNone).map (·.name)

/-- `cls(..)`. -/
def planOf (backend : Backend) (mode : Parameterization) (scope : String) (rank : Option ℕ)
    (entries : List ParameterEntry) (frozen : List String) : Except Error TrainablePlan :=
  validated TrainablePlan.postInit {
    backend := backend
    mode := mode
    scope := scope
    rank := rank
    loraAlpha := if mode = .lora then rank else none
    entries := entries
    frozenNames := sortedBy id frozen }

/-- The statements that the first two builders share. -/
def buildLayers (backend : Backend) (mode : Parameterization) (scope : String) (rank : Option ℕ)
    (replicated : List String) (items : List Parameter) : Except Error TrainablePlan := do
  normaliseItems items
  let layers ← selectedLayers items scope
  let how := layerParameterization mode layers
  let entries ← selectEntries how replicated items
  planOf backend mode scope rank entries (frozenNamesOf how items)

/-- `DFlashParameterPlan.build`. -/
def buildDFlash (mode : Parameterization) (scope : String) (rank : Option ℕ)
    (replicated : List String) (items : List Parameter) : Except Error TrainablePlan := do
  require (scope ∈ layerScopes) (valueError "DFlash scope must be last1, last3, last5, or all")
  buildLayers .dflash mode scope rank replicated items

/-- `NativeLayerParameterPlan.build`. -/
def buildNativeLayer (backend : Backend) (mode : Parameterization) (scope : String)
    (rank : Option ℕ) (replicated : List String) (items : List Parameter) :
    Except Error TrainablePlan := do
  require (backend ∈ [.eagle, .eagle3, .nextn])
    (valueError "native layer plan supports EAGLE/EAGLE3/NEXTN only")
  require (scope ∈ layerScopes) (valueError "native scope must be last1, last3, last5, or all")
  buildLayers backend mode scope rank replicated items

/-- `w1_name`, `w2_name` and `acceptance_name`. -/
structure HeadNames where
  w1 : String
  w2 : String
  acceptance : String

def HeadNames.toList (heads : HeadNames) : List String := [heads.w1, heads.w2, heads.acceptance]

/-- `scope.removesuffix("_native_heads")`. -/
def layerScopeOf (scope : String) : String :=
  let tail := "_native_heads".toList
  if tail.isSuffixOf scope.toList then
    String.ofList (scope.toList.take (scope.toList.length - tail.length))
  else scope

/-- How a parameter is trained in a DSpark plan: the native heads of a hybrid plan as a whole. -/
def dsparkParameterization (mode : Parameterization) (layers : List ℕ) (hybrid : Bool)
    (heads : HeadNames) (p : Parameter) : Option Parameterization :=
  if hybrid && heads.toList.contains p.name then some .full
  else layerParameterization mode layers p

/-- `DSparkParameterPlan.build`. -/
def buildDSpark (mode : Parameterization) (scope : String) (rank : Option ℕ) (heads : HeadNames)
    (replicated : List String) (items : List Parameter) : Except Error TrainablePlan := do
  require (scope ∈ layerScopes ++ dsparkHybridScopes) (valueError "unregistered DSpark scope")
  let hybrid : Bool := dsparkHybridScopes.contains scope
  let layerScope := layerScopeOf scope
  require (hybrid = true → layerScope ≠ "all")
    (valueError "DSpark has no all-layer native-head hybrid cell")
  normaliseItems items
  require (heads.toList.Nodup ∧ ∀ name ∈ heads.toList, name ∈ items.map (·.name))
    (valueError "DSpark W1, W2, and acceptance names must resolve exactly")
  require (∀ p ∈ items, p.name = heads.acceptance → p.shape.length ≤ 1 ∧ numel p.shape = 1)
    (valueError "DSpark acceptance projection must be scalar")
  let layers ← selectedLayers items layerScope
  let how := dsparkParameterization mode layers hybrid heads
  let entries ← selectEntries how (replicated ++ heads.toList) items
  let selectedNames := entries.map (·.name)
  require (hybrid = true → ∀ name ∈ heads.toList, name ∈ selectedNames)
    ⟨.assertionError, "DSpark hybrid plan lost a native head"⟩
  require (hybrid = false → ∀ name ∈ heads.toList, name ∉ selectedNames)
    ⟨.assertionError, "layer-only DSpark plan must freeze native heads"⟩
  planOf .dspark mode scope rank entries (frozenNamesOf how items)

end Adaptation

import Mathlib.Data.List.Infix
import Mathlib.Data.Rat.Defs
import LightConeSpec.Lib.Python

/-!
# Load plans

The request corpora and windows of a production load, with the checks of their
`validate` methods. A digest is a value of `D`; `sha256` is the digest of a record, so the
prefix and the spelling of digests are left out.
-/

namespace Load

open Python

def requireNonnegativeInteger (value : ℤ) (name : String) : Except Error Unit :=
  require (0 ≤ value) (valueError s!"{name} must be a non-negative integer")

@[simp] theorem requireNonnegativeInteger_eq_ok {value : ℤ} {name : String} {u : Unit} :
    requireNonnegativeInteger value name = .ok u ↔ 0 ≤ value := by
  unfold requireNonnegativeInteger
  rw [require_eq_ok]

/-- `_require_nonnegative_integer` of a value that may be `None`. -/
def requireOptionNonnegative (value : Option ℤ) (name : String) : Except Error Unit :=
  match value with
  | none => pure ()
  | some value => requireNonnegativeInteger value name

/-! ## Requests -/

/-- `JsonScalar`. A float is its exact value, `none` when it is not finite. -/
inductive JsonScalar
  | text (value : String)
  | integer (value : ℤ)
  | float (value : Option ℚ)
  | boolean (value : Bool)
  | null
deriving DecidableEq

/-- `math.isfinite` of a float, true of anything else. -/
def JsonScalar.finite : JsonScalar → Bool
  | .float none => false
  | _ => true

/-- `value == number`: Python compares numbers of all three kinds by their value. -/
def JsonScalar.equalsInteger (number : ℤ) : JsonScalar → Bool
  | .integer value => value = number
  | .float (some value) => value = number
  | .boolean value => (if value then 1 else 0) = number
  | _ => false

/-- `keys == sorted(keys)` and no key twice. -/
def canonicalKeys (keys : List String) : Bool :=
  keys = sortedBy id keys ∧ keys.length = keys.dedup.length

structure FrozenSamplingParameters where
  items : List (String × JsonScalar)
deriving DecidableEq

def FrozenSamplingParameters.validate (sampling : FrozenSamplingParameters) :
    Except Error Unit := do
  require (sampling.items ≠ []) (valueError "sampling parameters must not be empty")
  require (canonicalKeys (sampling.items.map Prod.fst))
    (valueError "sampling parameter keys must be unique and sorted")
  forEach (fun item => do
    require (item.1 ≠ "") (valueError "sampling parameter keys must be non-empty strings")
    require (item.2.finite) (valueError "sampling parameter floats must be finite")) sampling.items

inductive SplitName
  | warmup
  | tuning
  | pilot
  | confirmation
  | broadReplication
deriving DecidableEq

/-- Method-independent request content. -/
structure RequestTemplate where
  inputTokenIds : List ℤ
  requestedOutputTokens : ℤ
  sampling : FrozenSamplingParameters
  cancellationOffsetUs : Option ℤ
deriving DecidableEq

def RequestTemplate.validate (template : RequestTemplate) : Except Error Unit := do
  require (template.inputTokenIds ≠ []) (valueError "tokenized input must not be empty")
  forEach (requireNonnegativeInteger · "input token ID") template.inputTokenIds
  require (1 ≤ template.requestedOutputTokens)
    (valueError "requested output length must be a positive integer")
  template.sampling.validate
  requireOptionNonnegative template.cancellationOffsetUs "cancellation offset"

/-- The payload of the identity of a request. -/
structure RequestContent where
  namespace_ : String
  split : SplitName
  ordinal : ℤ
  template : RequestTemplate
  arrivalUs : ℤ
  cohortId : String
deriving DecidableEq

/-- What `_sha256` is taken of: a request, or the parameters of a source. -/
inductive LoadContent
  | request (content : RequestContent)
  | source (parameters : List (String × JsonScalar))
deriving DecidableEq

/-- A request whose ID changes if any replay-relevant field changes. -/
structure ImmutableRequest (D : Type) where
  requestId : D
  content : RequestContent

namespace ImmutableRequest

variable {D : Type} (request : ImmutableRequest D)

def arrivalUs : ℤ := request.content.arrivalUs

def cancellationOffsetUs : Option ℤ := request.content.template.cancellationOffsetUs

def validate [DecidableEq D] (sha256 : LoadContent → D) : Except Error Unit := do
  require (request.content.namespace_ ≠ "") (valueError "request namespace must not be empty")
  requireNonnegativeInteger request.content.ordinal "request ordinal"
  requireNonnegativeInteger request.arrivalUs "arrival offset"
  require (request.content.cohortId ≠ "") (valueError "cohort identity must not be empty")
  request.content.template.validate
  require (request.requestId = sha256 (.request request.content))
    (valueError "request ID does not match immutable request content")

end ImmutableRequest

/-! ## Corpora -/

inductive SourceKind
  | poisson
  | closedLoop
  | immediateBurst
  | externalShape
deriving DecidableEq

/-- `str.casefold` on the characters whose folding holds a letter of `burstgpt`; what the
other characters become never matters to the one test that reads it. -/
def casefold (text : String) : List Char :=
  text.toList.flatMap fun c =>
    if c = 'ſ' then ['s']
    else if c = 'ß' ∨ c = 'ẞ' then ['s', 's']
    else if c = 'ﬅ' ∨ c = 'ﬆ' then ['s', 't']
    else if c = 'ẗ' then ['t', Char.ofNat 0x308]
    else [c.toLower]

/-- One ordered, immutable scored or warm-up request corpus. -/
structure RequestCorpus (D : Type) where
  label : String
  sourceKind : SourceKind
  sourceIdentitySha256 : D
  sourceParameters : List (String × JsonScalar)
  synthetic : Bool
  split : SplitName
  requests : List (ImmutableRequest D)

namespace RequestCorpus

variable {D : Type} [DecidableEq D] (sha256 : LoadContent → D) (corpus : RequestCorpus D)

/-- `dict(source_parameters).get(name)`. -/
def parameter? (name : String) : Option JsonScalar :=
  (corpus.sourceParameters.find? fun item => item.1 = name).map Prod.snd

/-- The population size that the source parameters name. -/
def concurrency? : Option ℤ :=
  match corpus.parameter? "concurrency" with
  | some (.integer concurrency) => if 1 ≤ concurrency then some concurrency else none
  | _ => none

def closedLoopBound : Bool :=
  match corpus.concurrency? with
  | none => false
  | some concurrency =>
    concurrency ≤ corpus.requests.length
      && ((corpus.parameter? "request_count").map
        (JsonScalar.equalsInteger corpus.requests.length)).getD false
      && corpus.parameter? "generator" = some (.text "closed_loop_zero_think_v1")
      && corpus.requests.all (·.arrivalUs = 0)

/-- The loop over the requests: the identifiers that were seen, and the last arrival. -/
def checkRequests : List D → ℤ → List (ImmutableRequest D) → Except Error Unit
  | _, _, [] => pure ()
  | identifiers, lastArrival, request :: rest => do
    request.validate sha256
    require (request.content.split = corpus.split)
      (valueError "all requests must use the corpus split")
    require (request.requestId ∉ identifiers)
      (valueError "request IDs must be unique within a corpus")
    require (lastArrival ≤ request.arrivalUs)
      (valueError "requests must be ordered by arrival offset")
    checkRequests (request.requestId :: identifiers) request.arrivalUs rest

def validate : Except Error Unit := do
  require (corpus.label ≠ "") (valueError "corpus label must not be empty")
  require (corpus.sourceParameters ≠ []
      ∧ canonicalKeys (corpus.sourceParameters.map Prod.fst)
      ∧ ∀ item ∈ corpus.sourceParameters, item.1 ≠ "" ∧ item.2.finite)
    (valueError "source parameters must be canonical JSON scalars")
  require (corpus.sourceIdentitySha256 = sha256 (.source corpus.sourceParameters))
    (valueError "source identity does not match its exact parameters")
  require (corpus.requests ≠ []) (valueError "request corpus must not be empty")
  require (¬ (corpus.synthetic ∧ corpus.sourceKind = .externalShape))
    (valueError "an external workload shape cannot be marked synthetic")
  require (¬ (¬ corpus.synthetic ∧ corpus.sourceKind ≠ .externalShape))
    (valueError "locally generated arrivals must be marked synthetic")
  require (¬ (corpus.synthetic ∧ "burstgpt".toList <:+: casefold corpus.label))
    (valueError "a synthetic trace must never be labelled BurstGPT")
  require (corpus.sourceKind = .closedLoop → corpus.closedLoopBound)
    (valueError "closed-loop corpus must bind one nonempty maximum pool per client")
  corpus.checkRequests sha256 [] (-1) corpus.requests

end RequestCorpus

/-! ## Plans -/

/-- Registered half-open arrival windows plus deadline-bounded drain. -/
structure ProductionWindow where
  warmupDurationUs : ℤ
  arrivalDurationUs : ℤ
  requestDeadlineUs : ℤ
  drainDurationUs : ℤ

def ProductionWindow.validate (window : ProductionWindow) : Except Error Unit := do
  requireNonnegativeInteger window.warmupDurationUs "warm-up duration"
  forEach (fun (value, name) =>
    require (1 ≤ value) (valueError s!"{name} must be a positive integer"))
    [(window.arrivalDurationUs, "arrival duration"),
     (window.requestDeadlineUs, "request deadline"),
     (window.drainDurationUs, "drain duration")]

def ProductionWindow.scoredGlobalEndUs (window : ProductionWindow) : ℤ :=
  window.arrivalDurationUs + window.drainDurationUs

/-- Warm-up is bound to replay identity but excluded from score accounting. -/
structure ProductionLoadPlan (D : Type) where
  warmup : Option (RequestCorpus D)
  scored : RequestCorpus D
  window : ProductionWindow
  coldStartSeparate : Bool := true

namespace ProductionLoadPlan

variable {D : Type} [DecidableEq D] (sha256 : LoadContent → D) (plan : ProductionLoadPlan D)

def validate : Except Error Unit := do
  plan.window.validate
  plan.scored.validate sha256
  require (plan.scored.split ≠ .warmup) (valueError "scored corpus cannot use the warmup split")
  require (∀ request ∈ plan.scored.requests, request.arrivalUs < plan.window.arrivalDurationUs)
    (valueError "scored request lies outside fixed arrival window")
  if plan.window.warmupDurationUs = 0 then
    require (plan.warmup = none) (valueError "zero-duration warm-up cannot contain requests")
  else
    match plan.warmup with
    | none => .error (valueError "positive warm-up duration requires a warm-up corpus")
    | some warmup => do
      warmup.validate sha256
      require (warmup.split = .warmup) (valueError "warm-up corpus must use the warmup split")
      require (∀ request ∈ warmup.requests, request.arrivalUs < plan.window.warmupDurationUs)
        (valueError "warm-up request lies outside excluded warm-up window")
  require plan.coldStartSeparate (valueError "cold start must be measured separately")

end ProductionLoadPlan

end Load
